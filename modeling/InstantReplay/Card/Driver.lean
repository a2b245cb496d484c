import InstantReplay.Act
import InstantReplay.Frame
import InstantReplay.Text.Quoted

/-!
# Graphics cards

A card shows pictures on planes. The kernel answers requests about an open card: which planes
there are, which framebuffer a plane shows, and which memory objects a framebuffer consists of. A
framebuffer is described by handles, which have to be released again, and which can be exported as
descriptors.

How the kernel answers is a machine with states of its own, so that everything here holds for
every kernel.
-/

namespace InstantReplay

/-- What a plane shows; zero stands for nothing. -/
structure PlaneState where
  id : UInt32
  /-- The display it belongs to. -/
  display : UInt32
  framebuffer : UInt32
  deriving DecidableEq

/-- A framebuffer as the kernel describes it. Handles of zero are unused. -/
structure BufferReply where
  width : UInt32
  height : UInt32
  pixels : PixelFormat
  flags : UInt32
  handles : Vector UInt32 4
  pitches : Vector UInt32 4
  offsets : Vector UInt32 4
  modifiers : Vector LayoutModifier 4

/-- A framebuffer whose handles can be seen. -/
structure Framebuffer where
  width : UInt32
  height : UInt32
  pixels : PixelFormat
  /-- The layout modifier. -/
  modifier : LayoutModifier
  handles : Vector UInt32 4
  /-- Bytes per row of each plane. -/
  pitches : Vector UInt32 4
  offsets : Vector UInt32 4
  deriving DecidableEq

namespace Framebuffer

/-- The flag of a description that gives modifiers. -/
def modifierFlag : UInt32 := 2

/-- The framebuffer of a description. -/
def ofReply (reply : BufferReply) : Framebuffer where
  width := reply.width
  height := reply.height
  pixels := reply.pixels
  modifier := if reply.flags &&& modifierFlag ≠ 0 then reply.modifiers[0] else .unknown
  handles := reply.handles
  pitches := reply.pitches
  offsets := reply.offsets

/-- The handles before the first unused one. -/
def leading (handles : Vector UInt32 4) : List UInt32 := handles.toList.takeWhile (· ≠ 0)

/-- The number of planes of the picture. -/
def planeCount (buffer : Framebuffer) : Nat := (leading buffer.handles).length

/-- The elements that are not in `seen`, each once, where it stands first. -/
def distinctFrom (seen : List UInt32) : List UInt32 → List UInt32
  | [] => []
  | handle :: rest =>
    if handle ∈ seen then distinctFrom seen rest
    else handle :: distinctFrom (handle :: seen) rest

/-- Each element once, where it stands first. -/
def distinct (handles : List UInt32) : List UInt32 := distinctFrom [] handles

/-- The handles that have to be released, each once. -/
def owned (buffer : Framebuffer) : List UInt32 :=
  distinct (buffer.handles.toList.filter (· ≠ 0))

end Framebuffer

/-- A request about an open card. -/
inductive CardRequest
  /-- Let all planes be seen. -/
  | showPlanes
  /-- The planes, as many as there is room for. -/
  | planes (room : Nat)
  | plane (id : UInt32)
  | framebuffer (id : UInt32)
  | exportHandle (handle : UInt32)
  | releaseHandle (handle : UInt32)
  deriving DecidableEq

/-- The planes that found room, and the number of all planes. -/
structure PlaneList where
  ids : List UInt32
  count : Nat

/-- What a request is answered with. -/
@[reducible] def CardRequest.Reply : CardRequest → Type
  | .showPlanes => Unit
  | .planes _ => PlaneList
  | .plane _ => PlaneState
  | .framebuffer _ => BufferReply
  | .exportHandle _ => Option Descriptor
  | .releaseHandle _ => Unit

/-- A kernel with states in `κ`. -/
structure CardDriver (κ : Type) where
  /-- Opens the node at a path. -/
  openNode : String → κ → Except IoError Unit × κ
  /-- Answers one attempt of a request about the open card at a path. -/
  answer : String → (request : CardRequest) → κ → Except Errno request.Reply × κ
  /-- The most attempts of the next request that the kernel interrupts. -/
  patience : κ → Nat

namespace CardDriver

variable {κ : Type}

/-- Whether a request that failed this way is to be tried again. -/
def isTransient (code : Errno) : Bool := code == Errno.interrupted || code == Errno.tryAgain

/-- Makes a request, and again after an interruption, at most `rounds` times more. -/
def askRounds (driver : CardDriver κ) (card : String) (request : CardRequest) :
    Nat → κ → Except Errno request.Reply × κ
  | 0, state => driver.answer card request state
  | rounds + 1, state =>
    match driver.answer card request state with
    | (.error code, state) =>
      if isTransient code then askRounds driver card request rounds state
      else (.error code, state)
    | answered => answered

/-- Makes a request until it is not interrupted. -/
def ask (driver : CardDriver κ) (card : String) (request : CardRequest) (state : κ) :
    Except IoError request.Reply × κ :=
  match driver.askRounds card request (driver.patience state) state with
  | (.ok reply, state) => (.ok reply, state)
  | (.error code, state) => (.error (.os code), state)

/-- Makes a request; a refusal is a failure of input and output. -/
def request (driver : CardDriver κ) (card : String) (request : CardRequest) :
    Act κ request.Reply := do
  match ← Act.step (driver.ask card request) with
  | .ok reply => return reply
  | .error error => throw (.io error)

end CardDriver

/-- An open card. -/
structure Card where
  path : String
  deriving DecidableEq

namespace Card

variable {κ : Type} (driver : CardDriver κ)

/-- Opens the card at a path. -/
def openAt (path : String) : Act κ Card := do
  let shown := quoted path
  match ← Act.step (driver.openNode path) with
  | .error error =>
    let reason := error.text
    throw (.capture s!"Failed to open {shown}: {reason}")
  | .ok () =>
    match ← Act.step (driver.ask path .showPlanes) with
    | .error error =>
      let reason := error.text
      throw (.capture s!"Universal planes unsupported: {reason}")
    | .ok () =>
      Act.note (.debug s!"Opened DRM card {shown}")
      return ⟨path⟩

/-- The planes of the card. Their number is asked for first, so that there is room for them. -/
def planeIds (card : Card) : Act κ (List UInt32) := do
  let first ← driver.request card.path (.planes 0)
  if first.count = 0 then return []
  else
    let found ← driver.request card.path (.planes first.count)
    let filled := found.ids.take first.count
    let ids := filled ++ List.replicate (first.count - filled.length) 0
    return ids.take found.count

/-- What a plane shows. -/
def plane (card : Card) (id : UInt32) : Act κ PlaneState :=
  driver.request card.path (.plane id)

/-- The failure when the kernel hides the handles. -/
def noHandles : Failure :=
  .capture "Framebuffer handles unavailable (requires CAP_SYS_ADMIN)"

/-- Describes a framebuffer. Its handles have to be released. -/
def framebuffer (card : Card) (id : UInt32) : Act κ Framebuffer := do
  let reply ← driver.request card.path (.framebuffer id)
  if reply.handles[0] = 0 then throw noHandles else return .ofReply reply

/-- Exports a handle as a descriptor. -/
def exportHandle (card : Card) (handle : UInt32) : Act κ Descriptor := do
  match ← driver.request card.path (.exportHandle handle) with
  | some descriptor => return descriptor
  | none => throw (.capture "PRIME export returned no fd")

/-- Releases one handle; that it cannot be released is only noted. -/
def releaseHandle (card : Card) (handle : UInt32) : Act κ Unit := do
  match ← Act.step (driver.ask card.path (.releaseHandle handle)) with
  | .ok () => return ()
  | .error error =>
    let number := handle.toNat
    let reason := error.text
    Act.note (.trace s!"GEM_CLOSE({number}) failed: {reason}")

/-- Releases handles in turn. -/
def releaseAll (card : Card) : List UInt32 → Act κ Unit
  | [] => return ()
  | handle :: rest => do
    card.releaseHandle driver handle
    card.releaseAll rest

/-- Releases the handles of a framebuffer. -/
def release (card : Card) (buffer : Framebuffer) : Act κ Unit :=
  card.releaseAll driver buffer.owned

/-- Exports handles in turn until one cannot be. -/
def exportAll (card : Card) : List UInt32 → Act κ (List Descriptor)
  | [] => return []
  | handle :: rest => do
    let descriptor ← card.exportHandle driver handle
    return descriptor :: (← card.exportAll rest)

/-- The planes of a framebuffer, when its objects are exported in the order of `objects`. -/
def layouts (buffer : Framebuffer) (objects : List UInt32) : List PlaneLayout :=
  ((Framebuffer.leading buffer.handles).zip
      (buffer.pitches.toList.zip buffer.offsets.toList)).map fun (handle, pitch, offset) =>
    ⟨UInt32.ofNat (objects.idxOf handle), pitch, offset, buffer.pixels.code⟩

/-- Exports a framebuffer as a frame. Planes with equal handles share an object. -/
def exportFrame (card : Card) (buffer : Framebuffer) : Act κ Frame := do
  let handles := Framebuffer.distinct (Framebuffer.leading buffer.handles)
  let objects ← card.exportAll driver handles
  return {
    format := ⟨buffer.width, buffer.height, buffer.pixels, buffer.modifier⟩
    pixels := .shared (layouts buffer handles) objects
    pts := 0 }

end Card

end InstantReplay
