import InstantReplay.Card.Driver
import InstantReplay.Files.Tree

/-!
# Cards described by tables

A kernel for which everything is written down: which nodes there are, which of them are cards,
which planes and framebuffers a card has, and which requests it refuses. It keeps a record of the
handles that were exported and released.
-/

namespace InstantReplay

/-- A plane in a table. -/
structure PlaneEntry where
  state : PlaneState
  refusal : Option Errno := none

/-- A framebuffer in a table. -/
structure BufferEntry where
  id : UInt32
  reply : BufferReply
  refusal : Option Errno := none

/-- How exporting a handle goes wrong. -/
inductive ExportFault
  | refused (code : Errno)
  /-- It succeeds without a descriptor. -/
  | nothing

/-- A card in tables. -/
structure CardTables where
  showPlanes : Option Errno := none
  listPlanes : Option Errno := none
  planes : List PlaneEntry := []
  /-- The number of planes reported the second time, if it is another. -/
  secondCount : Option Nat := none
  buffers : List BufferEntry := []
  exports : List (UInt32 × ExportFault) := []
  releases : List (UInt32 × Errno) := []

/-- What stands among the cards. -/
inductive CardNode
  | directory
  /-- A file that is no card. -/
  | file
  | card (tables : CardTables)

/-- A handle that was exported or released. -/
inductive HandleUse
  | exported (handle : UInt32)
  | released (handle : UInt32)
  deriving DecidableEq

/-- The state of the kernel: the files, the cards among them by their paths, errors of the coming
requests to cards, and the handles used so far. -/
structure CardWorld where
  files : FileTree
  cards : List (List String × CardNode) := []
  refusals : List Errno := []
  used : List HandleUse := []

namespace CardWorld

/-- The place of a card's node. -/
def place (name : String) : List String := ["dev", "dri", name]

/-- The world with a node among the cards. -/
def put (world : CardWorld) (name : String) (node : CardNode) : CardWorld :=
  let entry := match node with
    | .directory => FileEntry.directory
    | _ => FileEntry.node
  { world with
    files := world.files.put (place name) entry
    cards := (place name, node) :: world.cards.filter (·.1 ≠ place name) }

/-- Opens a file for reading and writing. -/
def openNode (path : String) (world : CardWorld) : Except IoError Unit × CardWorld :=
  match world.files.find path with
  | .ok .directory => (.error (.os Errno.isDirectory), world)
  | .ok (.socket _) => (.error (.os Errno.noAddress), world)
  | .ok _ => (.ok (), world)
  | .error error => (.error error, world)

/-- A table's answer to a request, without regard to the errors that are due. -/
def reply (tables : CardTables) : (request : CardRequest) → Except Errno request.Reply
  | .showPlanes =>
    match tables.showPlanes with
    | some code => .error code
    | none => .ok ()
  | .planes room =>
    match tables.listPlanes with
    | some code => .error code
    | none =>
      let ids := tables.planes.map (·.state.id)
      let count := if room = 0 then ids.length else tables.secondCount.getD ids.length
      .ok ⟨ids.take room, count⟩
  | .plane id =>
    match tables.planes.reverse.find? (·.state.id = id) with
    | some ⟨state, none⟩ => .ok state
    | some ⟨_, some code⟩ => .error code
    | none => .error Errno.noEntry
  | .framebuffer id =>
    match tables.buffers.reverse.find? (·.id = id) with
    | some ⟨_, reply, none⟩ => .ok reply
    | some ⟨_, _, some code⟩ => .error code
    | none => .error Errno.noEntry
  | .exportHandle handle =>
    match tables.exports.find? (·.1 = handle) with
    | some (_, .refused code) => .error code
    | some (_, .nothing) => .ok none
    | none => .ok (some ⟨("bo " ++ toString handle.toNat).toUTF8⟩)
  | .releaseHandle handle =>
    match tables.releases.find? (·.1 = handle) with
    | some (_, code) => .error code
    | none => .ok ()

/-- The record of a request. -/
def use : CardRequest → List HandleUse
  | .exportHandle handle => [.exported handle]
  | .releaseHandle handle => [.released handle]
  | _ => []

/-- Answers a request about the card at a path. -/
def answer (path : String) (request : CardRequest) (world : CardWorld) :
    Except Errno request.Reply × CardWorld :=
  let place := (world.files.locate path).toOption.map (·.1)
  match world.cards.find? (some ·.1 = place) with
  | some (_, .card tables) =>
    match world.refusals with
    | code :: rest => (.error code, { world with refusals := rest })
    | [] => (reply tables request, { world with used := world.used ++ use request })
  | _ => (.error Errno.notTerminal, world)

/-- The kernel of such a world. -/
def driver : CardDriver CardWorld where
  openNode := openNode
  answer := answer
  patience world := world.refusals.length

/-- The cards that there are, by name. -/
def names (world : CardWorld) : List String :=
  let all := (world.files.namesIn ["dev", "dri"]).filter fun name =>
    ['c', 'a', 'r', 'd'].isPrefixOf name.toList
  all.mergeSort fun a b => a ≤ b

end CardWorld

end InstantReplay
