import InstantReplay.Bytes
import InstantReplay.PixelFormat
import InstantReplay.SystemError
import InstantReplay.Log

/-!
# Frames

A frame is one picture of the display. Its pixels stay in memory objects of the graphics card,
which are passed around as open descriptors; each plane of the picture says in which object it
lies and where.
-/

namespace InstantReplay

/-- An open file, known by what can be read from it. -/
structure Descriptor where
  contents : ByteArray
  deriving DecidableEq

/-- The most planes a picture can have. -/
def maxPlanes : Nat := 4

/-- Where one plane of a picture lies. -/
structure PlaneLayout where
  /-- The index of the memory object. -/
  object : UInt32
  /-- Bytes per row. -/
  stride : UInt32
  /-- The plane's first byte in the object. -/
  offset : UInt32
  format : UInt32
  deriving DecidableEq, Inhabited

/-- Size, pixel format and layout of a picture. -/
structure FrameFormat where
  width : UInt32
  height : UInt32
  pixels : PixelFormat
  modifier : LayoutModifier
  deriving DecidableEq

/-- Where a frame's pixels are. -/
inductive Pixels
  /-- In shared memory objects. -/
  | shared (planes : List PlaneLayout) (objects : List Descriptor)
  /-- In the program's own memory. -/
  | memory (bytes : ByteArray)
  deriving DecidableEq

/-- One picture of the display. -/
structure Frame where
  format : FrameFormat
  pixels : Pixels
  /-- The time of the picture in microseconds. -/
  pts : Int64
  deriving DecidableEq

namespace Frame

/-- The planes of a frame in shared memory. -/
def planes (frame : Frame) : List PlaneLayout :=
  match frame.pixels with
  | .shared planes _ => planes
  | .memory _ => []

/-- The memory objects of a frame. -/
def objects (frame : Frame) : List Descriptor :=
  match frame.pixels with
  | .shared _ objects => objects
  | .memory _ => []

/-- Whether the pixels are in shared memory. -/
def isShared (frame : Frame) : Bool :=
  match frame.pixels with
  | .shared .. => true
  | .memory _ => false

end Frame

/-- Why the pixels of a frame could not be read. -/
inductive MapError
  | noPlanes
  | missingObject
  | refused (error : IoError)
  deriving DecidableEq

/-- The error as it is shown. -/
def MapError.message : MapError → String
  | .noPlanes => "frame has no planes"
  | .missingObject => "plane references a missing memory object"
  | .refused error => "mmap failed: " ++ error.text

namespace Pixels

/-- The `count` bytes at `start`; bytes behind the end are zero. -/
def window (contents : ByteArray) (start count : Nat) : ByteArray :=
  let found := contents.extract start (start + count)
  found ++ ByteArray.mk (Array.replicate (count - found.size) 0)

/-- The first `size` bytes of the first plane. Pixels in the program's memory are given whole. A
mapping of no bytes at all is refused by the system. -/
def read (pixels : Pixels) (size : Nat) : Except MapError ByteArray :=
  match pixels with
  | .memory bytes => .ok bytes
  | .shared planes objects =>
    match planes with
    | [] => .error .noPlanes
    | plane :: _ =>
      match objects[plane.object.toNat]? with
      | none => .error .missingObject
      | some object =>
        if size + plane.offset.toNat = 0 then .error (.refused (.os Errno.invalidArgument))
        else .ok (window object.contents plane.offset.toNat size)

/-- The line noted when a mapping cannot be undone. -/
def unmapNote (error : IoError) : LogLine := .warn ("munmap failed: " ++ error.text)

/-- Reads as `read` does, and undoes the mapping that this took. The lines say if that was refused
with an error. -/
def readOnce (pixels : Pixels) (size : Nat) (refusal : Option Errno) :
    Except MapError ByteArray × List LogLine :=
  match pixels, pixels.read size, refusal with
  | .shared .., .ok bytes, some errno => (.ok bytes, [unmapNote (.os errno)])
  | _, result, _ => (result, [])

end Pixels

end InstantReplay
