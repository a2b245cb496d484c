import InstantReplay.Files.Tree

/-!
# Local sockets

A host has files and sockets that programs listen on. Connecting to the path of such a socket
leaves a connection with it, which waits until the listener accepts it.
-/

namespace InstantReplay

/-- A socket that a program listens on. -/
structure ListeningSocket where
  /-- The connections that wait to be accepted. -/
  waiting : Nat := 0
  /-- Whether the listener has been told of a connection and not yet found that none waits. -/
  announced : Bool := false
  isOpen : Bool := true
  deriving DecidableEq

/-- Files, and the sockets that programs listen on. -/
structure SocketHost where
  files : FileTree
  /-- The sockets, from number 1 on. -/
  sockets : List ListeningSocket := []
  /-- Refusals of the next attempts to accept a connection. -/
  acceptRefusals : List Errno := []

namespace SocketHost

/-- The first length of a path that is too long for a socket, in bytes. -/
def pathLimit : Nat := 108

/-- What is wrong with a path as the address of a socket. -/
def addressFault? (path : String) : Option IoError :=
  if '\x00' ∈ path.toList then
    some (.custom .invalidInput "paths must not contain interior null bytes")
  else if pathLimit ≤ path.utf8ByteSize then
    some (.custom .invalidInput "path must be shorter than SUN_LEN")
  else none

/-- The socket with a number, if it is open. -/
def socket? (host : SocketHost) (number : Nat) : Option ListeningSocket :=
  if number = 0 then none else (host.sockets[number - 1]?).filter (·.isOpen)

/-- Changes the socket with a number. -/
def update (host : SocketHost) (number : Nat) (f : ListeningSocket → ListeningSocket) :
    SocketHost :=
  { host with sockets := host.sockets.modify (number - 1) f }

/-- The number of the open socket at a path. -/
def listener (host : SocketHost) (path : String) : Except IoError Nat :=
  match addressFault? path with
  | some fault => .error fault
  | none =>
    if path.isEmpty then .error (.os Errno.invalidArgument)
    else
      match host.files.find path with
      | .error error => .error error
      | .ok (.socket number) =>
        if (host.socket? number).isSome then .ok number
        else .error (.os Errno.connectionRefused)
      | .ok _ => .error (.os Errno.connectionRefused)

/-- Connects to the socket at a path and gives its number. -/
def connect (host : SocketHost) (path : String) : Except IoError Nat × SocketHost :=
  match host.listener path with
  | .error error => (.error error, host)
  | .ok number =>
    (.ok number, host.update number fun socket =>
      { socket with waiting := socket.waiting + 1, announced := true })

/-- Starts to listen on a new socket at a path, where nothing may be yet. Without a path the
socket has no file. -/
def bind (host : SocketHost) (path : String) : Except IoError Nat × SocketHost :=
  let number := host.sockets.length + 1
  let opened := { host with sockets := host.sockets ++ [{}] }
  match addressFault? path with
  | some fault => (.error fault, host)
  | none =>
    if path.isEmpty then (.ok number, opened)
    else
      match host.files.locate path with
      | .error error => (.error error, host)
      | .ok (_, some _) => (.error (.os Errno.addressInUse), host)
      | .ok (place, none) =>
        if FileTree.wantsDirectory path then (.error (.os Errno.noEntry), host)
        else
          match host.files.entry? place.dropLast with
          | some .directory =>
            (.ok number, { opened with files := host.files.put place (.socket number) })
          | some _ => (.error (.os Errno.notDirectory), host)
          | none => (.error (.os Errno.noEntry), host)

/-- Accepts a connection that waits at a socket. -/
def accept (host : SocketHost) (number : Nat) : Except IoError Unit × SocketHost :=
  match host.acceptRefusals with
  | code :: rest => (.error (.os code), { host with acceptRefusals := rest })
  | [] =>
    if (host.socket? number).any (0 < ·.waiting) then
      (.ok (), host.update number fun socket => { socket with waiting := socket.waiting - 1 })
    else (.error (.os Errno.tryAgain), host)

/-- Stops listening on a socket. Its file stays. -/
def close (host : SocketHost) (number : Nat) : SocketHost :=
  host.update number fun socket => { socket with isOpen := false }

/-- Removes a file. -/
def removeFile (host : SocketHost) (path : String) : Except IoError Unit × SocketHost :=
  let (result, files) := host.files.removeFile path
  (result, { host with files := files })

/-- Makes a directory and the ones it lies in. -/
def makeAll (host : SocketHost) (path : String) : Except IoError Unit × SocketHost :=
  let (result, files) := host.files.makeAll path
  (result, { host with files := files })

end SocketHost

end InstantReplay
