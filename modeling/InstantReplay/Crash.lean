import InstantReplay.Act
import InstantReplay.Text.Quoted

/-!
# Crash reports

When one of the fatal signals arrives, the process writes one line and dies of that signal. The
handler of a signal may not ask for memory, so the numbers in the line are put into buffers of a
fixed size.
-/

namespace InstantReplay.Crash

/-- The signals that end the process with a report. -/
inductive FatalSignal
  | segmentation
  | illegal
  | bus
  | arithmetic
  deriving DecidableEq

namespace FatalSignal

/-- The signals in the order in which their handlers are installed. -/
def all : List FatalSignal := [.segmentation, .illegal, .bus, .arithmetic]

/-- The number of a signal. -/
def number : FatalSignal → Nat
  | .segmentation => 11
  | .illegal => 4
  | .bus => 7
  | .arithmetic => 8

/-- The name of a signal. -/
def name : FatalSignal → String
  | .segmentation => "SIGSEGV"
  | .illegal => "SIGILL"
  | .bus => "SIGBUS"
  | .arithmetic => "SIGFPE"

end FatalSignal

/-- The name of the signal with a number, as a report has it. -/
def signalName (number : Int) : String :=
  match FatalSignal.all.find? fun signal => (signal.number : Int) = number with
  | some signal => signal.name
  | none => "signal"

/-- The digits of a number. -/
def hexDigits : List Char := "0123456789abcdef".toList

/-- A number as `0x` and sixteen digits. -/
def hexText (value : UInt64) : List Char :=
  '0' :: 'x' :: (List.range 16).map fun index =>
    let digit := (value >>> UInt64.ofNat ((15 - index) * 4)) &&& 0xF
    hexDigits.getD digit.toNat '0'

/-- The size of the buffer for a decimal numeral. -/
def decimalRoom : Nat := 20

/-- Puts the digits of a number in front of others, last digit first, as long as there is room
for them. -/
def putDigits : Nat → UInt64 → List Char → Option (List Char)
  | 0, _, _ => none
  | room + 1, value, digits =>
    let digits := Char.ofNat (48 + (value % 10).toNat) :: digits
    if value / 10 = 0 then some digits else putDigits room (value / 10) digits

/-- A number as a decimal numeral, if the buffer has room for it. -/
def decimalText (value : UInt64) : Option (List Char) := putDigits decimalRoom value []

/-- The line written for a signal: with the address that was used wrongly, if it is known, and the
thread. -/
def report (signal : Int) (address : Option UInt64) (thread : String) : String :=
  let place :=
    match address with
    | some address => " at " ++ String.ofList (hexText address)
    | none => ""
  "rewind: fatal " ++ signalName signal ++ place ++ " in thread " ++ thread ++ ", aborting\n"

/-- What the system answers to requests to handle signals. -/
structure SignalWorld where
  /-- Refusals of the next requests to handle a signal, each with the signal's number. -/
  refusals : List (Nat × Errno) := []
  /-- Whether the handlers are there. -/
  installed : Bool := false

/-- Installs the handler of one signal. -/
def installOne (signal : FatalSignal) : Act SignalWorld Unit := do
  let world ← Act.state
  match world.refusals.find? (·.1 = signal.number) with
  | none => return
  | some refusal =>
    Act.change fun world => { world with refusals := world.refusals.erase refusal }
    throw (.during ("Failed to install handler for " ++ signal.name) (.io (.os refusal.2)))

/-- Installs the handlers of all fatal signals, once. -/
def install : Act SignalWorld Unit := do
  if !(← Act.state).installed then
    FatalSignal.all.forM installOne
    Act.change fun world => { world with installed := true }
    Act.note (.debug "Crash handlers installed")

end InstantReplay.Crash
