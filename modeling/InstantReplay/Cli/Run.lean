import InstantReplay.Cli.Record
import InstantReplay.Cli.Report
import InstantReplay.Cli.Serve

/-!
# Running the program

From the arguments to the end of the process: what is on the screen, what is complained about, and
how the process ended.
-/

namespace InstantReplay.Cli

/-- What came of running the program. -/
structure ProgramOutcome where
  ended : ProcessEnd
  /-- What was printed and logged. -/
  output : String := ""
  /-- What was complained about. -/
  errors : String := ""
  host : CliHost

/-- What is complained about when the arguments are wrong. -/
def misuseText : String := "error: invalid arguments\n\nFor more information, try '--help'.\n"

/-- Runs a command. Gives the signal of which the process dies, if it does. -/
def jobOf : Command → Job (Option Crash.FatalSignal)
  | .record options => do
    record options
    return none
  | .save options => do
    save options
    return none
  | .captureService arguments => captureService arguments
  | .config task => do
    config task
    return none
  | .info => do
    info
    return none

/-- Runs the program with arguments on a host. -/
def run (arguments : List String) (host : CliHost) : ProgramOutcome :=
  match CommandLine.parse arguments with
  | .misuse => { ended := .exited 2, errors := misuseText, host := host }
  | .print text => { ended := .exited 0, output := text, host := host }
  | .run verbosity command =>
    let (result, host) := (jobOf command).run.run { host with verbosity := verbosity }
    match result with
    | .ok none => { ended := .exited 0, output := host.screen, host := host }
    | .ok (some signal) =>
      { ended := .killed signal.number
        output := host.screen
        errors := Crash.report signal.number (some 0) host.thread
        host := host }
    | .error complaint =>
      { ended := .exited 1, output := host.screen, errors := complaint.shown, host := host }

end InstantReplay.Cli
