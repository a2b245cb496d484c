/-!
# Signals

The numbers and names of the signals that end a process.
-/

namespace InstantReplay

/-- The number of a signal. -/
abbrev Signal := Nat

namespace Signal

/-- The names of the signals, from number 1 on. -/
def names : List String :=
  ["SIGHUP", "SIGINT", "SIGQUIT", "SIGILL", "SIGTRAP", "SIGABRT", "SIGBUS", "SIGFPE", "SIGKILL",
   "SIGUSR1", "SIGSEGV", "SIGUSR2", "SIGPIPE", "SIGALRM", "SIGTERM", "SIGSTKFLT", "SIGCHLD",
   "SIGCONT", "SIGSTOP", "SIGTSTP", "SIGTTIN", "SIGTTOU", "SIGURG", "SIGXCPU", "SIGXFSZ",
   "SIGVTALRM", "SIGPROF", "SIGWINCH", "SIGIO", "SIGPWR", "SIGSYS"]

/-- The name of a signal. -/
def name? (signal : Signal) : Option String :=
  if signal = 0 then none else names[signal - 1]?

end Signal

/-- How a process ended. -/
inductive ProcessEnd
  | exited (status : Nat)
  | killed (signal : Signal)
  deriving DecidableEq

/-- The end of a process as it is shown. -/
def ProcessEnd.text : ProcessEnd → String
  | .exited status => s!"exit status: {status}"
  | .killed signal =>
    match signal.name? with
    | some name => s!"signal: {signal} ({name})"
    | none => s!"signal: {signal}"

end InstantReplay
