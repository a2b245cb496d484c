/-!
# Log lines

The program notes what it does as lines of text at five levels.
-/

namespace InstantReplay

/-- How important a line is, least first. -/
inductive LogLevel
  | trace
  | debug
  | info
  | warn
  | error
  deriving DecidableEq

namespace LogLevel

/-- The level as it is shown. -/
def text : LogLevel → String
  | .trace => "TRACE"
  | .debug => "DEBUG"
  | .info => "INFO"
  | .warn => "WARN"
  | .error => "ERROR"

/-- The level's place in the order of importance. -/
def rank : LogLevel → Nat
  | .trace => 0
  | .debug => 1
  | .info => 2
  | .warn => 3
  | .error => 4

end LogLevel

/-- One line of the log. -/
structure LogLine where
  level : LogLevel
  text : String
  deriving DecidableEq

namespace LogLine

/-- A line at the level `trace`. -/
def trace (text : String) : LogLine := ⟨.trace, text⟩

/-- A line at the level `debug`. -/
def debug (text : String) : LogLine := ⟨.debug, text⟩

/-- A line at the level `info`. -/
def info (text : String) : LogLine := ⟨.info, text⟩

/-- A line at the level `warn`. -/
def warn (text : String) : LogLine := ⟨.warn, text⟩

/-- A line at the level `error`. -/
def error (text : String) : LogLine := ⟨.error, text⟩

/-- The line as it is shown, without its time. -/
def shown (line : LogLine) : String := line.level.text ++ " " ++ line.text

end LogLine

end InstantReplay
