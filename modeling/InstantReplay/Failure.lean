import InstantReplay.SystemError

/-!
# Failures

Every operation of the recorder fails with a `Failure`: a cause, under any number of layers that
say what was being done. The cause decides whether a capture session survives and which advice
the user gets.
-/

namespace InstantReplay

/-- What went wrong, and during what. -/
inductive Failure
  /-- The display could not be read this time. -/
  | capture (text : String)
  /-- The other end of the capture channel sent something malformed. -/
  | protocol (text : String)
  /-- The capture service refused the request. -/
  | serviceUnavailable (text : String)
  | encoder (text : String)
  /-- The container writer failed. -/
  | muxer (text : String)
  | save (text : String)
  | config (text : String)
  | trigger (text : String)
  | unsupported (text : String)
  | io (error : IoError)
  /-- A failure `cause` while doing what `doing` says. -/
  | during (doing : String) (cause : Failure)
  deriving DecidableEq

namespace Failure

/-- The failure as it is shown: the layers from the outermost in, then the cause. -/
def message : Failure → String
  | .capture text => "Capture error: " ++ text
  | .protocol text => "Protocol error: " ++ text
  | .serviceUnavailable text => "Capture service unavailable: " ++ text
  | .encoder text => "Encoder error: " ++ text
  | .muxer text => "Muxer error: " ++ text
  | .save text => "Save error: " ++ text
  | .config text => "Configuration error: " ++ text
  | .trigger text => "Trigger error: " ++ text
  | .unsupported text => "Unsupported: " ++ text
  | .io error => "I/O error: " ++ error.text
  | .during doing cause => doing ++ ": " ++ cause.message

/-- The cause below all layers. -/
def root : Failure → Failure
  | .during _ cause => cause.root
  | failure => failure

/-- Whether the failure ends the session on a capture channel. -/
def endsSession (failure : Failure) : Bool :=
  match failure.root with
  | .protocol _ | .serviceUnavailable _ | .io _ => true
  | _ => false

/-- Advice for the user, by the cause. -/
def hint? (failure : Failure) : Option String :=
  match failure.root with
  | .capture _ => "Check that the display device exists and that you have access to /dev/dri"
  | .serviceUnavailable _ =>
    "Start the capture service as root (rewind capture-service) and check the device name"
  | .protocol _ =>
    "The capture service and client may be from different builds; restart both"
  | .muxer _ | .save _ => "Check that the output directory is writable and has free space"
  | .config _ => "Check ~/.config/rewind/config.toml for invalid values"
  | .trigger _ =>
    "Hotkeys need read access to /dev/input/event* (add your user to 'input')"
  | _ => none

/-- The failure of a JSON text that could not be read. -/
def badJson (detail : String) : Failure := .protocol ("Invalid JSON payload: " ++ detail)

end Failure

end InstantReplay
