import InstantReplay.Config.Store

/-!
# The sample settings file

A settings file with a comment on every setting, and every setting at its default.
-/

namespace InstantReplay.Settings

/-- The lines of the sample. -/
def sampleLines : List String := [
  "# Rewind Configuration",
  "# https://github.com/ghostkellz/rewind",
  "",
  "[replay]",
  "# Seconds of history kept in memory (1-600)",
  "seconds = 30",
  "",
  "# Start saved clips on a keyframe so they play from the first frame",
  "start_on_keyframe = true",
  "",
  "[capture]",
  "# Backend: \"service\" (privileged capture service, recommended) or \"kms\" " ++
    "(in-process, needs root)",
  "backend = \"service\"",
  "",
  "# Device: \"auto\", \"card0\", or \"card0:<plane id>\"",
  "device = \"auto\"",
  "",
  "# Frames per second",
  "framerate = 60",
  "",
  "# Capture service socket",
  "socket = \"/run/rewind/capture.sock\"",
  "",
  "[video]",
  "# Any FFmpeg video encoder: libx264, libx265, h264_vaapi, ...",
  "encoder = \"libx264\"",
  "",
  "# Bitrate in kbps",
  "bitrate = 12000",
  "",
  "# Encoder preset (empty = encoder default)",
  "preset = \"veryfast\"",
  "",
  "[audio]",
  "# Record audio alongside video",
  "enabled = false",
  "",
  "# PulseAudio source; use \"<sink>.monitor\" for desktop audio",
  "source = \"default\"",
  "",
  "# Audio encoder: aac, libopus",
  "encoder = \"aac\"",
  "",
  "sample_rate = 48000",
  "channels = 2",
  "",
  "# Bitrate in kbps",
  "bitrate = 160",
  "",
  "[output]",
  "# Output path, strftime format; ~ is your home directory",
  "template = \"~/Videos/Replay_%Y-%m-%d_%H-%M-%S.mp4\"",
  "",
  "# Command run after each save; \x7bfile\x7d is replaced by the saved path",
  "# and $REWIND_FILE is set",
  "post_save = \"\"",
  "",
  "[trigger]",
  "# What saves a replay: socket, hotkey, signal (SIGUSR1), debug (Enter on stdin)",
  "kind = \"socket\"",
  "",
  "# Hotkey for kind = \"hotkey\"",
  "hotkey = \"alt+f10\""]

/-- The text of the sample. -/
def sample : String := String.join (sampleLines.map (· ++ "\n"))

/-- Writes the sample, unless a file is there already. Says whether it was written. -/
def writeSample (path : String) : Act FileTree Bool := do
  if (← Act.state).holds path then return false
  makeParent path
  writeText path sample
  Act.note (.info ("Wrote sample configuration to " ++ quoted path))
  return true

end InstantReplay.Settings
