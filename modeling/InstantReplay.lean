import InstantReplay.Capture.Source
import InstantReplay.Main
import InstantReplay.Proofs.History.Refinement
import InstantReplay.Proofs.Recorder.Alignment
import InstantReplay.Proofs.Save.Cut
import InstantReplay.Proofs.Save.Failure
import InstantReplay.Proofs.Save.Sync
import InstantReplay.Proofs.Service.Handshake
import InstantReplay.Proofs.Trigger.Requests
import InstantReplay.Proofs.Wire.Reach
import InstantReplay.Proofs.Save.Merge
import InstantReplay.Proofs.History.Retention
import InstantReplay.Proofs.History.Coverage
import InstantReplay.Proofs.Save.Envelope
import InstantReplay.Proofs.Wire.Reply
import InstantReplay.Proofs.Service.Reconnect
import InstantReplay.Proofs.Capture.Delivery
import InstantReplay.Proofs.Card.Selection
import InstantReplay.Proofs.Card.Release
import InstantReplay.Proofs.Card.DeviceName
import InstantReplay.Proofs.Template.Rendering
import InstantReplay.Proofs.Save.Command
import InstantReplay.Proofs.Config.Partial
import InstantReplay.Proofs.Keyboard.Hotkey
import InstantReplay.Crash.Buffer
import InstantReplay.Proofs.Crash.Numbers
import InstantReplay.Proofs.History.Bounds
import InstantReplay.Proofs.Keyboard.Polling
import InstantReplay.Proofs.Recorder.Loop
