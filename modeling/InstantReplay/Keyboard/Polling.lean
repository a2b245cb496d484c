import InstantReplay.Keyboard.Listener

/-!
# The rounds of a listener

A listener has a thread that goes round its keyboards, again and again until it is to stop. A
keyboard that cannot be read is passed over. From one that can be read the events come one by one,
and each is handled before the next keyboard is looked at. They may be of any kind: movements of
axes, lights that go on and marks between other events come along with the keys. The library that
reads them gives up at an event that the keyboard should not have; which these are is its own
matter, so it may give up at any event. Meanwhile, at any moment, requests are taken and the thread
may be told to stop; it looks for that before each round.
-/

namespace InstantReplay

/-- Where the thread of a listener is. -/
inductive PollPhase
  /-- Before a keyboard, with those still to come in this round. -/
  | before (due : List Keyboard)
  /-- At the events of a keyboard, with those still to come behind it. -/
  | reading (due : List Keyboard)
  | ended

/-- A listener with its thread. -/
structure Poller where
  listener : HotkeyListener
  /-- Whether the thread is to go on. -/
  running : Bool := true
  phase : PollPhase := .before []

/-- What happens to a listener with its thread. -/
inductive PollEvent
  /-- A round begins. -/
  | began
  /-- A keyboard cannot be read. -/
  | unreadable (keyboard : Keyboard)
  /-- A keyboard can be read. -/
  | opened (keyboard : Keyboard)
  /-- An event, of a key or not, is handled; it may fire the hotkey. -/
  | handled (event : KeyEvent) (fired : Bool)
  /-- A keyboard has no more events. -/
  | drained
  /-- The library gives up, and the thread breaks. -/
  | broke
  /-- The thread ends, as it was told. -/
  | ended
  /-- Someone asks for a request and gets an answer. -/
  | taken (answer : Except Failure Unit)
  /-- The thread is told to stop. -/
  | told

namespace Poller

/-- What can happen next. -/
inductive Step (poller : Poller) : PollEvent → Poller → Prop
  | began (hphase : poller.phase = .before []) (hrunning : poller.running = true) :
      Step poller .began { poller with phase := .before poller.listener.keyboards }
  | unreadable {keyboard : Keyboard} {due : List Keyboard}
      (hphase : poller.phase = .before (keyboard :: due)) :
      Step poller (.unreadable keyboard) { poller with phase := .before due }
  | opened {keyboard : Keyboard} {due : List Keyboard}
      (hphase : poller.phase = .before (keyboard :: due)) :
      Step poller (.opened keyboard) { poller with phase := .reading due }
  | handled {due : List Keyboard} {event : KeyEvent} (hphase : poller.phase = .reading due) :
      Step poller (.handled event (poller.listener.step event).1)
        { poller with listener := (poller.listener.step event).2 }
  | drained {due : List Keyboard} (hphase : poller.phase = .reading due) :
      Step poller .drained { poller with phase := .before due }
  | broke {due : List Keyboard} (hphase : poller.phase = .reading due) :
      Step poller .broke { poller with
        listener := { poller.listener with state := .failed, down := [] }
        phase := .ended }
  | ended (hphase : poller.phase = .before []) (hrunning : poller.running = false) :
      Step poller .ended { poller with
        listener := { poller.listener with state := .stopped }
        phase := .ended }
  | taken {answer : Except Failure Unit} (hanswer : poller.listener.take.1 = some answer) :
      Step poller (.taken answer) { poller with listener := poller.listener.take.2 }
  | told : Step poller .told { poller with running := false }

/-- A thread that starts to listen for a hotkey. -/
def fresh (hotkey : Hotkey) (keyboards : List Keyboard) : Poller :=
  { listener := { hotkey, keyboards } }

end Poller

end InstantReplay
