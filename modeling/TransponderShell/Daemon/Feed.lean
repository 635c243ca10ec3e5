import TransponderShell.Daemon.Error

/-!
# Following notifications

While an attribute is followed, the daemon delivers notifications and looks now and then whether it
is to stop. A `Feed` is the course of this as a tree: at each point the daemon ends the feed, asks
whether it is cancelled, or delivers a notification; and the operator may interrupt at any point.

`Feed.run` plays a feed to a `Receiver`, which has a state of its own. The daemon learns nothing of
that state except whether it is cancelled.
-/

namespace TransponderShell

/-- The course of following an attribute, of a daemon with the states `σ`. -/
inductive Feed (σ : Type) where
  /-- The feed ends. -/
  | done (result : Except DaemonError Unit) (state : σ)
  /-- The daemon asks whether the feed is cancelled. -/
  | poll (next : Bool → Feed σ)
  | deliver (n : Notification) (rest : Feed σ)
  /-- The operator asks for an interruption. -/
  | interrupt (rest : Feed σ)

/-- One who follows a feed, with the states `γ`. -/
structure Receiver (γ : Type) where
  /-- Whether the feed is to stop. -/
  cancelled : γ → Bool
  receive : Notification → γ → γ
  /-- The operator has asked for an interruption. -/
  interrupt : γ → γ

namespace Feed

variable {σ γ : Type}

/-- Play a feed to a receiver: the result, and the states of the daemon and of the receiver after
it. -/
def run (r : Receiver γ) : Feed σ → γ → Except DaemonError Unit × σ × γ
  | done result state, g => (result, state, g)
  | poll next, g => run r (next (r.cancelled g)) g
  | deliver n rest, g => run r rest (r.receive n g)
  | interrupt rest, g => run r rest (r.interrupt g)

/-- Deliver notifications, and stop before one as soon as the feed is cancelled. -/
def ofList (state : σ) : List Notification → Feed σ
  | [] => done (.ok ()) state
  | n :: rest => poll fun cancelled =>
    if cancelled then done (.ok ()) state else deliver n (ofList state rest)

end Feed

end TransponderShell
