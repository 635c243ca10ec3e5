import TransponderShell.Text.Basic

/-!
# Where the shell writes to

A `Writer ω` takes whole lines, each with its line end, and has the states `ω`. A write may fail at
any time, for reasons of the writer's own, and a failed write may still have taken a part of its
line. A `WriteError` says why, and from which errors of the writer's own it comes, if there are any.

`Writer.unlimited` keeps all it is given. `Writer.limited` has room for a number of bytes: the line
that does not fit is cut off and fails, and so does every line after it, unless the writer recovers,
which gives it room without end from then on.
-/

namespace TransponderShell

/-- Why a write has failed. -/
structure WriteError where
  reason : Text
  /-- The errors that it comes from, the nearest first. -/
  sources : List Text := []
  deriving DecidableEq, Repr

namespace WriteError

/-- In short, the error is its reason. -/
instance : Coe WriteError Text := ⟨reason⟩

/-- The error and all that it comes from. -/
def message (e : WriteError) : Text := Text.joinWith ": " (e.reason :: e.sources)

end WriteError

/-- Takes text, with the states `ω`. -/
structure Writer (ω : Type) where
  write : Text → ω → Except WriteError Unit × ω

namespace Writer

/-- Write a line: its text and a line end. -/
def line {ω : Type} (w : Writer ω) (t : Text) : ω → Except WriteError Unit × ω :=
  w.write (t ++ ['\n'])

/-- Keeps all it is given. -/
def unlimited : Writer Text where
  write := fun t written => (.ok (), written ++ t)

end Writer

/-- A sink with room for a number of bytes. -/
structure LimitedSink where
  /-- The bytes that there is room for; no number means room without end. -/
  room : Option Nat
  /-- Whether the first failure gives room without end. -/
  recovers : Bool
  written : List UInt8 := []
  deriving DecidableEq, Repr

namespace LimitedSink

/-- Every failure of a limited sink. -/
def full : WriteError := { reason := "sink full" }

/-- Take as many of the bytes as there is room for. -/
def take (bytes : List UInt8) (s : LimitedSink) : Except WriteError Unit × LimitedSink :=
  match s.room with
  | none => (.ok (), { s with written := s.written ++ bytes })
  | some room =>
    let s := { s with room := some (room - bytes.length), written := s.written ++ bytes.take room }
    if bytes.length ≤ room then (.ok (), s)
    else (.error full, if s.recovers then { s with room := none } else s)

end LimitedSink

/-- A writer with room for a number of bytes. -/
def Writer.limited : Writer LimitedSink where
  write := fun t => LimitedSink.take t.utf8

end TransponderShell
