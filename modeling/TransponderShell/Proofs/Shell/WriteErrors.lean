import TransponderShell.Daemon.FeedLemmas
import TransponderShell.Proofs.Shell.Observed

/-!
# Failures of writing in commands

A `WritingLaw` relates the worlds before and behind a step to the failure of writing that the step
ends with, if it ends with one. What is made of steps that follow the law follows it
(`WritingLaw.In.bind`), so it is enough to look at the lines that are written and at the feeds
(`WritingLaw.related`).

* `WritingLaw.candid` says that a step fails for the output exactly as often as its writer, which
  counts its failures. Lines are candid (`Step.line_candid`); a failure while an attribute is
  followed is kept until the feed has ended (`Monitor.count_play`).
* `WritingLaw.sourceless` says that a failure of writing comes from no other error. It holds of all
  lines if it holds of the writer (`Context.perform_sourceless`).
-/

namespace TransponderShell

variable {σ ω α : Type}

/-- The failure of writing that a result stands for. -/
def writeError? : Except Failure α → Option WriteError
  | .error (.output e) => some e
  | _ => none

theorem writeError?_error {failure : Failure} (h : ∀ e, failure ≠ .output e) :
    writeError? (.error failure : Except Failure α) = none := by
  cases failure with
  | output e => exact absurd rfl (h e)
  | _ => rfl

/-! ## Laws of writing -/

/-- What becomes of the world in a step, given the failure of writing that the step ends with. -/
structure WritingLaw (σ ω : Type) where
  Holds : Option WriteError → World σ ω → World σ ω → Prop
  /-- The daemon may change. -/
  onDaemon : ∀ world d, Holds none world { world with daemon := d }
  /-- A step may follow that ends in any way. -/
  trans : ∀ {failure world world' world''}, Holds none world world' →
    Holds failure world' world'' → Holds failure world world''

namespace WritingLaw

/-- Begun in a world, a step follows the law. -/
def In (law : WritingLaw σ ω) (x : Step σ ω α) (world : World σ ω) : Prop :=
  law.Holds (writeError? (x world).1) world (x world).2

/-- Wherever it is begun, a step follows the law. -/
def Follows (law : WritingLaw σ ω) (x : Step σ ω α) : Prop := ∀ world, law.In x world

variable {law : WritingLaw σ ω}

theorem In.bind {β : Type} {x : Step σ ω α} {f : α → Step σ ω β} {world : World σ ω}
    (hx : law.In x world) (hf : ∀ a, law.Follows (f a)) : law.In (x >>= f) world := by
  unfold In at hx ⊢
  rcases hrun : x world with ⟨failure | a, world'⟩
  · rw [hrun] at hx
    rw [run_bind_error hrun]
    cases failure <;> exact hx
  · rw [hrun] at hx
    rw [run_bind_ok hrun]
    exact law.trans hx (hf a world')

/-- What follows the law is made of steps that follow it and of programs that do not write. -/
def relations (law : WritingLaw σ ω) : Relations σ σ ω ω where
  requests := ⟨fun _ _ => True, fun _ => trivial, fun _ _ => trivial⟩
  programs := {
    Rel := fun x _ => ∀ s, writeError? (x s).1 = none
    pure_pure := fun _ _ => rfl
    bind_bind := by
      intro _ _ x _ f _ hx hf s
      have hs := hx s
      rcases hrun : x s with ⟨e | a, s'⟩
      · rw [hrun] at hs
        rw [run_bind_error hrun]
        cases e <;> first | rfl | cases hs
      · rw [run_bind_ok hrun]
        exact hf a s' }
  steps := ⟨fun x _ => law.Follows x, fun _ world => law.onDaemon world world.daemon,
    fun hx hf world => (hx world).bind hf⟩

/-- **Steps follow a law if lines follow it.** -/
theorem related {t : Terminal σ ω} (hline : ∀ text, law.Follows (Step.line t.writer text)) :
    t.Related law.relations t where
  list := trivial
  attributes _ := trivial
  get _ _ := trivial
  set _ _ _ := trivial
  capability _ _ := trivial
  create _ _ _ := trivial
  remove _ := trivial
  setLogLevel _ _ := trivial
  refuse _ := trivial
  request {_ r _ _} hbecause _ s := by
    rw [Context.run_request]
    cases (r s).1 with
    | ok a => rfl
    | error e => exact writeError?_error (hbecause e)
  fail hfailure _ := writeError?_error hfailure
  resolve c line s := by
    unfold Context.resolving ExceptT.mk
    rcases hrun : c.table.resolve (Question.ask t.daemon) line s with ⟨_ | _, _⟩ <;>
    · rw [run_stateBind hrun]
      rfl
  onDaemon hx world := by
    rw [In, Step.run_onDaemon, hx]
    exact law.onDaemon world _
  line := hline

end WritingLaw

/-! ## Failures are counted -/

/-- One if there is a failure. -/
def failed {ε : Type} : Except ε α → Nat
  | .ok _ => 0
  | .error _ => 1

/-- One if there is a failure of writing. -/
def WriteError.count : Option WriteError → Nat
  | none => 0
  | some _ => 1

/-- A step fails for the output exactly as often as its writer fails. -/
def WritingLaw.candid : WritingLaw σ (ω × Nat) where
  Holds failure world world' := world'.sink.2 = world.sink.2 + WriteError.count failure
  onDaemon _ _ := rfl
  trans h h' := by rw [h', h, WriteError.count, Nat.add_zero]

/-- A counting writer has counted its failure when it fails. -/
theorem Writer.count_write (w : Writer ω) (text : Text) (sink : ω × Nat) :
    (w.counting.write text sink).2.2 = sink.2 + failed (w.counting.write text sink).1 := by
  obtain ⟨sink, failures⟩ := sink
  dsimp only [counting]
  rcases w.write text sink with ⟨_ | _, _⟩ <;> rfl

theorem Step.line_candid (w : Writer ω) (text : Text) :
    WritingLaw.candid.Follows (Step.line w.counting text : Step σ (ω × Nat) Unit) := by
  intro world
  rw [WritingLaw.In, run_line]
  dsimp only [Writer.line, WritingLaw.candid]
  rw [w.count_write]
  cases (w.counting.write (text ++ ['\n']) world.sink).1 <;> rfl

/-- All steps but following an attribute are candid. -/
theorem Terminal.counting_related (t : Terminal σ ω) :
    t.counting.Related WritingLaw.candid.relations t.counting :=
  WritingLaw.related (Step.line_candid t.writer)

namespace Monitor

/-- No line is written after a failure. -/
theorem count_writeAll (w : Writer ω) {n : Nat} (texts : List Text) {f : Following (ω × Nat)}
    (hf : f.sink.2 = n + WriteError.count f.failure) :
    (writeAll w.counting texts f).sink.2 =
      n + WriteError.count (writeAll w.counting texts f).failure := by
  induction texts generalizing f with
  | nil => exact hf
  | cons text rest ih =>
    unfold writeAll
    cases hfailure : f.failure with
    | some e => exact hf
    | none =>
      have hcount := w.count_write (text ++ ['\n']) f.sink
      have hnone : f.sink.2 = n := by rwa [hfailure] at hf
      dsimp only [Writer.line]
      rcases hwrite : w.counting.write (text ++ ['\n']) f.sink with ⟨_ | _, sink⟩ <;>
      · rw [hwrite, hnone] at hcount
        exact ih hcount

/-- The failure that is kept is the only one. -/
theorem count_play (t : Terminal σ ω) (object : ObjectHandle) (attributes : List Attribute)
    (name : Text) (world : World σ (ω × Nat)) :
    (play t.counting object attributes name world).2.2.sink.2 = world.sink.2 +
      WriteError.count (play t.counting object attributes name world).2.2.failure :=
  Feed.run_keeps
    (P := fun f : Following (ω × Nat) => f.sink.2 = world.sink.2 + WriteError.count f.failure)
    (fun _ _ hf => count_writeAll t.writer _ hf) (fun _ hf => hf) _ rfl

end Monitor

/-! ## Failures without sources -/

/-- The failures of a writer come from no other errors. -/
def Writer.Sourceless (w : Writer ω) : Prop :=
  ∀ text sink e, (w.write text sink).1 = .error e → e.sources = []

/-- If there is a failure of writing, it comes from no other error. -/
def WriteError.Sourceless (failure : Option WriteError) : Prop :=
  ∀ e, failure = some e → e.sources = []

theorem WriteError.sourceless_none : Sourceless none := by
  rintro _ ⟨⟩

/-- A step fails for the output without sources. -/
def WritingLaw.sourceless : WritingLaw σ ω where
  Holds failure _ _ := WriteError.Sourceless failure
  onDaemon _ _ := WriteError.sourceless_none
  trans _ h := h

section Sourceless

variable {w : Writer ω}

theorem Step.line_sourceless (hw : w.Sourceless) (text : Text) :
    WritingLaw.sourceless.Follows (Step.line w text : Step σ ω Unit) := by
  intro world
  rw [WritingLaw.In, run_line]
  dsimp only [Writer.line]
  cases hwrite : (w.write (text ++ ['\n']) world.sink).1 with
  | ok => exact WriteError.sourceless_none
  | error e =>
    rintro _ ⟨⟩
    exact hw _ _ e hwrite

namespace Monitor

theorem writeAll_sourceless (hw : w.Sourceless) (texts : List Text) {f : Following ω}
    (hf : WriteError.Sourceless f.failure) :
    WriteError.Sourceless (writeAll w texts f).failure := by
  induction texts generalizing f with
  | nil => exact hf
  | cons text rest ih =>
    unfold writeAll
    cases hfailure : f.failure with
    | some e => exact hf
    | none =>
      dsimp only [Writer.line]
      rcases hwrite : w.write (text ++ ['\n']) f.sink with ⟨e | _, sink⟩
      · refine ih ?_
        rintro _ ⟨⟩
        exact hw _ _ e (congrArg Prod.fst hwrite)
      · exact ih WriteError.sourceless_none

theorem follow_sourceless {t : Terminal σ ω} (hw : t.writer.Sourceless) (object : ObjectHandle)
    (attributes : List Attribute) (name : Text) :
    WritingLaw.sourceless.Follows (follow t object attributes name) := by
  intro world
  have hplay : WriteError.Sourceless (play t object attributes name world).2.2.failure :=
    Feed.run_keeps (P := fun f : Following ω => WriteError.Sourceless f.failure)
      (fun _ _ hf => writeAll_sourceless hw _ hf) (fun _ hf => hf) _ WriteError.sourceless_none
  rw [WritingLaw.In, run_follow]
  cases (play t object attributes name world).1 with
  | error e => exact WriteError.sourceless_none
  | ok =>
    cases hfailure : (play t object attributes name world).2.2.failure with
    | none => exact WriteError.sourceless_none
    | some e =>
      rintro _ ⟨⟩
      exact hplay e hfailure

end Monitor

/-- **The failures of a line come from no other errors** if those of the writer do not. -/
theorem Context.perform_sourceless {t : Terminal σ ω} (hw : t.writer.Sourceless) (c : Context)
    (line : Text) {world : World σ ω} {e : WriteError}
    (h : (c.perform t line world).1 = .error (.output e)) : e.sources = [] := by
  have hfollows : WritingLaw.sourceless.Follows (c.perform t line) :=
    c.perform_related (WritingLaw.related (Step.line_sourceless hw))
      (Monitor.follow_sourceless hw) line
  exact hfollows world e (by rw [h]; rfl)

end Sourceless

end TransponderShell
