import TransponderShell.Proofs.Shell.Observed
import TransponderShell.Proofs.Text.Blanks
import TransponderShell.Proofs.Text.Encoding
import TransponderShell.Simulator.Fixture

/-!
# Lines from a command string and from a script

The shell takes its lines from the operator, from a text with semicolons or from a script, whose
blank lines and comments it skips. However they come, they are carried out in turn until the first
one that quits at the root or whose output fails: `InTurn` says so without any of these loops.

* `execute_congr` says that blanks around the words of a line do not count.
* `runBatch_joinWith` and `runScript_ofText` say which lines the two loops take from a text, and
  `runEach_of_intersperses` that blank lines and comments do nothing.
* `inTurn_cons_of_quit` and `inTurn_cons_of_failure` say what stops the lines that follow and what
  does not.
* `InTurn.recorded` says that the calls to the daemon may be recorded on the way, and
  `runBatch_runScript` collects all of this.
-/

namespace TransponderShell

open Text

/-! ## Scripts with blank lines and comments -/

namespace Script

/-- A script that consists of certain lines, with blank lines and comments anywhere between. -/
inductive Intersperses : List Text → List Text → Prop
  | nil : Intersperses [] []
  | command {lines script : List Text} (line : Text) (h : Intersperses lines script) :
    Intersperses (line :: lines) (line :: script)
  | skipped {lines script : List Text} {line : Text} (hend : '\n' ∉ line)
    (hskip : line.trim = [] ∨ line.trim.head? = some '#') (h : Intersperses lines script) :
    Intersperses lines (line :: script)

theorem Intersperses.not_mem {lines script : List Text} (h : Intersperses lines script)
    (hlines : ∀ line ∈ lines, '\n' ∉ line) : ∀ line ∈ script, '\n' ∉ line := by
  induction h with
  | nil => simp
  | command line h ih =>
    rw [List.forall_mem_cons] at hlines ⊢
    exact ⟨hlines.1, ih hlines.2⟩
  | skipped hend hskip h ih =>
    rw [List.forall_mem_cons]
    exact ⟨hend, ih hlines⟩

theorem isCommand_eq_false_iff {line : Text} :
    isCommand line = false ↔ line = [] ∨ line.head? = some '#' := by
  cases line with
  | nil => simp [isCommand]
  | cons c rest => simp [isCommand]

/-- The lines of the bytes of a text are its lines. -/
theorem ofBytes_utf8 (t : Text) : ofBytes t.utf8 = ofText t := by
  rw [ofBytes, ofText, cut, cut, pieces_utf8, List.getLast?_map]
  have hlast : (pieces '\n' t).getLast?.map utf8 = some [] ↔
      (pieces '\n' t).getLast? = some [] := by
    rw [Option.map_eq_some_iff]
    simp [utf8_eq_nil_iff]
  by_cases h : (pieces '\n' t).getLast? = some []
  · rw [if_pos (hlast.2 h), if_pos h, ← List.map_dropLast, List.map_map]
    exact List.map_congr_left fun line _ => ofUtf8?_utf8 line
  · rw [if_neg (mt hlast.1 h), if_neg h, List.map_map]
    exact List.map_congr_left fun line _ => ofUtf8?_utf8 line

end Script

namespace Shell

variable {σ ω : Type} (t : Terminal σ ω)

/-! ## Lines with the same words -/

/-- Only the words of a line count. -/
theorem execute_congr {line line' : Text} (h : line.words = line'.words) :
    execute t line = execute t line' := by
  have hblank : line.all isBlank = line'.all isBlank := by
    rw [Bool.eq_iff_iff, ← words_eq_nil_iff, ← words_eq_nil_iff, h]
  have hperform : perform t line = perform t line' := by
    funext s
    rw [run_perform, run_perform, Context.perform_eq, Context.perform_eq, CommandTable.resolve,
      CommandTable.resolve, h]
  rw [execute, execute, hblank, hperform]

theorem execute_trim (line : Text) : execute t line.trim = execute t line :=
  execute_congr t (words_trim line)

/-! ## Lines in turn -/

/-- What becomes of lines that are carried out in turn, until the first one that quits or fails. -/
inductive InTurn : List Text → Shell σ ω → Except ShellError Unit → Shell σ ω → Prop
  | done (s : Shell σ ω) : InTurn [] s (.ok ()) s
  | next {line : Text} {rest : List Text} {s s₁ s' : Shell σ ω} {result : Except ShellError Unit}
    (h : execute t line s = (.ok .continue, s₁)) (hrest : InTurn rest s₁ result s') :
    InTurn (line :: rest) s result s'
  | quit {line : Text} {s s' : Shell σ ω} (h : execute t line s = (.ok .quit, s'))
    (rest : List Text) : InTurn (line :: rest) s (.ok ()) s'
  | fail {line : Text} {s s' : Shell σ ω} {e : ShellError}
    (h : execute t line s = (.error e, s')) (rest : List Text) :
    InTurn (line :: rest) s (.error e) s'

/-- Lines that are carried out, each so that the shell goes on. -/
inductive Passes : List Text → Shell σ ω → Shell σ ω → Prop
  | nil (s : Shell σ ω) : Passes [] s s
  | cons {line : Text} {rest : List Text} {s s₁ s' : Shell σ ω}
    (h : execute t line s = (.ok .continue, s₁)) (hrest : Passes rest s₁ s') :
    Passes (line :: rest) s s'

section InTurn

variable {t} {lines rest : List Text} {line : Text} {s s₁ s' : Shell σ ω}
variable {result : Except ShellError Unit}

/-- **The loop over lines** carries them out in turn. -/
theorem inTurn_iff : InTurn t lines s result s' ↔ runLines t lines s = (result, s') := by
  constructor
  · intro h
    induction h with
    | done s => rfl
    | next h hrest ih =>
      rw [runLines, run_bind_ok h]
      exact ih
    | quit h rest =>
      rw [runLines, run_bind_ok h]
      rfl
    | fail h rest => rw [runLines, run_bind_error h]
  · intro h
    induction lines generalizing s with
    | nil =>
      cases h
      exact .done _
    | cons line rest ih =>
      rcases hline : execute t line s with ⟨e | progress, s₁⟩
      · rw [runLines, run_bind_error hline] at h
        cases h
        exact .fail hline rest
      · rw [runLines, run_bind_ok hline] at h
        cases progress with
        | «continue» => exact .next hline (ih h)
        | quit =>
          cases h
          exact .quit hline rest

/-- A line after which the shell goes on leaves the others to be carried out. -/
theorem inTurn_cons_of_continue (h : execute t line s = (.ok .continue, s₁)) :
    InTurn t (line :: rest) s result s' ↔ InTurn t rest s₁ result s' := by
  rw [inTurn_iff, inTurn_iff, runLines, run_bind_ok h]

/-- Nothing is carried out behind a line that quits. -/
theorem inTurn_cons_of_quit (h : execute t line s = (.ok .quit, s₁)) :
    InTurn t (line :: rest) s result s' ↔ result = .ok () ∧ s' = s₁ := by
  rw [inTurn_iff, runLines, run_bind_ok h]
  constructor
  · rintro ⟨⟩
    exact ⟨rfl, rfl⟩
  · rintro ⟨rfl, rfl⟩
    rfl

/-- A failure that is reported leaves the other lines to be carried out. -/
theorem inTurn_cons_of_failure {failure : Failure} {world : World σ ω}
    (hline : line.all isBlank = false)
    (h : s.context.perform t line s.world = (.error failure, world))
    (hreport : report t failure { s with world := world } = (.ok (), s₁)) :
    InTurn t (line :: rest) s result s' ↔ InTurn t rest s₁ result s' := by
  apply inTurn_cons_of_continue
  rw [execute_of_error hline h, run_bind_ok hreport]
  rfl

theorem Passes.append_iff {before : List Text} (h : Passes t before s s₁) :
    InTurn t (before ++ rest) s result s' ↔ InTurn t rest s₁ result s' := by
  induction h with
  | nil s => rfl
  | cons h hrest ih => rw [List.cons_append, inTurn_cons_of_continue h, ih]

end InTurn

/-! ## The lines of a command string and of a script -/

theorem execute_eq_pure {line : Text} (h : words line = []) :
    execute t line = pure .continue := by
  unfold execute
  rw [if_pos (words_eq_nil_iff.1 h)]

/-- A blank line does nothing. -/
theorem runLines_cons_of_blank {line : Text} (h : words line = []) (rest : List Text) :
    runLines t (line :: rest) = runLines t rest := by
  rw [runLines, execute_eq_pure t h, pure_bind]

/-- **The lines of a command string** are those between the semicolons. -/
theorem runBatch_joinWith {lines : List Text} (h : ∀ line ∈ lines, ';' ∉ line) :
    runBatch t (joinWith [';'] lines) = runLines t lines := by
  rcases eq_or_ne lines [] with rfl | hne
  · exact runLines_cons_of_blank t words_nil []
  · rw [runBatch, joinWith, pieces_intercalate hne h]

/-- An empty line at the end of a script does not count. -/
theorem runEach_concat_blank (script : Script) :
    runEach t Script.isCommand (script ++ [some []]) = runEach t Script.isCommand script := by
  induction script with
  | nil => rfl
  | cons line? rest ih =>
    cases line? with
    | none => rfl
    | some line => rw [List.cons_append, runEach, runEach, ih]

/-- **The lines of a script** are those between the line ends. -/
theorem runScript_ofText {script : List Text} (h : ∀ line ∈ script, '\n' ∉ line) :
    runScript t (.ofText (joinWith ['\n'] script)) =
      runEach t Script.isCommand (script.map some) := by
  rcases eq_or_ne script [] with rfl | hne
  · rfl
  rw [runScript, Script.ofText, Script.cut, joinWith, pieces_intercalate hne h]
  by_cases hlast : script.getLast? = some []
  · obtain ⟨before, rfl⟩ := List.getLast?_eq_some_iff.1 hlast
    rw [if_pos hlast, List.dropLast_concat, List.map_append, List.map_singleton,
      runEach_concat_blank]
  · rw [if_neg hlast]

/-- **Blank lines and comments do nothing.** -/
theorem runEach_of_intersperses {lines script : List Text}
    (h : Script.Intersperses lines script)
    (hlines : ∀ line ∈ lines, line.trim.head? ≠ some '#') :
    runEach t Script.isCommand (script.map some) = runLines t lines := by
  induction h with
  | nil => rfl
  | skipped hend hskip h ih =>
    have hnot := Script.isCommand_eq_false_iff.2 hskip
    rw [List.map_cons, runEach, hnot, if_neg Bool.false_ne_true, ih hlines]
  | command line h ih =>
    rw [List.forall_mem_cons] at hlines
    rw [List.map_cons, runEach, ih hlines.2]
    cases hcommand : Script.isCommand line.trim with
    | true => rw [if_pos rfl, execute_trim, runLines]
    | false =>
      rcases Script.isCommand_eq_false_iff.1 hcommand with hblank | hcomment
      · have hwords : words line = [] := by rw [← words_trim, hblank, words_nil]
        rw [if_neg Bool.false_ne_true, runLines_cons_of_blank t hwords]
      · exact absurd hcomment hlines.1

/-! ## The calls of several lines -/

section Recorded

variable {t}

/-- The shell with a record of the calls to its daemon. -/
def recorded (s : Shell σ ω) (calls : List Call) : Shell (σ × List Call) ω where
  world := ⟨(s.world.daemon, calls), s.world.sink, s.world.interrupted⟩
  root := s.root
  above := s.above

/-- What is alike to a shell but for a record of calls is the shell with this record. -/
theorem Alike.exists_recorded {s : Shell σ ω} {u : Shell (σ × List Call) ω}
    (h : Alike Daemon.Unrecorded Eq s u) : ∃ calls, u = s.recorded calls := by
  obtain ⟨⟨hdaemon, hsink, hinterrupted⟩, hroot, habove⟩ := h
  obtain ⟨⟨⟨daemon, calls⟩, sink, interrupted⟩, root, above⟩ := u
  obtain rfl : daemon = s.world.daemon := hdaemon
  obtain rfl : s.world.sink = sink := hsink
  obtain rfl : s.world.interrupted = interrupted := hinterrupted
  obtain rfl : s.root = root := hroot
  obtain rfl : s.above = above := habove
  exact ⟨calls, rfl⟩

/-- A line does the same while the calls are recorded. -/
theorem exists_execute_recorded {line : Text} {s s' : Shell σ ω}
    {result : Except ShellError Progress} (h : execute t line s = (result, s'))
    (earlier : List Call) :
    ∃ calls, execute t.recording line (s.recorded earlier) = (result, s'.recorded calls) := by
  obtain ⟨hresult, halike⟩ :=
    execute_lockstep t.mirrors_recording line s (s.recorded earlier) ⟨⟨rfl, rfl, rfl⟩, rfl, rfl⟩
  rw [h] at hresult halike
  obtain ⟨calls, hcalls⟩ := halike.exists_recorded
  exact ⟨calls, Prod.ext hresult.symm hcalls⟩

/-- **Lines do the same in turn while their calls are recorded.** -/
theorem InTurn.recorded {lines : List Text} {s s' : Shell σ ω} {result : Except ShellError Unit}
    (h : InTurn t lines s result s') (earlier : List Call) :
    ∃ calls, InTurn t.recording lines (s.recorded earlier) result (s'.recorded calls) := by
  induction h generalizing earlier with
  | done s => exact ⟨earlier, .done _⟩
  | next h hrest ih =>
    obtain ⟨between, hline⟩ := exists_execute_recorded h earlier
    obtain ⟨calls, hcalls⟩ := ih between
    exact ⟨calls, .next hline hcalls⟩
  | quit h rest =>
    obtain ⟨calls, hline⟩ := exists_execute_recorded h earlier
    exact ⟨calls, .quit hline rest⟩
  | fail h rest =>
    obtain ⟨calls, hline⟩ := exists_execute_recorded h earlier
    exact ⟨calls, .fail hline rest⟩

end Recorded

/-- Both loops carry out the same lines in turn. -/
theorem runBatch_runScript_of_inTurn {lines script : List Text}
    (hlines : ∀ line ∈ lines, ';' ∉ line ∧ '\n' ∉ line ∧ line.trim.head? ≠ some '#')
    (hscript : Script.Intersperses lines script) {s s' : Shell σ ω}
    {result : Except ShellError Unit} (h : InTurn t lines s result s') :
    runBatch t (joinWith [';'] lines) s = (result, s') ∧
      runScript t (.ofBytes (utf8 (joinWith ['\n'] script))) s = (result, s') := by
  have hends := hscript.not_mem fun line hline => (hlines line hline).2.1
  rw [Script.ofBytes_utf8, runScript_ofText t hends,
    runEach_of_intersperses t hscript fun line hline => (hlines line hline).2.2,
    runBatch_joinWith t fun line hline => (hlines line hline).1, inTurn_iff.1 h]
  exact ⟨rfl, rfl⟩

end Shell

/-- **It does not matter how lines come to the shell.** Lines without semicolons and line ends, of
which none is a comment, are carried out in turn, whether they are joined with semicolons or stand
in a script among blank lines and comments: with the same result, the same state of the shell, of
its daemon and of what is written, and the same calls to the daemon. Nothing behind a line that
quits is carried out, and everything behind a failure that is reported. -/
theorem Shell.runBatch_runScript {σ ω : Type} (t : Terminal σ ω) (s : Shell σ ω)
    {lines script : List Text}
    (hlines : ∀ line ∈ lines, ';' ∉ line ∧ '\n' ∉ line ∧ line.trim.head? ≠ some '#')
    (hscript : Script.Intersperses lines script) :
    ∃ result s' calls,
      (InTurn t lines s result s' ∧
        runBatch t (joinWith [';'] lines) s = (result, s') ∧
        runScript t (.ofBytes (utf8 (joinWith ['\n'] script))) s = (result, s')) ∧
      (InTurn t.recording lines s.recording result (s'.recorded calls) ∧
        runBatch t.recording (joinWith [';'] lines) s.recording =
          (result, s'.recorded calls) ∧
        runScript t.recording (.ofBytes (utf8 (joinWith ['\n'] script))) s.recording =
          (result, s'.recorded calls)) ∧
      ∀ before line rest s₁ s₂, lines = before ++ line :: rest → Passes t before s s₁ →
        (execute t line s₁ = (.ok .quit, s₂) → result = .ok () ∧ s' = s₂) ∧
        (∀ failure world, line.all isBlank = false →
          s₁.context.perform t line s₁.world = (.error failure, world) →
          report t failure { s₁ with world := world } = (.ok (), s₂) →
          InTurn t rest s₂ result s') := by
  rcases hrun : runLines t lines s with ⟨result, s'⟩
  have hturn : InTurn t lines s result s' := inTurn_iff.2 hrun
  obtain ⟨calls, hrecorded⟩ := hturn.recorded []
  refine ⟨result, s', calls, ⟨hturn, runBatch_runScript_of_inTurn t hlines hscript hturn⟩,
    ⟨hrecorded, runBatch_runScript_of_inTurn t.recording hlines hscript hrecorded⟩, ?_⟩
  rintro before line rest s₁ s₂ rfl hbefore
  have hline := hbefore.append_iff.1 hturn
  exact ⟨fun hquit => (inTurn_cons_of_quit hquit).1 hline,
    fun failure world hblank hperform hreport =>
      (inTurn_cons_of_failure hblank hperform hreport).1 hline⟩

theorem runBatch_runScript_seed :
    let t : Terminal Simulator Text := ⟨Simulator.daemon, .unlimited, false⟩
    let s := Shell.start Simulator.seed []
    let lines : List Text := ["module 1", "bogus", " quit", "", "quit", "list"]
    let script : List Text :=
      ["# look around", "module 1", "", "bogus", " quit", "", "  # leave", "quit", "list"]
    ((∀ line ∈ lines, ';' ∉ line ∧ '\n' ∉ line ∧ line.trim.head? ≠ some '#') ∧
      Script.Intersperses lines script) ∧
    ∃ s', Shell.runBatch t "module 1;bogus; quit;;quit;list" s = (.ok (), s') ∧
      Shell.runScript t (.ofBytes (utf8
        "# look around\nmodule 1\n\nbogus\n quit\n\n  # leave\nquit\nlist")) s =
          (.ok (), s') := by
  intro t s lines script
  have hlines : ∀ line ∈ lines, ';' ∉ line ∧ '\n' ∉ line ∧ line.trim.head? ≠ some '#' := by decide
  have hscript : Script.Intersperses lines script :=
    .skipped (by decide) (by decide) <| .command _ <| .skipped (by decide) (by decide) <|
      .command _ <| .command _ <| .command _ <| .skipped (by decide) (by decide) <|
      .command _ <| .command _ .nil
  have hok : (Shell.runBatch t "module 1;bogus; quit;;quit;list" s).1 = .ok () := by
    decide +kernel
  have hbatch : joinWith [';'] lines = "module 1;bogus; quit;;quit;list" := by decide
  have htext : joinWith ['\n'] script =
      "# look around\nmodule 1\n\nbogus\n quit\n\n  # leave\nquit\nlist" := by decide
  obtain ⟨result, s', -, ⟨-, hrun, hrunScript⟩, -⟩ :=
    Shell.runBatch_runScript t s hlines hscript
  rw [hbatch] at hrun
  rw [htext] at hrunScript
  rw [hrun] at hok
  obtain rfl : result = .ok () := hok
  exact ⟨⟨hlines, hscript⟩, s', hrun, hrunScript⟩

end TransponderShell
