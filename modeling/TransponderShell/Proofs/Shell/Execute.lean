import TransponderShell.Proofs.Daemon.Effect
import TransponderShell.Shell.Session
import TransponderShell.Text.Lemmas

/-!
# One line in the shell

What `Shell.execute` does with a line, in equations.

* A line is resolved with the answers of the daemon, and then the command acts on the world
  (`Context.perform_of_resolved`, `Context.perform_eq`).
* `execute_of_blank`, `execute_of_ok` and `execute_of_error` say what follows: nothing, a move in
  the stack of contexts (`run_move`), or a report.
* Moving and reporting leave the daemon alone, so it is as the command has left it, and only a
  command that succeeds moves (`execute_eq`, `state_execute`).
* What each line keeps, a run of lines keeps (`runLines_keeps`, `runEach_keeps`).
-/

namespace TransponderShell

variable {σ ω : Type} (t : Terminal σ ω)

theorem Step.run_onDaemon {α : Type} (x : ExceptT Failure (StateM σ) α) (world : World σ ω) :
    Step.onDaemon x world =
      ((x world.daemon).1, { world with daemon := (x world.daemon).2 }) := rfl

/-- Writing acts on the sink alone, whether or not it fails. -/
theorem Step.run_line (w : Writer ω) (text : Text) (world : World σ ω) :
    Step.line w text world =
      (match (w.line text world.sink).1 with
        | .ok () => .ok ()
        | .error e => .error (.output e),
      { world with sink := (w.line text world.sink).2 }) := by
  unfold Step.line ExceptT.mk
  dsimp only
  rcases w.line text world.sink with ⟨e | _, sink⟩ <;> rfl

/-- A request fails for a reason of the shell's own. -/
theorem Context.run_request {α : Type} (r : Request σ α) (because : DaemonError → Failure) (s : σ) :
    Context.request r because s =
      (match (r s).1 with
        | .ok a => .ok a
        | .error e => .error (because e), (r s).2) := by
  rcases hr : r s with ⟨e | a, d⟩
  · exact run_stateBind hr _
  · exact run_stateBind hr _

/-- A request acts on the daemon alone, granted or refused. -/
theorem Step.run_request {α : Type} (r : Request σ α) (world : World σ ω) :
    Step.request r world =
      (match (r world.daemon).1 with
        | .ok a => .ok a
        | .error e => .error (.daemon e),
      { world with daemon := (r world.daemon).2 }) := by
  unfold Step.request
  rw [Step.run_onDaemon, Context.run_request]

/-! ## Resolving a line -/

namespace Context

/-- Resolve a line with the answers of a daemon. -/
def resolving (d : Daemon σ) (c : Context) (line : Text) :
    ExceptT Failure (StateM σ) (Resolved Handler) :=
  ExceptT.mk do
    match ← c.table.resolve (Question.ask d) line with
    | .ok resolved => return .ok resolved
    | .error e => return .error (.input e)

theorem resolving_eq (d : Daemon σ) (c : Context) (line : Text) (s : σ) :
    c.resolving d line s =
      (match (c.table.resolve (Question.ask d) line s).1 with
        | .ok r => .ok r
        | .error e => .error (.input e), (c.table.resolve (Question.ask d) line s).2) := by
  unfold resolving ExceptT.mk
  rcases hrun : c.table.resolve (Question.ask d) line s with ⟨_ | _, _⟩
  · exact run_stateBind hrun _
  · exact run_stateBind hrun _

/-- A blank line is not resolved, without a question. -/
theorem resolving_of_blank (d : Daemon σ) (c : Context) {line : Text} (s : σ)
    (h : line.all isBlank = true) :
    c.resolving d line s = (.error (.input (.unknownCommand c.table.names)), s) := by
  unfold resolving CommandTable.resolve CommandTable.expand
  rw [Text.words_of_all_blank (List.all_eq_true.1 h)]
  rfl

/-- So a line that is resolved is not blank. -/
theorem not_blank_of_resolving {d : Daemon σ} {c : Context} {line : Text} {s : σ}
    {r : Resolved Handler} (h : (c.resolving d line s).1 = .ok r) : line.all isBlank = false := by
  cases hline : line.all isBlank with
  | false => rfl
  | true =>
    rw [resolving_of_blank d c s hline] at h
    cases h

theorem perform_eq_bind (c : Context) (line : Text) :
    c.perform t line =
      Step.onDaemon (c.resolving t.daemon line) >>= fun r => r.handler.run t r.arguments := rfl

variable {t}

theorem perform_of_resolved {c : Context} {line : Text} {world : World σ ω} {r : Resolved Handler}
    {d : σ} (h : c.resolving t.daemon line world.daemon = (.ok r, d)) :
    c.perform t line world = r.handler.run t r.arguments { world with daemon := d } := by
  refine run_bind_ok ?_ _
  show Step.onDaemon (c.resolving t.daemon line) world = _
  rw [Step.run_onDaemon, h]

theorem perform_of_unresolved {c : Context} {line : Text} {world : World σ ω} {failure : Failure}
    {d : σ} (h : c.resolving t.daemon line world.daemon = (.error failure, d)) :
    c.perform t line world = (.error failure, { world with daemon := d }) := by
  refine run_bind_error ?_ _
  show Step.onDaemon (c.resolving t.daemon line) world = _
  rw [Step.run_onDaemon, h]

variable (t)

/-- **Resolving a line and carrying it out.** -/
theorem perform_eq (c : Context) (line : Text) (world : World σ ω) :
    c.perform t line world =
      match c.table.resolve (Question.ask t.daemon) line world.daemon with
      | (.ok resolved, d) =>
        resolved.handler.run t resolved.arguments { world with daemon := d }
      | (.error e, d) => (.error (.input e), { world with daemon := d }) := by
  have hresolving := c.resolving_eq t.daemon line world.daemon
  rcases hresolve : c.table.resolve (Question.ask t.daemon) line world.daemon with ⟨e | resolved, d⟩
  · rw [hresolve] at hresolving
    exact perform_of_unresolved hresolving
  · rw [hresolve] at hresolving
    exact perform_of_resolved hresolving

end Context

/-! ## The stack of contexts -/

/-- The contexts above the root after a command. One that fails leaves them as they are. -/
def Outcome.above : Except Failure Outcome → List Context → List Context
  | .error _, above => above
  | .ok stay, above => above
  | .ok (enter c), above => c :: above
  | .ok leave, above => above.tail

/-- What holds of the contexts before a command, and when one is left, holds after the command if it
holds of what is entered. -/
theorem Outcome.above_of {P : List Context → Prop} {r : Except Failure Outcome}
    {above : List Context} (h : P above) (htail : P above.tail)
    (henter : ∀ c, r = .ok (.enter c) → P (c :: above)) : P (Outcome.above r above) := by
  rcases r with failure | outcome
  · exact h
  cases outcome with
  | stay => exact h
  | enter c => exact henter c rfl
  | leave => exact htail

/-- Whether the shell goes on: it ends when the root is left. -/
def Outcome.progress : Outcome → List Context → Progress
  | leave, [] => .quit
  | _, _ => .continue

namespace Shell

variable {t} (s : Shell σ ω) {line : Text} {world : World σ ω}

theorem run_move (outcome : Outcome) :
    move outcome s = (.ok (outcome.progress s.above),
      { s with above := Outcome.above (.ok outcome) s.above }) := by
  cases outcome with
  | stay => rfl
  | enter c => rfl
  | leave =>
    unfold move
    dsimp only
    rw [run_bind_ok (run_get s)]
    rcases s with ⟨world, root, _ | ⟨c, rest⟩⟩ <;> rfl

/-- A line of the shell's own goes to the sink alone. -/
theorem run_writeLine (text : Text) :
    writeLine t text s =
      (match (t.writer.line text s.world.sink).1 with
        | .ok () => .ok ()
        | .error e => .error (.write e),
      { s with world := { s.world with sink := (t.writer.line text s.world.sink).2 } }) := by
  unfold writeLine ExceptT.mk
  dsimp only
  rcases t.writer.line text s.world.sink with ⟨e | _, sink⟩ <;> rfl

/-- A failure is reported in one line, unless it is one of writing without sources. -/
theorem report_of_ne {failure : Failure} (h : ∀ reason, failure ≠ .output ⟨reason, []⟩) :
    report t failure = writeLine t (reportText failure) := by
  cases failure with
  | output e =>
    obtain ⟨reason, _ | _⟩ := e
    · exact absurd rfl (h reason)
    · rfl
  | _ => rfl

/-- A report changes nothing but what is written. -/
theorem report_eq (failure : Failure) :
    ∃ r sink, report t failure s = (r, { s with world := { s.world with sink := sink } }) := by
  by_cases h : ∃ reason, failure = .output ⟨reason, []⟩
  · obtain ⟨reason, rfl⟩ := h
    exact ⟨_, s.world.sink, rfl⟩
  · rw [report_of_ne fun reason hreason => h ⟨reason, hreason⟩]
    exact ⟨_, _, run_writeLine s _⟩

/-! ## A line -/

theorem execute_of_blank (h : line.all isBlank = true) :
    execute t line s = (.ok .continue, s) := by
  unfold execute
  rw [if_pos h]
  rfl

theorem run_perform : perform t line s =
    (.ok (s.context.perform t line s.world).1,
      { s with world := (s.context.perform t line s.world).2 }) := rfl

variable {s}

/-- A command that succeeds says where to go. -/
theorem execute_of_ok (hline : line.all isBlank = false) {outcome : Outcome}
    (h : s.context.perform t line s.world = (.ok outcome, world)) :
    execute t line s = move outcome { s with world := world } := by
  unfold execute
  rw [if_neg (by simp [hline]), run_bind_ok (run_perform s), h]

/-- A command that fails is reported. -/
theorem execute_of_error (hline : line.all isBlank = false) {failure : Failure}
    (h : s.context.perform t line s.world = (.error failure, world)) :
    execute t line s =
      (report t failure >>= fun _ => pure .continue) { s with world := world } := by
  unfold execute
  rw [if_neg (by simp [hline]), run_bind_ok (run_perform s), h]

/-- **Where a line leads.** The daemon is as the command has left it, and only a command that
succeeds moves. -/
theorem execute_eq (hline : line.all isBlank = false) :
    ∃ r sink, execute t line s = (r,
      { world := { (s.context.perform t line s.world).2 with sink := sink }
        root := s.root
        above := Outcome.above (s.context.perform t line s.world).1 s.above }) := by
  rcases h : s.context.perform t line s.world with ⟨failure | outcome, world⟩
  · rw [execute_of_error hline h]
    obtain ⟨r, sink, hreport⟩ := report_eq (t := t) { s with world := world } failure
    rcases r with e | _
    · exact ⟨_, sink, run_bind_error hreport _⟩
    · exact ⟨_, sink, run_bind_ok hreport _⟩
  · rw [execute_of_ok hline h]
    exact ⟨_, world.sink, run_move _ outcome⟩

/-- What a line leaves behind, be it blank or not. -/
theorem state_execute (t : Terminal σ ω) (line : Text) (s : Shell σ ω) :
    ∃ sink, (execute t line s).2 =
      { world := { (s.context.perform t line s.world).2 with sink := sink }
        root := s.root
        above := Outcome.above (s.context.perform t line s.world).1 s.above } := by
  cases hline : line.all isBlank with
  | true =>
    have hresolve := s.context.resolving_of_blank t.daemon s.world.daemon hline
    rw [execute_of_blank s hline, Context.perform_of_unresolved hresolve]
    exact ⟨s.world.sink, rfl⟩
  | false =>
    obtain ⟨r, sink, hexecute⟩ := execute_eq (t := t) (s := s) hline
    exact ⟨sink, congrArg Prod.snd hexecute⟩

/-- The daemon is as the command has left it. -/
theorem daemon_execute (t : Terminal σ ω) (line : Text) (s : Shell σ ω) :
    (execute t line s).2.world.daemon = (s.context.perform t line s.world).2.daemon := by
  obtain ⟨sink, hstate⟩ := state_execute t line s
  rw [hstate]

/-! ## Many lines -/

section Keeps

variable {R : Shell σ ω → Shell σ ω → Prop} [IsPreorder (Shell σ ω) R]

theorem runLines_keeps (h : ∀ line, Keeps R (execute t line)) (lines : List Text) :
    Keeps R (runLines t lines) := by
  induction lines with
  | nil => exact Keeps.pure _
  | cons line rest ih =>
    refine (h line).bind fun progress => ?_
    cases progress with
    | quit => exact Keeps.pure _
    | «continue» => exact ih

theorem runEach_keeps (h : ∀ line, Keeps R (execute t line)) (accept : Text → Bool)
    (script : Script) : Keeps R (runEach t accept script) := by
  induction script with
  | nil => exact Keeps.pure _
  | cons line? rest ih =>
    cases line? with
    | none => exact Keeps.throw _
    | some line =>
      unfold runEach
      split
      · refine (h line.trim).bind fun progress => ?_
        cases progress with
        | quit => exact Keeps.pure _
        | «continue» => exact ih
      · exact ih

end Keeps

end Shell

end TransponderShell
