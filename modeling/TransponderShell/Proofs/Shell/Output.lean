import TransponderShell.Proofs.Shell.WriteErrors
import TransponderShell.Proofs.Simulator.Refusals
import TransponderShell.Simulator.Fixture

/-!
# Which failures of writing are returned

`Shell.execute` returns an error for a write that has failed, and for nothing else. Two failures of
writing are hidden (`Context.Hides`), and the shell goes on if the report that is written instead
succeeds (`Shell.Hides`).

* While an attribute is followed, the lines of its values are written behind the back of the daemon,
  and a failure of the daemon at the end of the feed takes the place of an earlier failure of
  writing.
* A failure of writing that comes from other errors is reported like a failure of the daemon.

All other failures are returned (`Shell.execute_error_iff`). They are counted by a writer that
counts (`Shell.failuresOf`), and all commands but following an attribute follow `WritingLaw.candid`.
-/

namespace TransponderShell

variable {σ ω : Type}

/-! ## Following an attribute -/

namespace Monitor

/-- The feed of an attribute ends with a failure of the daemon after a line could not be written. -/
def Hides (t : Terminal σ ω) (object : ObjectHandle) (attributes : List Attribute) (name : Text)
    (world : World σ ω) (e : DaemonError) : Prop :=
  (play t object attributes name world).1 = .error e ∧
    (play t object attributes name world).2.2.failure.isSome = true

/-- Following an attribute returns the failure of the daemon if there are two. -/
theorem Hides.run_follow {t : Terminal σ ω} {object : ObjectHandle} {attributes : List Attribute}
    {name : Text} {world : World σ (ω × Nat)} {e : DaemonError}
    (h : Hides t.counting object attributes name world e) :
    (follow t.counting object attributes name world).1 = .error (.daemon e) ∧
      (follow t.counting object attributes name world).2.sink.2 = world.sink.2 + 1 := by
  obtain ⟨hresult, hfailure⟩ := h
  obtain ⟨failure, hfailure⟩ := Option.isSome_iff_exists.1 hfailure
  rw [Monitor.run_follow, hresult]
  refine ⟨rfl, ?_⟩
  dsimp only
  rw [count_play, hfailure, WriteError.count]

/-- Apart from that, following an attribute is candid. -/
theorem follow_candid {t : Terminal σ ω} {object : ObjectHandle} {attributes : List Attribute}
    {name : Text} {world : World σ (ω × Nat)}
    (h : ∀ e, ¬ Hides t.counting object attributes name world e) :
    WritingLaw.candid.In (follow t.counting object attributes name) world := by
  rw [WritingLaw.In, Monitor.run_follow]
  dsimp only [WritingLaw.candid]
  rw [count_play]
  cases hfailure : (play t.counting object attributes name world).2.2.failure with
  | none =>
    cases (play t.counting object attributes name world).1 <;> rfl
  | some failure =>
    cases hresult : (play t.counting object attributes name world).1 with
    | error e => exact absurd ⟨hresult, by rw [hfailure]; rfl⟩ (h e)
    | ok => rfl

theorem hides_iff {σ' ω' : Type} {S : σ → σ' → Prop} {O : ω → ω' → Prop} {t : Terminal σ ω}
    {t' : Terminal σ' ω'} (h : t.Mirrors S O t') {world : World σ ω} {world' : World σ' ω'}
    (hworld : world.Alike S O world') (object : ObjectHandle) (attributes : List Attribute)
    (name : Text) (e : DaemonError) :
    Hides t object attributes name world e ↔ Hides t' object attributes name world' e := by
  obtain ⟨hresult, -, hf⟩ := play_alike h object attributes name hworld
  rw [Hides, Hides, hresult, hf.failure]

end Monitor

/-! ## Commands and lines -/

/-- A command follows an attribute, and the feed ends with a failure of the daemon after a line
could not be written. -/
inductive Handler.Hides (t : Terminal σ ω) (world : World σ ω) (e : DaemonError) :
    Handler → List Text → Prop
  | unnamed {object : ObjectHandle} {attributes : List Attribute}
    (h : Monitor.Hides t object attributes "notify" world e) :
    Hides t world e (.monitor object attributes) []
  | named {object : ObjectHandle} {attributes : List Attribute} {name : Text}
    (h : Monitor.Hides t object attributes name world e) :
    Hides t world e (.monitor object attributes) [name]

/-- A line hides a failure of writing: another failure takes its place, or it comes from other
errors. -/
inductive Context.Hides (t : Terminal σ ω) (c : Context) (line : Text) (world : World σ ω) :
    Failure → Prop
  /-- A command has lost the failure behind one of the daemon. -/
  | behind {r : Resolved Handler} {d : σ} {e : DaemonError}
    (hresolve : c.resolving t.daemon line world.daemon = (.ok r, d))
    (h : Handler.Hides t { world with daemon := d } e r.handler r.arguments) :
    Hides t c line world (.daemon e)
  /-- The failure of writing has come from another error. -/
  | sourced {e : WriteError} (h : (c.perform t line world).1 = .error (.output e))
    (hsources : e.sources ≠ []) : Hides t c line world (.output e)

/-- A hidden failure is reported. -/
theorem Context.Hides.ne_output {t : Terminal σ ω} {c : Context} {line : Text} {world : World σ ω}
    {failure : Failure} (h : c.Hides t line world failure) (reason : Text) :
    failure ≠ .output ⟨reason, []⟩ := by
  rintro rfl
  cases h with
  | sourced h hsources => exact hsources rfl

/-- A failure of writing is hidden, and the report that takes its place is written. -/
def Shell.Hides (t : Terminal σ ω) (line : Text) (s : Shell σ ω) : Prop :=
  line.all isBlank = false ∧ ∃ failure, s.context.Hides t line s.world failure ∧
    (t.writer.line (reportText failure) (s.context.perform t line s.world).2.sink).1 = .ok ()

section Counting

variable {t : Terminal σ ω} {world : World σ (ω × Nat)} {e : DaemonError}

namespace Handler

variable {handler : Handler} {arguments : List Text}

theorem Hides.run (h : Hides t.counting world e handler arguments) :
    (handler.run t.counting arguments world).1 = .error (.daemon e) ∧
      (handler.run t.counting arguments world).2.sink.2 = world.sink.2 + 1 := by
  have hwith {object : ObjectHandle} {attributes : List Attribute} {name : Text}
      (h : Monitor.Hides t.counting object attributes name world e) :
      (runMonitor.followWith t.counting object attributes name world).1 = .error (.daemon e) ∧
        (runMonitor.followWith t.counting object attributes name world).2.sink.2 =
          world.sink.2 + 1 := by
    obtain ⟨hresult, hcount⟩ := h.run_follow
    rcases hrun : Monitor.follow t.counting object attributes name world with ⟨r, world'⟩
    rw [hrun] at hresult hcount
    obtain rfl : r = _ := hresult
    rw [runMonitor.followWith, run_bind_error hrun]
    exact ⟨rfl, hcount⟩
  cases h with
  | unnamed h => exact hwith h
  | named h => exact hwith h

/-- **Commands are candid** unless they hide a failure behind one of the daemon. -/
theorem run_candid (h : ∀ e, ¬ Hides t.counting world e handler arguments) :
    WritingLaw.candid.In (handler.run t.counting arguments) world := by
  have hline : WritingLaw.candid.Follows (do Step.line t.counting.writer []; return .stay :
      Step σ (ω × Nat) Outcome) :=
    fun world => (Step.line_candid t.writer [] world).bind fun _ _ => rfl
  cases handler with
  | monitor object attributes =>
    rcases arguments with _ | ⟨name, _ | ⟨_, _⟩⟩
    · exact (Monitor.follow_candid fun e he => h e (.unnamed he)).bind fun _ => hline
    · exact (Monitor.follow_candid fun e he => h e (.named he)).bind fun _ => hline
    · exact rfl
  | _ => exact run_related t.counting_related _ (by rintro _ _ ⟨⟩) arguments world

end Handler

namespace Context

variable {c : Context} {line : Text}

/-- **Lines are candid** unless they hide a failure behind one of the daemon. -/
theorem perform_candid (h : ∀ e, ¬ c.Hides t.counting line world (.daemon e)) :
    WritingLaw.candid.In (c.perform t.counting line) world := by
  rcases hresolve : c.resolving t.counting.daemon line world.daemon with ⟨failure | r, d⟩
  · have hnone := t.counting_related.resolve c line world.daemon
    rw [hresolve] at hnone
    rw [WritingLaw.In, perform_of_unresolved hresolve]
    cases failure with
    | output e => cases hnone
    | _ => rfl
  · rw [WritingLaw.In, perform_of_resolved hresolve]
    exact Handler.run_candid fun e he => h e (.behind hresolve he)

/-- The failure of the daemon is the result of the line. -/
theorem perform_of_behind {r : Resolved Handler} {d : σ}
    (hresolve : c.resolving t.counting.daemon line world.daemon = (.ok r, d))
    (h : Handler.Hides t.counting { world with daemon := d } e r.handler r.arguments) :
    (c.perform t.counting line world).1 = .error (.daemon e) ∧
      (c.perform t.counting line world).2.sink.2 = world.sink.2 + 1 := by
  rw [perform_of_resolved hresolve]
  exact h.run

/-- The line fails with the failure that is reported, and one write has failed. -/
theorem Hides.perform {failure : Failure} (h : c.Hides t.counting line world failure) :
    (c.perform t.counting line world).1 = .error failure ∧
      (c.perform t.counting line world).2.sink.2 = world.sink.2 + 1 := by
  cases h with
  | behind hresolve h => exact perform_of_behind hresolve h
  | sourced h hsources =>
    have hcandid : WritingLaw.candid.In (c.perform t.counting line) world := by
      refine perform_candid ?_
      rintro e ⟨hresolve, hbehind⟩
      rw [(perform_of_behind hresolve hbehind).1] at h
      cases h
    rw [WritingLaw.In, h] at hcandid
    exact ⟨h, hcandid⟩

end Context

end Counting

namespace Shell

variable {t : Terminal σ ω}

/-- A failure that is not returned is reported, and the shell goes on if the report can be
written. -/
theorem run_reported {failure : Failure} (h : ∀ reason, failure ≠ .output ⟨reason, []⟩)
    (s : Shell σ ω) :
    (report t failure >>= fun _ => pure Progress.continue) s =
      (match (t.writer.line (reportText failure) s.world.sink).1 with
        | .ok () => .ok .continue
        | .error e => .error (.write e),
      { s with world := { s.world with
          sink := (t.writer.line (reportText failure) s.world.sink).2 } }) := by
  rw [run_bind, report_of_ne h, run_writeLine]
  cases (t.writer.line (reportText failure) s.world.sink).1 <;> rfl

section Counting

variable {line : Text} {s : Shell σ (ω × Nat)}

/-- The report of a failure is candid. -/
theorem count_reported {failure : Failure} (h : ∀ reason, failure ≠ .output ⟨reason, []⟩) :
    ((report t.counting failure >>= fun _ => pure Progress.continue) s).2.world.sink.2 =
      s.world.sink.2 +
        failed ((report t.counting failure >>= fun _ => pure Progress.continue) s).1 := by
  rw [run_reported h]
  dsimp only [Writer.line, Terminal.counting]
  rw [t.writer.count_write]
  cases (t.writer.counting.write (reportText failure ++ ['\n']) s.world.sink).1 <;> rfl

/-- A line that hides no failure returns all of them. -/
theorem count_execute
    (h : line.all isBlank = false →
      ∀ failure, ¬ s.context.Hides t.counting line s.world failure) :
    (execute t.counting line s).2.world.sink.2 =
      s.world.sink.2 + failed (execute t.counting line s).1 := by
  cases hline : line.all isBlank with
  | true =>
    rw [execute_of_blank s hline]
    rfl
  | false =>
    have hcandid := Context.perform_candid fun e => h hline (.daemon e)
    rcases hperform : s.context.perform t.counting line s.world with ⟨failure | outcome, world⟩
    · rw [WritingLaw.In, hperform] at hcandid
      rw [execute_of_error hline hperform]
      cases failure with
      | output e =>
        obtain ⟨reason, _ | ⟨source, rest⟩⟩ := e
        · exact hcandid
        · have hresult := congrArg Prod.fst hperform
          exact absurd (.sourced hresult (List.cons_ne_nil source rest)) (h hline _)
      | _ => exact (count_reported (by rintro _ ⟨⟩)).trans (congrArg (· + _) hcandid)
    · rw [WritingLaw.In, hperform] at hcandid
      rw [execute_of_ok hline hperform, run_move]
      exact hcandid

/-- A line that hides a failure fails if its report cannot be written. -/
theorem execute_of_hides {failure : Failure} (hline : line.all isBlank = false)
    (h : s.context.Hides t.counting line s.world failure) :
    (execute t.counting line s).1 =
        (match (t.counting.writer.line (reportText failure)
            (s.context.perform t.counting line s.world).2.sink).1 with
          | .ok () => .ok .continue
          | .error e => .error (.write e)) ∧
      s.world.sink.2 < (execute t.counting line s).2.world.sink.2 := by
  obtain ⟨hresult, hcount⟩ := h.perform
  rcases hperform : s.context.perform t.counting line s.world with ⟨r, world⟩
  rw [hperform] at hresult hcount
  obtain rfl : r = .error failure := hresult
  rw [execute_of_error hline hperform]
  refine ⟨by rw [run_reported h.ne_output], ?_⟩
  rw [count_reported h.ne_output]
  dsimp only at hcount ⊢
  omega

end Counting

end Shell

/-! ## The failures of a line -/

section Uncounted

variable {t : Terminal σ ω}

theorem Handler.hides_iff {σ' ω' : Type} {S : σ → σ' → Prop} {O : ω → ω' → Prop}
    {t' : Terminal σ' ω'} (h : t.Mirrors S O t') {world : World σ ω} {world' : World σ' ω'}
    (hworld : world.Alike S O world') (e : DaemonError) (handler : Handler)
    (arguments : List Text) :
    Hides t world e handler arguments ↔ Hides t' world' e handler arguments := by
  constructor
  · rintro (hhides | hhides)
    · exact .unnamed ((Monitor.hides_iff h hworld _ _ _ e).1 hhides)
    · exact .named ((Monitor.hides_iff h hworld _ _ _ e).1 hhides)
  · rintro (hhides | hhides)
    · exact .unnamed ((Monitor.hides_iff h hworld _ _ _ e).2 hhides)
    · exact .named ((Monitor.hides_iff h hworld _ _ _ e).2 hhides)

theorem Context.hides_counting (c : Context) (line : Text) (world : World σ ω)
    (failure : Failure) :
    c.Hides t.counting line world.counting failure ↔ c.Hides t line world failure := by
  have halike (d : σ) : World.Alike Eq Uncounted { world with daemon := d }
      { world.counting with daemon := d } := ⟨rfl, rfl, rfl⟩
  obtain ⟨hresult, -⟩ := t.mirrors_counting.perform c line _ _ world.alike_counting
  constructor
  · rintro (⟨hresolve, h⟩ | ⟨h, hsources⟩)
    · exact .behind hresolve ((Handler.hides_iff t.mirrors_counting (halike _) _ _ _).2 h)
    · exact .sourced (hresult.trans h) hsources
  · rintro (⟨hresolve, h⟩ | ⟨h, hsources⟩)
    · exact .behind hresolve ((Handler.hides_iff t.mirrors_counting (halike _) _ _ _).1 h)
    · exact .sourced (hresult.symm.trans h) hsources

/-- The failure that is reported is the result of the line. -/
theorem Context.Hides.unique {c : Context} {line : Text} {world : World σ ω}
    {failure failure' : Failure} (h : c.Hides t line world failure)
    (h' : c.Hides t line world failure') : failure = failure' := by
  have hresult := ((c.hides_counting line world failure).2 h).perform.1
  rw [((c.hides_counting line world failure').2 h').perform.1] at hresult
  cases hresult
  rfl

end Uncounted

namespace Shell

variable {t : Terminal σ ω} {line : Text} {s : Shell σ ω}

/-- A hidden failure has been counted, and the line fails only if its report cannot be written. -/
theorem result_of_hides {failure : Failure} (hline : line.all isBlank = false)
    (h : s.context.Hides t line s.world failure) :
    (execute t line s).1 =
        (match (t.writer.line (reportText failure)
            (s.context.perform t line s.world).2.sink).1 with
          | .ok () => .ok .continue
          | .error e => .error (.write e)) ∧
      0 < failuresOf t line s := by
  have hcounting := (s.context.hides_counting line s.world failure).2 h
  obtain ⟨hresult, hpos⟩ := execute_of_hides hline (s := s.counting) hcounting
  obtain ⟨-, hworld⟩ := t.mirrors_counting.perform s.context line _ _ s.world.alike_counting
  obtain ⟨hreport, -⟩ :=
    t.writer.lockstep_counting (reportText failure ++ ['\n']) _ _ hworld.sink
  refine ⟨(execute_counting t line s).1.trans (hresult.trans ?_), hpos⟩
  dsimp only [Writer.line]
  rw [hreport]
  rfl

/-- **Failures of writing are returned, and no others**, unless one is hidden. -/
theorem execute_error_iff (t : Terminal σ ω) (line : Text) (s : Shell σ ω) :
    ((∃ e, (execute t line s).1 = .error e) ↔ 0 < failuresOf t line s ∧ ¬ Hides t line s) ∧
      (Hides t line s → 0 < failuresOf t line s) := by
  by_cases hhides : line.all isBlank = false ∧ ∃ failure, s.context.Hides t line s.world failure
  · obtain ⟨hline, failure, h⟩ := hhides
    obtain ⟨hresult, hpos⟩ := result_of_hides hline h
    have hiff : Hides t line s ↔ (t.writer.line (reportText failure)
        (s.context.perform t line s.world).2.sink).1 = .ok () := by
      refine ⟨fun ⟨_, failure', h', hwritten⟩ => ?_, fun hwritten => ⟨hline, failure, h, hwritten⟩⟩
      rwa [h.unique h']
    rw [hiff, hresult]
    cases (t.writer.line (reportText failure) (s.context.perform t line s.world).2.sink).1 with
    | ok => simp [hpos]
    | error e => simp [hpos]
  · have hfree : ¬ Hides t line s :=
      fun ⟨hline, failure, h, _⟩ => hhides ⟨hline, failure, h⟩
    have hcount : failuresOf t line s = 0 + failed (execute t.counting line s.counting).1 :=
      count_execute fun hline failure h =>
        hhides ⟨hline, failure, (s.context.hides_counting line s.world failure).1 h⟩
    rw [← (execute_counting t line s).1] at hcount
    rw [hcount]
    cases (execute t line s).1 with
    | ok progress => simp [hfree, failed]
    | error e => simp [hfree, failed]

/-- A writer whose first write fails, for a reason that comes from another error. -/
def relayed : Writer Bool where
  write _ failed :=
    if failed then (.ok (), true) else (.error ⟨"pipe closed", ["peer is gone"]⟩, true)

example : (execute ⟨Simulator.daemon, relayed, false⟩ "list" (start Simulator.seed false)).1 =
    .ok .continue := by
  decide +kernel

/-- A daemon with one module. Following its only attribute breaks off after one notification. -/
def lossyDaemon : Daemon Unit where
  list := return [⟨"1", true, 1, [], []⟩]
  attributes _ := return [⟨1, "notify", true, notificationUsage⟩]
  get _ _ _ := throw (.status 3 "unsupported")
  set _ _ _ := throw (.status 3 "unsupported")
  capability _ _ := throw (.status 3 "unsupported")
  create _ _ _ := throw (.status 3 "unsupported")
  remove _ := throw (.status 3 "unsupported")
  monitor _ _ _ s := .deliver ⟨1, [⟨1, "up"⟩]⟩ (.done (.error (.status 1 "stream lost")) s)
  setLogLevel _ _ := throw (.status 3 "unsupported")

/-- A terminal of this daemon. -/
def lossyTerminal : Terminal Unit LimitedSink := ⟨lossyDaemon, .limited, false⟩

/-- A shell in its module, with room for four bytes of output until a write has failed. -/
def lossyShell : Shell Unit LimitedSink :=
  (execute lossyTerminal "module 1" (start () ⟨some 4, true, []⟩)).2

/-- The line of the notification is cut off, and `monitor notify` goes on without an error. -/
theorem execute_lossyShell :
    (execute lossyTerminal "monitor notify" lossyShell).1.isOk = true ∧
      failuresOf lossyTerminal "monitor notify" lossyShell = 1 := by
  decide +kernel

/-- **A failure of writing may be lost.** -/
theorem not_execute_error_iff_failed :
    ¬ ∀ (t : Terminal Unit LimitedSink) (line : Text) (s : Shell Unit LimitedSink),
      (∃ e, (execute t line s).1 = .error e) ↔ 0 < failuresOf t line s := by
  intro hall
  obtain ⟨hok, hfailures⟩ := execute_lossyShell
  have hiff := hall lossyTerminal "monitor notify" lossyShell
  rw [hfailures] at hiff
  obtain ⟨e, herror⟩ := hiff.2 Nat.one_pos
  rw [herror] at hok
  cases hok

end Shell

/-! ## The simulator -/

/-- The feeds of the simulator fail before anything is written. -/
theorem Simulator.not_hides {w : Writer ω} (hw : w.Sourceless) (json : Bool) (line : Text)
    (s : Shell Simulator ω) : ¬ s.Hides ⟨daemon, w, json⟩ line := by
  have hfeed (object : ObjectHandle) (attributes : List Attribute) (name : Text)
      (world : World Simulator ω) (e : DaemonError) :
      ¬ Monitor.Hides ⟨daemon, w, json⟩ object attributes name world e := by
    rintro ⟨hresult, hfailure⟩
    rcases hplay : Monitor.play ⟨daemon, w, json⟩ object attributes name world with ⟨r, d, f⟩
    rw [hplay] at hresult hfailure
    obtain rfl : r = .error e := hresult
    obtain ⟨-, rfl⟩ := follow_fails _ object name json hplay
    cases hfailure
  rintro ⟨-, failure, ⟨hresolve, h⟩ | ⟨h, hsources⟩, -⟩
  · rename_i r d e
    obtain ⟨handler, arguments⟩ := r
    cases h with
    | unnamed h => exact hfeed _ _ _ _ _ h
    | named h => exact hfeed _ _ _ _ _ h
  · exact hsources (s.context.perform_sourceless hw line h)

/-- **Against the simulator all failures of writing are returned**, and no others, if they come from
no other errors. -/
theorem Simulator.execute_error_iff_failed {w : Writer ω} (hw : w.Sourceless) (json : Bool)
    (line : Text) (s : Shell Simulator ω) :
    (∃ e, (s.execute ⟨daemon, w, json⟩ line).1 = .error e) ↔
      0 < s.failuresOf ⟨daemon, w, json⟩ line := by
  rw [(Shell.execute_error_iff _ line s).1]
  simp [not_hides hw]

end TransponderShell
