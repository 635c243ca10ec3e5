import TransponderShell.Proofs.Daemon.Failing
import TransponderShell.Proofs.Shell.Calls
import TransponderShell.Proofs.Shell.Related
import TransponderShell.Proofs.Simulator.Refusals
import TransponderShell.Proofs.Simulator.Runs

/-!
# Commands that fail

Over a daemon that is transactional and a writer that never fails, a command that fails has changed
nothing and has written nothing (`Handler.run_fails`): every command asks the daemon before it
writes, and nothing fails behind that. So all that such a line does is to report its failure, which
is the result (`Shell.execute_eq_report`, and `execute_failing` over the simulator).
-/

namespace TransponderShell

variable {σ ω α : Type}

/-- A writer that never fails. -/
def Writer.Reliable (w : Writer ω) : Prop := ∀ text sink, (w.write text sink).1 = .ok ()

/-- A failure that is not one of writing and leaves the daemon and the writer as they were. -/
structure Aborted (failure : Failure) (world world' : World σ ω) : Prop where
  ne_output : ∀ e, failure ≠ .output e
  daemon : world'.daemon = world.daemon
  sink : world'.sink = world.sink

/-- In the states of the daemon with the property `I` a failure leaves the world as it was. -/
def Aborts (I : σ → Prop) (failure : Failure) (world world' : World σ ω) : Prop :=
  I world.daemon → Aborted failure world world'

/-- The same of a program that acts on the daemon alone. -/
def Refuses (I : σ → Prop) (failure : Failure) (s s' : σ) : Prop :=
  I s → (∀ e, failure ≠ .output e) ∧ s' = s

/-! ## Opening contexts -/

section Opening

variable {d : Daemon σ} {I : σ → Prop}

theorem Context.request_fails {r : Request σ α} {because : DaemonError → Failure}
    (hr : FailsWith (Unchanged I) r) (hbecause : ∀ e e', because e ≠ .output e') :
    FailsWith (Refuses I) (Context.request r because) := by
  intro s failure s' hrun hI
  rw [Context.run_request] at hrun
  rcases hresult : r s with ⟨e | a, s₁⟩
  · rw [hresult] at hrun
    cases hrun
    exact ⟨hbecause e, hr s e s₁ hresult hI⟩
  · rw [hresult] at hrun
    cases hrun

theorem Context.requestModule_fails (hd : d.Transactional I) (location : Text) :
    FailsWith (Refuses I) (Context.request (d.findModule location) .daemon) :=
  Context.request_fails (.of_reads (Daemon.findModule_keeps hd.list location) fun _ _ _ _ => rfl)
    fun _ _ => nofun

theorem Context.openObject_fails (hd : d.Transactional I) (scope : Scope) :
    FailsWith (Refuses I) (Context.openObject d scope) := by
  unfold Context.openObject
  split
  · exact .throw fun _ _ => ⟨fun _ => nofun, rfl⟩
  · rename_i handle _
    have hrequest : FailsWith (Refuses I)
        (Context.request (d.attributes handle.type) (.attributes handle.type)) :=
      Context.request_fails (.of_reads (hd.attributes handle.type) fun _ _ _ _ => rfl)
        fun _ _ => nofun
    exact hrequest.bind_succeeds fun _ => .pure _

theorem Context.openModule_fails (hd : d.Transactional I) (location : Text) :
    FailsWith (Refuses I) (Context.openModule d location) := by
  refine (Context.requestModule_fails hd location).bind_of_reads
    (Context.request_keeps (Daemon.findModule_keeps hd.list location) _) fun slot => ?_
  exact (Context.openObject_fails hd _).bind_succeeds fun _ => .pure _

theorem Context.openInterface_fails (hd : d.Transactional I) (kind : InterfaceKind)
    (location : Text) (index : Nat) :
    FailsWith (Refuses I) (Context.openInterface d kind location index) := by
  refine (Context.requestModule_fails hd location).bind_of_reads
    (Context.request_keeps (Daemon.findModule_keeps hd.list location) _) fun slot => ?_
  split
  · exact .throw fun _ _ => ⟨fun _ => nofun, rfl⟩
  · exact Context.openObject_fails hd _

end Opening

/-! ## Steps -/

namespace Step

variable {I : σ → Prop} {w : Writer ω}

/-- A reliable writer takes a line. -/
theorem line_eq (hw : w.Reliable) (text : Text) (world : World σ ω) :
    line w text world = (.ok (), { world with sink := (w.line text world.sink).2 }) := by
  have hline : (w.line text world.sink).1 = .ok () := hw _ _
  rw [run_line, hline]

theorem line_succeeds (hw : w.Reliable) (text : Text) : Succeeds (line w text : Step σ ω Unit) :=
  fun world => ⟨_, _, line_eq hw text world⟩

theorem lines_succeeds (hw : w.Reliable) (texts : List Text) :
    Succeeds (lines w texts : Step σ ω Unit) := by
  induction texts with
  | nil => exact .pure ()
  | cons text rest ih => exact (line_succeeds hw text).bind fun _ => ih

theorem throw_fails {failure : Failure} (h : ∀ e, failure ≠ .output e) :
    FailsWith (Aborts I) (throw failure : Step σ ω α) :=
  .throw fun _ _ => ⟨h, rfl, rfl⟩

theorem usage_fails (message : Text) : FailsWith (Aborts I) (usage message : Step σ ω α) :=
  throw_fails nofun

/-- Labels are read without the daemon. -/
theorem label_reads (x : Except DaemonError α) : Keeps Eq (label x : Step σ ω α) := by
  cases x with
  | ok a => exact Keeps.pure a
  | error e => exact Keeps.throw _

theorem label_fails (x : Except DaemonError α) :
    FailsWith (Aborts I) (label x : Step σ ω α) := by
  cases x with
  | ok a => exact .pure a
  | error e => exact throw_fails nofun

theorem onDaemon_fails {x : ExceptT Failure (StateM σ) α} (hx : FailsWith (Refuses I) x) :
    FailsWith (Aborts I) (onDaemon x : Step σ ω α) := by
  intro world failure world' hrun hI
  rw [run_onDaemon] at hrun
  obtain ⟨hresult, rfl⟩ := Prod.mk.inj hrun
  obtain ⟨hne, hsame⟩ := hx world.daemon failure _ (Prod.ext hresult rfl) hI
  exact ⟨hne, hsame, rfl⟩

theorem request_fails {r : Request σ α} (hr : FailsWith (Unchanged I) r) :
    FailsWith (Aborts I) (request r : Step σ ω α) :=
  onDaemon_fails (Context.request_fails hr fun _ _ => nofun)

end Step

/-! ## Commands -/

/-- The sink after lines have been written one after another. -/
def Writer.written (w : Writer ω) (lines : List Text) (sink : ω) : ω :=
  lines.foldl (fun sink text => (w.line text sink).2) sink

/-- Over a reliable writer all lines are written. -/
theorem Monitor.writeAll_eq {w : Writer ω} (hw : w.Reliable) (texts : List Text)
    {f : Monitor.Following ω} (hf : f.failure = none) :
    Monitor.writeAll w texts f = { f with sink := w.written texts f.sink } := by
  induction texts generalizing f with
  | nil => rfl
  | cons text rest ih =>
    have hline : (w.line text f.sink).1 = .ok () := hw _ _
    have hwritten : w.written (text :: rest) f.sink = w.written rest (w.line text f.sink).2 := rfl
    rw [hwritten]
    simp only [Monitor.writeAll, hf]
    rcases hwrite : w.line text f.sink with ⟨r, sink⟩
    rw [hwrite] at hline
    obtain rfl : r = .ok () := hline
    exact (ih rfl).trans rfl

section Terminal

variable {t : Terminal σ ω} {I : σ → Prop}

theorem Monitor.follow_fails (hd : t.daemon.Transactional I) (hw : t.writer.Reliable)
    (object : ObjectHandle) (attributes : List Attribute) (name : Text) :
    FailsWith (Aborts I) (Monitor.follow t object attributes name) := by
  intro world failure world' hrun hI
  have hnone : ((t.daemon.monitor object name t.json world.daemon).run
      (Monitor.receiver t.writer attributes t.json) ⟨world.sink, false, none⟩).2.2.failure = none :=
    Feed.run_keeps (P := fun f : Monitor.Following ω => f.failure = none)
      (fun _ _ hf => (congrArg Following.failure (Monitor.writeAll_eq hw _ hf)).trans hf)
      (fun _ hf => hf) _ rfl
  unfold Monitor.follow ExceptT.mk at hrun
  dsimp only at hrun
  rcases hfeed : (t.daemon.monitor object name t.json world.daemon).run
    (Monitor.receiver t.writer attributes t.json) ⟨world.sink, false, none⟩ with ⟨e | _, daemon, f⟩
  · rw [hfeed] at hrun
    cases hrun
    obtain ⟨hdaemon, hf⟩ := hd.monitor _ object name t.json _ _ e _ _ hfeed hI
    exact ⟨nofun, hdaemon, congrArg Following.sink hf⟩
  · rw [hfeed] at hrun hnone
    rw [show f.failure = none from hnone] at hrun
    cases hrun

namespace Handler

theorem runOpenModule_fails (hd : t.daemon.Transactional I) (arguments : List Text) :
    FailsWith (Aborts I) (runOpenModule t arguments) := by
  unfold runOpenModule
  split
  · exact (Step.onDaemon_fails (Context.openModule_fails hd _)).bind_succeeds fun _ => .pure _
  · exact Step.usage_fails _

theorem runOpenInterface_fails (hd : t.daemon.Transactional I) (kind : InterfaceKind)
    (location : Text) (arguments : List Text) :
    FailsWith (Aborts I) (runOpenInterface t kind location arguments) := by
  unfold runOpenInterface
  split
  · split
    · have hopen := Context.openInterface_fails hd kind location
      exact (Step.onDaemon_fails (hopen _)).bind_succeeds fun _ => .pure _
    · exact Step.usage_fails _
  · exact Step.usage_fails _

theorem runList_fails (hd : t.daemon.Transactional I) (hw : t.writer.Reliable)
    (arguments : List Text) : FailsWith (Aborts I) (runList t arguments) := by
  unfold runList
  split
  · have hlist : FailsWith (Unchanged I) t.daemon.list := .of_reads hd.list fun _ _ _ _ => rfl
    refine (Step.request_fails hlist).bind_succeeds fun slots => ?_
    exact (Step.lines_succeeds hw _).bind fun _ => .pure _
  · exact Step.usage_fails _

theorem runLogLevel_fails (hd : t.daemon.Transactional I) (arguments : List Text) :
    FailsWith (Aborts I) (runLogLevel t arguments) := by
  unfold runLogLevel
  split
  · refine (Step.label_fails _).bind_of_reads (Step.label_reads _) fun level => ?_
    exact (Step.request_fails (hd.setLogLevel level _)).bind_succeeds fun _ => .pure _
  · refine (Step.label_fails _).bind_of_reads (Step.label_reads _) fun level => ?_
    refine (Step.label_fails _).bind_of_reads (Step.label_reads _) fun scope => ?_
    exact (Step.request_fails (hd.setLogLevel level scope)).bind_succeeds fun _ => .pure _
  · exact Step.usage_fails _

theorem createWith_fails (hd : t.daemon.Transactional I) (hw : t.writer.Reliable)
    (type : ObjectType) (oid : Nat) (arguments : List Text) :
    FailsWith (Aborts I) (createWith t type oid arguments) := by
  unfold createWith
  split
  · rename_i e he
    exact Step.throw_fails (readPairs_error he)
  · rename_i pairs _
    refine (Step.request_fails (hd.create type pairs oid)).bind_succeeds fun _ => ?_
    exact (Step.line_succeeds hw _).bind fun _ => .pure _

theorem runCreate_fails (hd : t.daemon.Transactional I) (hw : t.writer.Reliable)
    (arguments : List Text) : FailsWith (Aborts I) (runCreate t arguments) := by
  unfold runCreate
  split
  · exact Step.usage_fails _
  · refine (Step.label_fails _).bind_of_reads (Step.label_reads _) fun type => ?_
    split
    · exact createWith_fails hd hw _ _ _
    · exact Step.usage_fails _
    · split
      · exact createWith_fails hd hw _ _ _
      · exact Step.usage_fails _

theorem runRemove_fails (hd : t.daemon.Transactional I) (arguments : List Text) :
    FailsWith (Aborts I) (runRemove t arguments) := by
  unfold runRemove
  split
  · split
    · exact (Step.request_fails (hd.remove _)).bind_succeeds fun _ => .pure _
    · exact Step.usage_fails _
  · exact Step.usage_fails _

theorem runGet_fails (hd : t.daemon.Transactional I) (hw : t.writer.Reliable)
    (object : ObjectHandle) (arguments : List Text) :
    FailsWith (Aborts I) (runGet t object arguments) := by
  unfold runGet
  split
  · refine (Step.request_fails (hd.get object _ _)).bind_succeeds fun value => ?_
    exact (Step.line_succeeds hw _).bind fun _ => .pure _
  · exact Step.usage_fails _

theorem runSet_fails (hd : t.daemon.Transactional I) (object : ObjectHandle)
    (arguments : List Text) : FailsWith (Aborts I) (runSet t object arguments) := by
  unfold runSet
  split
  · exact (Step.request_fails (hd.set object _ _)).bind_succeeds fun _ => .pure _
  · exact Step.usage_fails _

theorem runCapability_fails (hd : t.daemon.Transactional I) (hw : t.writer.Reliable)
    (object : ObjectHandle) (arguments : List Text) :
    FailsWith (Aborts I) (runCapability t object arguments) := by
  unfold runCapability
  split
  · refine (Step.request_fails (hd.capability object _)).bind_succeeds fun values => ?_
    exact (Step.line_succeeds hw _).bind fun _ => .pure _
  · exact Step.usage_fails _

theorem runMonitor_fails (hd : t.daemon.Transactional I) (hw : t.writer.Reliable)
    (object : ObjectHandle) (attributes : List Attribute) (arguments : List Text) :
    FailsWith (Aborts I) (runMonitor t object attributes arguments) := by
  have hfollow (name : Text) :
      FailsWith (Aborts I) (runMonitor.followWith t object attributes name) := by
    refine (Monitor.follow_fails hd hw object attributes name).bind_succeeds fun _ => ?_
    exact (Step.line_succeeds hw _).bind fun _ => .pure _
  unfold runMonitor
  split
  · exact hfollow _
  · exact hfollow _
  · exact Step.usage_fails _

theorem runListAttributes_fails (hw : t.writer.Reliable) (attributes : List Attribute)
    (arguments : List Text) : FailsWith (Aborts I) (runListAttributes t attributes arguments) := by
  have hlines (lines : List Text) : Succeeds (do
      Step.lines t.writer lines
      return Outcome.stay : Step σ ω Outcome) :=
    (Step.lines_succeeds hw lines).bind fun _ => .pure _
  unfold runListAttributes
  split
  · exact .of_succeeds (hlines _)
  · split
    · exact .of_succeeds (hlines _)
    · exact Step.usage_fails _
  · exact Step.usage_fails _

/-- **A command that fails has changed nothing and has written nothing.** -/
theorem run_fails (hd : t.daemon.Transactional I) (hw : t.writer.Reliable) (h : Handler)
    (arguments : List Text) : FailsWith (Aborts I) (h.run t arguments) := by
  cases h with
  | quit => exact .pure _
  | openModule => exact runOpenModule_fails hd arguments
  | openInterface kind location => exact runOpenInterface_fails hd kind location arguments
  | list => exact runList_fails hd hw arguments
  | logLevel => exact runLogLevel_fails hd arguments
  | create => exact runCreate_fails hd hw arguments
  | remove => exact runRemove_fails hd arguments
  | get object => exact runGet_fails hd hw object arguments
  | set object => exact runSet_fails hd object arguments
  | capability object => exact runCapability_fails hd hw object arguments
  | monitor object attributes => exact runMonitor_fails hd hw object attributes arguments
  | listAttributes attributes => exact runListAttributes_fails hw attributes arguments
  | custom line leaves => exact .of_succeeds ((Step.line_succeeds hw _).bind fun _ => .pure _)

end Handler

/-! ## Lines -/

/-- Whether a line does not resolve or its command fails, nothing has happened. -/
theorem Context.perform_fails (hd : t.daemon.Transactional I) (hw : t.writer.Reliable)
    (c : Context) (line : Text) : FailsWith (Aborts I) (c.perform t line) := by
  intro world failure world' hrun
  have hsame := hd.resolve_snd c.table line world.daemon
  rw [perform_eq] at hrun
  rcases hresolve : c.table.resolve (Question.ask t.daemon) line world.daemon with ⟨e | r, d⟩
  · rw [hresolve] at hrun hsame
    cases hrun
    exact fun _ => ⟨nofun, hsame, rfl⟩
  · rw [hresolve] at hrun hsame
    obtain rfl : d = world.daemon := hsame
    exact r.handler.run_fails hd hw r.arguments world failure world' hrun

namespace Shell

/-- A failure that is not one of writing is reported in one line. -/
theorem report_of_reliable (hw : t.writer.Reliable) {failure : Failure}
    (h : ∀ e, failure ≠ .output e) (s : Shell σ ω) :
    report t failure s = (.ok (), { s with
      world := { s.world with sink := (t.writer.line (reportText failure) s.world.sink).2 } }) := by
  have hline : (t.writer.line (reportText failure) s.world.sink).1 = .ok () := hw _ _
  rw [report_of_ne fun reason => h ⟨reason, []⟩, run_writeLine, hline]

/-- **A line that fails does nothing but report its failure.** -/
theorem execute_eq_report (hd : t.daemon.Transactional I) (hw : t.writer.Reliable)
    {s : Shell σ ω} (hI : I s.world.daemon) {line : Text} (hline : line.all isBlank = false)
    {failure : Failure} (hfailure : (s.context.perform t line s.world).1 = .error failure) :
    ∃ interrupted, execute t line s = (.ok .continue, { s with
      world := ⟨s.world.daemon, (t.writer.line (reportText failure) s.world.sink).2,
        interrupted⟩ }) := by
  rcases hrun : s.context.perform t line s.world with ⟨r, world⟩
  rw [hrun] at hfailure
  obtain rfl : r = .error failure := hfailure
  obtain ⟨hne, hdaemon, hsink⟩ := s.context.perform_fails hd hw line s.world failure world hrun hI
  have hreport := report_of_reliable hw hne { s with world := world }
  rw [execute_of_error hline hrun, run_bind_ok hreport, ← hdaemon, ← hsink]
  exact ⟨world.interrupted, rfl⟩

end Shell

end Terminal

/-- **A failed line is all or nothing.** In a shell over a simulator in any state that is reached,
with a writer that never fails, a line that does not resolve or whose command fails does nothing but
write one report of the failure: the daemon and the contexts stay as they are. Blank lines are
skipped before they are resolved. -/
theorem execute_failing {s₀ : Simulator} (h₀ : Simulator.Initial s₀) {shell : Shell Simulator ω}
    (h : Simulator.Reaches s₀ shell.world.daemon) {w : Writer ω} (hw : w.Reliable) (json : Bool)
    {line : Text} (hline : line.all isBlank = false) {failure : Failure}
    (hfailure : (shell.context.perform ⟨Simulator.daemon, w, json⟩ line shell.world).1 =
      .error failure) :
    ∃ interrupted, Shell.execute ⟨Simulator.daemon, w, json⟩ line shell =
      (.ok .continue, { shell with
        world := ⟨shell.world.daemon,
          (w.line (Shell.reportText failure) shell.world.sink).2, interrupted⟩ }) :=
  Shell.execute_eq_report Simulator.transactional hw (h.evolves h₀.sound).1 hline hfailure

/-- A module is not made with a value that its attribute does not admit. -/
theorem execute_failing_start :
    let t : Terminal Simulator Text := ⟨Simulator.daemon, .unlimited, false⟩
    let line : Text := "create module location:2 admin-status:on"
    let shell : Shell Simulator Text := Shell.start Simulator.seed []
    let report : Text := "err: invalid value on for admin-status. choose from " ++
      "[unknown, down, up] (code 20000)"
    ∃ failure interrupted, (shell.context.perform t line shell.world).1 = .error failure ∧
      Shell.reportText failure = report ∧ Shell.execute t line shell =
        (.ok .continue, { shell with
          world := ⟨Simulator.seed, report ++ ['\n'], interrupted⟩ }) := by
  intro t line shell report
  have hreported : (((shell.context.perform t line shell.world).1.map fun _ => ()).mapError
      Shell.reportText) = .error report := by
    decide +kernel
  rcases hfailure : (shell.context.perform t line shell.world).1 with failure | outcome
  · rw [hfailure] at hreported
    have hreport : Shell.reportText failure = report := Except.error.inj hreported
    have hreliable : Writer.unlimited.Reliable := fun _ _ => rfl
    have hreached : Simulator.Reaches Simulator.seed shell.world.daemon := .refl
    have hline : line.all isBlank = false := by decide
    obtain ⟨interrupted, hexecute⟩ :=
      execute_failing .seed hreached hreliable false hline hfailure
    rw [hreport] at hexecute
    exact ⟨failure, interrupted, rfl, hreport, hexecute⟩
  · rw [hfailure] at hreported
    cases hreported

end TransponderShell
