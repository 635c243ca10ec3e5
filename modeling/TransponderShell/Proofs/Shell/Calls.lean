import TransponderShell.Proofs.Daemon.Calls
import TransponderShell.Proofs.Shell.Execute

/-!
# Which calls commands make

Every command makes only calls of its own kind, whatever the daemon answers: `Handler.MayCall` says
which, and `Handler.run_makes` that this is all.

The steps of a command are followed one after another with `Keeps (OnDaemon R)`: the daemon is left
in a state that stands in the relation `R` to the state before, whatever happens to the writer.
-/

namespace TransponderShell

variable {σ ω α β : Type} {R : σ → σ → Prop}

/-- The daemons of two worlds are related. -/
def OnDaemon (R : σ → σ → Prop) (world world' : World σ ω) : Prop := R world.daemon world'.daemon

instance [IsPreorder σ R] : IsPreorder (World σ ω) (OnDaemon R) where
  refl world := refl_of R world.daemon
  trans _ _ _ := trans_of R

/-! ## Steps -/

theorem Step.onDaemon_keeps {x : ExceptT Failure (StateM σ) α} (hx : Keeps R x) :
    Keeps (OnDaemon R) (Step.onDaemon x : Step σ ω α) := by
  intro world
  rw [Step.run_onDaemon]
  exact hx world.daemon

theorem Context.request_keeps {r : Request σ α} (hr : Keeps R r) (because : DaemonError → Failure) :
    Keeps R (Context.request r because) := by
  intro s
  rw [Context.run_request]
  exact hr s

theorem Step.request_keeps {r : Request σ α} (hr : Keeps R r) :
    Keeps (OnDaemon R) (Step.request r : Step σ ω α) :=
  Step.onDaemon_keeps (Context.request_keeps hr .daemon)

variable [IsPreorder σ R]

theorem Step.line_keeps (w : Writer ω) (text : Text) :
    Keeps (OnDaemon R) (Step.line w text : Step σ ω Unit) := by
  intro world
  rw [Step.run_line]
  exact refl_of R world.daemon

theorem Step.lines_keeps (w : Writer ω) (texts : List Text) :
    Keeps (OnDaemon R) (Step.lines w texts : Step σ ω Unit) := by
  induction texts with
  | nil => exact Keeps.pure ()
  | cons text rest ih => exact (Step.line_keeps w text).bind fun _ => ih

theorem Step.usage_keeps (message : Text) :
    Keeps (OnDaemon R) (Step.usage message : Step σ ω α) := Keeps.throw _

theorem Step.label_keeps (x : Except DaemonError α) :
    Keeps (OnDaemon R) (Step.label x : Step σ ω α) := by
  cases x with
  | ok a => exact Keeps.pure a
  | error e => exact Keeps.throw _

/-! ## Requests -/

section Requests

variable {d : Daemon σ} {P : Call → Prop}

theorem Daemon.list_makes (hP : P .list) : Keeps (d.Run P) d.list :=
  fun s => .single hP (.list s)

/-- Looking for a module keeps what listing the slots keeps. -/
theorem Daemon.findModule_keeps (hlist : Keeps R d.list) (location : Text) :
    Keeps R (d.findModule location) := by
  refine hlist.bind fun slots => ?_
  cases createdModule location slots with
  | ok slot => exact Keeps.pure slot
  | error e => exact Keeps.throw e

theorem Context.openObject_makes (hP : ∀ type, P (.attributes type)) (scope : Scope) :
    Keeps (d.Run P) (Context.openObject d scope) := by
  unfold Context.openObject
  split
  · exact Keeps.throw _
  · rename_i handle _
    have hattributes : Keeps (d.Run P) (d.attributes handle.type) :=
      fun s => .single (hP handle.type) (.attributes handle.type s)
    exact (Context.request_keeps hattributes _).bind fun _ => Keeps.pure _

theorem Context.openModule_makes (hlist : P .list) (hattributes : ∀ type, P (.attributes type))
    (location : Text) : Keeps (d.Run P) (Context.openModule d location) := by
  unfold Context.openModule
  have hfind := Daemon.findModule_keeps (Daemon.list_makes (d := d) hlist) location
  refine (Context.request_keeps hfind _).bind fun slot => ?_
  exact (Context.openObject_makes hattributes _).bind fun _ => Keeps.pure _

theorem Context.openInterface_makes (hlist : P .list) (hattributes : ∀ type, P (.attributes type))
    (kind : InterfaceKind) (location : Text) (index : Nat) :
    Keeps (d.Run P) (Context.openInterface d kind location index) := by
  unfold Context.openInterface
  have hfind := Daemon.findModule_keeps (Daemon.list_makes (d := d) hlist) location
  refine (Context.request_keeps hfind _).bind fun slot => ?_
  split
  · exact Keeps.throw _
  · exact Context.openObject_makes hattributes _

end Requests

/-! ## Commands -/

/-- The calls that a command may make. -/
def Handler.MayCall : Handler → Call → Prop
  | quit, _ => False
  | openModule, c => c = .list ∨ ∃ type, c = .attributes type
  | openInterface _ _, c => c = .list ∨ ∃ type, c = .attributes type
  | list, c => c = .list
  | logLevel, c => ∃ level scope, c = .setLogLevel level scope
  | create, c => ∃ type pairs oid, c = .create type pairs oid
  | remove, c => ∃ oid, c = .remove oid
  | get object, c => ∃ name json, c = .get object name json
  | set object, c => ∃ name value, c = .set object name value
  | capability object, c => ∃ name, c = .capability object name
  | monitor object _, c => ∃ name json, c = .monitor object name json
  | listAttributes _, _ => False
  | custom _ _, _ => False

namespace Handler

variable (t : Terminal σ ω) {P : Call → Prop}

theorem createWith_makes (hP : ∀ type pairs oid, P (.create type pairs oid)) (type : ObjectType)
    (oid : Nat) (arguments : List Text) :
    Keeps (OnDaemon (t.daemon.Run P)) (createWith t type oid arguments) := by
  unfold createWith
  split
  · exact Keeps.throw _
  · rename_i pairs _
    have hcreate : Keeps (t.daemon.Run P) (t.daemon.create type pairs oid) :=
      fun s => .single (hP type pairs oid) (.create type pairs oid s)
    refine (Step.request_keeps hcreate).bind fun _ => ?_
    exact (Step.line_keeps t.writer _).bind fun _ => Keeps.pure _

theorem follow_makes {object : ObjectHandle} (hP : ∀ name json, P (.monitor object name json))
    (attributes : List Attribute) (name : Text) :
    Keeps (OnDaemon (t.daemon.Run P)) (Monitor.follow t object attributes name) := by
  intro world
  have hmakes := Daemon.Makes.monitor (d := t.daemon) object name t.json
    (Monitor.receiver t.writer attributes t.json) { sink := world.sink, interrupted := false }
    world.daemon
  have hdaemon : ((Monitor.follow t object attributes name) world).2.daemon =
      ((t.daemon.monitor object name t.json world.daemon).run
        (Monitor.receiver t.writer attributes t.json)
        { sink := world.sink, interrupted := false }).2.1 := by
    unfold Monitor.follow
    dsimp only [ExceptT.mk]
    generalize (t.daemon.monitor object name t.json world.daemon).run _ _ = r
    rcases r with ⟨e | _, d, sink, interrupted, _ | failure⟩
    · rfl
    · rfl
    · rfl
    · rfl
  show t.daemon.Run P world.daemon _
  rw [hdaemon]
  exact .single (hP name t.json) hmakes

theorem runOpenModule_makes (hlist : P .list) (hattributes : ∀ type, P (.attributes type))
    (arguments : List Text) :
    Keeps (OnDaemon (t.daemon.Run P)) (runOpenModule t arguments) := by
  unfold runOpenModule
  split
  · have hopen := Context.openModule_makes (d := t.daemon) hlist hattributes
    exact (Step.onDaemon_keeps (hopen _)).bind fun _ => Keeps.pure _
  · exact Step.usage_keeps _

theorem runOpenInterface_makes (hlist : P .list) (hattributes : ∀ type, P (.attributes type))
    (kind : InterfaceKind) (location : Text) (arguments : List Text) :
    Keeps (OnDaemon (t.daemon.Run P)) (runOpenInterface t kind location arguments) := by
  unfold runOpenInterface
  split
  · split
    · have hopen := Context.openInterface_makes (d := t.daemon) hlist hattributes kind location
      exact (Step.onDaemon_keeps (hopen _)).bind fun _ => Keeps.pure _
    · exact Step.usage_keeps _
  · exact Step.usage_keeps _

theorem runList_makes (hP : P .list) (arguments : List Text) :
    Keeps (OnDaemon (t.daemon.Run P)) (runList t arguments) := by
  unfold runList
  split
  · refine (Step.request_keeps (Daemon.list_makes hP)).bind fun slots => ?_
    exact (Step.lines_keeps t.writer _).bind fun _ => Keeps.pure _
  · exact Step.usage_keeps _

theorem runLogLevel_makes (hP : ∀ level scope, P (.setLogLevel level scope))
    (arguments : List Text) :
    Keeps (OnDaemon (t.daemon.Run P)) (runLogLevel t arguments) := by
  have hset (level : LogLevel) (scope : ApiScope) :
      Keeps (t.daemon.Run P) (t.daemon.setLogLevel level scope) :=
    fun s => .single (hP level scope) (.setLogLevel level scope s)
  unfold runLogLevel
  split
  · refine (Step.label_keeps _).bind fun level => ?_
    exact (Step.request_keeps (hset level _)).bind fun _ => Keeps.pure _
  · refine (Step.label_keeps _).bind fun level => (Step.label_keeps _).bind fun scope => ?_
    exact (Step.request_keeps (hset level scope)).bind fun _ => Keeps.pure _
  · exact Step.usage_keeps _

theorem runCreate_makes (hP : ∀ type pairs oid, P (.create type pairs oid))
    (arguments : List Text) :
    Keeps (OnDaemon (t.daemon.Run P)) (runCreate t arguments) := by
  unfold runCreate
  split
  · exact Step.usage_keeps _
  · refine (Step.label_keeps _).bind fun type => ?_
    split
    · exact createWith_makes t hP _ _ _
    · exact Step.usage_keeps _
    · split
      · exact createWith_makes t hP _ _ _
      · exact Step.usage_keeps _

theorem runRemove_makes (hP : ∀ oid, P (.remove oid)) (arguments : List Text) :
    Keeps (OnDaemon (t.daemon.Run P)) (runRemove t arguments) := by
  unfold runRemove
  split
  · split
    · rename_i n _
      have hremove : Keeps (t.daemon.Run P) (t.daemon.remove n) :=
        fun s => .single (hP n) (.remove n s)
      exact (Step.request_keeps hremove).bind fun _ => Keeps.pure _
    · exact Step.usage_keeps _
  · exact Step.usage_keeps _

section Attributes

variable {object : ObjectHandle}

theorem runGet_makes (hP : ∀ name json, P (.get object name json)) (arguments : List Text) :
    Keeps (OnDaemon (t.daemon.Run P)) (runGet t object arguments) := by
  unfold runGet
  split
  · rename_i name
    have hget : Keeps (t.daemon.Run P) (t.daemon.get object name t.json) :=
      fun s => .single (hP name t.json) (.get object name t.json s)
    refine (Step.request_keeps hget).bind fun value => ?_
    exact (Step.line_keeps t.writer _).bind fun _ => Keeps.pure _
  · exact Step.usage_keeps _

theorem runSet_makes (hP : ∀ name value, P (.set object name value)) (arguments : List Text) :
    Keeps (OnDaemon (t.daemon.Run P)) (runSet t object arguments) := by
  unfold runSet
  split
  · rename_i name value
    have hset : Keeps (t.daemon.Run P) (t.daemon.set object name (Text.unwords value)) :=
      fun s => .single (hP name _) (.set object name _ s)
    exact (Step.request_keeps hset).bind fun _ => Keeps.pure _
  · exact Step.usage_keeps _

theorem runCapability_makes (hP : ∀ name, P (.capability object name)) (arguments : List Text) :
    Keeps (OnDaemon (t.daemon.Run P)) (runCapability t object arguments) := by
  unfold runCapability
  split
  · rename_i name
    have hcapability : Keeps (t.daemon.Run P) (t.daemon.capability object name) :=
      fun s => .single (hP name) (.capability object name s)
    refine (Step.request_keeps hcapability).bind fun values => ?_
    exact (Step.line_keeps t.writer _).bind fun _ => Keeps.pure _
  · exact Step.usage_keeps _

theorem runMonitor_makes (hP : ∀ name json, P (.monitor object name json))
    (attributes : List Attribute) (arguments : List Text) :
    Keeps (OnDaemon (t.daemon.Run P)) (runMonitor t object attributes arguments) := by
  have hfollow (name : Text) :
      Keeps (OnDaemon (t.daemon.Run P)) (runMonitor.followWith t object attributes name) := by
    unfold runMonitor.followWith
    refine (follow_makes t hP attributes name).bind fun _ => ?_
    exact (Step.line_keeps t.writer _).bind fun _ => Keeps.pure _
  unfold runMonitor
  split
  · exact hfollow _
  · exact hfollow _
  · exact Step.usage_keeps _

theorem runListAttributes_makes (attributes : List Attribute) (arguments : List Text) :
    Keeps (OnDaemon (t.daemon.Run P)) (runListAttributes t attributes arguments) := by
  unfold runListAttributes
  split
  · exact (Step.lines_keeps t.writer _).bind fun _ => Keeps.pure _
  · split
    · exact (Step.lines_keeps t.writer _).bind fun _ => Keeps.pure _
    · exact Step.usage_keeps _
  · exact Step.usage_keeps _

end Attributes

/-- **A command makes only calls of its own kind.** -/
theorem run_makes (h : Handler) (arguments : List Text) :
    Keeps (OnDaemon (t.daemon.Run h.MayCall)) (h.run t arguments) := by
  cases h with
  | quit => exact Keeps.pure _
  | openModule =>
    exact runOpenModule_makes t (Or.inl rfl) (fun type => Or.inr ⟨type, rfl⟩) arguments
  | openInterface kind location =>
    exact runOpenInterface_makes t (Or.inl rfl) (fun type => Or.inr ⟨type, rfl⟩) kind location
      arguments
  | list =>
    have hlist : MayCall list .list := rfl
    exact runList_makes t hlist arguments
  | logLevel => exact runLogLevel_makes t (fun level scope => ⟨level, scope, rfl⟩) arguments
  | create => exact runCreate_makes t (fun type pairs oid => ⟨type, pairs, oid, rfl⟩) arguments
  | remove => exact runRemove_makes t (fun oid => ⟨oid, rfl⟩) arguments
  | get object => exact runGet_makes t (fun name json => ⟨name, json, rfl⟩) arguments
  | set object => exact runSet_makes t (fun name value => ⟨name, value, rfl⟩) arguments
  | capability object => exact runCapability_makes t (fun name => ⟨name, rfl⟩) arguments
  | monitor object attributes =>
    exact runMonitor_makes t (fun name json => ⟨name, json, rfl⟩) attributes arguments
  | listAttributes attributes => exact runListAttributes_makes t attributes arguments
  | custom line leaves => exact (Step.line_keeps t.writer _).bind fun _ => Keeps.pure _

end Handler

end TransponderShell
