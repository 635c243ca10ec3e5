import TransponderShell.Proofs.Command.Answers
import TransponderShell.Proofs.Shell.Execute

/-!
# Commands in two worlds

Commands are made of few steps: they ask the daemon, write lines, follow an attribute, and fail for
reasons of their own. When these steps are related in two worlds (`Terminal.Related`), so are the
commands (`Handler.run_related`) and the lines that are resolved and carried out
(`Context.perform_related`).

The relation may compare two worlds, or say something of the commands in one.
-/

namespace TransponderShell

variable {σ σ' ω ω' : Type}

/-- What the steps of commands are related by: the requests to the daemon, the programs made of
them, and the steps themselves. -/
structure Relations (σ σ' ω ω' : Type) where
  requests : ProgramRelation (ExceptT DaemonError (StateM σ)) (ExceptT DaemonError (StateM σ'))
  programs : ProgramRelation (ExceptT Failure (StateM σ)) (ExceptT Failure (StateM σ'))
  steps : ProgramRelation (Step σ ω) (Step σ' ω')

/-- The steps that commands are made of are related. Failures of writing are left to the lines that
are written. -/
structure Terminal.Related (R : Relations σ σ' ω ω') (t : Terminal σ ω) (t' : Terminal σ' ω') :
    Prop where
  list : R.requests.Rel t.daemon.list t'.daemon.list
  attributes : ∀ type, R.requests.Rel (t.daemon.attributes type) (t'.daemon.attributes type)
  get : ∀ object name, R.requests.Rel (t.daemon.get object name t.json)
    (t'.daemon.get object name t'.json)
  set : ∀ object name value,
    R.requests.Rel (t.daemon.set object name value) (t'.daemon.set object name value)
  capability : ∀ object name,
    R.requests.Rel (t.daemon.capability object name) (t'.daemon.capability object name)
  create : ∀ type pairs oid,
    R.requests.Rel (t.daemon.create type pairs oid) (t'.daemon.create type pairs oid)
  remove : ∀ oid, R.requests.Rel (t.daemon.remove oid) (t'.daemon.remove oid)
  setLogLevel : ∀ level scope,
    R.requests.Rel (t.daemon.setLogLevel level scope) (t'.daemon.setLogLevel level scope)
  refuse : ∀ {α : Type} (e : DaemonError),
    R.requests.Rel (throw e : Request σ α) (throw e : Request σ' α)
  request : ∀ {α : Type} {r : Request σ α} {r' : Request σ' α} {because : DaemonError → Failure},
    (∀ e e', because e ≠ .output e') → R.requests.Rel r r' →
      R.programs.Rel (Context.request r because) (Context.request r' because)
  fail : ∀ {α : Type} {failure : Failure}, (∀ e, failure ≠ .output e) →
    R.programs.Rel (throw failure : ExceptT Failure (StateM σ) α)
      (throw failure : ExceptT Failure (StateM σ') α)
  resolve : ∀ (c : Context) line,
    R.programs.Rel (c.resolving t.daemon line) (c.resolving t'.daemon line)
  onDaemon : ∀ {α : Type} {x : ExceptT Failure (StateM σ) α} {x' : ExceptT Failure (StateM σ') α},
    R.programs.Rel x x' → R.steps.Rel (Step.onDaemon x) (Step.onDaemon x')
  line : ∀ text, R.steps.Rel (Step.line t.writer text) (Step.line t'.writer text)

namespace Terminal.Related

variable {R : Relations σ σ' ω ω'} {t : Terminal σ ω} {t' : Terminal σ' ω'} {α : Type}

/-! ## Steps -/

theorem ask (h : t.Related R t') {r : Request σ α} {r' : Request σ' α}
    (hr : R.requests.Rel r r') : R.steps.Rel (Step.request r) (Step.request r') :=
  h.onDaemon (h.request (fun _ _ => nofun) hr)

theorem throw (h : t.Related R t') {failure : Failure}
    (hfailure : ∀ e, failure ≠ .output e) :
    R.steps.Rel (throw failure : Step σ ω α) (throw failure : Step σ' ω' α) :=
  h.onDaemon (h.fail hfailure)

theorem usage (h : t.Related R t') (message : Text) :
    R.steps.Rel (Step.usage message : Step σ ω α) (Step.usage message : Step σ' ω' α) :=
  h.throw nofun

theorem label (h : t.Related R t') (x : Except DaemonError α) :
    R.steps.Rel (Step.label x : Step σ ω α) (Step.label x : Step σ' ω' α) := by
  cases x with
  | ok a => exact R.steps.pure_pure a
  | error e => exact h.throw nofun

theorem lines (h : t.Related R t') (texts : List Text) :
    R.steps.Rel (Step.lines t.writer texts) (Step.lines t'.writer texts) := by
  induction texts with
  | nil => exact R.steps.pure_pure ()
  | cons text rest ih => exact R.steps.bind_bind (h.line text) fun _ => ih

/-! ## Opening contexts -/

theorem findModule (h : t.Related R t') (location : Text) :
    R.requests.Rel (t.daemon.findModule location) (t'.daemon.findModule location) := by
  refine R.requests.bind_bind h.list fun slots => ?_
  cases Daemon.createdModule location slots with
  | ok slot => exact R.requests.pure_pure slot
  | error e => exact h.refuse e

theorem openObject (h : t.Related R t') (scope : Scope) :
    R.programs.Rel (Context.openObject t.daemon scope) (Context.openObject t'.daemon scope) := by
  unfold Context.openObject
  cases scope.handle with
  | none => exact h.fail nofun
  | some handle =>
    exact R.programs.bind_bind (h.request (fun _ _ => nofun) (h.attributes handle.type))
      fun _ => R.programs.pure_pure _

theorem openModule (h : t.Related R t') (location : Text) :
    R.programs.Rel (Context.openModule t.daemon location)
      (Context.openModule t'.daemon location) := by
  refine R.programs.bind_bind (h.request (fun _ _ => nofun) (h.findModule location)) fun slot => ?_
  exact R.programs.bind_bind (h.openObject _) fun _ => R.programs.pure_pure _

theorem openInterface (h : t.Related R t') (kind : InterfaceKind) (location : Text) (index : Nat) :
    R.programs.Rel (Context.openInterface t.daemon kind location index)
      (Context.openInterface t'.daemon kind location index) := by
  refine R.programs.bind_bind (h.request (fun _ _ => nofun) (h.findModule location)) fun slot => ?_
  cases (slot.interfaces kind).find? fun i => i.index = index with
  | none => exact h.fail nofun
  | some i => exact h.openObject _

end Terminal.Related

/-! ## Commands -/

namespace Handler

variable {R : Relations σ σ' ω ω'} {t : Terminal σ ω} {t' : Terminal σ' ω'}

/-- Pairs that cannot be read are a fault of the line. -/
theorem readPairs_error {arguments : List Text} {e : Failure} (h : readPairs arguments = .error e) :
    ∀ e', e ≠ .output e' := by
  induction arguments with
  | nil => cases h
  | cons text rest ih =>
    rw [readPairs] at h
    split at h
    · cases h
      exact nofun
    · split at h
      · cases h
      · rename_i e' he
        cases h
        exact ih he

theorem runList_related (h : t.Related R t') (arguments : List Text) :
    R.steps.Rel (runList t arguments) (runList t' arguments) := by
  rcases arguments with _ | ⟨_, _⟩
  · refine R.steps.bind_bind (h.ask h.list) fun slots => ?_
    exact R.steps.bind_bind (h.lines _) fun _ => R.steps.pure_pure _
  · exact h.usage _

theorem runOpenModule_related (h : t.Related R t') (arguments : List Text) :
    R.steps.Rel (runOpenModule t arguments) (runOpenModule t' arguments) := by
  rcases arguments with _ | ⟨location, _ | ⟨_, _⟩⟩
  · exact h.usage _
  · exact R.steps.bind_bind (h.onDaemon (h.openModule location)) fun _ => R.steps.pure_pure _
  · exact h.usage _

theorem runOpenInterface_related (h : t.Related R t') (kind : InterfaceKind) (location : Text)
    (arguments : List Text) :
    R.steps.Rel (runOpenInterface t kind location arguments)
      (runOpenInterface t' kind location arguments) := by
  rcases arguments with _ | ⟨index, _ | ⟨_, _⟩⟩
  · exact h.usage _
  · simp only [runOpenInterface]
    cases Numeral.read32? index with
    | none => exact h.usage _
    | some n =>
      exact R.steps.bind_bind (h.onDaemon (h.openInterface kind location n)) fun _ =>
        R.steps.pure_pure _
  · exact h.usage _

theorem runLogLevel_related (h : t.Related R t') (arguments : List Text) :
    R.steps.Rel (runLogLevel t arguments) (runLogLevel t' arguments) := by
  rcases arguments with _ | ⟨level, _ | ⟨scope, _ | ⟨_, _⟩⟩⟩
  · exact h.usage _
  · refine R.steps.bind_bind (h.label _) fun level => ?_
    exact R.steps.bind_bind (h.ask (h.setLogLevel level _)) fun _ => R.steps.pure_pure _
  · refine R.steps.bind_bind (h.label _) fun level => R.steps.bind_bind (h.label _) fun scope => ?_
    exact R.steps.bind_bind (h.ask (h.setLogLevel level scope)) fun _ => R.steps.pure_pure _
  · exact h.usage _

theorem createWith_related (h : t.Related R t') (type : ObjectType) (oid : Nat)
    (arguments : List Text) :
    R.steps.Rel (createWith t type oid arguments) (createWith t' type oid arguments) := by
  unfold createWith
  cases hpairs : readPairs arguments with
  | error e => exact h.throw (readPairs_error hpairs)
  | ok pairs =>
    refine R.steps.bind_bind (h.ask (h.create type pairs oid)) fun _ => ?_
    exact R.steps.bind_bind (h.line _) fun _ => R.steps.pure_pure _

theorem runCreate_related (h : t.Related R t') (arguments : List Text) :
    R.steps.Rel (runCreate t arguments) (runCreate t' arguments) := by
  rcases arguments with _ | ⟨label, rest⟩
  · exact h.usage _
  refine R.steps.bind_bind (h.label _) fun type => ?_
  rcases type with _ | kind
  · exact createWith_related h _ _ _
  rcases rest with _ | ⟨oid, rest⟩
  · exact h.usage _
  dsimp only
  cases Oid.parse oid with
  | ok oid => exact createWith_related h _ _ _
  | error e => exact h.usage _

theorem runRemove_related (h : t.Related R t') (arguments : List Text) :
    R.steps.Rel (runRemove t arguments) (runRemove t' arguments) := by
  rcases arguments with _ | ⟨oid, _ | ⟨_, _⟩⟩
  · exact h.usage _
  · simp only [runRemove]
    cases Oid.parse oid with
    | ok n => exact R.steps.bind_bind (h.ask (h.remove n)) fun _ => R.steps.pure_pure _
    | error e => exact h.usage _
  · exact h.usage _

section Attributes

variable (object : ObjectHandle)

theorem runGet_related (h : t.Related R t') (arguments : List Text) :
    R.steps.Rel (runGet t object arguments) (runGet t' object arguments) := by
  rcases arguments with _ | ⟨name, _ | ⟨_, _⟩⟩
  · exact h.usage _
  · refine R.steps.bind_bind (h.ask (h.get object name)) fun value => ?_
    exact R.steps.bind_bind (h.line _) fun _ => R.steps.pure_pure _
  · exact h.usage _

theorem runSet_related (h : t.Related R t') (arguments : List Text) :
    R.steps.Rel (runSet t object arguments) (runSet t' object arguments) := by
  rcases arguments with _ | ⟨name, value⟩
  · exact h.usage _
  · exact R.steps.bind_bind (h.ask (h.set object name _)) fun _ => R.steps.pure_pure _

theorem runCapability_related (h : t.Related R t') (arguments : List Text) :
    R.steps.Rel (runCapability t object arguments) (runCapability t' object arguments) := by
  rcases arguments with _ | ⟨name, _ | ⟨_, _⟩⟩
  · exact h.usage _
  · refine R.steps.bind_bind (h.ask (h.capability object name)) fun values => ?_
    exact R.steps.bind_bind (h.line _) fun _ => R.steps.pure_pure _
  · exact h.usage _

/-- Following an attribute is a step of its own. -/
theorem runMonitor_related (h : t.Related R t') (attributes : List Attribute)
    (hfollow : ∀ name, R.steps.Rel (Monitor.follow t object attributes name)
      (Monitor.follow t' object attributes name)) (arguments : List Text) :
    R.steps.Rel (runMonitor t object attributes arguments)
      (runMonitor t' object attributes arguments) := by
  have hwith (name : Text) : R.steps.Rel (runMonitor.followWith t object attributes name)
      (runMonitor.followWith t' object attributes name) := by
    refine R.steps.bind_bind (hfollow name) fun _ => ?_
    exact R.steps.bind_bind (h.line _) fun _ => R.steps.pure_pure _
  rcases arguments with _ | ⟨name, _ | ⟨_, _⟩⟩
  · exact hwith _
  · exact hwith name
  · exact h.usage _

theorem runListAttributes_related (h : t.Related R t') (attributes : List Attribute)
    (arguments : List Text) :
    R.steps.Rel (runListAttributes t attributes arguments)
      (runListAttributes t' attributes arguments) := by
  have hlines (texts : List Text) : R.steps.Rel
      (do Step.lines t.writer texts; return Outcome.stay)
      (do Step.lines t'.writer texts; return Outcome.stay) :=
    R.steps.bind_bind (h.lines texts) fun _ => R.steps.pure_pure _
  rcases arguments with _ | ⟨mode, _ | ⟨_, _⟩⟩
  · exact hlines _
  · simp only [runListAttributes]
    split
    · exact hlines _
    · exact h.usage _
  · exact h.usage _

end Attributes

/-- **Commands made of related steps are related.** -/
theorem run_related (h : t.Related R t') (handler : Handler)
    (hfollow : ∀ object attributes, handler = monitor object attributes → ∀ name,
      R.steps.Rel (Monitor.follow t object attributes name)
        (Monitor.follow t' object attributes name)) (arguments : List Text) :
    R.steps.Rel (handler.run t arguments) (handler.run t' arguments) := by
  cases handler with
  | quit => exact R.steps.pure_pure _
  | openModule => exact runOpenModule_related h arguments
  | openInterface kind location => exact runOpenInterface_related h kind location arguments
  | list => exact runList_related h arguments
  | logLevel => exact runLogLevel_related h arguments
  | create => exact runCreate_related h arguments
  | remove => exact runRemove_related h arguments
  | get object => exact runGet_related object h arguments
  | set object => exact runSet_related object h arguments
  | capability object => exact runCapability_related object h arguments
  | monitor object attributes =>
    exact runMonitor_related object h attributes (hfollow object attributes rfl) arguments
  | listAttributes attributes => exact runListAttributes_related h attributes arguments
  | custom line leaves =>
    exact R.steps.bind_bind (h.line _) fun _ => R.steps.pure_pure _

end Handler

/-- A line is resolved and carried out alike. -/
theorem Context.perform_related {R : Relations σ σ' ω ω'} {t : Terminal σ ω} {t' : Terminal σ' ω'}
    (h : t.Related R t') (hfollow : ∀ object attributes name,
      R.steps.Rel (Monitor.follow t object attributes name)
        (Monitor.follow t' object attributes name)) (c : Context) (line : Text) :
    R.steps.Rel (c.perform t line) (c.perform t' line) := by
  rw [perform_eq_bind, perform_eq_bind]
  refine R.steps.bind_bind (h.onDaemon (h.resolve c line)) fun r => ?_
  exact r.handler.run_related h (fun object attributes _ => hfollow object attributes) r.arguments

end TransponderShell
