import TransponderShell.Proofs.Daemon.Calls
import TransponderShell.Proofs.Daemon.Effect
import TransponderShell.Proofs.Daemon.Questions

/-!
# Daemons in lockstep

Two programs over different states run in `Lockstep S` if, begun in states that are related by `S`,
they have the same result and end in related states. A daemon `Mirrors` another one if all its
answers are given in lockstep and its feeds take the same course.

* Completion and resolution cannot tell two such daemons apart (`Daemon.Mirrors.resolve`), nor can
  those who follow their feeds (`Feed.Alike.run`).
* `Daemon.recording` keeps a record of all calls beside the states of a daemon, which it mirrors
  (`Daemon.mirrors_recording`).
-/

namespace TransponderShell

variable {σ σ' : Type} {S : σ → σ' → Prop}

/-! ## Programs -/

/-- Begun in related states, two programs have the same result and end in related states. -/
def Lockstep {α : Type} (S : σ → σ' → Prop) (x : StateM σ α) (y : StateM σ' α) : Prop :=
  ∀ s s', S s s' → (x s).1 = (y s').1 ∧ S (x s).2 (y s').2

/-- Lockstep of programs that do not fail. -/
def lockstep (S : σ → σ' → Prop) : ProgramRelation (StateM σ) (StateM σ') where
  Rel := Lockstep S
  pure_pure _ _ _ hs := ⟨rfl, hs⟩
  bind_bind {_ _ x y f g} hx hf := by
    intro s s' hs
    obtain ⟨hresult, hs₁⟩ := hx s s' hs
    rcases hrun : x s with ⟨a, s₁⟩
    rcases hrun' : y s' with ⟨b, s₁'⟩
    rw [hrun, hrun'] at hresult hs₁
    obtain rfl : a = b := hresult
    rw [run_stateBind hrun, run_stateBind hrun']
    exact hf a s₁ s₁' hs₁

/-- Lockstep of programs that may fail. -/
def lockstepOrFail (ε : Type) (S : σ → σ' → Prop) :
    ProgramRelation (ExceptT ε (StateM σ)) (ExceptT ε (StateM σ')) where
  Rel x y := Lockstep S x.run y.run
  pure_pure _ _ _ hs := ⟨rfl, hs⟩
  bind_bind {_ _ x y f g} hx hf := by
    intro s s' hs
    obtain ⟨hresult, hs₁⟩ := hx s s' hs
    rcases hrun : x s with ⟨r, s₁⟩
    rcases hrun' : y s' with ⟨r', s₁'⟩
    rw [ExceptT.run, ExceptT.run, hrun, hrun'] at hresult hs₁
    obtain rfl : r = r' := hresult
    cases r with
    | ok a =>
      rw [ExceptT.run, ExceptT.run, run_bind_ok hrun, run_bind_ok hrun']
      exact hf a s₁ s₁' hs₁
    | error e =>
      rw [ExceptT.run, ExceptT.run, run_bind_error hrun, run_bind_error hrun']
      exact ⟨rfl, hs₁⟩

/-- Every program runs in lockstep with itself. -/
theorem Lockstep.refl {α : Type} (x : StateM σ α) : Lockstep Eq x x := by
  rintro s _ rfl
  exact ⟨rfl, rfl⟩

/-! ## Feeds -/

/-- Two feeds take the same course and end in related states. -/
inductive Feed.Alike (S : σ → σ' → Prop) : Feed σ → Feed σ' → Prop
  | done (result : Except DaemonError Unit) {s : σ} {s' : σ'} (hs : S s s') :
    Alike S (.done result s) (.done result s')
  | poll {next : Bool → Feed σ} {next' : Bool → Feed σ'}
    (h : ∀ cancelled, Alike S (next cancelled) (next' cancelled)) :
    Alike S (.poll next) (.poll next')
  | deliver (n : Notification) {rest : Feed σ} {rest' : Feed σ'} (h : Alike S rest rest') :
    Alike S (.deliver n rest) (.deliver n rest')
  | interrupt {rest : Feed σ} {rest' : Feed σ'} (h : Alike S rest rest') :
    Alike S (.interrupt rest) (.interrupt rest')

theorem Feed.Alike.refl (feed : Feed σ) : Alike Eq feed feed := by
  induction feed with
  | done result s => exact .done result rfl
  | poll next ih => exact .poll ih
  | deliver n rest ih => exact .deliver n ih
  | interrupt rest ih => exact .interrupt ih

/-- Two receivers take in a feed alike. -/
structure Receiver.Alike {γ γ' : Type} (G : γ → γ' → Prop) (r : Receiver γ) (r' : Receiver γ') :
    Prop where
  cancelled : ∀ {g g'}, G g g' → r.cancelled g = r'.cancelled g'
  receive : ∀ n {g g'}, G g g' → G (r.receive n g) (r'.receive n g')
  interrupt : ∀ {g g'}, G g g' → G (r.interrupt g) (r'.interrupt g')

/-- **Alike receivers of alike feeds** end alike. -/
theorem Feed.Alike.run {feed : Feed σ} {feed' : Feed σ'} (h : Feed.Alike S feed feed')
    {γ γ' : Type} {G : γ → γ' → Prop} {r : Receiver γ} {r' : Receiver γ'} (hr : r.Alike G r')
    {g : γ} {g' : γ'} (hg : G g g') :
    (feed.run r g).1 = (feed'.run r' g').1 ∧ S (feed.run r g).2.1 (feed'.run r' g').2.1 ∧
      G (feed.run r g).2.2 (feed'.run r' g').2.2 := by
  induction h generalizing g g' with
  | done result hs => exact ⟨rfl, hs, hg⟩
  | poll _ ih =>
    simp only [Feed.run, hr.cancelled hg]
    exact ih _ hg
  | deliver n _ ih => exact ih (hr.receive n hg)
  | interrupt _ ih => exact ih (hr.interrupt hg)

/-! ## Daemons -/

/-- Two daemons give the same answers in related states and stay in such states. -/
structure Daemon.Mirrors (S : σ → σ' → Prop) (d : Daemon σ) (d' : Daemon σ') : Prop where
  list : Lockstep S d.list d'.list
  attributes : ∀ type, Lockstep S (d.attributes type) (d'.attributes type)
  get : ∀ object name json, Lockstep S (d.get object name json) (d'.get object name json)
  set : ∀ object name value, Lockstep S (d.set object name value) (d'.set object name value)
  capability : ∀ object name, Lockstep S (d.capability object name) (d'.capability object name)
  create : ∀ type pairs oid, Lockstep S (d.create type pairs oid) (d'.create type pairs oid)
  remove : ∀ oid, Lockstep S (d.remove oid) (d'.remove oid)
  monitor : ∀ object name json {s s'}, S s s' →
    Feed.Alike S (d.monitor object name json s) (d'.monitor object name json s')
  setLogLevel : ∀ level scope, Lockstep S (d.setLogLevel level scope) (d'.setLogLevel level scope)

namespace Daemon

theorem Mirrors.refl (d : Daemon σ) : d.Mirrors Eq d where
  list := .refl _
  attributes _ := .refl _
  get _ _ _ := .refl _
  set _ _ _ := .refl _
  capability _ _ := .refl _
  create _ _ _ := .refl _
  remove _ := .refl _
  monitor _ _ _ _ _ hs := hs ▸ .refl _
  setLogLevel _ _ := .refl _

/-- Lines are resolved alike. -/
theorem Mirrors.resolve {d : Daemon σ} {d' : Daemon σ'} (h : d.Mirrors S d') {H : Type}
    (table : CommandTable Question H) (line : Text) :
    Lockstep S (table.resolve (Question.ask d) line) (table.resolve (Question.ask d') line) := by
  refine table.resolve_related (lockstep S) (fun q => ?_) line
  refine (lockstep S).bind_bind h.list fun listed => ?_
  cases listed with
  | ok slots => exact (lockstep S).pure_pure _
  | error e => exact (lockstep S).pure_pure _

/-! ## Recording calls -/

/-- A request that also notes its call, granted or refused. -/
def record {α : Type} (c : Call) (r : Request σ α) : Request (σ × List Call) α :=
  ExceptT.mk fun (s, calls) =>
    let (result, s) := r.run s
    (result, (s, calls ++ [c]))

end Daemon

/-- A feed of the same course with other states at its ends. -/
def Feed.mapState (f : σ → σ') : Feed σ → Feed σ'
  | done result s => done result (f s)
  | poll next => poll fun cancelled => (next cancelled).mapState f
  | deliver n rest => deliver n (rest.mapState f)
  | interrupt rest => interrupt (rest.mapState f)

theorem Feed.alike_mapState {f : σ → σ'} (hf : ∀ s, S s (f s)) (feed : Feed σ) :
    Feed.Alike S feed (feed.mapState f) := by
  induction feed with
  | done result s => exact .done result (hf s)
  | poll next ih => exact .poll ih
  | deliver n rest ih => exact .deliver n ih
  | interrupt rest ih => exact .interrupt ih

namespace Daemon

/-- A daemon that notes all calls beside its states, the latest last. -/
def recording (d : Daemon σ) : Daemon (σ × List Call) where
  kind := d.kind
  list := record .list d.list
  attributes type := record (.attributes type) (d.attributes type)
  get object name json := record (.get object name json) (d.get object name json)
  set object name value := record (.set object name value) (d.set object name value)
  capability object name := record (.capability object name) (d.capability object name)
  create type pairs oid := record (.create type pairs oid) (d.create type pairs oid)
  remove oid := record (.remove oid) (d.remove oid)
  monitor object name json := fun (s, calls) =>
    (d.monitor object name json s).mapState fun s => (s, calls ++ [.monitor object name json])
  setLogLevel level scope := record (.setLogLevel level scope) (d.setLogLevel level scope)

/-- A state without the record of calls. -/
def Unrecorded (s : σ) (recorded : σ × List Call) : Prop := recorded.1 = s

theorem lockstep_record {α : Type} (c : Call) (r : Request σ α) :
    Lockstep Unrecorded r (record c r) := by
  rintro s ⟨_, calls⟩ rfl
  exact ⟨rfl, rfl⟩

/-- **Recording calls changes no answer.** -/
theorem mirrors_recording (d : Daemon σ) : d.Mirrors Unrecorded d.recording where
  list := lockstep_record _ _
  attributes _ := lockstep_record _ _
  get _ _ _ := lockstep_record _ _
  set _ _ _ := lockstep_record _ _
  capability _ _ := lockstep_record _ _
  create _ _ _ := lockstep_record _ _
  remove _ := lockstep_record _ _
  monitor object name json s recorded hs := by
    obtain ⟨_, calls⟩ := recorded
    obtain rfl := hs
    have hnoted : ∀ s : σ, Unrecorded s (s, calls ++ [.monitor object name json]) := fun _ => rfl
    exact Feed.alike_mapState hnoted _
  setLogLevel _ _ := lockstep_record _ _

end Daemon

end TransponderShell
