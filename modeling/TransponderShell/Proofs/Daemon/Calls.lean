import Mathlib.Logic.Relation
import Mathlib.Order.Defs.Unbundled
import TransponderShell.Daemon.Basic

/-!
# Runs of a daemon

A `Call` is a request to a daemon with its arguments. `Daemon.Makes d c s s'` says that the call `c`
may take the daemon `d` from the state `s` to the state `s'`, granted or refused. Who follows an
attribute is left open: it may be anyone who receives notifications and cancels at any time.

`Daemon.Run d P s s'` says that calls with the property `P`, one after another, lead from `s` to
`s'`. What each of these calls keeps, the run keeps (`Daemon.Run.keeps`).
-/

namespace TransponderShell

/-- A request to a daemon with its arguments. -/
inductive Call where
  | list
  | attributes (type : ObjectType)
  | get (object : ObjectHandle) (name : Text) (json : Bool)
  | set (object : ObjectHandle) (name value : Text)
  | capability (object : ObjectHandle) (name : Text)
  | create (type : ObjectType) (pairs : List (Text × Text)) (moduleOid : Nat)
  | remove (oid : Nat)
  | monitor (object : ObjectHandle) (name : Text) (json : Bool)
  | setLogLevel (level : LogLevel) (scope : ApiScope)
  deriving DecidableEq

namespace Daemon

variable {σ : Type}

/-- The states before and after a call, whether it is granted or refused. -/
inductive Makes (d : Daemon σ) : Call → σ → σ → Prop
  | list (s : σ) : Makes d .list s (d.list s).2
  | attributes (type : ObjectType) (s : σ) :
    Makes d (.attributes type) s (d.attributes type s).2
  | get (object : ObjectHandle) (name : Text) (json : Bool) (s : σ) :
    Makes d (.get object name json) s (d.get object name json s).2
  | set (object : ObjectHandle) (name value : Text) (s : σ) :
    Makes d (.set object name value) s (d.set object name value s).2
  | capability (object : ObjectHandle) (name : Text) (s : σ) :
    Makes d (.capability object name) s (d.capability object name s).2
  | create (type : ObjectType) (pairs : List (Text × Text)) (moduleOid : Nat) (s : σ) :
    Makes d (.create type pairs moduleOid) s (d.create type pairs moduleOid s).2
  | remove (oid : Nat) (s : σ) : Makes d (.remove oid) s (d.remove oid s).2
  | monitor {γ : Type} (object : ObjectHandle) (name : Text) (json : Bool) (r : Receiver γ) (g : γ)
    (s : σ) : Makes d (.monitor object name json) s ((d.monitor object name json s).run r g).2.1
  | setLogLevel (level : LogLevel) (scope : ApiScope) (s : σ) :
    Makes d (.setLogLevel level scope) s (d.setLogLevel level scope s).2

/-- One state leads to another by calls with the property `P`. -/
def Run (d : Daemon σ) (P : Call → Prop) : σ → σ → Prop :=
  Relation.ReflTransGen fun s s' => ∃ c, P c ∧ d.Makes c s s'

namespace Run

variable {d : Daemon σ} {P : Call → Prop} {s s' s'' : σ}

theorem refl : d.Run P s s := Relation.ReflTransGen.refl

theorem trans (h : d.Run P s s') (h' : d.Run P s' s'') : d.Run P s s'' :=
  Relation.ReflTransGen.trans h h'

theorem single {c : Call} (hc : P c) (h : d.Makes c s s') : d.Run P s s' :=
  Relation.ReflTransGen.single ⟨c, hc, h⟩

instance : IsPreorder σ (d.Run P) where
  refl _ := refl
  trans _ _ _ := trans

/-- **A run keeps what its calls keep.** -/
theorem keeps {R : σ → σ → Prop} [IsPreorder σ R]
    (hcall : ∀ c, P c → ∀ s s', d.Makes c s s' → R s s') (h : d.Run P s s') : R s s' := by
  induction h with
  | refl => exact refl_of R s
  | tail _ hstep ih =>
    obtain ⟨c, hc, hmakes⟩ := hstep
    exact trans_of R ih (hcall c hc _ _ hmakes)

end Run

end Daemon

end TransponderShell
