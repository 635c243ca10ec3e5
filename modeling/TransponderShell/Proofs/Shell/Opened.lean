import TransponderShell.Proofs.Shell.Calls
import TransponderShell.Proofs.Shell.Contexts

/-!
# Contexts that a daemon opens

`Context.Opened d I c` says that `c` is the context of the root, or one that the shell opens while
the daemon `d` is in a state with the property `I`. Such a context is made from attributes that the
daemon tells in such a state (`Opened.cases`), and so are its commands (`Opened.mem_cases`).
`Context.IsOf` says that a context is made from certain attributes, whoever tells them.
-/

namespace TransponderShell

namespace Context

variable {σ : Type}

/-- The contexts of the shell over a daemon in the states with the property `I`. -/
inductive Opened (d : Daemon σ) (I : σ → Prop) : Context → Prop
  | root : Opened d I root
  | object {s : σ} (hs : I s) {scope : Scope} {c : Context}
    (h : (openObject d scope s).1 = .ok c) : Opened d I c
  | module {s : σ} (hs : I s) {location : Text} {c : Context}
    (h : (openModule d location s).1 = .ok c) : Opened d I c
  | interface {s : σ} (hs : I s) {kind : InterfaceKind} {location : Text} {index : Nat}
    {c : Context} (h : (openInterface d kind location index s).1 = .ok c) : Opened d I c

/-- The context of an object is made from the attributes of its type. -/
theorem openObject_ok {d : Daemon σ} {scope : Scope} {s : σ} {c : Context}
    (h : (openObject d scope s).1 = .ok c) :
    ∃ handle attributes, scope.handle = some handle ∧
      (d.attributes handle.type s).1 = .ok attributes ∧ c = object scope handle attributes := by
  unfold openObject at h
  cases hhandle : scope.handle with
  | none =>
    rw [hhandle] at h
    cases h
  | some handle =>
    rw [hhandle] at h
    obtain ⟨told, s', hrequest, hc⟩ := exists_of_run_bind h
    rw [run_request] at hrequest
    cases ha : (d.attributes handle.type s).1 with
    | error e =>
      rw [ha] at hrequest
      cases hrequest
    | ok attributes =>
      rw [ha] at hrequest
      cases hrequest
      cases hc
      exact ⟨handle, told, rfl, ha, rfl⟩

/-- The context of a module is made from the slot that the daemon finds and from the attributes of
modules. -/
theorem openModule_ok {d : Daemon σ} {location : Text} {s : σ} {c : Context}
    (h : (openModule d location s).1 = .ok c) :
    ∃ slot s' attributes, request (d.findModule location) .daemon s = (.ok slot, s') ∧
      (d.attributes .module s').1 = .ok attributes ∧
      c = (object (.module slot.location slot.oid) ⟨.module, slot.oid⟩ attributes).addCommands
        (interfaceCommands location) := by
  obtain ⟨slot, s', hfind, h⟩ := exists_of_run_bind h
  obtain ⟨inner, s'', hopen, h⟩ := exists_of_run_bind h
  obtain ⟨handle, attributes, hhandle, hattributes, rfl⟩ := openObject_ok (congrArg Prod.fst hopen)
  cases hhandle
  cases h
  exact ⟨slot, s', attributes, hfind, hattributes, rfl⟩

/-- The context of an interface is made from one that the daemon finds in the module and from the
attributes of such interfaces. -/
theorem openInterface_ok {d : Daemon σ} {kind : InterfaceKind} {location : Text} {index : Nat}
    {s : σ} {c : Context} (h : (openInterface d kind location index s).1 = .ok c) :
    ∃ slot s' oid attributes, request (d.findModule location) .daemon s = (.ok slot, s') ∧
      (d.attributes (.interface kind) s').1 = .ok attributes ∧
      c = object (.interface kind index oid) ⟨.interface kind, oid⟩ attributes := by
  obtain ⟨slot, s', hfind, h⟩ := exists_of_run_bind h
  cases hindex : (slot.interfaces kind).find? fun i => i.index = index with
  | none =>
    rw [hindex] at h
    cases h
  | some i =>
    rw [hindex] at h
    obtain ⟨handle, attributes, hhandle, hattributes, rfl⟩ := openObject_ok h
    cases hhandle
    exact ⟨slot, s', i.oid, attributes, hfind, hattributes, rfl⟩

/-- The context of an object with certain attributes, perhaps with the commands that enter the
interfaces of a module. -/
def IsOf (handle : ObjectHandle) (attributes : List Attribute) (c : Context) : Prop :=
  ∃ scope, c = object scope handle attributes ∨ ∃ location,
    c = (object scope handle attributes).addCommands (interfaceCommands location)

/-- The commands in the context of an object are `quit`, those on its attributes, and perhaps those
that enter interfaces. -/
theorem IsOf.mem_cases {handle : ObjectHandle} {attributes : List Attribute} {c : Context}
    (h : c.IsOf handle attributes) {command : Command Question Handler}
    (hcommand : command ∈ c.table.commands) :
    command = quitCommand ∨ command ∈ objectCommands handle attributes ∨
      ∃ location, command ∈ interfaceCommands location := by
  rcases h with ⟨scope, rfl | ⟨location, rfl⟩⟩
  · exact (mem_object hcommand).imp_right Or.inl
  · rcases mem_addCommands hcommand with hmem | hmem
    · exact (mem_object hmem).imp_right Or.inl
    · exact Or.inr (Or.inr ⟨location, hmem⟩)

/-- **A context** is that of the root, or it is made from the attributes of a type: it is that of an
object, perhaps with the commands that enter the interfaces of a module. -/
theorem Opened.cases {d : Daemon σ} {I : σ → Prop} (hlist : Keeps (Preserves I) d.list)
    {c : Context} (h : c.Opened d I) :
    c = Context.root ∨ ∃ s, I s ∧ ∃ handle attributes, c.scope.handle = some handle ∧
      (d.attributes handle.type s).1 = .ok attributes ∧
      (c = Context.object c.scope handle attributes ∨ ∃ location,
        c = (Context.object c.scope handle attributes).addCommands
          (interfaceCommands location)) := by
  have hrequest {location : Text} {s s' : σ} {slot : ModuleSummary} (hs : I s)
      (hrun : request (d.findModule location) .daemon s = (.ok slot, s')) : I s' := by
    have hkept := request_keeps (Daemon.findModule_keeps hlist location) .daemon s hs
    rwa [hrun] at hkept
  cases h with
  | root => exact Or.inl rfl
  | @object s hs scope _ h =>
    obtain ⟨handle, attributes, hhandle, hattributes, rfl⟩ := openObject_ok h
    exact Or.inr ⟨s, hs, handle, attributes, hhandle, hattributes, Or.inl rfl⟩
  | module hs h =>
    obtain ⟨slot, s', attributes, hfind, hattributes, rfl⟩ := openModule_ok h
    exact Or.inr ⟨s', hrequest hs hfind, ⟨.module, slot.oid⟩, attributes, rfl, hattributes,
      Or.inr ⟨_, rfl⟩⟩
  | @interface s hs kind _ _ _ h =>
    obtain ⟨slot, s', oid, attributes, hfind, hattributes, rfl⟩ := openInterface_ok h
    exact Or.inr ⟨s', hrequest hs hfind, ⟨.interface kind, oid⟩, attributes, rfl, hattributes,
      Or.inl rfl⟩

/-- **The commands of a context** are `quit`, those at the root, those on the attributes that the
daemon tells, and those that enter interfaces. -/
theorem Opened.mem_cases {d : Daemon σ} {I : σ → Prop} (hlist : Keeps (Preserves I) d.list)
    {c : Context} (h : c.Opened d I) {command : Command Question Handler}
    (hcommand : command ∈ c.table.commands) :
    command = quitCommand ∨ command ∈ rootCommands ∨
      (∃ s, I s ∧ ∃ handle attributes, (d.attributes handle.type s).1 = .ok attributes ∧
        command ∈ objectCommands handle attributes) ∨
      ∃ location, command ∈ interfaceCommands location := by
  rcases h.cases hlist with rfl | ⟨s, hs, handle, attributes, -, hattributes, hc⟩
  · rcases mem_addCommands hcommand with hbare | hroot
    · exact Or.inl (List.mem_singleton.1 hbare)
    · exact Or.inr (Or.inl hroot)
  · have hobject : c.IsOf handle attributes := ⟨c.scope, hc⟩
    rcases hobject.mem_cases hcommand with hquit | hmem | hinterface
    · exact Or.inl hquit
    · exact Or.inr (Or.inr (Or.inl ⟨s, hs, handle, attributes, hattributes, hmem⟩))
    · exact Or.inr (Or.inr (Or.inr hinterface))

end Context

/-- The context of the first host interface of the seed. -/
def hostContext : Context :=
  .object (.interface .host 0 3) ⟨.interface .host, 3⟩
    (Simulator.seedHost.map Declaration.toAttribute)

/-- The context is opened in the seed. -/
theorem hostContext_opened {I : Simulator → Prop} (h : I Simulator.seed) :
    hostContext.Opened Simulator.daemon I := by
  have hopen : (Context.openInterface Simulator.daemon .host "1" 0 Simulator.seed).1 =
      .ok hostContext := rfl
  exact .interface h hopen

end TransponderShell
