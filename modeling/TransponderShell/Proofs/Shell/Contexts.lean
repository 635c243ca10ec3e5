import TransponderShell.Proofs.Command.Expansion
import TransponderShell.Proofs.Shell.Execute
import TransponderShell.Proofs.Simulator.Questions

/-!
# Contexts over the simulator

What is known of the contexts that the shell opens over the simulator.

* A command leads where its kind leads (`Handler.run_leads`). Only those that open something lead
  into a context (`Handler.cases_of_enter`), and what they open is the context of a created module
  or of an interface that is listed below one (`IsModule`, `IsInterface`).
* A line is carried out by a command of the table of the context (`Context.perform_cases`), and
  `Context.mem_object` and its like say which commands are in which table.
-/

namespace TransponderShell

variable {σ ω : Type}

/-! ## Commands in tables -/

namespace Context

theorem mem_addCommands {context : Context} {commands : List (Command Question Handler)}
    {c : Command Question Handler} (h : c ∈ (context.addCommands commands).table.commands) :
    c ∈ context.table.commands ∨ c ∈ commands := by
  induction commands generalizing context with
  | nil => exact Or.inl h
  | cons d rest ih =>
    have hrest : c ∈ ((context.addCommand d).addCommands rest).table.commands := h
    rcases ih hrest with h | h
    · rcases CommandTable.mem_insertCommand h with rfl | h
      · exact Or.inr (List.mem_cons_self ..)
      · exact Or.inl h
    · exact Or.inr (List.mem_cons_of_mem _ h)

/-- The commands in the context of an object. -/
theorem mem_object {scope : Scope} {handle : ObjectHandle} {attributes : List Attribute}
    {c : Command Question Handler} (h : c ∈ (object scope handle attributes).table.commands) :
    c = quitCommand ∨ c ∈ objectCommands handle attributes := by
  rcases mem_addCommands h with h | h
  · exact Or.inl (List.mem_singleton.1 h)
  · exact Or.inr h

end Context

/-! ## Where commands lead -/

/-- Where a command may lead. -/
def Handler.Leads : Handler → Outcome → Prop
  | quit, outcome => outcome = .leave
  | openModule, outcome => ∃ c, outcome = .enter c
  | openInterface _ _, outcome => ∃ c, outcome = .enter c
  | custom _ leaves, outcome => outcome = if leaves then .leave else .stay
  | _, outcome => outcome = .stay

namespace Handler

variable (t : Terminal σ ω)

theorem runList_stays (arguments : List Text) : Yields (· = .stay) (runList t arguments) := by
  unfold runList
  split
  · exact .bind _ fun _ => .bind _ fun _ => .pure rfl
  · exact .throw _

theorem runLogLevel_stays (arguments : List Text) :
    Yields (· = .stay) (runLogLevel t arguments) := by
  unfold runLogLevel
  split
  · exact .bind _ fun _ => .bind _ fun _ => .pure rfl
  · exact .bind _ fun _ => .bind _ fun _ => .bind _ fun _ => .pure rfl
  · exact .throw _

theorem createWith_stays (type : ObjectType) (oid : Nat) (arguments : List Text) :
    Yields (· = .stay) (createWith t type oid arguments) := by
  unfold createWith
  split
  · exact .throw _
  · exact .bind _ fun _ => .bind _ fun _ => .pure rfl

theorem runCreate_stays (arguments : List Text) : Yields (· = .stay) (runCreate t arguments) := by
  unfold runCreate
  split
  · exact .throw _
  · refine .bind _ fun type => ?_
    split
    · exact createWith_stays t _ _ _
    · exact .throw _
    · split
      · exact createWith_stays t _ _ _
      · exact .throw _

theorem runRemove_stays (arguments : List Text) : Yields (· = .stay) (runRemove t arguments) := by
  unfold runRemove
  split
  · split
    · exact .bind _ fun _ => .pure rfl
    · exact .throw _
  · exact .throw _

section Attributes

variable (object : ObjectHandle)

theorem runGet_stays (arguments : List Text) :
    Yields (· = .stay) (runGet t object arguments) := by
  unfold runGet
  split
  · exact .bind _ fun _ => .bind _ fun _ => .pure rfl
  · exact .throw _

theorem runSet_stays (arguments : List Text) :
    Yields (· = .stay) (runSet t object arguments) := by
  unfold runSet
  split
  · exact .bind _ fun _ => .pure rfl
  · exact .throw _

theorem runCapability_stays (arguments : List Text) :
    Yields (· = .stay) (runCapability t object arguments) := by
  unfold runCapability
  split
  · exact .bind _ fun _ => .bind _ fun _ => .pure rfl
  · exact .throw _

theorem runMonitor_stays (attributes : List Attribute) (arguments : List Text) :
    Yields (· = .stay) (runMonitor t object attributes arguments) := by
  have hfollow (name : Text) :
      Yields (· = .stay) (runMonitor.followWith t object attributes name) :=
    .bind _ fun _ => .bind _ fun _ => .pure rfl
  unfold runMonitor
  split
  · exact hfollow _
  · exact hfollow _
  · exact .throw _

theorem runListAttributes_stays (attributes : List Attribute) (arguments : List Text) :
    Yields (· = .stay) (runListAttributes t attributes arguments) := by
  unfold runListAttributes
  split
  · exact .bind _ fun _ => .pure rfl
  · split
    · exact .bind _ fun _ => .pure rfl
    · exact .throw _
  · exact .throw _

end Attributes

/-- **A command that succeeds leads where its kind leads.** -/
theorem run_leads (h : Handler) (arguments : List Text) : Yields h.Leads (h.run t arguments) := by
  cases h with
  | quit => exact .pure rfl
  | openModule =>
    simp only [run]
    unfold runOpenModule
    split
    · exact .bind _ fun c => .pure ⟨c, rfl⟩
    · exact .throw _
  | openInterface kind location =>
    simp only [run]
    unfold runOpenInterface
    split
    · split
      · exact .bind _ fun c => .pure ⟨c, rfl⟩
      · exact .throw _
    · exact .throw _
  | list => exact runList_stays t arguments
  | logLevel => exact runLogLevel_stays t arguments
  | create => exact runCreate_stays t arguments
  | remove => exact runRemove_stays t arguments
  | get object => exact runGet_stays t object arguments
  | set object => exact runSet_stays t object arguments
  | capability object => exact runCapability_stays t object arguments
  | monitor object attributes => exact runMonitor_stays t object attributes arguments
  | listAttributes attributes => exact runListAttributes_stays t attributes arguments
  | custom line leaves => exact .bind _ fun _ => .pure rfl

/-- What is entered has been opened. -/
theorem enter_of_onDaemon {x : ExceptT Failure (StateM σ) Context} {world : World σ ω}
    {c : Context}
    (h : ((Step.onDaemon x >>= fun c => pure (Outcome.enter c) : Step σ ω Outcome) world).1 =
      .ok (.enter c)) : (x world.daemon).1 = .ok c := by
  have hopen := Step.run_onDaemon x world
  rcases hx : x world.daemon with ⟨e | a, d⟩
  · rw [hx] at hopen
    rw [run_bind_error hopen] at h
    cases h
  · rw [hx] at hopen
    rw [run_bind_ok hopen] at h
    cases h
    rfl

/-- **A command that enters a context has opened it.** -/
theorem cases_of_enter {h : Handler} {arguments : List Text} {world : World σ ω} {c : Context}
    (henter : (h.run t arguments world).1 = .ok (.enter c)) :
    (h = openModule ∧ ∃ location,
      (Context.openModule t.daemon location world.daemon).1 = .ok c) ∨
    ∃ kind location index, h = openInterface kind location ∧
      (Context.openInterface t.daemon kind location index world.daemon).1 = .ok c := by
  have hleads := h.run_leads t arguments world _ henter
  cases h with
  | openModule =>
    refine Or.inl ⟨rfl, ?_⟩
    simp only [run, runOpenModule] at henter
    split at henter
    · exact ⟨_, enter_of_onDaemon henter⟩
    · cases henter
  | openInterface kind location =>
    refine Or.inr ⟨kind, location, ?_⟩
    match arguments, henter with
    | [index], henter =>
      simp only [run, runOpenInterface] at henter
      cases hindex : Numeral.read32? index with
      | none =>
        rw [hindex] at henter
        cases henter
      | some n =>
        rw [hindex] at henter
        exact ⟨n, rfl, enter_of_onDaemon henter⟩
    | [], henter => cases henter
    | _ :: _ :: _, henter => cases henter
  | custom line leaves => cases leaves <;> cases hleads
  | _ => cases hleads

end Handler

/-! ## Over the simulator -/

namespace Context

/-- The context of the module in a slot. -/
def IsModule (slot : Slot) (c : Context) : Prop :=
  ∃ attributes, c = (object (.module slot.location slot.oid) ⟨.module, slot.oid⟩
    attributes).addCommands (interfaceCommands slot.location)

/-- The context of an interface. -/
def IsInterface (kind : InterfaceKind) (i : InterfaceSummary) (c : Context) : Prop :=
  ∃ attributes, c = object (.interface kind i.index i.oid) ⟨.interface kind, i.oid⟩ attributes

end Context

namespace Simulator

/-- The module that is found at a location is in a slot there. -/
theorem findModule_cases (location : Text) (s : Simulator) :
    (∃ e, daemon.findModule location s = (.error e, s)) ∨
    ∃ slot ∈ s.slots, slot.location = location ∧ slot.oid ≠ 0 ∧
      daemon.findModule location s = (.ok slot.summary, s) := by
  have hlist : daemon.list s = (.ok (s.slots.map Slot.summary), s) := rfl
  have hrun : daemon.findModule location s =
      (Daemon.createdModule location (s.slots.map Slot.summary), s) := by
    unfold Daemon.findModule
    rw [run_bind_ok hlist]
    cases Daemon.createdModule location (s.slots.map Slot.summary) with
    | ok slot => rfl
    | error e => rfl
  rw [hrun, Daemon.createdModule, List.find?_map]
  cases hfind : s.slots.find? ((fun slot => slot.location = location) ∘ Slot.summary) with
  | none => exact Or.inl ⟨_, rfl⟩
  | some slot =>
    dsimp only [Option.map_some]
    split
    · exact Or.inl ⟨_, rfl⟩
    split
    · exact Or.inl ⟨_, rfl⟩
    rename_i hoid
    have hfound := List.find?_some hfind
    have hlocation : slot.location = location := of_decide_eq_true hfound
    exact Or.inr ⟨slot, List.mem_of_find?_eq_some hfind, hlocation, hoid, rfl⟩

/-- The simulator tells the attributes of every type. -/
theorem openObject_eq {scope : Scope} {handle : ObjectHandle} (h : scope.handle = some handle)
    (s : Simulator) : ∃ attributes,
      Context.openObject daemon scope s = (.ok (Context.object scope handle attributes), s) := by
  unfold Context.openObject
  rw [h]
  exact ⟨_, rfl⟩

/-- **Opening a module** fails, or gives the context of a module in a slot. -/
theorem openModule_cases (location : Text) (s : Simulator) :
    (∃ e, Context.openModule daemon location s = (.error e, s)) ∨
    ∃ slot ∈ s.slots, slot.oid ≠ 0 ∧ ∃ c, c.IsModule slot ∧
      Context.openModule daemon location s = (.ok c, s) := by
  unfold Context.openModule
  rcases findModule_cases location s with ⟨e, he⟩ | ⟨slot, hslot, rfl, hoid, hfind⟩
  · refine Or.inl ⟨.daemon e, run_bind_error ?_ _⟩
    rw [Context.run_request, he]
  · have hrequest : Context.request (daemon.findModule slot.location) .daemon s =
        (.ok slot.summary, s) := by
      rw [Context.run_request, hfind]
    obtain ⟨attributes, hopen⟩ :=
      openObject_eq (show (Scope.module slot.location slot.oid).handle = _ from rfl) s
    refine Or.inr ⟨slot, hslot, hoid, _, ⟨attributes, rfl⟩, ?_⟩
    rw [run_bind_ok hrequest]
    exact run_bind_ok hopen _

/-- **Opening an interface** fails, or gives the context of an interface that is listed below the
module in a slot at the location. -/
theorem openInterface_cases (kind : InterfaceKind) (location : Text) (index : Nat) (s : Simulator) :
    (∃ e, Context.openInterface daemon kind location index s = (.error e, s)) ∨
    ∃ slot ∈ s.slots, slot.location = location ∧ ∃ i ∈ slot.interfaces kind, ∃ c,
      c.IsInterface kind i ∧ Context.openInterface daemon kind location index s = (.ok c, s) := by
  unfold Context.openInterface
  rcases findModule_cases location s with ⟨e, he⟩ | ⟨slot, hslot, hlocation, -, hfind⟩
  · refine Or.inl ⟨.daemon e, run_bind_error ?_ _⟩
    rw [Context.run_request, he]
  · have hrequest : Context.request (daemon.findModule location) .daemon s =
        (.ok slot.summary, s) := by
      rw [Context.run_request, hfind]
    rw [run_bind_ok hrequest, Slot.interfaces_summary]
    cases hindex : (slot.interfaces kind).find? fun i => i.index = index with
    | none => exact Or.inl ⟨_, rfl⟩
    | some i =>
      obtain rfl : i.index = index := by simpa using List.find?_some hindex
      obtain ⟨attributes, hopen⟩ :=
        openObject_eq (show (Scope.interface kind i.index i.oid).handle = _ from rfl) s
      exact Or.inr ⟨slot, hslot, hlocation, i, List.mem_of_find?_eq_some hindex, _,
        ⟨attributes, rfl⟩, hopen⟩

/-- **A line** fails to resolve, or a command of the table is carried out. -/
theorem perform_cases (w : Writer ω) (json : Bool) (c : Context) (line : Text)
    (world : World Simulator ω) :
    (∃ e, c.perform ⟨daemon, w, json⟩ line world = (.error (.input e), world)) ∨
    ∃ command ∈ c.table.commands, ∃ arguments, c.perform ⟨daemon, w, json⟩ line world =
      command.handler.run ⟨daemon, w, json⟩ arguments world := by
  rw [Context.perform_eq, resolve_eq]
  match hresolve :
    (c.table.resolve (m := Id) (fun q => pure (world.daemon.answers q)) line).run with
  | .error e => exact Or.inl ⟨e, rfl⟩
  | .ok r =>
    obtain ⟨⟨command, hget, hhandler⟩, -⟩ := CommandTable.expands_of_resolve hresolve
    refine Or.inr ⟨command, List.mem_of_find?_eq_some hget, r.arguments, ?_⟩
    rw [← hhandler]

end Simulator

end TransponderShell
