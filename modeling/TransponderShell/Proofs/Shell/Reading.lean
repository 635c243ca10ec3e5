import TransponderShell.Proofs.Shell.Failing
import TransponderShell.Proofs.Shell.Sessions
import TransponderShell.Proofs.Shell.Stack
import TransponderShell.Proofs.Shell.Writing
import TransponderShell.Proofs.Simulator.Freshness
import TransponderShell.Proofs.Simulator.Stored

/-!
# What can be read

A read is refused if the object is not live or the attribute is not declared, and it might be
refused because the object has no value (`readAttribute_cases`). That does not happen, since live
objects are stocked (`get_eq_ok_iff`).

In a session with a simulator, all contexts on the stack are opened over it (`Shell.Session.tracks`)
and their objects are live (`Above.hasObject`). So a line with `get` and the name of a declared
attribute shows a value in each of them. `reads_total` has both results.
-/

namespace TransponderShell

open Simulator

variable {ω : Type}

/-! ## Reading from the simulator -/

namespace Simulator

/-- An object is not found for one reason only. -/
theorem liveObject_eq_error {handle : ObjectHandle} {s : Simulator} {e : DaemonError}
    (h : (liveObject handle s).1 = .error e) : e = noObject handle.oid := by
  unfold liveObject at h
  rw [run_bind_ok (run_get s)] at h
  cases hobject : s.object? handle.oid with
  | none =>
    rw [hobject] at h
    cases h
    rfl
  | some object =>
    simp only [hobject] at h
    split at h
    · cases h
    · cases h
      rfl

/-- So it is with a declaration. -/
theorem declaration_eq_error {type : ObjectType} {name : Text} {s : Simulator} {e : DaemonError}
    (h : (declaration type name s).1 = .error e) :
    e = Status.unknownAttribute.refusal ("unknown attribute " ++ name) := by
  unfold declaration at h
  rw [run_bind_ok (run_get s)] at h
  cases hd : s.catalogue.find? type name with
  | none =>
    rw [hd] at h
    cases h
    rfl
  | some d =>
    rw [hd] at h
    cases h

/-- **A read** is granted, or the object is not live, or the attribute is not declared, or a live
object has no value of a declared attribute. -/
theorem readAttribute_cases (handle : ObjectHandle) (name : Text) (json : Bool) (s : Simulator) :
    (∃ value, (readAttribute handle name json s).1 = .ok value) ∨
    (readAttribute handle name json s).1 = .error (noObject handle.oid) ∨
    (readAttribute handle name json s).1 =
      .error (Status.unknownAttribute.refusal ("unknown attribute " ++ name)) ∨
    ∃ object d, s.object? handle.oid = some object ∧ object.type = handle.type ∧
      s.catalogue.find? handle.type name = some d ∧ object.values.get? name = none := by
  unfold readAttribute
  rw [run_bind_of_reads (liveObject_reads handle)]
  cases hobject : (liveObject handle s).1 with
  | error e => exact Or.inr (Or.inl (liveObject_eq_error hobject ▸ rfl))
  | ok object =>
    obtain ⟨hlive, htype⟩ := liveObject_eq_ok.1 hobject
    dsimp only
    rw [run_bind_of_reads (declaration_reads handle.type name)]
    cases hdeclared : (declaration handle.type name s).1 with
    | error e => exact Or.inr (Or.inr (Or.inl (declaration_eq_error hdeclared ▸ rfl)))
    | ok d =>
      dsimp only
      cases hvalue : object.values.get? name with
      | some value => exact Or.inl ⟨_, rfl⟩
      | none =>
        have hd := declaration_eq_ok.1 hdeclared
        exact Or.inr (Or.inr (Or.inr ⟨object, d, hlive, htype, hd, hvalue⟩))

/-- A declared attribute of a live object has a value. -/
theorem Stocked.exists_value {s : Simulator} (h : s.Stocked) {oid : Nat} {object : LiveObject}
    (hlive : s.object? oid = some object) {name : Text} {d : Declaration}
    (hd : s.catalogue.find? object.type name = some d) :
    ∃ value, object.values.get? name = some value := by
  obtain ⟨hdeclared, rfl⟩ := Catalogue.of_find? hd
  obtain ⟨value, hvalue, -⟩ := h oid object hlive d hdeclared
  exact ⟨value, hvalue⟩

/-- **A read is granted** exactly for declared attributes of live objects. -/
theorem Stocked.get_eq_ok_iff {s : Simulator} (h : s.Stocked) {handle : ObjectHandle} {name : Text}
    {json : Bool} : (∃ value, (daemon.get handle name json s).1 = .ok value) ↔
      s.HasObject handle.oid handle.type ∧ ∃ d ∈ s.catalogue.of handle.type, d.name = name := by
  constructor
  · rintro ⟨text, htext⟩
    obtain ⟨object, hlive, d, hd, -⟩ := readAttribute_eq_ok.1 htext
    exact ⟨⟨object, hlive⟩, Catalogue.exists_find?_iff.1 ⟨d, hd⟩⟩
  · rintro ⟨⟨object, hlive, htype⟩, hdeclared⟩
    obtain ⟨d, hd⟩ := Catalogue.exists_find?_iff.2 hdeclared
    obtain ⟨value, hvalue⟩ := h.exists_value hlive (htype ▸ hd)
    exact ⟨_, readAttribute_eq_ok.2 ⟨object, ⟨hlive, htype⟩, d, hd, value, hvalue, rfl⟩⟩

/-- No read is refused for want of a value. -/
theorem Stocked.get_supported {s : Simulator} (h : s.Stocked) (handle : ObjectHandle) (name : Text)
    (json : Bool) : ¬ RefusedWith Status.notSupported.code (daemon.get handle name json s).1 := by
  rintro ⟨message, hrefused⟩
  have hget : (readAttribute handle name json s).1 =
      .error (.status Status.notSupported.code message) := hrefused
  rcases readAttribute_cases handle name json s with
    ⟨value, hok⟩ | hno | hunknown | ⟨object, d, hlive, htype, hd, hnone⟩
  · rw [hok] at hget
    cases hget
  · rw [hno] at hget
    cases hget
  · rw [hunknown] at hget
    cases hget
  · obtain ⟨value, hvalue⟩ := h.exists_value hlive (htype ▸ hd)
    rw [hnone] at hvalue
    cases hvalue

end Simulator

/-! ## Lines that read -/

namespace Context

variable {c : Context} {handle handle' : ObjectHandle} {attributes attributes' : List Attribute}

/-- The context of an object has the command that reads. -/
theorem IsOf.get?_get (h : c.IsOf handle attributes) : c.table.get? "get" = some ⟨"get",
    .get handle, some (.slots (.reading (attributes.map Attribute.descriptor)))⟩ := by
  rcases h with ⟨scope, h | ⟨location, h⟩⟩
  · rw [h]
    rfl
  · rw [h]
    rfl

/-- It has the command that follows as well. -/
theorem IsOf.get?_monitor (h : c.IsOf handle attributes) : c.table.get? "monitor" = some ⟨"monitor",
    .monitor handle attributes,
    some (.slots (.following (attributes.map Attribute.descriptor)))⟩ := by
  rcases h with ⟨scope, h | ⟨location, h⟩⟩
  · rw [h]
    rfl
  · rw [h]
    rfl

/-- A context is made from one object and its attributes. -/
theorem IsOf.unique (h : c.IsOf handle attributes) (h' : c.IsOf handle' attributes') :
    handle = handle' ∧ attributes = attributes' := by
  have hsame := Option.some.inj (h.get?_monitor.symm.trans h'.get?_monitor)
  exact Handler.monitor.inj (congrArg Command.handler hsame)

theorem root_not_isOf : ¬ root.IsOf handle attributes := by
  intro h
  have hnone : root.table.get? "get" = none := rfl
  rw [h.get?_get] at hnone
  cases hnone

/-- What resolves to a command has its handler. -/
theorem handler_of_resolving {σ : Type} {d : Daemon σ} {line : Text} {s : σ} {r : Resolved Handler}
    (h : (c.resolving d line s).1 = .ok r) {command : Command Question Handler}
    (hget : c.table.get? r.command = some command) : r.handler = command.handler := by
  obtain ⟨found, hfound, hhandler⟩ := get?_of_resolving h
  obtain rfl : command = found := Option.some.inj (hget.symm.trans hfound)
  exact hhandler.symm

/-- Over the simulator, a line is resolved without a change. -/
theorem resolving_of_ok {line : Text} {s : Simulator} {r : Resolved Handler}
    (h : (c.resolving daemon line s).1 = .ok r) : c.resolving daemon line s = (.ok r, s) := by
  have hstate : (c.resolving daemon line s).2 = s := by rw [resolving_eq, resolve_eq]
  exact Prod.ext h hstate

theorem resolving_of_expands {line : Text} {s : Simulator} {name : Text} {arguments : List Text}
    (h : c.table.Expands s.answers line.words (name :: arguments))
    {command : Command Question Handler} (hget : c.table.get? name = some command) :
    (c.resolving daemon line s).1 = .ok ⟨command.handler, name, arguments⟩ := by
  rw [resolving_eq, resolve_eq, CommandTable.resolve_of_expands h hget]

/-- A line is resolved to what its words are expanded to. -/
theorem resolving_of_expand {line : Text} {s : Simulator} {typed : List Text}
    (hwords : line.words = typed) {name : Text} {arguments : List Text}
    (h : (c.table.expand (m := Id) (fun q => pure (s.answers q)) typed).run =
      .ok (name :: arguments))
    {command : Command Question Handler} (hget : c.table.get? name = some command) :
    (c.resolving daemon line s).1 = .ok ⟨command.handler, name, arguments⟩ := by
  subst hwords
  exact resolving_of_expands (CommandTable.expands_of_expand (fun _ => Text.mem_words) h) hget

/-- **A line that reads a value shows it.** -/
theorem perform_get {w : Writer ω} (hw : w.Reliable) {json : Bool} {line : Text}
    {world : World Simulator ω} {r : Resolved Handler}
    (hr : (c.resolving daemon line world.daemon).1 = .ok r) (hhandler : r.handler = .get handle)
    {name : Text} (harguments : r.arguments = [name]) {value : Text}
    (hget : (daemon.get handle name json world.daemon).1 = .ok value) :
    c.perform ⟨daemon, w, json⟩ line world =
      (.ok .stay, { world with sink := (w.line value world.sink).2 }) := by
  have hrequest : (Step.request (daemon.get handle name json) : Step Simulator ω Text) world =
      (.ok value, world) := by
    have hstate : (daemon.get handle name json world.daemon).2 = world.daemon :=
      (readAttribute_reads handle name json world.daemon).symm
    rw [Step.run_request, hget, hstate]
  have hperform := perform_of_resolved (t := ⟨daemon, w, json⟩) (resolving_of_ok hr)
  rw [hperform, hhandler, harguments]
  show (Step.request (daemon.get handle name json) >>= fun value => do
    Step.line w value
    return Outcome.stay) world = _
  rw [run_bind_ok hrequest, run_bind_ok (Step.line_eq hw value world), run_pure]

end Context

/-- So it does in the shell, which stays where it is. -/
theorem Shell.execute_get {w : Writer ω} (hw : w.Reliable) {json : Bool} {line : Text}
    {shell : Shell Simulator ω} {r : Resolved Handler}
    (hr : (shell.context.resolving daemon line shell.world.daemon).1 = .ok r)
    {handle : ObjectHandle} (hhandler : r.handler = .get handle)
    {name : Text} (harguments : r.arguments = [name]) {value : Text}
    (hget : (daemon.get handle name json shell.world.daemon).1 = .ok value) :
    execute ⟨daemon, w, json⟩ line shell = (.ok .continue,
      { shell with world := { shell.world with sink := (w.line value shell.world.sink).2 } }) := by
  have hline := Context.not_blank_of_resolving hr
  rw [execute_of_ok hline (Context.perform_get hw hr hhandler harguments hget), run_move]
  rfl

/-! ## Contexts in a session -/

namespace Shell

/-- The simulator has been reached, and what is above the root has been opened over it. -/
structure Tracks (s₀ : Simulator) (s : Shell Simulator ω) : Prop where
  reaches : Reaches s₀ s.world.daemon
  root : s.root = Context.root
  opened : ∀ c ∈ s.above, c.Opened daemon (Reaches s₀)

/-- A line opens contexts over the simulator as it is at that moment. -/
theorem Tracks.execute {s₀ : Simulator} {s : Shell Simulator ω} (h : s.Tracks s₀) (w : Writer ω)
    (json : Bool) (line : Text) : (execute ⟨daemon, w, json⟩ line s).2.Tracks s₀ := by
  obtain ⟨hreaches, hroot, hopened⟩ := h
  obtain ⟨sink, hstate⟩ := state_execute ⟨daemon, w, json⟩ line s
  rw [hstate]
  rcases perform_cases w json s.context line s.world with ⟨e, he⟩ | ⟨c, -, arguments, hrun⟩
  · rw [he]
    exact ⟨hreaches, hroot, hopened⟩
  rw [hrun]
  refine ⟨?_, hroot, ?_⟩
  · have hmakes := c.handler.run_makes ⟨daemon, w, json⟩ arguments s.world
    exact Relation.ReflTransGen.trans hreaches (reaches_of_run hmakes)
  · refine Outcome.above_of (P := fun above => ∀ c ∈ above, c.Opened daemon (Reaches s₀)) hopened
      (fun c hc => hopened c (List.mem_of_mem_tail hc)) fun entered henter c hc => ?_
    rcases List.mem_cons.1 hc with rfl | hc
    · rcases Handler.cases_of_enter _ henter with ⟨-, location, hopen⟩ | ⟨_, _, _, -, hopen⟩
      · exact .module hreaches hopen
      · exact .interface hreaches hopen
    · exact hopened c hc

/-- In a session all contexts are opened over the simulator as it has been. -/
theorem Session.tracks {s₀ : Simulator} {s : Shell Simulator ω} (h : Session daemon s₀ s) :
    s.Tracks s₀ :=
  h.keeps (fun _ => ⟨.refl, rfl, nofun⟩) (fun w json line _ hs => hs.execute w json line)
    fun _ _ _ hs => ⟨hs.reaches, hs.root, hs.opened⟩

theorem Tracks.context_opened {s₀ : Simulator} {s : Shell Simulator ω} (h : s.Tracks s₀) :
    s.context.Opened daemon (Reaches s₀) := by
  obtain ⟨-, hroot, hopened⟩ := h
  rcases s with ⟨world, root, _ | ⟨c, rest⟩⟩
  · obtain rfl : root = Context.root := hroot
    exact .root
  · exact hopened c (List.mem_cons_self ..)

end Shell

/-- The objects that a shell stands in are live. -/
theorem Above.hasObject {s : Simulator} (hs : s.Sound) {above : List Context}
    (h : Above s.slots above) {c : Context} (hc : c ∈ above) {handle : ObjectHandle}
    {attributes : List Attribute} (hof : c.IsOf handle attributes) :
    s.HasObject handle.oid handle.type := by
  have hmodule {slot : Slot} (hslot : slot ∈ s.slots) (hoid : slot.oid ≠ 0)
      (hc : c.IsModule slot) : s.HasObject handle.oid handle.type := by
    obtain ⟨told, hmade⟩ := hc
    have hmodule : c.IsOf ⟨.module, slot.oid⟩ told := ⟨_, Or.inr ⟨_, hmade⟩⟩
    obtain ⟨rfl, -⟩ := hof.unique hmodule
    exact hs.coherent.module slot hslot hoid
  cases h with
  | root => cases hc
  | module hslot hoid hcontext =>
    obtain rfl := List.mem_singleton.1 hc
    exact hmodule hslot hoid hcontext
  | @interface slot hslot hoid _ hcontext kind i hi _ hinner =>
    rcases List.mem_cons.1 hc with rfl | hc
    · obtain ⟨told, hmade⟩ := hinner
      have hinterface : c.IsOf ⟨.interface kind, i.oid⟩ told := ⟨_, Or.inl hmade⟩
      obtain ⟨rfl, -⟩ := hof.unique hinterface
      exact hs.coherent.interface slot hslot kind i hi
    · obtain rfl := List.mem_singleton.1 hc
      exact hmodule hslot hoid hcontext

/-- The attributes that a context goes by are those that are declared. -/
theorem Context.Opened.attributes_eq {s₀ : Simulator} {c : Context}
    (hc : c.Opened daemon (Reaches s₀)) {handle : ObjectHandle} {attributes : List Attribute}
    (hof : c.IsOf handle attributes) :
    attributes = (s₀.catalogue.of handle.type).map Declaration.toAttribute := by
  have hlist : Keeps (Preserves (Reaches s₀)) daemon.list := fun s hs => hs
  rcases hc.cases hlist with rfl | ⟨-, -, found, -, hfound, -, hcontext⟩
  · exact absurd hof Context.root_not_isOf
  · obtain ⟨rfl, rfl⟩ := hof.unique (hc.isOf hfound)
    rfl

/-- **Reads are total on live objects.** Of a simulator in any state that is reached, a read is
granted exactly for declared attributes of live objects, and never refused for want of a value. So
in a session, in each context of an object on the stack, a line with `get` and one of the attributes
of the context shows a value, if the writer never fails. -/
theorem reads_total :
    (∀ s₀ s, Initial s₀ → Reaches s₀ s → ∀ handle name json,
      ((∃ value, (daemon.get handle name json s).1 = .ok value) ↔
        s.HasObject handle.oid handle.type ∧ ∃ d ∈ s.catalogue.of handle.type, d.name = name) ∧
      ¬ RefusedWith Status.notSupported.code (daemon.get handle name json s).1) ∧
    ∀ (s₀ : Simulator) (shell : Shell Simulator ω), Initial s₀ → Shell.Session daemon s₀ shell →
      ∀ c ∈ shell.contexts, ∀ handle attributes, c.IsOf handle attributes →
      ∀ w : Writer ω, w.Reliable → ∀ json line r name,
        (c.resolving daemon line shell.world.daemon).1 = .ok r → r.command = "get" →
        r.arguments = [name] → name ∈ attributes.map Attribute.name →
        ∃ value, (daemon.get handle name json shell.world.daemon).1 = .ok value ∧
          c.perform ⟨daemon, w, json⟩ line shell.world =
            (.ok .stay, { shell.world with sink := (w.line value shell.world.sink).2 }) ∧
          (c = shell.context → Shell.execute ⟨daemon, w, json⟩ line shell = (.ok .continue,
            { shell with
              world := { shell.world with sink := (w.line value shell.world.sink).2 } })) := by
  refine ⟨fun s₀ s h₀ h handle name json => ?_, ?_⟩
  · have hstocked := h.stocked h₀
    exact ⟨hstocked.get_eq_ok_iff, hstocked.get_supported handle name json⟩
  intro s₀ shell h₀ h c hc handle attributes hof w hw json line r name hr hcommand harguments hname
  obtain ⟨hreaches, -, hopened⟩ := h.tracks
  obtain ⟨hsound, hroot, habove⟩ := h.placed h₀
  have hmem : c ∈ shell.above := by
    rw [Shell.contexts, List.mem_cons, List.mem_reverse, hroot] at hc
    exact hc.resolve_left fun hc => Context.root_not_isOf (hc ▸ hof)
  have hlive := habove.hasObject hsound hmem hof
  have hdeclared : ∃ d ∈ shell.world.daemon.catalogue.of handle.type, d.name = name := by
    rw [(hopened c hmem).attributes_eq hof] at hname
    rw [hreaches.catalogue_eq]
    simpa using hname
  obtain ⟨value, hget⟩ : ∃ value, (daemon.get handle name json shell.world.daemon).1 = .ok value :=
    (hreaches.stocked h₀).get_eq_ok_iff.2 ⟨hlive, hdeclared⟩
  have hhandler := Context.handler_of_resolving hr (hcommand ▸ hof.get?_get)
  refine ⟨value, hget, Context.perform_get hw hr hhandler harguments hget, ?_⟩
  rintro rfl
  exact Shell.execute_get hw hr hhandler harguments hget

theorem Shell.context_mem_contexts {σ : Type} (s : Shell σ ω) : s.context ∈ s.contexts := by
  rcases s with ⟨world, root, _ | ⟨c, rest⟩⟩
  · exact List.mem_cons_self ..
  · simp [context, contexts]

/-- In the network interface of the seed a value is shown. -/
theorem reads_total_enteredShell :
    let t : Terminal Simulator Text := ⟨daemon, .unlimited, true⟩
    let handle : ObjectHandle := ⟨.interface .network, 2⟩
    seed.HasObject handle.oid handle.type ∧
    ∃ value, (daemon.get handle "tx-enable" true enteredShell.world.daemon).1 = .ok value ∧
      Shell.execute t "get tx-en" enteredShell = (.ok .continue, { enteredShell with world :=
        { enteredShell.world with sink := (t.writer.line value enteredShell.world.sink).2 } }) := by
  intro t handle
  obtain ⟨hdaemon, hshell⟩ := @reads_total Text
  have hgranted : ∃ value, (daemon.get handle "tx-enable" true seed).1 = .ok value := ⟨_, rfl⟩
  have hlive := ((hdaemon seed seed .seed .refl handle "tx-enable" true).1.1 hgranted).1
  have hhandle : enteredShell.context.scope.handle = some handle := by decide +kernel
  have hof := session_enteredShell.tracks.context_opened.isOf hhandle
  have hwords : Text.words "get tx-en" = [("get" : Text), "tx-en"] := by decide
  have hexpand : (enteredShell.context.table.expand (m := Id)
      (fun q => pure (enteredShell.world.daemon.answers q)) [("get" : Text), "tx-en"]).run =
        .ok [("get" : Text), "tx-enable"] := by decide +kernel
  have hr := Context.resolving_of_expand hwords hexpand hof.get?_get
  have hname : "tx-enable".toList ∈ ((seed.catalogue.of handle.type).map
      Declaration.toAttribute).map Attribute.name := by decide +kernel
  obtain ⟨value, hget, -, hexecute⟩ := hshell seed enteredShell .seed session_enteredShell _
    enteredShell.context_mem_contexts _ _ hof .unlimited (fun _ _ => rfl) true _ _ _ hr rfl rfl
    hname
  exact ⟨hlive, value, hget, hexecute rfl⟩

end TransponderShell
