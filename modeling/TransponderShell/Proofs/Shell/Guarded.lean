import TransponderShell.Proofs.Command.Unasked
import TransponderShell.Proofs.Shell.Recorded
import TransponderShell.Proofs.Shell.Writing

/-!
# Which attributes a line may write

The shell does not check a name that is to be written: it goes by the words that it offers behind
`set`, which are the attributes that can be written (`Slots.mem_names_writing`). Where nothing is
offered any word may stand. So as long as an attribute can be written, a line writes attributes that
are declared and can be written, and otherwise it writes whatever name is typed
(`Shell.set_of_mem_callsOf`).

Nothing is assumed of the daemon, whose answers may change from one request to the next: the words
behind `set` are offered without a question.
-/

namespace TransponderShell

variable {σ ω : Type}

namespace Context

section IsOf

variable {c : Context} {handle : ObjectHandle} {attributes : List Attribute}

theorem IsOf.completerOf_set (h : c.IsOf handle attributes) :
    c.table.completerOf "set" =
      some (.slots (.writing (attributes.map Attribute.descriptor))) := by
  rw [CommandTable.completerOf, h.get?_set]
  rfl

/-- The only command that writes is named `set`, and it writes attributes of the object. -/
theorem IsOf.eq_of_set (h : c.IsOf handle attributes) {command : Command Question Handler}
    (hmem : command ∈ c.table.commands) {target : ObjectHandle}
    (hset : command.handler = .set target) : command.name = "set" ∧ target = handle := by
  rcases h.mem_cases hmem with rfl | hmem | ⟨location, hmem⟩
  · cases hset
  · simp only [objectCommands, List.mem_cons, List.not_mem_nil, or_false] at hmem
    rcases hmem with rfl | rfl | rfl | rfl | rfl
    · cases hset
    · cases hset
      exact ⟨rfl, rfl⟩
    · cases hset
    · cases hset
    · cases hset
  · obtain ⟨kind, -, rfl⟩ := List.mem_map.1 hmem
    cases hset

/-- **What is resolved to be written** is an attribute that can be written, or there is none and it
is what has been typed. -/
theorem IsOf.set_of_resolving (h : c.IsOf handle attributes) {d : Daemon σ} {line : Text} {s : σ}
    {r : Resolved Handler} (hr : (c.resolving d line s).1 = .ok r) {target : ObjectHandle}
    (hset : r.handler = .set target) :
    target = handle ∧ ∀ name values, r.arguments = name :: values →
      (∃ a ∈ attributes, a.readOnly = false ∧ a.name = name) ∨
        (∀ a ∈ attributes, a.readOnly = true) ∧ line.words[1]? = some name := by
  obtain ⟨command, hget, hhandler⟩ := get?_of_resolving hr
  obtain ⟨hname, htarget⟩ :=
    h.eq_of_set (List.mem_of_find?_eq_some hget) (hhandler.trans hset)
  have hcommand : r.command = "set" := (CommandTable.name_of_get? hget).symm.trans hname
  have hword : Text.IsWord "set" := by decide
  refine ⟨htarget, fun name values harguments => ?_⟩
  obtain ⟨hlength, hexpands⟩ := CommandTable.expands_of_resolve_slots (fun _ => []) hword
    h.completerOf_set (resolve_of_resolving hr) hcommand
  rw [harguments] at hlength hexpands
  obtain ⟨word, hword⟩ : ∃ word, line.words[1]? = some word :=
    ⟨_, List.getElem?_eq_getElem (by simp [← hlength])⟩
  -- the second word stands for one of the names that are offered behind `set`
  have hstands := hexpands 1 word name hword rfl
  have hoffered : c.table.following (fun _ => []) [("set" : Text)] =
      (Slots.writing (attributes.map Attribute.descriptor)).names :=
    CommandTable.following_command h.completerOf_set (by decide)
  rw [show List.take 1 _ = [("set" : Text)] from rfl, hoffered] at hstands
  rcases eq_or_ne (Slots.writing (attributes.map Attribute.descriptor)).names [] with hnone | hsome
  · refine Or.inr ⟨fun a ha => ?_, ?_⟩
    · by_contra hwrite
      have hmem := Slots.mem_names_writing.2 ⟨a, ha, by simpa using hwrite, rfl⟩
      rw [hnone] at hmem
      cases hmem
    · rcases hstands.eq_or_mem with rfl | ⟨hmem, -⟩
      · exact hword
      · rw [hnone] at hmem
        cases hmem
  · exact Or.inl (Slots.mem_names_writing.1 (hstands.mem hsome))

end IsOf

end Context

/-- Only `set` writes. -/
theorem Handler.eq_set_of_mayCall {handler : Handler} {target : ObjectHandle} {name value : Text}
    (h : handler.MayCall (.set target name value)) : handler = .set target := by
  cases handler <;> simp_all [MayCall]

namespace Shell

/-- What is entered last is where the shell stands. -/
theorem context_of_above {s : Shell σ ω} {c : Context} {rest : List Context}
    (h : s.above = c :: rest) : s.context = c := by
  rw [context, h, List.headD_cons]

/-- **A line writes only attributes that can be written**, whatever the daemon answers, in the
context of an object at least one of whose attributes can be written. If all of them are read-only,
or none is declared, what is written is named as it has been typed. -/
theorem set_of_mem_callsOf {t : Terminal σ ω} {s : Shell σ ω} {handle : ObjectHandle}
    {attributes : List Attribute} (hc : s.context.IsOf handle attributes) {line : Text}
    {target : ObjectHandle} {name value : Text} (h : .set target name value ∈ callsOf t line s) :
    target = handle ∧ ((∃ a ∈ attributes, a.readOnly = false ∧ a.name = name) ∨
      (∀ a ∈ attributes, a.readOnly = true) ∧ line.words[1]? = some name) := by
  rcases mem_callsOf h with hlist | ⟨⟨handler, command, arguments⟩, d, hresolve, hcall⟩
  · cases hlist
  obtain rfl : handler = .set target :=
    Handler.eq_set_of_mayCall (Handler.mayCall_of_mem_callsOf hcall)
  obtain ⟨htarget, hwrites⟩ := hc.set_of_resolving (congrArg Prod.fst hresolve) rfl
  refine ⟨htarget, ?_⟩
  cases arguments with
  | nil => cases hcall
  | cons first values =>
    rw [Handler.callsOf_set, List.mem_singleton] at hcall
    cases hcall
    exact hwrites name values rfl

theorem set_of_mem_callsOf_hostContext :
    let t : Terminal Simulator Text := ⟨Simulator.daemon, .unlimited, false⟩
    let s : Shell Simulator Text := { world := ⟨Simulator.seed, [], false⟩, above := [hostContext] }
    let attributes := Simulator.seedHost.map Declaration.toAttribute
    callsOf t "set fec r" s = [.set ⟨.interface .host, 3⟩ "fec-type" "rs"] ∧
      ∃ a ∈ attributes, a.readOnly = false ∧ a.name = "fec-type" := by
  intro t s attributes
  have hcalls : callsOf t "set fec r" s = [.set ⟨.interface .host, 3⟩ "fec-type" "rs"] := by
    decide +kernel
  have hcontext : s.context.IsOf ⟨.interface .host, 3⟩ attributes := by
    rw [context_of_above (s := s) rfl]
    exact ⟨.interface .host 0 3, Or.inl rfl⟩
  have hcall : .set ⟨.interface .host, 3⟩ "fec-type" "rs" ∈ callsOf t "set fec r" s := by
    rw [hcalls]
    exact List.mem_singleton_self _
  rcases (set_of_mem_callsOf hcontext hcall).2 with hwritable | ⟨hsealed, -⟩
  · exact ⟨hcalls, hwritable⟩
  · exact absurd hsealed (by decide +kernel)

/-- An attribute that can only be read. -/
def sealedAttribute : Attribute := ⟨1, "oper-status", true, "[unknown|ready]"⟩

/-- A shell that has entered the module of the seed when this is the only attribute of modules. -/
def sealedShell : Shell Simulator Text where
  world :=
    ⟨{ Simulator.seed with catalogue := { module := [{ sealedAttribute with }] } }, [], false⟩
  above := [(Context.object (.module "1" 1) ⟨.module, 1⟩ [sealedAttribute]).addCommands
    (Context.interfaceCommands "1")]

/-- A read-only attribute is written if there is none that can be written. -/
theorem callsOf_sealedShell :
    callsOf ⟨Simulator.daemon, .unlimited, false⟩ "set oper-status ready" sealedShell =
      [.set ⟨.module, 1⟩ "oper-status" "ready"] := by
  decide +kernel

/-- Not everything that a line writes is an attribute that can be written. -/
theorem not_set_of_mem_callsOf :
    ¬ ∀ (σ ω : Type) (t : Terminal σ ω) (s : Shell σ ω) (handle : ObjectHandle)
      (attributes : List Attribute), (∀ a ∈ attributes, Text.IsWord a.name) →
      s.context.IsOf handle attributes →
      ∀ (line : Text) (target : ObjectHandle) (name value : Text),
      .set target name value ∈ callsOf t line s →
      ∃ a ∈ attributes, a.readOnly = false ∧ a.name = name := by
  intro hguarded
  have hnames : ∀ a ∈ [sealedAttribute], Text.IsWord a.name := by decide
  have hcontext : sealedShell.context.IsOf ⟨.module, 1⟩ [sealedAttribute] := by
    rw [context_of_above (s := sealedShell) rfl]
    exact ⟨.module "1" 1, Or.inr ⟨"1", rfl⟩⟩
  have hcall : .set ⟨.module, 1⟩ "oper-status" "ready" ∈
      callsOf ⟨Simulator.daemon, .unlimited, false⟩ "set oper-status ready" sealedShell := by
    rw [callsOf_sealedShell]
    exact List.mem_singleton_self _
  obtain ⟨a, ha, hwritable, -⟩ := hguarded _ _ _ _ _ _ hnames hcontext _ _ _ _ hcall
  obtain rfl := List.mem_singleton.1 ha
  cases hwritable

end Shell

end TransponderShell
