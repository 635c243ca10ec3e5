import TransponderShell.Proofs.Shell.Calls
import TransponderShell.Proofs.Shell.Contexts

/-!
# Where the shell stands

A session is what lines, batches and scripts make of a shell that alone uses a simulator
(`Shell.Session`). Between any two lines of it `Shell.Placed` holds: the simulator is sound, and the
contexts above the root are those of a created module and of one of its interfaces.

`Shell.Placed.execute` is the step: only lines at the root create or remove objects, and there is no
context above it then; lines in a context keep the objects, and what they open is found in the slots
at that moment. `anchored_of_session` is the result: the shell never stands in an object that is not
there.
-/

namespace TransponderShell

open Simulator

variable {ω : Type}

/-! ## What commands do to the objects -/

namespace Handler

/-- Every command keeps a sound simulator sound. -/
theorem run_evolves (h : Handler) (w : Writer ω) (json : Bool) (arguments : List Text) :
    Keeps (OnDaemon (Evolves Slot.hardware)) (h.run ⟨daemon, w, json⟩ arguments) := by
  refine (run_makes ⟨daemon, w, json⟩ h arguments).mono fun world world' hrun => ?_
  have hdaemon : daemon.Run h.MayCall world.daemon world'.daemon := hrun
  exact Daemon.Run.keeps (R := Evolves Slot.hardware) (fun c _ s s' => makes_evolves) hdaemon

/-- Apart from `create` and `remove` every command keeps the objects. -/
theorem run_sameObjects {h : Handler} (hcreate : h ≠ create) (hremove : h ≠ remove)
    (w : Writer ω) (json : Bool) (arguments : List Text) :
    Keeps (OnDaemon SameObjects) (h.run ⟨daemon, w, json⟩ arguments) := by
  have hcalls : ∀ c, h.MayCall c → KeepsObjects c := by
    intro c hc
    cases h with
    | create => exact absurd rfl hcreate
    | remove => exact absurd rfl hremove
    | quit | listAttributes | custom => exact hc.elim
    | openModule | openInterface =>
      rcases hc with rfl | ⟨type, rfl⟩
      · trivial
      · trivial
    | list =>
      obtain rfl : c = .list := hc
      trivial
    | logLevel | get | set | monitor =>
      obtain ⟨_, _, rfl⟩ := hc
      trivial
    | capability =>
      obtain ⟨_, rfl⟩ := hc
      trivial
  refine (run_makes ⟨daemon, w, json⟩ h arguments).mono fun world world' hrun => ?_
  have hdaemon : daemon.Run h.MayCall world.daemon world'.daemon := hrun
  refine Daemon.Run.keeps (R := SameObjects) (fun c hc s s' hmakes => ?_) hdaemon
  exact makes_sameObjects (hcalls c hc) hmakes

/-- The commands on the attributes of an object, and leaving. -/
def AtObject : Handler → Prop
  | quit | get _ | set _ | capability _ | monitor _ _ | listAttributes _ => True
  | _ => False

theorem AtObject.ne_create {h : Handler} (hat : h.AtObject) : h ≠ create := by
  rintro rfl
  exact hat

theorem AtObject.ne_remove {h : Handler} (hat : h.AtObject) : h ≠ remove := by
  rintro rfl
  exact hat

/-- A command on attributes opens nothing. -/
theorem AtObject.run_ne_enter {σ : Type} {h : Handler} (hat : h.AtObject) (t : Terminal σ ω)
    (arguments : List Text) (world : World σ ω) (c : Context) :
    (h.run t arguments world).1 ≠ .ok (.enter c) := by
  intro henter
  rcases cases_of_enter t henter with ⟨rfl, -⟩ | ⟨kind, location, -, rfl, -⟩
  · exact hat.elim
  · exact hat.elim

end Handler

namespace Context

theorem atObject_of_mem_object {scope : Scope} {handle : ObjectHandle}
    {attributes : List Attribute} {c : Command Question Handler}
    (h : c ∈ (object scope handle attributes).table.commands) : c.handler.AtObject := by
  rcases mem_object h with rfl | h
  · trivial
  · simp only [objectCommands, List.mem_cons, List.not_mem_nil, or_false] at h
    rcases h with rfl | rfl | rfl | rfl | rfl
    all_goals trivial

/-- In a module there are also the commands that open its interfaces. -/
theorem IsModule.handler_of_mem {slot : Slot} {context : Context} (h : context.IsModule slot)
    {c : Command Question Handler} (hc : c ∈ context.table.commands) :
    c.handler.AtObject ∨ ∃ kind, c.handler = .openInterface kind slot.location := by
  obtain ⟨attributes, rfl⟩ := h
  rcases mem_addCommands hc with hc | hc
  · exact Or.inl (atObject_of_mem_object hc)
  · obtain ⟨kind, -, rfl⟩ := List.mem_map.1 hc
    exact Or.inr ⟨kind, rfl⟩

theorem IsInterface.handler_of_mem {kind : InterfaceKind} {i : InterfaceSummary}
    {context : Context} (h : context.IsInterface kind i) {c : Command Question Handler}
    (hc : c ∈ context.table.commands) : c.handler.AtObject := by
  obtain ⟨attributes, rfl⟩ := h
  exact atObject_of_mem_object hc

/-- At the root no command opens an interface. -/
theorem handler_of_mem_root {c : Command Question Handler} (hc : c ∈ root.table.commands)
    (kind : InterfaceKind) (location : Text) : c.handler ≠ .openInterface kind location := by
  rcases mem_addCommands hc with hc | hc
  · obtain rfl : c = quitCommand := List.mem_singleton.1 hc
    nofun
  · simp only [rootCommands, List.mem_cons, List.not_mem_nil, or_false] at hc
    rcases hc with rfl | rfl | rfl | rfl | rfl
    all_goals nofun

end Context

/-! ## The invariant -/

/-- The contexts above the root are those of a created module and of one of its interfaces. -/
inductive Above (slots : List Slot) : List Context → Prop
  | root : Above slots []
  | module {slot : Slot} (hslot : slot ∈ slots) (hoid : slot.oid ≠ 0) {c : Context}
    (hc : c.IsModule slot) : Above slots [c]
  | interface {slot : Slot} (hslot : slot ∈ slots) (hoid : slot.oid ≠ 0) {c : Context}
    (hc : c.IsModule slot) {kind : InterfaceKind} {i : InterfaceSummary}
    (hi : i ∈ slot.interfaces kind) {inner : Context} (hinner : inner.IsInterface kind i) :
    Above slots [inner, c]

namespace Above

variable {slots : List Slot} {above : List Context}

theorem tail (h : Above slots above) : Above slots above.tail := by
  cases h with
  | root => exact .root
  | module => exact .root
  | interface hslot hoid hc => exact .module hslot hoid hc

/-- Only entering a context needs a reason. -/
theorem move (h : Above slots above) {r : Except Failure Outcome}
    (henter : ∀ c, r = .ok (.enter c) → Above slots (c :: above)) :
    Above slots (Outcome.above r above) :=
  Outcome.above_of h h.tail henter

/-- What is opened at the root is the context of a created module. -/
theorem of_openModule {s : Simulator} {location : Text} {c : Context}
    (h : (Context.openModule daemon location s).1 = .ok c) : Above s.slots [c] := by
  rcases openModule_cases location s with ⟨e, he⟩ | ⟨slot, hslot, hoid, c', hc', hopen⟩
  · rw [he] at h
    cases h
  · rw [hopen] at h
    cases h
    exact .module hslot hoid hc'

/-- What is opened in a module is the context of one of its interfaces, as there is no other slot at
its location. -/
theorem of_openInterface {s : Simulator} (hsound : s.Sound) {slot : Slot} (hslot : slot ∈ s.slots)
    (hoid : slot.oid ≠ 0) {context : Context} (hcontext : context.IsModule slot)
    {kind : InterfaceKind} {index : Nat} {c : Context}
    (h : (Context.openInterface daemon kind slot.location index s).1 = .ok c) :
    Above s.slots [c, context] := by
  rcases openInterface_cases kind slot.location index s with
    ⟨e, he⟩ | ⟨slot', hslot', hlocation, i, hi, c', hc', hopen⟩
  · rw [he] at h
    cases h
  · rw [hopen] at h
    cases h
    obtain rfl : slot' = slot := hsound.slot_unique hslot' hslot hlocation
    exact .interface hslot hoid hcontext hi hc'

section Run

variable (w : Writer ω) (json : Bool) {world : World Simulator ω}

/-- A command on attributes stays, or it leaves. -/
theorem run_atObject (h : Above world.daemon.slots above) {handler : Handler}
    (hat : handler.AtObject) (arguments : List Text) :
    Above (handler.run ⟨daemon, w, json⟩ arguments world).2.daemon.slots
      (Outcome.above (handler.run ⟨daemon, w, json⟩ arguments world).1 above) := by
  have hsame := Handler.run_sameObjects hat.ne_create hat.ne_remove w json arguments world
  rw [hsame.slots]
  exact h.move fun c henter => absurd henter (hat.run_ne_enter _ arguments world c)

/-- **A command of the innermost context keeps the shell in place.** -/
theorem run (hsound : world.daemon.Sound) (h : Above world.daemon.slots above)
    {command : Command Question Handler}
    (hcommand : command ∈ (above.headD Context.root).table.commands) (arguments : List Text) :
    Above (command.handler.run ⟨daemon, w, json⟩ arguments world).2.daemon.slots
      (Outcome.above (command.handler.run ⟨daemon, w, json⟩ arguments world).1 above) := by
  have hsame (hcreate : command.handler ≠ .create) (hremove : command.handler ≠ .remove) :
      (command.handler.run ⟨daemon, w, json⟩ arguments world).2.daemon.slots =
        world.daemon.slots :=
    (Handler.run_sameObjects hcreate hremove w json arguments world).slots
  cases h with
  | root =>
    -- only here objects come and go, but nothing stands above
    refine move .root fun c henter => ?_
    rcases Handler.cases_of_enter _ henter with
      ⟨hopen, location, hc⟩ | ⟨kind, location, -, hopen, -⟩
    · rw [hsame (by rw [hopen]; nofun) (by rw [hopen]; nofun)]
      exact of_openModule hc
    · exact absurd hopen (Context.handler_of_mem_root hcommand kind location)
  | @module slot hslot hoid context hcontext =>
    have hmodule := Above.module hslot hoid hcontext
    rcases hcontext.handler_of_mem hcommand with hat | ⟨kind, hhandler⟩
    · exact hmodule.run_atObject w json hat arguments
    rw [hsame (by rw [hhandler]; nofun) (by rw [hhandler]; nofun)]
    refine hmodule.move fun c henter => ?_
    rcases Handler.cases_of_enter _ henter with ⟨hopen, -⟩ | ⟨kind', location, index, hopen, hc⟩
    · rw [hhandler] at hopen
      cases hopen
    · rw [hhandler] at hopen
      cases hopen
      exact of_openInterface hsound hslot hoid hcontext hc
  | interface hslot hoid hcontext hi hinner =>
    have hat := hinner.handler_of_mem hcommand
    exact (Above.interface hslot hoid hcontext hi hinner).run_atObject w json hat arguments

end Run

end Above

namespace Shell

/-- What holds of a shell over the simulator between two lines. -/
structure Placed (s : Shell Simulator ω) : Prop where
  sound : s.world.daemon.Sound
  root : s.root = Context.root
  above : Above s.world.daemon.slots s.above

/-- **A line keeps the shell in place.** -/
theorem Placed.execute (w : Writer ω) (json : Bool) {s : Shell Simulator ω} (h : s.Placed)
    (line : Text) : (execute ⟨daemon, w, json⟩ line s).2.Placed := by
  obtain ⟨hsound, hroot, habove⟩ := h
  obtain ⟨sink, hstate⟩ := state_execute ⟨daemon, w, json⟩ line s
  have hcontext : s.context = s.above.headD Context.root := by rw [context, hroot]
  rw [hstate]
  rcases perform_cases w json s.context line s.world with he | ⟨c, hc, arguments, hrun⟩
  · obtain ⟨e, he⟩ := he
    rw [he]
    exact ⟨hsound, hroot, habove⟩
  · rw [hcontext] at hc
    have hsound' := (c.handler.run_evolves w json arguments s.world hsound).1
    have habove' := habove.run w json hsound hc arguments
    rw [hrun]
    exact ⟨hsound', hroot, habove'⟩

/-! ## Sessions -/

/-- A shell that alone uses the daemon `d`, from the state `d₀` on. Each time it is given something
to carry out it is also given a writer; what is written to and the interrupt flag may have changed
in the meantime. The points inside a batch or a script are those after its lines. -/
inductive Session {σ : Type} (d : Daemon σ) (d₀ : σ) : Shell σ ω → Prop
  | start (sink : ω) : Session d d₀ (start d₀ sink)
  | line {s : Shell σ ω} (h : Session d d₀ s) (w : Writer ω) (json : Bool) (line : Text) :
    Session d d₀ (execute ⟨d, w, json⟩ line s).2
  | batch {s : Shell σ ω} (h : Session d d₀ s) (w : Writer ω) (json : Bool) (text : Text) :
    Session d d₀ (runBatch ⟨d, w, json⟩ text s).2
  | script {s : Shell σ ω} (h : Session d d₀ s) (w : Writer ω) (json : Bool) (script : Script) :
    Session d d₀ (runScript ⟨d, w, json⟩ script s).2
  | input {s : Shell σ ω} (h : Session d d₀ s) (w : Writer ω) (json : Bool) (input : Script) :
    Session d d₀ (runInput ⟨d, w, json⟩ input s).2
  | outside {s : Shell σ ω} (h : Session d d₀ s) (sink : ω) (interrupted : Bool) :
    Session d d₀ { s with world := { s.world with sink := sink, interrupted := interrupted } }

/-- **What each line keeps, a session keeps**, if it does not depend on what others do to the sink
and the interrupt flag. -/
theorem Session.keeps {σ : Type} {d : Daemon σ} {d₀ : σ} {P : Shell σ ω → Prop}
    {s : Shell σ ω} (h : Session d d₀ s) (hstart : ∀ sink, P (Shell.start d₀ sink))
    (hline : ∀ w json line s, P s → P (execute ⟨d, w, json⟩ line s).2)
    (houtside : ∀ (s : Shell σ ω) sink interrupted, P s →
      P { s with world := { s.world with sink := sink, interrupted := interrupted } }) : P s := by
  have hkeeps (w : Writer ω) (json : Bool) (line : Text) :
      Keeps (Preserves P) (execute ⟨d, w, json⟩ line) := fun s => hline w json line s
  induction h with
  | start sink => exact hstart sink
  | line _ w json line ih => exact hline w json line _ ih
  | batch _ w json text ih => exact runLines_keeps (hkeeps w json) _ _ ih
  | script _ w json script ih => exact runEach_keeps (hkeeps w json) _ _ _ ih
  | input _ w json input ih => exact runEach_keeps (hkeeps w json) _ _ _ ih
  | outside _ sink interrupted ih => exact houtside _ sink interrupted ih

/-- In a session the shell stays in place. -/
theorem Session.placed {s₀ : Simulator} (h₀ : Initial s₀) {s : Shell Simulator ω}
    (h : Session daemon s₀ s) : s.Placed :=
  h.keeps (fun _ => ⟨h₀.sound, rfl, .root⟩) (fun w json line _ hs => hs.execute w json line)
    fun _ _ _ hs => ⟨hs.sound, hs.root, hs.above⟩

end Shell

/-! ## What the daemon says of the contexts -/

namespace Simulator

/-- The daemon lists a slot. -/
def Lists (s : Simulator) (m : ModuleSummary) : Prop :=
  ∃ slots, (daemon.list s).1 = .ok slots ∧ m ∈ slots

/-- There is a live object of an id and a type. -/
def HasObject (s : Simulator) (oid : Nat) (type : ObjectType) : Prop :=
  ∃ object, s.object? oid = some object ∧ object.type = type

/-- Below the root there is at most a module as the daemon lists it, and below that at most one of
the interfaces that the daemon lists there. Both are live objects. -/
inductive Anchored (s : Simulator) : List Scope → Prop
  | root : Anchored s [.root]
  | module {m : ModuleSummary} (hm : s.Lists m) (hlive : s.HasObject m.oid .module) :
    Anchored s [.root, .module m.location m.oid]
  | interface {m : ModuleSummary} (hm : s.Lists m) (hlive : s.HasObject m.oid .module)
    {kind : InterfaceKind} {i : InterfaceSummary} (hi : i ∈ m.interfaces kind)
    (hlivei : s.HasObject i.oid (.interface kind)) :
    Anchored s [.root, .module m.location m.oid, .interface kind i.index i.oid]

theorem lists_summary {s : Simulator} {slot : Slot} (h : slot ∈ s.slots) : s.Lists slot.summary :=
  ⟨_, rfl, List.mem_map_of_mem h⟩

end Simulator

theorem Shell.Placed.anchored {s : Shell Simulator ω} (h : s.Placed) :
    Anchored s.world.daemon (s.contexts.map Context.scope) := by
  obtain ⟨hsound, hroot, habove⟩ := h
  have hcoherent := hsound.coherent
  rw [contexts, hroot]
  generalize s.above = above at habove ⊢
  cases habove with
  | root => exact .root
  | module hslot hoid hc =>
    obtain ⟨attributes, rfl⟩ := hc
    exact .module (lists_summary hslot) (hcoherent.module _ hslot hoid)
  | @interface slot hslot hoid _ hc kind i hi _ hinner =>
    obtain ⟨attributes, rfl⟩ := hc
    obtain ⟨attributes', rfl⟩ := hinner
    have hlisted : i ∈ slot.summary.interfaces kind := slot.interfaces_summary kind ▸ hi
    exact .interface (lists_summary hslot) (hcoherent.module _ hslot hoid) hlisted
      (hcoherent.interface _ hslot kind i hi)

/-- **The shell never stands in an object that is not there.** In every session with a simulator the
contexts are those of the root, of a module and of one of its interfaces, as the daemon lists them
at that moment, and these objects are live. -/
theorem anchored_of_session {s₀ : Simulator} (h₀ : Initial s₀) {s : Shell Simulator ω}
    (h : Shell.Session daemon s₀ s) :
    Anchored s.world.daemon (s.contexts.map Context.scope) :=
  (h.placed h₀).anchored

/-- A shell that has entered the network interface of the seed. -/
def enteredShell : Shell Simulator Text :=
  (Shell.runBatch ⟨daemon, .unlimited, false⟩ "module 1; netif 0" (Shell.start seed [])).2

theorem session_enteredShell : Shell.Session daemon seed enteredShell :=
  .batch (.start []) .unlimited false _

theorem anchored_enteredShell :
    enteredShell.contexts.map Context.scope =
      [.root, .module "1" 1, .interface .network 0 2] ∧
    Anchored enteredShell.world.daemon (enteredShell.contexts.map Context.scope) :=
  ⟨by decide +kernel, anchored_of_session .seed (.batch (.start []) .unlimited false _)⟩

end TransponderShell
