import TransponderShell.Proofs.Simulator.Refusals
import TransponderShell.Proofs.Simulator.Runs

/-!
# Object ids are not used again

`Simulator.History s₀ ids s` says that the simulator, set up as `s₀`, has got to `s` and has handed
out the ids `ids` on the way, in this order.

* The counter of the ids never goes back, and what becomes live has an id from the counter on
  (`Advances`). All steps have this property (`Step.advances`): creating only adds objects
  (`create_grows`), removing only lets go of some.
* So the ids that are handed out ascend (`History.ascending`), and an id that has been let go is
  never live again (`object?_of_spent`). Every request for it is then refused (`gone_of_object?`).
-/

namespace TransponderShell.Simulator

/-- The ids of the live objects. -/
def oids (s : Simulator) : List Nat := s.objects.map Prod.fst

theorem oids_eq (s : Simulator) : s.oids = s.directory.map Prod.fst := by
  rw [oids, directory, List.map_map]
  rfl

theorem object?_eq_none_iff {s : Simulator} {oid : Nat} : s.object? oid = none ↔ oid ∉ s.oids := by
  simp only [object?, oids, List.lookup_eq_none_iff, List.mem_map, not_exists, not_and]
  constructor
  · intro h p hp heq
    simpa [heq] using h p hp
  · intro h p hp
    simpa using fun heq : oid = p.1 => h p hp heq.symm

/-! ## What becomes live -/

/-- The counter has not gone back, and what has become live has an id from the counter on. -/
structure Advances (s s' : Simulator) : Prop where
  next_le : s.nextOid ≤ s'.nextOid
  old : ∀ oid ∈ s'.oids, oid < s.nextOid → oid ∈ s.oids

instance : IsPreorder Simulator Advances where
  refl _ := ⟨Nat.le_refl _, fun _ h _ => h⟩
  trans _ _ _ h h' := by
    refine ⟨Nat.le_trans h.next_le h'.next_le, fun oid hoid hlt => h.old oid ?_ hlt⟩
    exact h'.old oid hoid (Nat.lt_of_lt_of_le hlt h.next_le)

/-- Objects have been added at the end, with ids from the counter on. -/
structure Grows (s s' : Simulator) : Prop where
  next_le : s.nextOid ≤ s'.nextOid
  added : ∃ new, s'.oids = s.oids ++ new ∧ ∀ oid ∈ new, s.nextOid ≤ oid

instance : IsPreorder Simulator Grows where
  refl s := ⟨Nat.le_refl _, [], (List.append_nil _).symm, nofun⟩
  trans s s' s'' h h' := by
    obtain ⟨hle, new, hnew, hge⟩ := h
    obtain ⟨hle', new', hnew', hge'⟩ := h'
    refine ⟨Nat.le_trans hle hle', new ++ new', by rw [hnew', hnew, List.append_assoc], ?_⟩
    intro oid hoid
    rcases List.mem_append.1 hoid with hoid | hoid
    · exact hge oid hoid
    · exact Nat.le_trans hle (hge' oid hoid)

theorem Grows.advances {s s' : Simulator} (h : Grows s s') : Advances s s' := by
  obtain ⟨hle, new, hnew, hge⟩ := h
  refine ⟨hle, fun oid hoid hlt => ?_⟩
  rw [hnew, List.mem_append] at hoid
  exact hoid.resolve_right fun hmem => Nat.not_lt.2 (hge oid hmem) hlt

/-- What keeps the live objects and the counter adds nothing. -/
theorem Grows.of_same {s s' : Simulator} (hdirectory : s'.directory = s.directory)
    (hnext : s'.nextOid = s.nextOid) : Grows s s' := by
  refine ⟨Nat.le_of_eq hnext.symm, [], ?_, nofun⟩
  rw [oids_eq, oids_eq, hdirectory, List.append_nil]

/-- One object has been added. -/
theorem Grows.of_append {s s' : Simulator} {type : ObjectType}
    (hdirectory : s'.directory = s.directory ++ [(s.nextOid, type)])
    (hnext : s'.nextOid = s.nextOid + 1) : Grows s s' := by
  refine ⟨by omega, [s.nextOid], ?_, by simp⟩
  rw [oids_eq, oids_eq, hdirectory, List.map_append]
  rfl

theorem spawn_grows (type : ObjectType) (pairs : List (Text × Text)) :
    Keeps Grows (spawn type pairs) := by
  intro s
  rcases spawn_cases type pairs s with ⟨e, he⟩ | ⟨s', hs', -, hdirectory, hnext⟩
  · rw [he]
    exact refl_of Grows s
  · rw [hs']
    exact .of_append hdirectory hnext

theorem attachInterface_grows (kind : InterfaceKind) (oid index : Nat)
    (pairs : List (Text × Text)) : Keeps Grows (attachInterface kind oid index pairs) := by
  intro s
  rcases attachInterface_cases kind oid index pairs s with
    ⟨e, he⟩ | ⟨_, _, _, s', hs', -, -, -, -, -, -, hdirectory, hnext⟩
  · rw [he]
    exact refl_of Grows s
  · rw [hs']
    exact .of_append hdirectory hnext

theorem furnish_grows (slot : Slot) (oid : Nat) : Keeps Grows (furnish slot oid) :=
  furnish_keeps (fun _ _ => .of_same (directory_updateValues ..) rfl)
    (fun _ _ _ => .of_same (directory_updateSlotAt ..) rfl)
    (fun kind index => attachInterface_grows kind oid index []) slot

/-- **Creating objects only adds some**, granted or refused. -/
theorem create_grows (type : ObjectType) (pairs : List (Text × Text)) (oid : Nat) :
    Keeps Grows (create type pairs oid) :=
  create_keeps (createModule_keeps (spawn_grows .module) furnish_grows) attachInterface_grows type
    pairs oid

/-- Removing only lets go of objects, granted or refused. -/
theorem remove_advances (oid : Nat) : Keeps Advances (remove oid) := by
  refine remove_keeps oid (fun _ _ => ⟨Nat.le_refl _, fun _ hid _ => hid⟩) fun s => ?_
  refine ⟨Nat.le_refl _, fun id hid _ => ?_⟩
  obtain ⟨p, hp, rfl⟩ := List.mem_map.1 hid
  exact List.mem_map_of_mem (List.mem_of_mem_filter hp)

theorem Step.advances {s s' : Simulator} (h : Step s s') : Advances s s' := by
  cases h with
  | push n => exact ⟨Nat.le_refl _, fun _ hid _ => hid⟩
  | @call c _ _ h =>
    rcases Classical.em (KeepsObjects c) with hc | hc
    · have hsame := makes_sameObjects hc h
      exact (Grows.of_same hsame.directory hsame.nextOid).advances
    · cases h with
      | create type pairs oid => exact (create_grows type pairs oid s).advances
      | remove oid => exact remove_advances oid s
      | _ => exact absurd trivial hc

theorem Reaches.advances {s s' : Simulator} (h : Reaches s s') : Advances s s' := by
  induction h with
  | refl => exact refl_of Advances s
  | tail _ hstep ih => exact trans_of Advances ih hstep.advances

/-! ## What is handed out -/

/-- The ids that are live now and were not live before. -/
def handed (s s' : Simulator) : List Nat := s'.oids.filter fun oid => oid ∉ s.oids

theorem mem_handed {s s' : Simulator} {oid : Nat} :
    oid ∈ s.handed s' ↔ oid ∈ s'.oids ∧ oid ∉ s.oids := by
  simp [handed]

theorem Sound.lt_nextOid {s : Simulator} (h : s.Sound) {oid : Nat} (hoid : oid ∈ s.oids) :
    oid < s.nextOid := by
  rw [oids_eq] at hoid
  obtain ⟨p, hp, rfl⟩ := List.mem_map.1 hoid
  exact h.lt_next p hp

theorem Sound.pos_oids {s : Simulator} (h : s.Sound) {oid : Nat} (hoid : oid ∈ s.oids) :
    0 < oid := by
  rw [oids_eq] at hoid
  obtain ⟨p, hp, rfl⟩ := List.mem_map.1 hoid
  exact h.pos p hp

theorem Sound.ascending_oids {s : Simulator} (h : s.Sound) : s.oids.Pairwise (· < ·) := by
  rw [oids_eq]
  exact h.ascending

/-- What is handed out is between the counters before and after. -/
theorem Advances.handed {s s' : Simulator} (h : Advances s s') (hsound' : s'.Sound) {oid : Nat}
    (hoid : oid ∈ s.handed s') : s.nextOid ≤ oid ∧ oid < s'.nextOid := by
  obtain ⟨hnew, hold⟩ := mem_handed.1 hoid
  exact ⟨Nat.le_of_not_lt fun hlt => hold (h.old oid hnew hlt), hsound'.lt_nextOid hnew⟩

/-- What a request returns is the next id, which is live from then on. -/
def HandsNext (x : Request Simulator Nat) : Prop :=
  ∀ s oid s', x s = (.ok oid, s') → oid = s.nextOid ∧ oid ∈ s'.oids

theorem HandsNext.throw (e : DaemonError) : HandsNext (throw e) := by
  intro s oid s' h
  cases h

theorem attachInterface_handsNext (kind : InterfaceKind) (oid index : Nat)
    (pairs : List (Text × Text)) : HandsNext (attachInterface kind oid index pairs) := by
  intro s new s' h
  rcases attachInterface_cases kind oid index pairs s with
    ⟨e, he⟩ | ⟨_, _, _, s₁, hs₁, -, -, -, -, -, -, hdirectory, -⟩
  · rw [he] at h
    cases h
  · rw [hs₁] at h
    cases h
    exact ⟨rfl, by simp [oids_eq, hdirectory]⟩

theorem createModule_handsNext (slot : Slot) (pairs : List (Text × Text)) :
    HandsNext (createModule slot pairs) := by
  intro s oid s' h
  rw [createModule_eq] at h
  generalize pairs.filter _ = own at h
  rcases spawn_cases .module own s with ⟨e, he⟩ | ⟨s₁, hspawn, -, hdirectory, -⟩
  · rw [run_bind_error he] at h
    cases h
  rw [run_bind_ok hspawn] at h
  have hyields : Yields (· = s.nextOid) (furnish slot s.nextOid) :=
    .bind _ fun _ => .bind _ fun _ => .bind _ fun _ => .bind _ fun _ => .pure rfl
  obtain rfl : oid = s.nextOid := hyields s₁ oid (congrArg Prod.fst h)
  obtain ⟨-, new, hnew, -⟩ := furnish_grows slot s.nextOid s₁
  rw [h, oids_eq s₁, hdirectory] at hnew
  exact ⟨rfl, by simp [hnew]⟩

/-- **A new object has the next id.** -/
theorem create_handsNext (type : ObjectType) (pairs : List (Text × Text)) (moduleOid : Nat) :
    HandsNext (create type pairs moduleOid) := by
  cases type with
  | interface kind =>
    unfold create
    dsimp only
    split
    · exact .throw _
    · exact attachInterface_handsNext kind moduleOid _ pairs
  | module =>
    intro s oid s' h
    rcases create_module_cases pairs moduleOid s with ⟨e, he⟩ | ⟨_, slot, _, -, -, -, -, -, hcreate⟩
    · rw [he] at h
      cases h
    · exact createModule_handsNext slot pairs s oid s' (hcreate ▸ h)

/-! ## The interfaces of a new module -/

/-- An interface with an id below the counter has been listed before, below the same module. -/
structure Attaches (s s' : Simulator) : Prop where
  next_le : s.nextOid ≤ s'.nextOid
  listed : ∀ slot' ∈ s'.slots, ∀ kind, ∀ i ∈ slot'.interfaces kind, i.oid < s.nextOid →
    ∃ slot ∈ s.slots, slot.oid = slot'.oid ∧ i ∈ slot.interfaces kind

instance : IsPreorder Simulator Attaches where
  refl _ := ⟨Nat.le_refl _, fun slot hslot _ _ hi _ => ⟨slot, hslot, rfl, hi⟩⟩
  trans _ _ _ h h' := by
    refine ⟨Nat.le_trans h.next_le h'.next_le, fun slot'' hslot'' kind i hi hlt => ?_⟩
    obtain ⟨slot', hslot', hoid', hi'⟩ :=
      h'.listed slot'' hslot'' kind i hi (Nat.lt_of_lt_of_le hlt h.next_le)
    obtain ⟨slot, hslot, hoid, hi⟩ := h.listed slot' hslot' kind i hi' hlt
    exact ⟨slot, hslot, hoid.trans hoid', hi⟩

/-- A side of a slot has one interface more, or stays as it is. -/
theorem mem_interfaces_attach {slot : Slot} {kind other : InterfaceKind} {i j : InterfaceSummary}
    (h : j ∈ (slot.attach kind i).interfaces other) :
    other = kind ∧ j = i ∨ j ∈ slot.interfaces other := by
  rcases eq_or_ne other kind with rfl | hother
  · rw [Slot.interfaces_attach_self, (Slot.insertInterface_perm _ _).mem_iff, List.mem_cons] at h
    exact h.imp_left fun hj => ⟨rfl, hj⟩
  · rw [Slot.interfaces_attach_of_ne slot hother] at h
    exact Or.inr h

theorem attachInterface_attaches (kind : InterfaceKind) (oid index : Nat)
    (pairs : List (Text × Text)) : Keeps Attaches (attachInterface kind oid index pairs) := by
  intro s
  rcases attachInterface_cases kind oid index pairs s with
    ⟨e, he⟩ | ⟨before, slot, behind, s', hs', hslots, -, -, -, -, hslots', -, hnext⟩
  · rw [he]
    exact refl_of Attaches s
  rw [hs']
  refine ⟨by dsimp only; omega, fun slot' hslot' other i hi hlt => ?_⟩
  dsimp only at hslot'
  rw [hslots', List.mem_append, List.mem_cons] at hslot'
  rcases hslot' with hslot' | rfl | hslot'
  · exact ⟨slot', by simp [hslots, hslot'], rfl, hi⟩
  · rcases mem_interfaces_attach hi with ⟨-, rfl⟩ | hi
    · exact absurd hlt (Nat.lt_irrefl _)
    · exact ⟨slot, by simp [hslots], (Slot.oid_attach ..).symm, hi⟩
  · exact ⟨slot', by simp [hslots, hslot'], rfl, hi⟩

/-- **The interfaces of a new module** have ids behind that of the module. -/
theorem create_module_interfaces {s : Simulator} (h : s.Sound) {pairs : List (Text × Text)}
    {moduleOid oid : Nat} {s' : Simulator}
    (hcreate : create .module pairs moduleOid s = (.ok oid, s')) :
    ∀ slot' ∈ s'.slots, slot'.oid = oid → ∀ kind, ∀ i ∈ slot'.interfaces kind, oid < i.oid := by
  obtain ⟨rfl, -⟩ := create_handsNext _ _ _ _ _ _ hcreate
  rcases create_module_cases pairs moduleOid s with
    ⟨e, he⟩ | ⟨before, slot, behind, hslots, hbefore, hoid, -, -, hmodule⟩
  · rw [he] at hcreate
    cases hcreate
  rw [hmodule, createModule_eq] at hcreate
  generalize pairs.filter _ = own at hcreate
  rcases spawn_cases .module own s with ⟨e, he⟩ | ⟨s₁, hspawn, hslots₁, -, hnext₁⟩
  · rw [run_bind_error he] at hcreate
    cases hcreate
  rw [run_bind_ok hspawn, furnish, run_bind_ok (run_modify ..), run_bind_ok (run_modify ..)]
    at hcreate
  generalize hs₂ : ((s₁.updateValues _ _).updateSlotAt _ _) = s₂ at hcreate
  have hslots₂ : s₂.slots = before ++ { slot with oid := s.nextOid } :: behind := by
    rw [← hs₂]
    exact slots_updateSlotAt _ (hslots₁.trans hslots) hbefore
  have hnext₂ : s₂.nextOid = s.nextOid + 1 := by
    rw [← hs₂]
    exact hnext₁
  have hattach : Keeps Attaches (attachSides slot s.nextOid) :=
    attachSides_keeps (fun kind index => attachInterface_attaches kind _ index []) slot
  have hlisted := (hattach s₂).listed
  rw [hcreate] at hlisted
  intro slot' hslot' hoid' kind i hi
  by_contra hge
  obtain ⟨old, hold, holdOid, hiold⟩ := hlisted slot' hslot' kind i hi (by omega)
  rw [hoid'] at holdOid
  rw [hslots₂, List.mem_append, List.mem_cons] at hold
  -- the module had no interfaces yet, and no other slot has its id
  rcases hold with hold | rfl | hold
  · exact h.oid_ne_next (by simp [hslots, hold]) holdOid
  · have hempty := (h.slot slot (by simp [hslots])).interfaces_of_vacant hoid kind
    have hnone : i ∈ slot.interfaces kind := hiold
    rw [hempty] at hnone
    cases hnone
  · exact h.oid_ne_next (by simp [hslots, hold]) holdOid

/-! ## Requests for what is gone -/

/-- A request has been refused with a status code. -/
def RefusedWith {α : Type} (code : Nat) (result : Except DaemonError α) : Prop :=
  ∃ message, result = .error (.status code message)

/-- All requests for an id are refused, as there is no object. -/
structure Gone (s : Simulator) (oid : Nat) : Prop where
  get : ∀ type name json, RefusedWith 7 (daemon.get ⟨type, oid⟩ name json s).1
  set : ∀ type name value, RefusedWith 7 (daemon.set ⟨type, oid⟩ name value s).1
  capability : ∀ type name, RefusedWith 7 (daemon.capability ⟨type, oid⟩ name s).1
  monitor : ∀ type name json {γ : Type} (r : Receiver γ) (g : γ),
    RefusedWith 7 ((daemon.monitor ⟨type, oid⟩ name json s).run r g).1
  remove : RefusedWith 7 (daemon.remove oid s).1

theorem gone_of_object? {s : Simulator} {oid : Nat} (h : s.object? oid = none) : s.Gone oid := by
  have hlive (type : ObjectType) : liveObject ⟨type, oid⟩ s = (.error (noObject oid), s) := by
    unfold liveObject
    rw [run_bind_ok (run_get s), h]
    rfl
  have hrefused {α : Type} {x : Request Simulator α} (hx : x s = (.error (noObject oid), s)) :
      RefusedWith 7 (x s).1 := ⟨_, congrArg Prod.fst hx⟩
  constructor
  · exact fun type name json => hrefused (run_bind_error (hlive type) _)
  · exact fun type name value => hrefused (run_bind_error (hlive type) _)
  · exact fun type name => hrefused (run_bind_error (hlive type) _)
  · intro type name json γ r g
    have hcheck : checkFollowed ⟨type, oid⟩ name s = (.error (noObject oid), s) :=
      run_bind_error (hlive type) _
    refine ⟨"object " ++ Oid.render oid ++ " not found", ?_⟩
    show ((follow ⟨type, oid⟩ name json s).run r g).1 = _
    rw [follow, hcheck]
    rfl
  · refine hrefused ?_
    show Simulator.remove oid s = _
    unfold Simulator.remove
    rw [run_bind_ok (run_get s), h]
    rfl

/-- An id below the counter that is not live will not be live again. -/
theorem object?_of_spent {s s' : Simulator} {oid : Nat} (hlt : oid < s.nextOid)
    (hnone : s.object? oid = none) (h : Reaches s s') : s'.object? oid = none := by
  rw [object?_eq_none_iff] at hnone ⊢
  exact fun hlive => hnone (h.advances.old oid hlive hlt)

/-- **What has been removed is gone for good.** -/
theorem gone_of_remove {s s' s'' : Simulator} (hs : s.Sound) {oid : Nat}
    (hremove : remove oid s = (.ok (), s')) (h : Reaches s' s'') : s''.Gone oid := by
  rcases remove_cases hs oid with ⟨e, he⟩ | ⟨s₁, hs₁, hlive, -, -, hobjects⟩
  · rw [he] at hremove
    cases hremove
  · rw [hs₁] at hremove
    cases hremove
    have hmem : oid ∈ s.oids := by
      by_contra hnone
      rw [object?_eq_none_iff.2 hnone] at hlive
      cases hlive
    have hadvances := remove_advances oid s
    rw [hs₁] at hadvances
    refine gone_of_object? (object?_of_spent ?_ ?_ h)
    · exact Nat.lt_of_lt_of_le (hs.lt_nextOid hmem) hadvances.next_le
    · rw [object?_of_filter hobjects, if_pos rfl]

/-! ## Histories -/

/-- The simulator has got from where it was set up to a state, and has handed out some ids so far,
in this order. -/
inductive History (s₀ : Simulator) : List Nat → Simulator → Prop
  | start : History s₀ s₀.oids s₀
  | step {ids : List Nat} {s s' : Simulator} (h : History s₀ ids s) (hstep : Step s s') :
    History s₀ (ids ++ s.handed s') s'

namespace History

variable {s₀ s : Simulator} {ids : List Nat}

theorem reaches (h : History s₀ ids s) : Reaches s₀ s := by
  induction h with
  | start => exact Relation.ReflTransGen.refl
  | step _ hstep ih => exact ih.tail hstep

theorem sound (h₀ : Initial s₀) (h : History s₀ ids s) : s.Sound :=
  (h.reaches.evolves h₀.sound).1

/-- All ids that have been handed out are below the counter. -/
theorem lt_nextOid (h₀ : Initial s₀) (h : History s₀ ids s) : ∀ oid ∈ ids, oid < s.nextOid := by
  induction h with
  | start => exact fun oid => h₀.sound.lt_nextOid
  | step h hstep ih =>
    intro oid hoid
    rcases List.mem_append.1 hoid with hoid | hoid
    · exact Nat.lt_of_lt_of_le (ih oid hoid) hstep.advances.next_le
    · exact (hstep.advances.handed ((h.step hstep).sound h₀) hoid).2

/-- **The ids that are handed out ascend.** -/
theorem ascending (h₀ : Initial s₀) (h : History s₀ ids s) : ids.Pairwise (· < ·) := by
  induction h with
  | start => exact h₀.sound.ascending_oids
  | step h hstep ih =>
    have hsound' := (h.step hstep).sound h₀
    refine List.pairwise_append.2 ⟨ih, hsound'.ascending_oids.filter _, fun old hold new hnew => ?_⟩
    have hlt := h.lt_nextOid h₀ old hold
    have hle := (hstep.advances.handed hsound' hnew).1
    omega

theorem pos (h₀ : Initial s₀) (h : History s₀ ids s) : ∀ oid ∈ ids, 0 < oid := by
  induction h with
  | start => exact fun oid => h₀.sound.pos_oids
  | step h hstep ih =>
    intro oid hoid
    rcases List.mem_append.1 hoid with hoid | hoid
    · exact ih oid hoid
    · exact ((h.step hstep).sound h₀).pos_oids (mem_handed.1 hoid).1

end History

/-- **Object ids are not used again.** At any moment of a run, the ids handed out so far ascend from
one on. What a request to create hands out is the id that it returns and those of the interfaces of
a new module, all of them behind those handed out before. Once an id has been removed, it is gone
for good, whatever happens. -/
theorem ids_not_reused {s₀ s : Simulator} {ids : List Nat} (h₀ : Initial s₀)
    (h : History s₀ ids s) :
    (ids.Pairwise (· < ·) ∧ ∀ oid ∈ ids, 0 < oid) ∧
    (∀ type pairs moduleOid oid s', create type pairs moduleOid s = (.ok oid, s') →
      oid ∈ s.handed s' ∧
      (type = .module → ∀ slot ∈ s'.slots, slot.oid = oid →
        ∀ kind, ∀ i ∈ slot.interfaces kind, i.oid ∈ s.handed s') ∧
      ∀ new ∈ s.handed s', 0 < new ∧ ∀ oid ∈ ids, oid < new) ∧
    ∀ oid s', remove oid s = (.ok (), s') → ∀ s'', Reaches s' s'' → s''.Gone oid := by
  have hsound := h.sound h₀
  refine ⟨⟨h.ascending h₀, h.pos h₀⟩, ?_, fun oid s' hremove s'' => gone_of_remove hsound hremove⟩
  intro type pairs moduleOid oid s' hcreate
  have hstep : Step s s' := by
    have hcall := Step.call (.create type pairs moduleOid s)
    rwa [show (daemon.create type pairs moduleOid s).2 = s' from congrArg Prod.snd hcreate] at hcall
  have hnext := h.step hstep
  have hnew {oid : Nat} (hle : s.nextOid ≤ oid) : oid ∉ s.oids := by
    intro hold
    have hlt := hsound.lt_nextOid hold
    omega
  obtain ⟨rfl, hlive⟩ := create_handsNext _ _ _ _ _ _ hcreate
  refine ⟨mem_handed.2 ⟨hlive, hnew (Nat.le_refl _)⟩, ?_, fun new hmem => ⟨?_, ?_⟩⟩
  · rintro rfl slot hslot hoid kind i hi
    refine mem_handed.2 ⟨?_, hnew (Nat.le_of_lt ?_)⟩
    · rw [oids_eq]
      exact List.mem_map_of_mem
        ((hnext.sound h₀).mem_directory hslot (Slot.mem_listing_interface hi))
    · exact create_module_interfaces hsound hcreate slot hslot hoid kind i hi
  · exact hnext.pos h₀ new (List.mem_append_right _ hmem)
  · intro old hold
    exact (List.pairwise_append.1 (hnext.ascending h₀)).2.2 old hold new hmem

theorem ids_not_reused_reattached :
    History seed [1, 2, 3, 4, 5] reattached ∧ [1, 2, 3, 4, 5].Pairwise (· < ·) ∧
      reattached.Gone 2 := by
  have hremove : Step seed (remove 2 seed).2 := Step.call (.remove 2 seed)
  have hcreate : Step (remove 2 seed).2 reattached := Step.call (.create _ _ 1 _)
  have hids : seed.oids ++ seed.handed (remove 2 seed).2 ++ (remove 2 seed).2.handed reattached =
      [1, 2, 3, 4, 5] := by decide +kernel
  have hhistory : History seed [1, 2, 3, 4, 5] reattached :=
    hids ▸ (History.start.step hremove).step hcreate
  obtain ⟨⟨hascending, -⟩, -, -⟩ := ids_not_reused .seed hhistory
  obtain ⟨-, -, hgone⟩ := ids_not_reused .seed History.start
  exact ⟨hhistory, hascending, hgone 2 _ rfl _ (Relation.ReflTransGen.single hcreate)⟩

end TransponderShell.Simulator
