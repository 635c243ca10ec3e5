import TransponderShell.Proofs.Simulator.Catalogue
import TransponderShell.Proofs.Simulator.Seeding
import TransponderShell.Proofs.Text.ByteOrder

/-!
# The simulator that a fixture describes

`Fixture.Contradicts` lists the contradictions of a fixture: two attributes of one name, a value in
a notification that belongs to no attribute, no modules, and two modules at one location. The
sections of a fixture are read one after another, with a lemma each that says when this succeeds
(`exists_catalogueOf`, `exists_queueOf`, `sharedLocation?_inOrder_eq_none`). Making the modules
never fails, so there is no other reason for which a fixture is refused (`exists_ofFixture`).

`Fixture.Lists` says what the simulator lists otherwise. Neither depends on the order of the modules
(`ofFixture_perm`), and `ofFixture_lists` puts everything together.
-/

namespace TransponderShell

section Except

variable {ε α β : Type}

theorem bind_eq_ok {x : Except ε α} {f : α → Except ε β} {b : β} :
    (x >>= f) = .ok b ↔ ∃ a, x = .ok a ∧ f a = .ok b := by
  cases x <;> simp [bind, Except.bind]

/-- All elements of a list are mapped if each of them can be. -/
theorem exists_mapM {f : α → Except ε β} {l : List α} :
    (∃ bs, l.mapM f = .ok bs) ↔ ∀ a ∈ l, ∃ b, f a = .ok b := by
  induction l with
  | nil => exact iff_of_true ⟨[], rfl⟩ (List.forall_mem_nil _)
  | cons a rest ih =>
    rw [List.forall_mem_cons, ← ih]
    simp only [List.mapM_cons, bind_eq_ok]
    constructor
    · rintro ⟨_, b, hb, bs, hbs, -⟩
      exact ⟨⟨b, hb⟩, bs, hbs⟩
    · rintro ⟨⟨b, hb⟩, bs, hbs⟩
      exact ⟨b :: bs, b, hb, bs, hbs, rfl⟩

end Except

/-! ## Contradictions -/

/-- What tells an attribute from the others. -/
def FixtureAttribute.key (a : FixtureAttribute) : ObjectType × Text := (a.type, a.name)

namespace Fixture

/-- The attributes that a fixture declares are its own, or those of the seed if it has none. -/
def Declares (f : Fixture) (type : ObjectType) (name : Text) : Prop :=
  if f.attributes = [] then ∃ d ∈ Simulator.seedCatalogue.of type, d.name = name
  else (type, name) ∈ f.attributes.map FixtureAttribute.key

/-- The ways in which a fixture contradicts itself. -/
inductive Contradicts (f : Fixture) : Prop
  /-- A type has two attributes of one name. -/
  | attributes (h : ¬(f.attributes.map FixtureAttribute.key).Nodup)
  /-- A notification has a value without an id, and not under the name of an attribute either. -/
  | value {n : FixtureNotification} {v : FixtureValue} (hn : n ∈ f.notifications)
    (hv : v ∈ n.values) (hid : v.id = none)
    (hname : ∀ name, v.name = some name → ¬f.Declares n.type name)
  | empty (h : f.modules = [])
  /-- Two modules are at one location. -/
  | locations (h : ¬(f.modules.map FixtureModule.location).Nodup)

/-- What is listed of a transponder that a fixture describes. -/
structure Lists (f : Fixture) (slots : List ModuleSummary) : Prop where
  /-- There is one slot for each module. -/
  described : ∃ modules, modules.Perm f.modules ∧
    List.Forall₂ FixtureModule.Describes modules slots
  /-- The slots are in the order of their locations, byte by byte. -/
  ordered : slots.Pairwise fun a b => a.location.utf8 < b.location.utf8
  /-- The object ids are 1, 2, 3 and so on. -/
  oids : ∃ count, createdOids slots = List.range' 1 count

end Fixture

/-! ## Attributes -/

theorem Catalogue.find?_declare_eq_none {c : Catalogue} {type other : ObjectType} {d : Declaration}
    {name : Text} : (c.declare type d).find? other name = none ↔
      c.find? other name = none ∧ (other, name) ≠ (type, d.name) := by
  rw [find?, of_declare, List.find?_append, Option.or_eq_none_iff]
  refine and_congr_right fun _ => ?_
  by_cases htype : other = type
  · simp [htype, eq_comm]
  · simp [htype]

namespace Simulator

theorem declareAll_cons_of_none {c : Catalogue} {a : FixtureAttribute}
    (h : c.find? a.type a.name = none) (rest : List FixtureAttribute) :
    declareAll c (a :: rest) = declareAll (c.declare a.type a.toDeclaration) rest := by
  rw [declareAll, h]

/-- Attributes can be declared if their names are new and distinct. -/
theorem exists_declareAll {attributes : List FixtureAttribute} {c : Catalogue} :
    (∃ c', declareAll c attributes = .ok c') ↔
      (∀ a ∈ attributes, c.find? a.type a.name = none) ∧
        (attributes.map FixtureAttribute.key).Nodup := by
  induction attributes generalizing c with
  | nil => exact iff_of_true ⟨c, rfl⟩ ⟨List.forall_mem_nil _, List.nodup_nil⟩
  | cons a rest ih =>
    rw [List.forall_mem_cons, List.map_cons, List.nodup_cons]
    cases hfind : c.find? a.type a.name with
    | some d =>
      rw [declareAll, hfind]
      simp
    | none =>
      rw [declareAll_cons_of_none hfind, ih]
      simp only [Catalogue.find?_declare_eq_none, forall_and, and_assoc, true_and]
      refine and_congr_right fun _ => and_congr_left fun _ => ?_
      simp [FixtureAttribute.key]

/-- What is declared after that is what was declared before, and the attributes. -/
theorem find?_declareAll_eq_none {attributes : List FixtureAttribute} {c c' : Catalogue}
    (h : declareAll c attributes = .ok c') {type : ObjectType} {name : Text} :
    c'.find? type name = none ↔
      c.find? type name = none ∧ (type, name) ∉ attributes.map FixtureAttribute.key := by
  induction attributes generalizing c with
  | nil =>
    cases h
    simp
  | cons a rest ih =>
    cases hfind : c.find? a.type a.name with
    | some d =>
      rw [declareAll, hfind] at h
      cases h
    | none =>
      rw [declareAll_cons_of_none hfind] at h
      rw [ih h, Catalogue.find?_declare_eq_none, List.map_cons, List.mem_cons, not_or, and_assoc]
      rfl

variable {f : Fixture}

/-- The attributes of a fixture can be declared if they are distinct. -/
theorem exists_catalogueOf :
    (∃ c, catalogueOf f.attributes = .ok c) ↔
      (f.attributes.map FixtureAttribute.key).Nodup := by
  rw [catalogueOf]
  split
  · rename_i hempty
    rw [List.isEmpty_iff.1 hempty]
    exact iff_of_true ⟨_, rfl⟩ List.nodup_nil
  · rw [exists_declareAll]
    refine and_iff_right fun a _ => ?_
    rcases a.type with _ | ⟨_ | _⟩ <;> rfl

theorem find?_catalogueOf_eq_none {c : Catalogue} (h : catalogueOf f.attributes = .ok c)
    {type : ObjectType} {name : Text} : c.find? type name = none ↔ ¬f.Declares type name := by
  rw [catalogueOf] at h
  rw [Fixture.Declares]
  split at h
  · rename_i hempty
    cases h
    rw [if_pos (List.isEmpty_iff.1 hempty), Catalogue.find?, List.find?_eq_none]
    simp
  · rename_i hempty
    rw [if_neg fun hnil => hempty (List.isEmpty_iff.2 hnil), find?_declareAll_eq_none h]
    refine and_iff_right ?_
    rcases type with _ | ⟨_ | _⟩ <;> rfl

/-! ## Notifications -/

/-- A value needs an id, or the name of a declared attribute. -/
theorem exists_reportedValue {c : Catalogue} {type : ObjectType} {v : FixtureValue} :
    (∃ r, reportedValue c type v = .ok r) ↔
      (v.id = none → ∃ name, v.name = some name ∧ c.find? type name ≠ none) := by
  rw [reportedValue]
  cases v.id with
  | some id => simp
  | none =>
    cases v.name with
    | none => simp
    | some name => cases hfind : c.find? type name <;> simp [hfind]

theorem exists_queued {c : Catalogue} {n : FixtureNotification} :
    (∃ q, queued c n = .ok q) ↔ ∀ v ∈ n.values, ∃ r, reportedValue c n.type v = .ok r := by
  rw [← exists_mapM]
  simp only [queued, bind_eq_ok]
  constructor
  · rintro ⟨_, rs, hrs, -⟩
    exact ⟨rs, hrs⟩
  · rintro ⟨rs, hrs⟩
    exact ⟨_, rs, hrs, rfl⟩

theorem exists_queueOf {c : Catalogue} {notifications : List FixtureNotification} :
    (∃ queue, queueOf c notifications = .ok queue) ↔ ∀ n ∈ notifications, ∀ v ∈ n.values,
      v.id = none → ∃ name, v.name = some name ∧ c.find? n.type name ≠ none := by
  have hall : (∃ queue, notifications.mapM (queued c) = .ok queue) ↔
      ∀ n ∈ notifications, ∀ v ∈ n.values,
        v.id = none → ∃ name, v.name = some name ∧ c.find? n.type name ≠ none := by
    simp only [exists_mapM, exists_queued, exists_reportedValue]
  rw [← hall, queueOf]
  split
  · rename_i hempty
    rw [List.isEmpty_iff.1 hempty]
    exact iff_of_true ⟨_, rfl⟩ ⟨_, rfl⟩
  · rfl

/-! ## Modules -/

theorem inOrder_perm (modules : List FixtureModule) : (inOrder modules).Perm modules :=
  List.mergeSort_perm ..

/-- Neighbours at one location are looked for by the locations alone. -/
theorem sharedLocation?_congr {modules modules' : List FixtureModule}
    (h : modules.map FixtureModule.location = modules'.map FixtureModule.location) :
    sharedLocation? modules = sharedLocation? modules' := by
  induction modules generalizing modules' with
  | nil =>
    rw [List.map_nil, eq_comm, List.map_eq_nil_iff] at h
    rw [h]
  | cons a rest ih =>
    obtain ⟨a', rest', rfl, ha, hrest⟩ := List.map_eq_cons_iff.1 h.symm
    have hih := ih hrest.symm
    cases rest with
    | nil =>
      obtain rfl := List.map_eq_nil_iff.1 hrest
      rfl
    | cons b behind =>
      obtain ⟨b', behind', rfl, hb, -⟩ := List.map_eq_cons_iff.1 hrest
      rw [sharedLocation?, sharedLocation?, ha, hb, hih]

/-- Among distinct locations there are no neighbours at one location. -/
theorem sharedLocation?_eq_none_of_nodup {modules : List FixtureModule}
    (h : (modules.map FixtureModule.location).Nodup) : sharedLocation? modules = none := by
  induction modules with
  | nil => rfl
  | cons a rest ih =>
    cases rest with
    | nil => rfl
    | cons b behind =>
      obtain ⟨ha, hrest⟩ := List.nodup_cons.1 h
      have hab : a.location ≠ b.location := fun heq => ha (heq ▸ List.mem_cons_self ..)
      rw [sharedLocation?, if_neg hab, ih hrest]

/-- In order, two modules at one location are neighbours. -/
theorem sharedLocation?_inOrder_eq_none {modules : List FixtureModule} :
    sharedLocation? (inOrder modules) = none ↔ (modules.map FixtureModule.location).Nodup := by
  rw [← ((inOrder_perm modules).map FixtureModule.location).nodup_iff]
  constructor
  · intro hshared
    refine List.pairwise_map.2 ?_
    exact (pairwise_of_sharedLocation?_eq_none (pairwise_inOrder modules) hshared).imp And.right
  · exact sharedLocation?_eq_none_of_nodup

/-- The order does not matter for which locations come one after another. -/
theorem map_location_inOrder {modules modules' : List FixtureModule}
    (h : modules'.Perm modules) : (inOrder modules').map FixtureModule.location =
      (inOrder modules).map FixtureModule.location := by
  have hsorted (l : List FixtureModule) :
      ((inOrder l).map FixtureModule.location).Pairwise fun a b => Text.le a b = true :=
    List.pairwise_map.2 (pairwise_inOrder l)
  have hperm := ((inOrder_perm modules').trans h).trans (inOrder_perm modules).symm
  refine List.Perm.eq_of_pairwise (fun a b _ _ hab hba => ?_) (hsorted modules') (hsorted modules)
    (hperm.map FixtureModule.location)
  exact Text.le_antisymm hab hba

/-- Modules at distinct locations have one order. -/
theorem inOrder_eq_of_perm {modules modules' : List FixtureModule} (h : modules'.Perm modules)
    (hdistinct : (modules.map FixtureModule.location).Nodup) :
    inOrder modules' = inOrder modules := by
  have hperm := ((inOrder_perm modules').trans h).trans (inOrder_perm modules).symm
  refine List.Perm.eq_of_pairwise (fun a b ha hb hab hba => ?_) (pairwise_inOrder modules')
    (pairwise_inOrder modules) hperm
  have hmem {m : FixtureModule} (hm : m ∈ inOrder modules) : m ∈ modules :=
    (inOrder_perm modules).mem_iff.1 hm
  exact List.inj_on_of_nodup_map hdistinct (hmem (hperm.mem_iff.1 ha)) (hmem hb)
    (Text.le_antisymm hab hba)

/-! ## Setting up -/

/-- Once its sections have been read, a fixture is set up. -/
theorem createAll_inOrder {modules : List FixtureModule}
    (h : (modules.map FixtureModule.location).Nodup) (catalogue : Catalogue)
    (queue : List QueuedNotification) :
    ∃ s, createAll (inOrder modules)
        { catalogue := catalogue, slots := (inOrder modules).map slotOf, queue := queue } = .ok s ∧
      s.slots = seeded 1 (inOrder modules) := by
  have hlocations : (([] : List Slot).map Slot.location ++
      (inOrder modules).map FixtureModule.location).Nodup :=
    ((inOrder_perm modules).map FixtureModule.location).nodup_iff.2 h
  exact createAll_of_vacant rfl hlocations (List.forall_mem_nil _) Nat.one_pos

/-- **A fixture is set up unless it contradicts itself.** -/
theorem exists_ofFixture : (∃ s, ofFixture f = .ok s) ↔ ¬f.Contradicts := by
  simp only [ofFixture_eq_ok]
  constructor
  · rintro ⟨s, hmodules, c, queue, hc, hqueue, hshared, -⟩ hcontradicts
    cases hcontradicts with
    | attributes hkeys => exact hkeys (exists_catalogueOf.1 ⟨c, hc⟩)
    | value hn hv hid hname =>
      obtain ⟨name, hgiven, hfound⟩ := exists_queueOf.1 ⟨queue, hqueue⟩ _ hn _ hv hid
      exact hfound ((find?_catalogueOf_eq_none hc).2 (hname name hgiven))
    | empty hempty =>
      rw [hempty] at hmodules
      cases hmodules
    | locations hlocations => exact hlocations (sharedLocation?_inOrder_eq_none.1 hshared)
  · intro hnot
    have hmodules : f.modules.isEmpty = false := by
      rw [Bool.eq_false_iff]
      exact fun hempty => hnot (.empty (List.isEmpty_iff.1 hempty))
    have hlocations := not_not.1 fun h => hnot (.locations h)
    obtain ⟨c, hc⟩ := exists_catalogueOf.2 (not_not.1 fun h => hnot (.attributes h))
    obtain ⟨queue, hqueue⟩ : ∃ queue, queueOf c f.notifications = .ok queue := by
      refine exists_queueOf.2 fun n hn v hv hid => ?_
      by_contra hnone
      have hname : ∀ name, v.name = some name → ¬f.Declares n.type name :=
        fun name hgiven hdeclared =>
          hnone ⟨name, hgiven, fun hfind => (find?_catalogueOf_eq_none hc).1 hfind hdeclared⟩
      exact hnot (.value hn hv hid hname)
    obtain ⟨s, hrun, -⟩ := createAll_inOrder hlocations c queue
    exact ⟨s, hmodules, c, queue, hc, hqueue, sharedLocation?_inOrder_eq_none.2 hlocations, hrun⟩

/-- What is set up is listed as the fixture describes it. -/
theorem lists_of_ofFixture {s : Simulator} (h : ofFixture f = .ok s) :
    f.Lists (s.slots.map Slot.summary) := by
  obtain ⟨-, c, queue, -, -, hshared, hrun⟩ := ofFixture_eq_ok.1 h
  have hlocations := sharedLocation?_inOrder_eq_none.1 hshared
  obtain ⟨s', hrun', hslots⟩ := createAll_inOrder hlocations c queue
  obtain rfl : s = s' := Except.ok.inj (hrun.symm.trans hrun')
  rw [hslots]
  refine ⟨⟨inOrder f.modules, inOrder_perm f.modules, forall₂_seeded Nat.one_pos _⟩, ?_,
    createdOids_seeded Nat.one_pos _⟩
  rw [← hslots, List.pairwise_map]
  exact (Initial.fixture h).sound.coherent.ordered.imp Text.utf8_lt_iff.2

/-- The order of the modules does not matter. -/
theorem ofFixture_perm {modules : List FixtureModule} (h : modules.Perm f.modules) :
    ofFixture { f with modules := modules } = ofFixture f := by
  have hempty : modules.isEmpty = f.modules.isEmpty := h.isEmpty_eq
  have hshared : sharedLocation? (inOrder modules) = sharedLocation? (inOrder f.modules) :=
    sharedLocation?_congr (map_location_inOrder h)
  cases hfirst : sharedLocation? (inOrder f.modules) with
  | some location => simp only [ofFixture, hempty, hshared, hfirst]
  | none =>
    have horder := inOrder_eq_of_perm h (sharedLocation?_inOrder_eq_none.1 hfirst)
    simp only [ofFixture, hempty, horder]

/-- **A fixture that does not contradict itself is set up as it says**, and in every order of its
modules in the same way. -/
theorem ofFixture_lists (f : Fixture) :
    ((∃ e, ofFixture f = .error e) ↔ f.Contradicts) ∧
    (∀ s, ofFixture f = .ok s → ∃ slots, (daemon.list s).1 = .ok slots ∧ f.Lists slots) ∧
    ∀ modules, modules.Perm f.modules → ofFixture { f with modules := modules } = ofFixture f := by
  refine ⟨?_, fun s h => ⟨_, rfl, lists_of_ofFixture h⟩, fun modules h => ofFixture_perm h⟩
  have hverdict := exists_ofFixture (f := f)
  cases hrun : ofFixture f with
  | error e => simpa [hrun] using hverdict
  | ok s => simpa [hrun] using hverdict

/-- A module for slot 2 that is not made, and one for slot 1 that is. -/
def unordered : Fixture where
  modules := [⟨"2", true, false, 1, 2⟩, ⟨"1", true, true, 1, 2⟩]

theorem not_contradicts_unordered : ¬unordered.Contradicts := by
  intro hcontradicts
  cases hcontradicts with
  | attributes h => exact h (by decide)
  | value hn => cases hn
  | empty h => cases h
  | locations h => exact h (by decide)

theorem ofFixture_lists_unordered :
    (∃ e, ofFixture {} = .error e) ∧
    (∃ s slots, ofFixture unordered = .ok s ∧ (daemon.list s).1 = .ok slots ∧
      unordered.Lists slots) ∧
    ofFixture { unordered with modules := unordered.modules.reverse } = ofFixture unordered := by
  obtain ⟨hverdict, hlists, hperm⟩ := ofFixture_lists unordered
  refine ⟨(ofFixture_lists {}).1.2 (.empty rfl), ?_, hperm _ (List.reverse_perm _)⟩
  cases hrun : ofFixture unordered with
  | error e => exact absurd (hverdict.1 ⟨e, hrun⟩) not_contradicts_unordered
  | ok s =>
    obtain ⟨slots, hlist, hslots⟩ := hlists s hrun
    exact ⟨s, slots, rfl, hlist, hslots⟩

end Simulator

end TransponderShell
