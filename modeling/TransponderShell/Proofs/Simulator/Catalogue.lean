import TransponderShell.Proofs.Simulator.Runs

/-!
# The attributes that the simulator declares

The attributes of the types are declared when the simulator is set up, no two of a type under one
name (`Initial.distinct`), and no request changes them (`Reaches.catalogue_eq`). So in every state
that is reached a name tells the attribute (`Catalogue.find?_of_mem`).

A property that steps keep, while the attributes stay the same and the state sound, holds after
every run (`Reaches.invariant`). `readAttribute_eq_ok` and `writeAttribute_eq_ok` say which reads
and writes are granted.
-/

namespace TransponderShell

/-! ## Distinct names -/

namespace Catalogue

/-- No type declares two attributes of one name. -/
def Distinct (c : Catalogue) : Prop := ∀ type, ((c.of type).map fun d => d.name).Nodup

/-- Without two of one name, every attribute is found under its name. -/
theorem find?_of_mem {c : Catalogue} (h : c.Distinct) {type : ObjectType} {d : Declaration}
    (hd : d ∈ c.of type) : c.find? type d.name = some d := by
  obtain ⟨before, behind, hsplit⟩ := List.append_of_mem hd
  have hnodup := h type
  rw [hsplit, List.map_append, List.map_cons] at hnodup
  rw [find?, hsplit, List.find?_append]
  have hbefore : before.find? (fun e => e.name = d.name) = none := by
    rw [List.find?_eq_none]
    intro e he
    have hname : d.name ∉ before.map fun d => d.name := by
      intro hmem
      exact (List.nodup_append.1 hnodup).2.2 _ hmem _ (List.mem_cons_self ..) rfl
    simpa using fun heq : e.name = d.name => hname (heq ▸ List.mem_map_of_mem he)
  simp [hbefore]

/-- What is found under a name is declared with it. -/
theorem of_find? {c : Catalogue} {type : ObjectType} {name : Text} {d : Declaration}
    (h : c.find? type name = some d) : d ∈ c.of type ∧ d.name = name :=
  ⟨List.mem_of_find?_eq_some h, by simpa using List.find?_some h⟩

/-- A declared name is found. -/
theorem exists_find?_iff {c : Catalogue} {type : ObjectType} {name : Text} :
    (∃ d, c.find? type name = some d) ↔ ∃ d ∈ c.of type, d.name = name := by
  rw [← Option.isSome_iff_exists, find?, List.find?_isSome]
  simp

theorem of_declare (c : Catalogue) (type other : ObjectType) (d : Declaration) :
    (c.declare type d).of other = c.of other ++ if other = type then [d] else [] := by
  rcases type with _ | ⟨_ | _⟩ <;> rcases other with _ | ⟨_ | _⟩ <;> simp [declare, of]

/-- A new name keeps the names distinct. -/
theorem Distinct.declare {c : Catalogue} (h : c.Distinct) {type : ObjectType} {d : Declaration}
    (hnew : c.find? type d.name = none) : (c.declare type d).Distinct := by
  intro other
  rw [of_declare]
  split
  · rename_i heq
    subst heq
    rw [List.map_append, List.nodup_append]
    refine ⟨h other, by simp, fun name hname name' hname' hsame => ?_⟩
    obtain ⟨e, he, rfl⟩ := List.mem_map.1 hname
    have hd : name' = d.name := by simpa using hname'
    have hother := List.find?_eq_none.1 hnew e he
    exact hother (by simpa [hd] using hsame)
  · simpa using h other

end Catalogue

namespace Simulator

/-- The attributes of a fixture have distinct names. -/
theorem declareAll_distinct {attributes : List FixtureAttribute} {c c' : Catalogue}
    (hc : c.Distinct) (h : declareAll c attributes = .ok c') : c'.Distinct := by
  induction attributes generalizing c with
  | nil =>
    cases h
    exact hc
  | cons a rest ih =>
    rw [declareAll] at h
    cases hfind : c.find? a.type a.name with
    | some _ =>
      rw [hfind] at h
      cases h
    | none =>
      rw [hfind] at h
      exact ih (hc.declare hfind) h

theorem seedCatalogue_distinct : seedCatalogue.Distinct := by
  have h : ∀ type ∈ ObjectType.all, ((seedCatalogue.of type).map fun d => d.name).Nodup := by decide
  exact fun type => h type type.mem_all

theorem catalogueOf_distinct {attributes : List FixtureAttribute} {c : Catalogue}
    (h : catalogueOf attributes = .ok c) : c.Distinct := by
  unfold catalogueOf at h
  split at h
  · cases h
    exact seedCatalogue_distinct
  · refine declareAll_distinct (fun type => ?_) h
    rcases type with _ | ⟨_ | _⟩ <;> exact List.nodup_nil

/-! ## No request changes what is declared -/

/-- No more than the slots, the live objects and the counter have changed. -/
structure OnlyObjects (s s' : Simulator) : Prop where
  catalogue : s'.catalogue = s.catalogue
  queue : s'.queue = s.queue
  logLevel : s'.logLevel = s.logLevel

instance : IsPreorder Simulator OnlyObjects where
  refl _ := ⟨rfl, rfl, rfl⟩
  trans _ _ _ h h' :=
    ⟨h'.catalogue.trans h.catalogue, h'.queue.trans h.queue, h'.logLevel.trans h.logLevel⟩

theorem OnlyObjects.eq {s s' : Simulator} (h : OnlyObjects s s') :
    s' = { s with slots := s'.slots, objects := s'.objects, nextOid := s'.nextOid } := by
  cases s'
  simp [← h.catalogue, ← h.queue, ← h.logLevel]

theorem spawn_onlyObjects (type : ObjectType) (pairs : List (Text × Text)) :
    Keeps OnlyObjects (spawn type pairs) := by
  have hchecked : Keeps OnlyObjects (checkValues type pairs) := by
    refine (checkValues_reads type pairs).mono ?_
    rintro s _ rfl
    exact refl_of OnlyObjects s
  refine hchecked.bind fun _ => Keeps.get.bind fun s => ?_
  exact Keeps.bind (Keeps.modify fun _ => ⟨rfl, rfl, rfl⟩) fun _ => Keeps.pure _

theorem attachInterface_onlyObjects (kind : InterfaceKind) (oid index : Nat)
    (pairs : List (Text × Text)) : Keeps OnlyObjects (attachInterface kind oid index pairs) := by
  refine Keeps.get.bind fun s => ?_
  split
  · exact Keeps.throw _
  dsimp only
  split
  · exact Keeps.throw _
  split
  · exact Keeps.throw _
  refine (spawn_onlyObjects _ _).bind fun _ => ?_
  refine Keeps.bind (Keeps.modify fun _ => ⟨rfl, rfl, rfl⟩) fun _ => ?_
  exact Keeps.bind (Keeps.modify fun _ => ⟨rfl, rfl, rfl⟩) fun _ => Keeps.pure _

theorem createModule_onlyObjects (slot : Slot) (pairs : List (Text × Text)) :
    Keeps OnlyObjects (createModule slot pairs) := by
  refine createModule_keeps (spawn_onlyObjects .module) (fun slot oid => ?_) slot pairs
  exact furnish_keeps (fun _ _ => ⟨rfl, rfl, rfl⟩) (fun _ _ _ => ⟨rfl, rfl, rfl⟩)
    (fun kind index => attachInterface_onlyObjects kind oid index []) slot

/-- Creating changes no more than the objects and their slots, granted or refused. -/
theorem create_onlyObjects (type : ObjectType) (pairs : List (Text × Text)) (oid : Nat) :
    Keeps OnlyObjects (create type pairs oid) :=
  create_keeps createModule_onlyObjects attachInterface_onlyObjects type pairs oid

/-- Removing changes no more than the objects and their slots, granted or refused. -/
theorem remove_onlyObjects (oid : Nat) : Keeps OnlyObjects (remove oid) :=
  remove_keeps oid (fun _ _ => ⟨rfl, rfl, rfl⟩) fun _ => ⟨rfl, rfl, rfl⟩

/-- The same attributes are declared. -/
def SameCatalogue (s s' : Simulator) : Prop := s'.catalogue = s.catalogue

instance : IsPreorder Simulator SameCatalogue where
  refl _ := rfl
  trans _ _ _ h h' := h'.trans h

theorem writeAttribute_sameCatalogue (handle : ObjectHandle) (name value : Text) :
    Keeps SameCatalogue (writeAttribute handle name value) := by
  intro s
  rcases writeAttribute_cases handle name value s with ⟨e, he⟩ | hset
  · rw [he]
    rfl
  · rw [hset]
    rfl

theorem Step.sameCatalogue {s s' : Simulator} (h : Step s s') : SameCatalogue s s' := by
  rcases h.cases with ⟨_, _, rfl⟩ | ⟨handle, name, value, rfl⟩ | ⟨type, pairs, oid, rfl⟩ |
    ⟨oid, rfl⟩
  · rfl
  · exact writeAttribute_sameCatalogue handle name value s
  · exact (create_onlyObjects type pairs oid s).catalogue
  · exact (remove_onlyObjects oid s).catalogue

/-- **A run declares nothing.** -/
theorem Reaches.catalogue_eq {s s' : Simulator} (h : Reaches s s') :
    s'.catalogue = s.catalogue := by
  induction h with
  | refl => rfl
  | tail _ hstep ih => exact hstep.sameCatalogue.trans ih

/-- What every step of a run keeps holds at its end. The states in between are sound and declare
the same attributes. -/
theorem Reaches.invariant {P : Simulator → Prop} {s s' : Simulator} (h : Reaches s s')
    (hs : s.Sound) (hP : P s)
    (hstep : ∀ {s₁ s₂}, Reaches s s₁ → s₁.Sound → s₁.catalogue = s.catalogue → Step s₁ s₂ →
      P s₁ → P s₂) : P s' := by
  induction h with
  | refl => exact hP
  | @tail s₁ s₂ hreach hlast ih =>
    have hreach : Reaches s s₁ := hreach
    exact hstep hreach (hreach.evolves hs).1 hreach.catalogue_eq hlast ih

/-- What making a module keeps, making all modules of a fixture keeps. -/
theorem createAll_keeps {R : Simulator → Simulator → Prop} [IsPreorder Simulator R]
    (hmodule : ∀ slot, Keeps R (createModule slot [])) {modules : List FixtureModule}
    {s s' : Simulator} (h : createAll modules s = .ok s') : R s s' := by
  induction modules generalizing s with
  | nil =>
    cases h
    exact refl_of R _
  | cons m rest ih =>
    rw [createAll] at h
    split at h
    · have hkept := hmodule (slotOf m) s
      rcases hmade : createModule (slotOf m) [] s with ⟨_ | _, s₁⟩
      · rw [hmade] at h
        cases h
      · rw [hmade] at h hkept
        exact trans_of R hkept (ih h)
    · exact ih h

theorem createAll_sameCatalogue {modules : List FixtureModule} {s s' : Simulator}
    (h : createAll modules s = .ok s') : SameCatalogue s s' :=
  createAll_keeps (fun slot s => (createModule_onlyObjects slot [] s).catalogue) h

theorem catalogue_seed : seed.catalogue = seedCatalogue :=
  (createModule_onlyObjects ⟨"1", true, 1, 2, 0, [], []⟩ [] unseeded).catalogue

/-- **What is set up has attributes of distinct names.** -/
theorem Initial.distinct {s : Simulator} (h : Initial s) : s.catalogue.Distinct := by
  cases h with
  | seed => exact catalogue_seed ▸ seedCatalogue_distinct
  | fixture h =>
    obtain ⟨-, catalogue, queue, hcatalogue, -, -, hrun⟩ := ofFixture_eq_ok.1 h
    exact createAll_sameCatalogue hrun ▸ catalogueOf_distinct hcatalogue

/-! ## Which reads and writes are granted -/

theorem liveObject_eq_ok {handle : ObjectHandle} {s : Simulator} {object : LiveObject} :
    (liveObject handle s).1 = .ok object ↔
      s.object? handle.oid = some object ∧ object.type = handle.type := by
  unfold liveObject
  rw [run_bind_ok (run_get s)]
  cases s.object? handle.oid with
  | none => simp
  | some found =>
    dsimp only
    split
    · rename_i htype
      simp only [run_pure, Except.ok.injEq, Option.some.injEq, iff_self_and]
      rintro rfl
      exact htype
    · rename_i htype
      simp only [run_throw, reduceCtorEq, Option.some.injEq, false_iff, not_and]
      rintro rfl
      exact htype

theorem declaration_eq_ok {type : ObjectType} {name : Text} {s : Simulator} {d : Declaration} :
    (declaration type name s).1 = .ok d ↔ s.catalogue.find? type name = some d := by
  unfold declaration
  rw [run_bind_ok (run_get s)]
  cases s.catalogue.find? type name <;> simp

theorem checkValue_eq_ok {type : ObjectType} {name value : Text} {s : Simulator} :
    (checkValue type name value s).1 = .ok () ↔
      ∃ d, s.catalogue.find? type name = some d ∧ Usage.admits d.usage value = true := by
  unfold checkValue
  simp only [run_bind_eq_ok_of_reads (declaration_reads type name), declaration_eq_ok]
  refine exists_congr fun d => and_congr_right fun _ => ?_
  split
  · simp [*]
  · simp [*]

/-- **A read is granted** if the object is live and has a value, and the attribute is declared. -/
theorem readAttribute_eq_ok {handle : ObjectHandle} {name : Text} {json : Bool} {s : Simulator}
    {text : Text} : (readAttribute handle name json s).1 = .ok text ↔
      ∃ object, (s.object? handle.oid = some object ∧ object.type = handle.type) ∧
        ∃ d, s.catalogue.find? handle.type name = some d ∧
          ∃ value, object.values.get? name = some value ∧ encode json value = text := by
  unfold readAttribute
  simp only [run_bind_eq_ok_of_reads (liveObject_reads handle), liveObject_eq_ok,
    run_bind_eq_ok_of_reads (declaration_reads handle.type name), declaration_eq_ok]
  refine exists_congr fun object => and_congr_right fun _ => ?_
  refine exists_congr fun d => and_congr_right fun _ => ?_
  cases object.values.get? name <;> simp

/-- **A write is granted** if the object is live, and the attribute is declared, can be written and
admits the value. -/
theorem writeAttribute_eq_ok {handle : ObjectHandle} {name value : Text} {s : Simulator} :
    (writeAttribute handle name value s).1 = .ok () ↔
      (∃ object, s.object? handle.oid = some object ∧ object.type = handle.type) ∧
      ∃ d, s.catalogue.find? handle.type name = some d ∧ d.readOnly = false ∧
        Usage.admits d.usage value = true := by
  unfold writeAttribute
  simp only [run_bind_eq_ok_of_reads (liveObject_reads handle), liveObject_eq_ok,
    run_bind_eq_ok_of_reads (declaration_reads handle.type name), declaration_eq_ok]
  rw [exists_and_right]
  refine and_congr_right fun _ => exists_congr fun d => and_congr_right fun hd => ?_
  split
  · rename_i hreadOnly
    simp [hreadOnly]
  · rename_i hreadOnly
    rw [run_bind_eq_ok_of_reads (checkValue_reads handle.type name value)]
    constructor
    · rintro ⟨⟨⟩, hchecked, -⟩
      obtain ⟨e, he, hadmits⟩ := checkValue_eq_ok.1 hchecked
      obtain rfl : d = e := Option.some.inj (hd.symm.trans he)
      exact ⟨Bool.eq_false_iff.2 hreadOnly, hadmits⟩
    · rintro ⟨-, hadmits⟩
      exact ⟨(), checkValue_eq_ok.2 ⟨d, hd, hadmits⟩, rfl⟩

end Simulator

end TransponderShell
