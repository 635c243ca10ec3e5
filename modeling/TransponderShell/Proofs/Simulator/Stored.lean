import TransponderShell.Proofs.Simulator.Objects

/-!
# The values that the simulator stores

Values get into an object when it is made, from the declarations, from the request and from the
slot, and by writing. `LiveObject.Stocked` is what they have in common: the object has a value for
every declared attribute, and it is one that the usage admits, the default of the declaration, or
imposed by the slot.

* New objects are stocked (`Catalogue.Makes.stocked`), writing an admitted value keeps them so
  (`LiveObject.Stocked.set`), and hence all live objects are, after every run (`Reaches.stocked`).
* `values_in_domain` says what this means for the attributes with a fixed domain
  (`Usage.Enumerated`): without a fixture that declares other defaults, and apart from what slots
  impose, stored values are in the domain.
-/

namespace TransponderShell

/-! ## Usages with a domain -/

namespace Usage

/-- A usage that lists its values. -/
def Enumerated (usage : Text) : Prop :=
  usage = "bool" ∨ usage = "<bool>" ∨ ∃ inner, usage = '[' :: (inner ++ [']'])

/-- A usage that lists its values has some. -/
theorem Enumerated.values_ne_nil {usage : Text} (h : Enumerated usage) : values usage ≠ [] := by
  rcases h with rfl | rfl | ⟨inner, rfl⟩
  · decide
  · decide
  · have hmembers : members? ('[' :: (inner ++ [']'])) = some inner := by simp [members?]
    unfold values
    rw [hmembers]
    split
    · simp
    · show pieces '|' inner ≠ []
      exact piecesBy_ne_nil _ inner

/-- What a usage with a domain admits is in it. -/
theorem Enumerated.mem_values {usage value : Text} (h : Enumerated usage)
    (hadmits : admits usage value = true) : value ∈ values usage := by
  simpa [admits, h.values_ne_nil] using hadmits

/-- What an attribute begins with is admitted. -/
theorem admits_initial (usage : Text) : admits usage (initial usage) = true := by
  unfold initial
  split
  · rename_i h
    subst h
    decide
  · cases hvalues : values usage with
    | nil => simp [admits, hvalues]
    | cons value rest => simp [admits, hvalues]

end Usage

/-! ## Objects with all their values -/

/-- The object has a value for every declared attribute of its type: one that the usage admits, the
default, or one that the slot has imposed. -/
def LiveObject.Stocked (c : Catalogue) (object : LiveObject) : Prop :=
  ∀ d ∈ c.of object.type, ∃ value, object.values.get? d.name = some value ∧
    (Usage.admits d.usage value = true ∨ d.initial = some value ∨ d.name ∈ object.type.imposed)

/-- Under distinct names a name tells the declaration. -/
theorem Catalogue.Distinct.eq_of_name {c : Catalogue} (h : c.Distinct) {type : ObjectType}
    {d e : Declaration} (hd : d ∈ c.of type) (he : c.find? type d.name = some e) : e = d :=
  Option.some.inj (he.symm.trans (c.find?_of_mem h hd))

/-- **New objects are stocked.** -/
theorem Catalogue.Makes.stocked {c : Catalogue} (hc : c.Distinct) {object : LiveObject}
    (h : c.Makes object) : object.Stocked c := by
  obtain ⟨pairs, imposed, hadmits, himposed, hobject⟩ := h
  intro d hd
  have hvalues : object.values = ((c.initialValues object.type).setAll pairs).setAll imposed :=
    congrArg LiveObject.values hobject
  obtain ⟨first, hfirst⟩ := Catalogue.exists_initialValues hd
  obtain ⟨value, hvalue⟩ : ∃ value, object.values.get? d.name = some value := by
    rw [hvalues, Values.get?_setAll, Values.get?_setAll, hfirst]
    cases Values.get? imposed.reverse d.name <;> cases Values.get? pairs.reverse d.name <;> simp
  refine ⟨value, hvalue, ?_⟩
  rw [hvalues] at hvalue
  -- the last of the three that has the name counts
  rcases Values.get?_setAll_cases hvalue with himp | hvalue
  · exact Or.inr (Or.inr (himposed _ himp))
  rcases Values.get?_setAll_cases hvalue with hpair | hvalue
  · obtain ⟨e, he, hadmitted⟩ := hadmits _ hpair
    obtain rfl := hc.eq_of_name hd he
    exact Or.inl hadmitted
  · obtain ⟨e, he, hname, rfl⟩ := Catalogue.initialValues_cases hvalue
    obtain rfl : d = e := hc.eq_of_name he (hname ▸ c.find?_of_mem hc hd)
    cases hinitial : d.initial with
    | none =>
      refine Or.inl ?_
      simpa [Declaration.value, hinitial] using Usage.admits_initial d.usage
    | some default => exact Or.inr (Or.inl (by simp [Declaration.value, hinitial]))

/-- Writing an admitted value keeps an object stocked. -/
theorem LiveObject.Stocked.set {c : Catalogue} (hc : c.Distinct) {object : LiveObject}
    (h : object.Stocked c) {name value : Text} {d : Declaration}
    (hd : c.find? object.type name = some d) (hadmits : Usage.admits d.usage value = true) :
    LiveObject.Stocked c { object with values := object.values.set name value } := by
  intro e he
  by_cases hname : e.name = name
  · obtain rfl := hc.eq_of_name he (hname ▸ hd)
    exact ⟨value, by simp [hname], Or.inl hadmits⟩
  · obtain ⟨old, hold, hcases⟩ := h e he
    exact ⟨old, by simpa [Values.get?_set, hname] using hold, hcases⟩

namespace Simulator

/-- All live objects are stocked. -/
def Stocked (s : Simulator) : Prop :=
  ∀ oid object, s.object? oid = some object → object.Stocked s.catalogue

theorem Step.stocked {s s' : Simulator} (hs : s.Sound) (hc : s.catalogue.Distinct) (h : Step s s')
    (hstocked : s.Stocked) : s'.Stocked := by
  intro oid object hlive
  have hcatalogue : s'.catalogue = s.catalogue := h.sameCatalogue
  rw [hcatalogue]
  cases h.becomes hs hlive with
  | kept hbefore => exact hstocked oid object hbefore
  | made _ hmakes => exact hmakes.stocked hc
  | written hbefore hd _ hadmits => exact (hstocked oid _ hbefore).set hc hd hadmits

/-- What has been set up from nothing is stocked. -/
theorem Gains.stocked {s s' : Simulator} (h : Gains s s') (hobjects : s.objects = [])
    (hc : s.catalogue.Distinct) : s'.Stocked := by
  have hfresh : s.Fresh := by simp [Fresh, hobjects]
  intro oid object hlive
  rw [(h hfresh).2.2.1]
  cases h.becomes hfresh hlive with
  | kept hbefore => simp [object?, hobjects] at hbefore
  | made _ hmakes => exact hmakes.stocked hc
  | written hbefore => simp [object?, hobjects] at hbefore

theorem Initial.stocked {s : Simulator} (h : Initial s) : s.Stocked := by
  cases h with
  | seed => exact (createModule_gains _ [] unseeded).stocked rfl seedCatalogue_distinct
  | fixture h =>
    obtain ⟨-, catalogue, queue, hcatalogue, -, -, hrun⟩ := ofFixture_eq_ok.1 h
    have hgains := createAll_keeps (fun slot => createModule_gains slot []) hrun
    exact hgains.stocked rfl (catalogueOf_distinct hcatalogue)

/-- **After every run all live objects are stocked.** -/
theorem Reaches.stocked {s₀ s : Simulator} (h₀ : Initial s₀) (h : Reaches s₀ s) : s.Stocked := by
  refine h.invariant h₀.sound h₀.stocked fun _ hs hcatalogue hstep hstocked => ?_
  exact hstep.stocked hs (hcatalogue ▸ h₀.distinct) hstocked

/-! ## Values and domains -/

/-- A live object of a type has a value for a declared attribute. -/
def Stores (s : Simulator) (type : ObjectType) (d : Declaration) (value : Text) : Prop :=
  d ∈ s.catalogue.of type ∧ ∃ oid object, s.object? oid = some object ∧ object.type = type ∧
    object.values.get? d.name = some value

/-- A stored value is in the domain of its attribute, if there is one, or it is the default of the
declaration, or imposed. -/
theorem Stocked.cases {s : Simulator} (h : s.Stocked) {type : ObjectType} {d : Declaration}
    {value : Text} (hstores : s.Stores type d value) (hd : Usage.Enumerated d.usage) :
    value ∈ Usage.values d.usage ∨ d.initial = some value ∨ d.name ∈ type.imposed := by
  obtain ⟨hmem, oid, object, hlive, rfl, hvalue⟩ := hstores
  obtain ⟨stocked, hstocked, hcases⟩ := h oid object hlive d hmem
  obtain rfl : stocked = value := Option.some.inj (hstocked.symm.trans hvalue)
  exact hcases.imp_left hd.mem_values

/-- The attributes that are declared are those of the fixture. -/
theorem mem_declareAll {attributes : List FixtureAttribute} {c c' : Catalogue}
    (h : declareAll c attributes = .ok c') {type : ObjectType} {d : Declaration}
    (hd : d ∈ c'.of type) :
    d ∈ c.of type ∨ ∃ a ∈ attributes, a.type = type ∧ a.toDeclaration = d := by
  induction attributes generalizing c with
  | nil =>
    cases h
    exact Or.inl hd
  | cons a rest ih =>
    rw [declareAll] at h
    split at h
    · cases h
    rcases ih h with hdeclared | ⟨b, hb, hdeclares⟩
    · rw [Catalogue.of_declare, List.mem_append] at hdeclared
      refine hdeclared.imp_right fun hnew => ⟨a, List.mem_cons_self .., ?_⟩
      split at hnew
      · rename_i htype
        exact ⟨htype.symm, (List.mem_singleton.1 hnew).symm⟩
      · cases hnew
    · exact Or.inr ⟨b, List.mem_cons_of_mem _ hb, hdeclares⟩

/-- A transponder that a fixture describes declares what the fixture does, or what the seed does. -/
theorem declared_of_ofFixture {f : Fixture} {s : Simulator} (h : ofFixture f = .ok s)
    {type : ObjectType} {d : Declaration} (hd : d ∈ s.catalogue.of type) :
    d ∈ seedCatalogue.of type ∨ ∃ a ∈ f.attributes, a.type = type ∧ a.toDeclaration = d := by
  obtain ⟨-, catalogue, queue, hcatalogue, -, -, hrun⟩ := ofFixture_eq_ok.1 h
  rw [createAll_sameCatalogue hrun] at hd
  unfold catalogueOf at hcatalogue
  split at hcatalogue
  · cases hcatalogue
    exact Or.inl hd
  · refine (mem_declareAll hcatalogue hd).imp_left fun hnone => ?_
    rcases type with _ | ⟨_ | _⟩ <;> cases hnone

/-- The seed declares defaults that are in the domain, and no domains for what slots impose. -/
theorem seedCatalogue_domains {type : ObjectType} {d : Declaration}
    (hd : d ∈ seedCatalogue.of type) (henum : Usage.Enumerated d.usage) :
    (∀ value, d.initial = some value → value ∈ Usage.values d.usage) ∧
      d.name ∉ type.imposed := by
  have hdefaults : ∀ type ∈ ObjectType.all, ∀ d ∈ seedCatalogue.of type,
      (d.initial.all (Usage.admits d.usage) = true) ∧
        (d.name ∈ type.imposed → Usage.values d.usage = []) := by decide
  obtain ⟨hdefault, himposed⟩ := hdefaults type type.mem_all d hd
  refine ⟨fun value hvalue => henum.mem_values ?_, fun hname => ?_⟩
  · simpa [hvalue] using hdefault
  · exact henum.values_ne_nil (himposed hname)

/-- **Stored values stay in their domain.** Whatever is asked of a transponder that a fixture
describes, the values of attributes with a domain are in it, apart from defaults that the fixture
itself declares and what slots impose. Without a fixture there is no exception. -/
theorem values_in_domain :
    (∀ f s₀ s, ofFixture f = .ok s₀ → Reaches s₀ s → ∀ type d value, s.Stores type d value →
      Usage.Enumerated d.usage → value ∈ Usage.values d.usage ∨
        (∃ a ∈ f.attributes, a.type = type ∧ a.toDeclaration = d ∧ a.initial = some value) ∨
        d.name ∈ type.imposed) ∧
    ∀ s, Reaches seed s → ∀ type d value, s.Stores type d value → Usage.Enumerated d.usage →
      value ∈ Usage.values d.usage := by
  refine ⟨fun f s₀ s hf h type d value hstores henum => ?_,
    fun s h type d value hstores henum => ?_⟩
  · have hd := hstores.1
    rw [h.catalogue_eq] at hd
    rcases (h.stocked (.fixture hf)).cases hstores henum with hvalue | hinitial | hname
    · exact Or.inl hvalue
    · rcases declared_of_ofFixture hf hd with hseed | ⟨a, ha, htype, hdeclares⟩
      · exact Or.inl ((seedCatalogue_domains hseed henum).1 value hinitial)
      · exact Or.inr (Or.inl ⟨a, ha, htype, hdeclares, hdeclares ▸ hinitial⟩)
    · exact Or.inr (Or.inr hname)
  · have hd := hstores.1
    rw [h.catalogue_eq, catalogue_seed] at hd
    obtain ⟨hdefault, himposed⟩ := seedCatalogue_domains hd henum
    rcases (h.stocked .seed).cases hstores henum with hvalue | hinitial | hname
    · exact hvalue
    · exact hdefault value hinitial
    · exact absurd hname himposed

/-- A fixture with a default that its usage does not list. -/
def outlandish : Fixture where
  modules := [{ location := "1", netifs := 0, hostifs := 0 }]
  attributes := [
    { type := .module, id := 1, name := "mode", readOnly := false, usage := "<bool>",
      initial := some "maybe" }]

/-- The transponder of this fixture. -/
def outlandishSimulator : Simulator :=
  let c : Catalogue := ⟨outlandish.attributes.map FixtureAttribute.toDeclaration, [], []⟩
  (createModule ⟨"1", true, 0, 0, 0, [], []⟩ []
    { catalogue := c, slots := outlandish.modules.map slotOf, queue := seedQueue c }).2

theorem ofFixture_outlandish : ofFixture outlandish = .ok outlandishSimulator := by
  have hordered : inOrder outlandish.modules = outlandish.modules :=
    List.mergeSort_of_pairwise (by decide)
  refine ofFixture_eq_ok.2 ⟨rfl, _, _, rfl, rfl, ?_⟩
  rw [hordered]
  exact ⟨rfl, rfl⟩

/-- The default of the fixture is stored, and a value that is written to the seed is in the
domain. -/
theorem values_in_domain_outlandish :
    (∃ d, outlandishSimulator.Stores .module d "maybe" ∧ Usage.Enumerated d.usage ∧
      ∃ a ∈ outlandish.attributes, a.toDeclaration = d ∧ a.initial = some "maybe".toList) ∧
    ∃ d,
      (daemon.set ⟨.interface .host, 3⟩ "fec-type" "fc" seed).2.Stores (.interface .host) d "fc" ∧
      "fc".toList ∈ Usage.values d.usage := by
  obtain ⟨hfixture, hseed⟩ := values_in_domain
  constructor
  · let d : Declaration := ⟨⟨1, "mode", false, "<bool>"⟩, some "maybe"⟩
    have hstores : outlandishSimulator.Stores .module d "maybe" :=
      ⟨by decide, 1, _, rfl, rfl, by decide⟩
    have henum : Usage.Enumerated d.usage := Or.inr (Or.inl rfl)
    refine ⟨d, hstores, henum, ?_⟩
    rcases hfixture outlandish _ _ ofFixture_outlandish .refl .module d "maybe" hstores henum with
      hvalue | ⟨a, ha, -, hdeclares, hinitial⟩ | hname
    · exact absurd hvalue (by decide)
    · exact ⟨a, ha, hdeclares, hinitial⟩
    · exact absurd hname (by decide)
  · let d : Declaration := ⟨⟨2, "fec-type", false, "[none|rs|fc]"⟩, some "rs"⟩
    have hstep : Step seed (daemon.set ⟨.interface .host, 3⟩ "fec-type" "fc" seed).2 :=
      Step.call (.set ..)
    have hstores : (daemon.set ⟨.interface .host, 3⟩ "fec-type" "fc" seed).2.Stores
        (.interface .host) d "fc" := ⟨by decide, 3, _, rfl, rfl, by decide⟩
    exact ⟨d, hstores, hseed _ (.single hstep) _ d "fc" hstores
      (Or.inr (Or.inr ⟨"none|rs|fc", rfl⟩))⟩

end Simulator

end TransponderShell
