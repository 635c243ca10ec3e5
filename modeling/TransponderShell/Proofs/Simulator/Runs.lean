import TransponderShell.Proofs.Daemon.Calls
import TransponderShell.Proofs.Simulator.Requests
import TransponderShell.Simulator.FixtureFile

/-!
# Runs of the simulator

A simulator is set up without a description or from a fixture (`Simulator.Initial`), and then it
answers calls and notifications are added to it (`Simulator.Reaches`). It is sound when it is set up
(`Initial.sound`), and every step keeps that and the hardware (`Step.evolves`). Of the steps, only
writing, creating and removing change what is recorded (`Step.cases`).

`Simulator.Coherent` spells out what this means for those who ask for the list of slots, and
`hardware_and_coherent_of_reaches` is the result: it holds after every run.
-/

namespace TransponderShell.Simulator

/-! ## Setting up -/

/-- The simulator as it is set up. -/
inductive Initial : Simulator → Prop
  | seed : Initial seed
  | fixture {f : Fixture} {s : Simulator} (h : ofFixture f = .ok s) : Initial s

/-- Without neighbours at one location, ordered locations are distinct. -/
theorem pairwise_of_sharedLocation?_eq_none {modules : List FixtureModule}
    (hsorted : modules.Pairwise fun a b => a.location.le b.location = true)
    (hshared : sharedLocation? modules = none) :
    modules.Pairwise fun a b => a.location.le b.location = true ∧ a.location ≠ b.location := by
  induction modules with
  | nil => exact List.Pairwise.nil
  | cons a rest ih =>
    obtain ⟨ha, hrest⟩ := List.pairwise_cons.1 hsorted
    cases rest with
    | nil => exact List.pairwise_singleton ..
    | cons b behind =>
      rw [sharedLocation?] at hshared
      split at hshared
      · cases hshared
      rename_i hab
      have hb := (List.pairwise_cons.1 hrest).1
      refine List.pairwise_cons.2 ⟨fun c hc => ⟨ha c hc, ?_⟩, ih hrest hshared⟩
      rcases List.mem_cons.1 hc with rfl | hc
      · exact hab
      · intro hac
        have hba : b.location.le a.location = true := hac ▸ hb c hc
        exact hab (Text.le_antisymm (ha b (List.mem_cons_self ..)) hba)

/-- The modules are put in the order of their locations. -/
theorem pairwise_inOrder (modules : List FixtureModule) :
    (inOrder modules).Pairwise fun a b => a.location.le b.location = true := by
  refine List.pairwise_mergeSort (fun a b c => ?_) (fun a b => ?_) modules
  · exact Text.le_trans
  · exact Text.le_total _ _

/-- A transponder without objects is sound if its slots are ordered. -/
theorem sound_of_vacant {s : Simulator}
    (hordered : (s.slots.map Slot.location).Pairwise fun a b => a.le b = true ∧ a ≠ b)
    (hvacant : ∀ slot ∈ s.slots, slot.oid = 0 ∧ ∀ kind, slot.interfaces kind = [])
    (hobjects : s.objects = []) (hnext : 0 < s.nextOid) : s.Sound := by
  have hdirectory : s.directory = [] := by rw [directory, hobjects]; rfl
  have hlisting : s.listing = [] := by
    refine List.flatMap_eq_nil_iff.2 fun slot hslot => ?_
    obtain ⟨hoid, hempty⟩ := hvacant slot hslot
    rw [Slot.listing_of_empty hempty, if_pos hoid]
  refine ⟨hordered, fun slot hslot => ?_, ?_, ?_, ?_, hnext, ?_⟩
  · obtain ⟨hoid, hempty⟩ := hvacant slot hslot
    exact ⟨fun _ => hoid, fun _ => hempty, fun kind => by simp [hempty],
      fun kind => by simp [hempty]⟩
  · simp [hdirectory]
  · simp [hdirectory]
  · simp [hdirectory]
  · rw [hlisting, hdirectory]

/-- Creating the modules of a fixture, those in `made` already dealt with. -/
theorem createAll_sound {modules : List FixtureModule} {s s' : Simulator} (h : s.Sound)
    {made : List Slot} (hslots : s.slots.map Slot.bare = made ++ modules.map slotOf)
    (hrun : createAll modules s = .ok s') : s'.Sound := by
  induction modules generalizing s made with
  | nil =>
    obtain rfl : s = s' := by simpa [createAll] using hrun
    exact h
  | cons m rest ih =>
    have hskip : s.slots.map Slot.bare = (made ++ [slotOf m]) ++ rest.map slotOf := by
      simpa using hslots
    rw [createAll] at hrun
    split at hrun
    · rename_i hcreate
      obtain ⟨before, more, hsplit, rfl, hmore⟩ := List.map_eq_append_iff.1 hslots
      obtain ⟨slot, behind, rfl, hslot, hbehind⟩ := List.map_eq_cons_iff.1 hmore
      have hpresent : slot.present = m.present := congrArg Slot.present hslot
      have hoid : slot.oid = 0 := congrArg Slot.oid hslot
      have hlocation : m.location = slot.location := congrArg Slot.location hslot.symm
      have hcases := createModule_cases h hsplit (h.location_ne hsplit)
        (by rw [hpresent]; exact (Bool.and_eq_true_iff.1 hcreate).1) hoid (slotOf m) hlocation []
      generalize createModule (slotOf m) [] s = r at hrun hcases
      match r with
      | (.error _, _) => cases hrun
      | (.ok _, s₁) =>
        rcases hcases with rfl | ⟨hsound, hbare⟩
        · exact ih h hskip hrun
        · have hmade : s₁.slots.map Slot.bare =
              (before ++ [{ slot with oid := s.nextOid }]).map Slot.bare ++ rest.map slotOf := by
            rw [hbare, ← hbehind]
            simp
          exact ih hsound hmade hrun
    · exact ih h hskip hrun

theorem unseeded_vacant :
    ∀ slot ∈ unseeded.slots, slot.oid = 0 ∧ ∀ kind, slot.interfaces kind = [] := by
  have hvacant : ∀ slot ∈ unseeded.slots, slot.oid = 0 ∧ slot.netifs = [] ∧ slot.hostifs = [] := by
    decide
  intro slot hslot
  obtain ⟨hoid, hnetifs, hhostifs⟩ := hvacant slot hslot
  exact ⟨hoid, fun kind => by cases kind <;> assumption⟩

theorem unseeded_sound : unseeded.Sound :=
  sound_of_vacant (by decide) unseeded_vacant rfl (by decide)

/-- A fixture is set up by creating its modules, of which there are some, in slots at distinct
locations. -/
theorem ofFixture_eq_ok {f : Fixture} {s : Simulator} :
    ofFixture f = .ok s ↔ f.modules.isEmpty = false ∧ ∃ catalogue queue,
      catalogueOf f.attributes = .ok catalogue ∧ queueOf catalogue f.notifications = .ok queue ∧
      sharedLocation? (inOrder f.modules) = none ∧
      createAll (inOrder f.modules)
        { catalogue := catalogue, slots := (inOrder f.modules).map slotOf, queue := queue } =
          .ok s := by
  unfold ofFixture
  cases hcatalogue : catalogueOf f.attributes with
  | error e => simp [bind, Except.bind]
  | ok catalogue =>
    dsimp only [bind, Except.bind]
    cases hqueue : queueOf catalogue f.notifications with
    | error e => simp [hqueue]
    | ok queue =>
      cases hempty : f.modules.isEmpty with
      | true => simp [throw, throwThe, MonadExceptOf.throw]
      | false =>
        cases hshared : sharedLocation? (inOrder f.modules) with
        | some location => simp [throw, throwThe, MonadExceptOf.throw]
        | none => simp [hqueue]

/-- What is set up is sound. -/
theorem Initial.sound {s : Simulator} (h : Initial s) : s.Sound := by
  cases h with
  | seed =>
    have hslots : unseeded.slots = [] ++ ⟨"1", true, 1, 2, 0, [], []⟩ :: unseeded.slots.tail := rfl
    show (createModule _ [] unseeded).2.Sound
    rcases createModule_cases unseeded_sound hslots (by simp) rfl rfl _ rfl [] with
      hsame | ⟨hsound, -⟩
    · rw [hsame]
      exact unseeded_sound
    · exact hsound
  | @fixture f _ h =>
    obtain ⟨-, catalogue, queue, -, -, hshared, hrun⟩ := ofFixture_eq_ok.1 h
    have hvacant : Sound
        { catalogue := catalogue, slots := (inOrder f.modules).map slotOf, queue := queue } := by
      refine sound_of_vacant ?_ (fun slot hslot => ?_) rfl Nat.one_pos
      · rw [List.map_map, List.pairwise_map]
        exact pairwise_of_sharedLocation?_eq_none (pairwise_inOrder f.modules) hshared
      · obtain ⟨m, -, rfl⟩ := List.mem_map.1 hslot
        exact ⟨rfl, fun kind => by cases kind <;> rfl⟩
    have hmade : ((inOrder f.modules).map slotOf).map Slot.bare =
        [] ++ (inOrder f.modules).map slotOf := by
      rw [List.map_map]
      rfl
    exact createAll_sound hvacant hmade hrun

/-- A document that is accepted is set up as well. -/
theorem Initial.ofText {t : Text} {s : Simulator} (h : Simulator.ofText t = .ok s) :
    Initial s := by
  unfold Simulator.ofText at h
  split at h
  · exact Initial.fixture h
  · cases h

/-! ## Running -/

/-- The slots and the live objects are the same, if not the values of the objects. -/
structure SameObjects (s s' : Simulator) : Prop where
  slots : s'.slots = s.slots
  directory : s'.directory = s.directory
  nextOid : s'.nextOid = s.nextOid

instance : IsPreorder Simulator SameObjects where
  refl _ := ⟨rfl, rfl, rfl⟩
  trans _ _ _ h h' :=
    ⟨h'.slots.trans h.slots, h'.directory.trans h.directory, h'.nextOid.trans h.nextOid⟩

/-- Whether a call neither creates nor removes anything. -/
def KeepsObjects : Call → Prop
  | .create .. => False
  | .remove _ => False
  | _ => True

/-- Only creating and removing changes the objects. -/
theorem makes_sameObjects {c : Call} (hc : KeepsObjects c) {s s' : Simulator}
    (h : daemon.Makes c s s') : SameObjects s s' := by
  have hsame {s' : Simulator} (he : s = s') : SameObjects s s' := he ▸ refl_of SameObjects s
  cases h with
  | list => exact hsame rfl
  | attributes => exact hsame rfl
  | get => exact hsame (readAttribute_reads _ _ _ s)
  | set object name value =>
    show SameObjects s (writeAttribute object name value s).2
    rcases writeAttribute_cases object name value s with ⟨e, he⟩ | hset
    · rw [he]
      exact hsame rfl
    · rw [hset]
      exact ⟨rfl, directory_updateValues .., rfl⟩
  | capability => exact hsame (describe_reads _ _ s)
  | create => exact hc.elim
  | remove => exact hc.elim
  | monitor object name json r g => exact hsame (state_run_follow r object name json s g).symm
  | setLogLevel => exact ⟨rfl, rfl, rfl⟩

theorem SameObjects.evolves {s s' : Simulator} (h : SameObjects s s') :
    Evolves Slot.hardware s s' := by
  intro hs
  exact ⟨hs.congr h.slots h.directory h.nextOid, by rw [h.slots]⟩

/-- Every call keeps a sound state sound, and the hardware. -/
theorem makes_evolves {c : Call} {s s' : Simulator} (h : daemon.Makes c s s') :
    Evolves Slot.hardware s s' := by
  rcases Classical.em (KeepsObjects c) with hc | hc
  · exact (makes_sameObjects hc h).evolves
  · cases h with
    | create type pairs oid => exact create_evolves type pairs oid s
    | remove oid => exact remove_evolves oid s
    | _ => exact absurd trivial hc

/-- A step of the simulator: a call, or a notification that is added. -/
inductive Step : Simulator → Simulator → Prop
  | call {c : Call} {s s' : Simulator} (h : daemon.Makes c s s') : Step s s'
  | push (n : QueuedNotification) (s : Simulator) : Step s (push n s)

/-- **What a step does.** It leaves what is declared, the slots and the live objects alone, or it is
one of the three requests that change them. -/
theorem Step.cases {s s' : Simulator} (h : Step s s') :
    (∃ queue logLevel, s' = { s with queue := queue, logLevel := logLevel }) ∨
    (∃ handle name value, s' = (writeAttribute handle name value s).2) ∨
    (∃ type pairs oid, s' = (create type pairs oid s).2) ∨
    ∃ oid, s' = (remove oid s).2 := by
  have hsame {s' : Simulator} (he : s' = s) :
      ∃ queue logLevel, s' = { s with queue := queue, logLevel := logLevel } := ⟨_, _, he⟩
  cases h with
  | push n => exact Or.inl ⟨_, _, rfl⟩
  | call h =>
    cases h with
    | list => exact Or.inl (hsame rfl)
    | attributes => exact Or.inl (hsame rfl)
    | get object name json => exact Or.inl (hsame (readAttribute_reads object name json s).symm)
    | set object name value => exact Or.inr (Or.inl ⟨object, name, value, rfl⟩)
    | capability object name => exact Or.inl (hsame (describe_reads object name s).symm)
    | create type pairs oid => exact Or.inr (Or.inr (Or.inl ⟨type, pairs, oid, rfl⟩))
    | remove oid => exact Or.inr (Or.inr (Or.inr ⟨oid, rfl⟩))
    | monitor object name json r g =>
      exact Or.inl (hsame (state_run_follow r object name json s g))
    | setLogLevel => exact Or.inl ⟨_, _, rfl⟩

/-- One state is reached from another by steps. -/
def Reaches : Simulator → Simulator → Prop := Relation.ReflTransGen Step

/-- What calls lead to is reached. -/
theorem reaches_of_run {P : Call → Prop} {s s' : Simulator} (h : daemon.Run P s s') :
    Reaches s s' := by
  induction h with
  | refl => exact .refl
  | tail _ hstep ih =>
    obtain ⟨c, -, hmakes⟩ := hstep
    exact ih.tail (.call hmakes)

theorem Step.evolves {s s' : Simulator} (h : Step s s') : Evolves Slot.hardware s s' := by
  cases h with
  | call h => exact makes_evolves h
  | push n => exact SameObjects.evolves ⟨rfl, rfl, rfl⟩

theorem Reaches.evolves {s s' : Simulator} (h : Reaches s s') : Evolves Slot.hardware s s' := by
  induction h with
  | refl => exact refl_of (Evolves Slot.hardware) s
  | tail _ hstep ih => exact trans_of (Evolves Slot.hardware) ih hstep.evolves

/-! ## What holds after every run -/

/-- The object ids that the list of slots shows, without the zeros for missing modules. -/
def shownOids (s : Simulator) : List Nat :=
  ((s.slots.map Slot.summary).flatMap ModuleSummary.oids).filter fun oid => oid ≠ 0

/-- The slots and the live objects tell the same story. -/
structure Coherent (s : Simulator) : Prop where
  /-- The slots are ordered by location, no two of them at the same one. -/
  ordered : s.slots.Pairwise fun a b => a.location.le b.location = true ∧ a.location ≠ b.location
  /-- There is no module without hardware. -/
  absent : ∀ slot ∈ s.slots, slot.present = false → slot.oid = 0
  /-- There are no interfaces without a module. -/
  vacant : ∀ slot ∈ s.slots, slot.oid = 0 → ∀ kind, slot.interfaces kind = []
  increasing : ∀ slot ∈ s.slots, ∀ kind,
    (slot.interfaces kind).Pairwise fun i j => i.index < j.index
  lt_capacity : ∀ slot ∈ s.slots, ∀ kind, ∀ i ∈ slot.interfaces kind, i.index < slot.capacity kind
  distinct : s.shownOids.Nodup
  lt_next : ∀ oid ∈ s.shownOids, oid < s.nextOid
  /-- What is shown is live, and nothing else is. -/
  shown_perm : s.shownOids.Perm (s.objects.map Prod.fst)
  module : ∀ slot ∈ s.slots, slot.oid ≠ 0 →
    ∃ object, s.object? slot.oid = some object ∧ object.type = .module
  interface : ∀ slot ∈ s.slots, ∀ kind, ∀ i ∈ slot.interfaces kind,
    ∃ object, s.object? i.oid = some object ∧ object.type = .interface kind

/-- The shown ids are those that the slots list. -/
theorem Sound.shownOids_eq {s : Simulator} (h : s.Sound) :
    s.shownOids = s.listing.map Prod.fst := by
  rw [shownOids, listing, List.flatMap_map, List.filter_flatMap, List.map_flatMap]
  exact List.flatMap_congr fun slot hslot => (Slot.map_fst_listing (h.oid_ne_zero hslot)).symm

/-- What is sound is coherent. -/
theorem Sound.coherent {s : Simulator} (h : s.Sound) : s.Coherent where
  ordered := List.pairwise_map.1 h.ordered
  absent slot hslot := (h.slot slot hslot).oid_of_absent
  vacant slot hslot := (h.slot slot hslot).interfaces_of_vacant
  increasing slot hslot := (h.slot slot hslot).increasing
  lt_capacity slot hslot := (h.slot slot hslot).lt_capacity
  distinct := by
    rw [h.shownOids_eq]
    exact h.nodup_listing
  lt_next oid hoid := by
    rw [h.shownOids_eq] at hoid
    obtain ⟨p, hp, rfl⟩ := List.mem_map.1 hoid
    exact h.lt_next p (h.listing_perm.mem_iff.1 hp)
  shown_perm := by
    have hkeys : s.objects.map Prod.fst = s.directory.map Prod.fst := by
      rw [directory, List.map_map]
      rfl
    rw [h.shownOids_eq, hkeys]
    exact h.listing_perm.map Prod.fst
  module slot hslot hoid :=
    h.exists_object (h.mem_directory hslot (Slot.mem_listing_module hoid))
  interface slot hslot kind i hi :=
    h.exists_object (h.mem_directory hslot (Slot.mem_listing_interface hi))

/-- **Every run keeps the hardware and the two records of the objects in step.** However calls are
made, with whatever arguments and whether or not they are granted, the slots keep their locations,
presence and capacities, and what they list is what is live. -/
theorem hardware_and_coherent_of_reaches {s₀ s : Simulator} (h₀ : Initial s₀)
    (h : Reaches s₀ s) : s.slots.map Slot.hardware = s₀.slots.map Slot.hardware ∧ s.Coherent := by
  obtain ⟨hsound, hhardware⟩ := h.evolves h₀.sound
  exact ⟨hhardware, hsound.coherent⟩

/-- The seed after its network interface has been removed and made anew. -/
def reattached : Simulator :=
  (create (.interface .network) [(indexName, "0")] 1 (remove 2 seed).2).2

theorem hardware_and_coherent_reattached : reattached.shownOids = [1, 5, 3, 4] ∧
    reattached.slots.map Slot.hardware = seed.slots.map Slot.hardware ∧ reattached.Coherent := by
  have hremove : Step seed (remove 2 seed).2 := Step.call (.remove 2 seed)
  have hcreate : Step (remove 2 seed).2 reattached := Step.call (.create _ _ 1 _)
  exact ⟨by decide, hardware_and_coherent_of_reaches .seed
    ((Relation.ReflTransGen.single hremove).tail hcreate)⟩

end TransponderShell.Simulator
