import Mathlib.Data.List.Nodup
import TransponderShell.Simulator.State

/-!
# Values as a map

`Values.get?_set` says what a value is after one of them has been set, and `Values.get?_setAll` what
it is after several have been set: the last one under its name counts, and with distinct names every
one does (`Values.get?_setAll_of_mem`).
-/

namespace TransponderShell

section Lookup

variable {α β : Type} [BEq α] [LawfulBEq α]

/-- Without the pairs of one key, those of the others are found as before. -/
theorem lookup_filter_ne [DecidableEq α] (pairs : List (α × β)) (key other : α) :
    (pairs.filter fun p => p.1 ≠ key).lookup other =
      if other = key then none else pairs.lookup other := by
  induction pairs with
  | nil => simp
  | cons p rest ih =>
    obtain ⟨name, value⟩ := p
    rcases eq_or_ne other name with rfl | hname
    · rcases eq_or_ne other key with rfl | hother
      · simpa using ih
      · simp [hother]
    · have hlookup : (other == name) = false := beq_eq_false_iff_ne.2 hname
      rcases eq_or_ne name key with rfl | hkey
      · simpa [List.lookup_cons, hlookup] using ih
      · simpa [List.lookup_cons, hlookup, hkey] using ih

/-- Of pairs with distinct keys every one is found. -/
theorem lookup_of_mem {pairs : List (α × β)} (h : (pairs.map Prod.fst).Nodup) {key : α} {value : β}
    (hmem : (key, value) ∈ pairs) : pairs.lookup key = some value := by
  obtain ⟨before, behind, rfl⟩ := List.append_of_mem hmem
  rw [List.map_append, List.map_cons, List.nodup_middle, List.nodup_cons] at h
  refine List.lookup_eq_some_iff.2 ⟨before, behind, rfl, fun p hp => ?_⟩
  have hkey : p.1 ∈ before.map Prod.fst := List.mem_map_of_mem hp
  have hne : key ≠ p.1 := by
    rintro rfl
    exact h.1 (List.mem_append_left _ hkey)
  simpa using hne

end Lookup

namespace Values

theorem get?_set (values : Values) (name value other : Text) :
    (set name value values).get? other =
      if other = name then some value else values.get? other := by
  induction values with
  | nil =>
    by_cases h : other = name
    · simp [set, get?, h]
    · simp [set, get?, h]
  | cons pair rest ih =>
    obtain ⟨key, old⟩ := pair
    simp only [get?] at ih ⊢
    by_cases hk : key = name
    · subst hk
      by_cases h : other = key
      · simp [set, h]
      · have hb : (other == key) = false := beq_eq_false_iff_ne.2 h
        simp [set, List.lookup_cons, h, hb]
    · by_cases h : other = key
      · subst h
        simp [set, hk]
      · have hb : (other == key) = false := beq_eq_false_iff_ne.2 h
        simp [set, List.lookup_cons, hk, hb, ih]

@[simp] theorem get?_set_self (values : Values) (name value : Text) :
    (set name value values).get? name = some value := by
  simp [get?_set]

theorem setAll_cons (values : Values) (name value : Text) (pairs : List (Text × Text)) :
    values.setAll ((name, value) :: pairs) = (set name value values).setAll pairs := rfl

/-- Of several values for a name the last one is set. -/
theorem get?_setAll (values : Values) (pairs : List (Text × Text)) (name : Text) :
    (values.setAll pairs).get? name = (get? pairs.reverse name).or (values.get? name) := by
  induction pairs generalizing values with
  | nil => rfl
  | cons pair rest ih =>
    obtain ⟨key, value⟩ := pair
    rw [setAll_cons, ih, get?_set]
    simp only [get?, List.reverse_cons, List.lookup_append, Option.or_assoc]
    by_cases h : name = key
    · simp [h]
    · have hb : (name == key) = false := beq_eq_false_iff_ne.2 h
      simp [List.lookup_cons, h, hb]

/-- A value that has been found is that of a pair. -/
theorem mem_of_get? {values : Values} {name value : Text} (h : values.get? name = some value) :
    (name, value) ∈ values := by
  obtain ⟨before, behind, hsplit, -⟩ := List.lookup_eq_some_iff.1 h
  rw [hsplit]
  simp

/-- A name has a value if there is a pair for it. -/
theorem exists_get? {values : Values} {name value : Text} (h : (name, value) ∈ values) :
    ∃ found, values.get? name = some found := by
  cases hfound : values.get? name with
  | some found => exact ⟨found, rfl⟩
  | none => simpa using List.lookup_eq_none_iff.1 hfound _ h

/-- A value after several have been set is one of these, unless its name is not among theirs. -/
theorem get?_setAll_cases {values : Values} {pairs : List (Text × Text)} {name value : Text}
    (h : (values.setAll pairs).get? name = some value) :
    (name, value) ∈ pairs ∨ values.get? name = some value := by
  rw [get?_setAll, Option.or_eq_some_iff] at h
  rcases h with h | ⟨-, h⟩
  · exact Or.inl (List.mem_reverse.1 (mem_of_get? h))
  · exact Or.inr h

/-- Of several values with distinct names every one is set. -/
theorem get?_setAll_of_mem {pairs : List (Text × Text)} (h : (pairs.map Prod.fst).Nodup)
    {name value : Text} (hmem : (name, value) ∈ pairs) (values : Values) :
    (values.setAll pairs).get? name = some value := by
  have hreverse : (pairs.reverse.map Prod.fst).Nodup := by
    rwa [List.map_reverse, List.nodup_reverse]
  rw [get?_setAll, get?, lookup_of_mem hreverse (List.mem_reverse.2 hmem), Option.some_or]

end Values

end TransponderShell
