import TransponderShell.Completion.Completer

/-!
# What completers offer

* `mem_extending` and `pick?_eq_some_iff` say which options a typed word extends to and which of
  them it stands for.
* `Candidate.texts_matching` and `Candidate.of_mem_matching` say the same of candidates, with the
  bytes that they replace.
-/

namespace TransponderShell

theorem mem_extending {word w : Text} {options : List Text} :
    w ∈ extending word options ↔ w ∈ options ∧ word <+: w := by
  simp [extending]

/-- Every option extends the empty word. -/
@[simp] theorem extending_nil (options : List Text) : extending [] options = options := by
  simp [extending]

theorem extending_append (word : Text) (options more : List Text) :
    extending word (options ++ more) = extending word options ++ extending word more := by
  simp [extending]

/-- Among the options that extend a word, those that extend a longer one are all there are. -/
theorem extending_extending {word longer : Text} (h : word <+: longer) (options : List Text) :
    extending longer (extending word options) = extending longer options := by
  simp only [extending, List.filter_filter]
  refine List.filter_congr fun w _ => ?_
  by_cases hw : longer.isPrefixOf w = true
  · simp [hw, h.trans (List.isPrefixOf_iff_prefix.1 hw)]
  · simp [hw]

/-- A word stands for an option if it is one, or if it extends to that option only. -/
theorem pick?_eq_some_iff {typed w : Text} {options : List Text} :
    pick? typed options = some w ↔
      (typed ∈ options ∧ w = typed) ∨ extending typed options = [w] := by
  have hself : typed ∈ extending typed options ↔ typed ∈ options := by
    simp [mem_extending]
  simp only [pick?, pick]
  match he : extending typed options with
  | [] =>
    rw [he] at hself
    simp [Pick.among, ← hself]
  | [v] =>
    rw [he] at hself
    simp only [Pick.among, Option.some.injEq, ← hself, List.mem_singleton, List.cons.injEq,
      and_true]
    constructor
    · exact Or.inr
    · rintro (⟨h, rfl⟩ | h)
      · exact h.symm
      · exact h
  | u :: v :: rest =>
    rw [he] at hself
    by_cases hm : typed ∈ u :: v :: rest
    · have ho := hself.1 hm
      simp only [Pick.among, hm, if_true, Option.some.injEq, ho, true_and]
      constructor
      · intro h
        exact Or.inl h.symm
      · rintro (h | h)
        · exact h.symm
        · simp at h
    · have ho : typed ∉ options := fun h => hm (hself.2 h)
      simp [Pick.among, hm, ho]

namespace Candidate

@[simp] theorem texts_matching (word : Text) (options : List Text) :
    texts (matching word options) = extending word options := by
  simp [texts, matching, Function.comp_def]

/-- A candidate extends the word and replaces all of it. -/
theorem of_mem_matching {word : Text} {options : List Text} {c : Candidate}
    (h : c ∈ matching word options) :
    c.text ∈ options ∧ word <+: c.text ∧ c.replace = word.byteSize := by
  obtain ⟨w, hw, rfl⟩ := List.mem_map.1 h
  exact ⟨(mem_extending.1 hw).1, (mem_extending.1 hw).2, rfl⟩

end Candidate

end TransponderShell
