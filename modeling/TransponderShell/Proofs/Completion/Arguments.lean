import TransponderShell.Proofs.Completion.PartialWord

/-!
# What completers offer behind arguments

`Completer.offers answer c arguments` are the words that may stand behind the arguments of a
command, said without any text: a list of words is the same behind all arguments, a nested completer
goes down to the completer behind its first argument, and slots offer a name and then a value.

* `Completer.texts_complete` says that this is what is offered at the end of a text that a new word
  begins behind. So the kind and the number of its blanks do not matter.
* `Completer.Each P answer c` says that every word in a completer has the property `P`, and
  `Completer.Each.offers` that every word that is offered has it.
-/

namespace TransponderShell

open Text

/-- The words that slots offer behind arguments: the names, and then the values of the name that the
first argument stands for. -/
def Slots.offers (s : Slots) : List Text → List Text
  | [] => s.names
  | [first] => if s.offersValues then (s.resolveName first).elim [] s.values else []
  | _ => []

/-- Slots look at the words of a text only. -/
theorem Slots.texts_complete (s : Slots) {t : Text} (ht : IsOpen t) :
    Candidate.texts (s.complete t) = s.offers t.words := by
  have hvalue (first : Text) : Candidate.texts (s.completeValue first []) = s.offers [first] := by
    simp only [completeValue, offers]
    split
    · cases s.resolveName first <;> simp
    · simp
  rcases ht with rfl | ht
  · simp [complete, offers]
  · simp only [complete, ht]
    rcases t.words with _ | ⟨first, _ | ⟨second, rest⟩⟩
    · simp [offers]
    · exact hvalue first
    · simp [offers]

namespace Completer

variable {Q : Type} (answer : Q → List Text)

mutual

/-- The words that a completer offers behind arguments. -/
def offers : Completer Q → List Text → List Text
  | words options, _ => options
  | asking question, _ => answer question
  | nested options, [] => options.map Prod.fst
  | nested options, first :: rest => offersNested options first rest
  | slots s, arguments => s.offers arguments

/-- The words that are offered behind the first argument `first` and the arguments `rest`. -/
def offersNested : List (Text × Option (Completer Q)) → Text → List Text → List Text
  | [], _, _ => []
  | (name, some c) :: options, first, rest =>
    if name = first then offers c rest else offersNested options first rest
  | (name, none) :: options, first, rest =>
    if name = first then [] else offersNested options first rest

end

mutual

/-- **A completer looks at the words of a text only.** -/
theorem texts_complete (c : Completer Q) {t : Text} (ht : IsOpen t) :
    Candidate.texts (Id.run (complete (fun q => pure (answer q)) c t)) =
      offers answer c t.words := by
  match c with
  | words options => simp [complete, offers, wordBeforeCursor_of_isOpen ht]
  | asking question => simp [complete, offers, wordBeforeCursor_of_isOpen ht]
  | slots s => simpa [complete, offers] using s.texts_complete ht
  | nested options =>
    simp only [complete]
    rcases ht.blank_or_firstWord with ⟨hblank, hwords⟩ | ⟨first, b, rest, hf, hb, he, hwords, ho⟩
    · rw [hwords, offers]
      simp [hblank]
    · have hany : (first ++ b :: rest).any isBlank = true := by simp [hb]
      have hfirst : firstWord (first ++ b :: rest) = first := by
        rw [firstWord, words_append_cons hf hb, List.headD_cons]
      rw [he, if_pos hany, hfirst, trimStart_drop_append_cons first hb, hwords, offers,
        ← words_trimStart rest]
      exact texts_completeBehind options first ho.trimStart

theorem texts_completeBehind (options : List (Text × Option (Completer Q))) (first : Text)
    {t : Text} (ht : IsOpen t) :
    Candidate.texts (Id.run (completeBehind (fun q => pure (answer q)) options first t)) =
      offersNested answer options first t.words := by
  match options with
  | [] => simp [completeBehind, offersNested]
  | (name, some c) :: rest =>
    simp only [completeBehind, offersNested]
    split
    · exact texts_complete c ht
    · exact texts_completeBehind rest first ht
  | (name, none) :: rest =>
    simp only [completeBehind, offersNested]
    split
    · simp
    · exact texts_completeBehind rest first ht

end

/-! ## The words in a completer -/

variable (P : Text → Prop)

mutual

/-- Every word in a completer has the property `P`. -/
def Each : Completer Q → Prop
  | words options => ∀ w ∈ options, P w
  | asking question => ∀ w ∈ answer question, P w
  | nested options => EachNested options
  | slots s => (∀ w ∈ s.names, P w) ∧ ∀ name, ∀ w ∈ s.values name, P w

/-- Every word in the options of a nested completer has the property `P`. -/
def EachNested : List (Text × Option (Completer Q)) → Prop
  | [] => True
  | (name, some c) :: options => P name ∧ Each c ∧ EachNested options
  | (name, none) :: options => P name ∧ EachNested options

end

variable {answer P}

/-- The words in the slots of attributes are their names and the values that their usages list. -/
theorem each_ofAttributes {attributes : List AttributeDescriptor}
    (h : ∀ a ∈ attributes, P a.name ∧ ∀ v ∈ Usage.values a.usage, P v)
    (keep : AttributeDescriptor → Bool) :
    (slots (.ofAttributes keep attributes)).Each answer P := by
  refine ⟨fun w hw => ?_, fun name w hw => ?_⟩
  · obtain ⟨a, ha, rfl⟩ := List.mem_map.1 hw
    exact (h a (List.mem_of_mem_filter ha)).1
  · simp only [Slots.ofAttributes] at hw
    split at hw
    · next a ha => exact (h a (List.mem_of_find?_eq_some ha)).2 w hw
    · cases hw

theorem EachNested.name {options : List (Text × Option (Completer Q))}
    (h : EachNested answer P options) : ∀ w ∈ options.map Prod.fst, P w := by
  intro w hw
  match options with
  | (name, some c) :: rest =>
    rcases List.mem_cons.1 hw with rfl | hw
    · exact h.1
    · exact EachNested.name h.2.2 w hw
  | (name, none) :: rest =>
    rcases List.mem_cons.1 hw with rfl | hw
    · exact h.1
    · exact EachNested.name h.2 w hw

mutual

/-- **What is offered are words in the completer.** -/
theorem Each.offers {c : Completer Q} (h : c.Each answer P) (arguments : List Text) :
    ∀ w ∈ c.offers answer arguments, P w := by
  intro w hw
  match c, arguments with
  | words options, _ => exact h w hw
  | asking question, _ => exact h w hw
  | nested options, [] => exact EachNested.name h w hw
  | nested options, first :: rest => exact EachNested.offers h first rest w hw
  | slots s, [] => exact h.1 w hw
  | slots s, [first] =>
    simp only [Completer.offers, Slots.offers] at hw
    split at hw
    · cases hname : s.resolveName first with
      | none => simp [hname] at hw
      | some name =>
        rw [hname] at hw
        exact h.2 name w hw
    · cases hw
  | slots s, _ :: _ :: _ => cases hw

theorem EachNested.offers {options : List (Text × Option (Completer Q))}
    (h : EachNested answer P options) (first : Text) (rest : List Text) :
    ∀ w ∈ offersNested answer options first rest, P w := by
  intro w hw
  match options with
  | [] => cases hw
  | (name, some c) :: more =>
    simp only [offersNested] at hw
    split at hw
    · exact Each.offers h.2.1 rest w hw
    · exact EachNested.offers h.2.2 first rest w hw
  | (name, none) :: more =>
    simp only [offersNested] at hw
    split at hw
    · cases hw
    · exact EachNested.offers h.2 first rest w hw

end

end Completer

end TransponderShell
