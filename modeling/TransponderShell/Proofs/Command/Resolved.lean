import TransponderShell.Proofs.Command.Arguments
import TransponderShell.Proofs.Command.Expansion

/-!
# Resolving a line that is resolved already

What a word stands for stands for itself (`StandsFor.self`), so an expanded line expands to itself
(`Expands.self`). It is read back from its text if no word that the table offers contains a blank
(`Blankless`), as then the expansion consists of words (`Expands.isWord`).

`Expands.expand_eq` and `expands_of_expand` say that the expansion word by word finds what a line
expands to, and `resolve_of_expands` resolves a line from what it expands to; `FailsAt.expand_eq`
and `resolve_of_failsAt` say the same of a line that fails. The result is `resolve_unwords`: the
command and the arguments of a resolved line, joined with single spaces, are resolved to the same
command and the same arguments.
-/

namespace TransponderShell

open Text

section Rules

variable {position : Nat} {valid : List Text} {typed w : Text}

/-- What a word stands for is the word itself, or it is offered and begins like the word. -/
theorem StandsFor.eq_or_mem (h : StandsFor position valid typed w) :
    w = typed ∨ (w ∈ valid ∧ typed <+: w) := by
  cases h with
  | free | exact => exact Or.inl rfl
  | only h =>
    have hw : w ∈ extending typed valid := by simp [h]
    exact Or.inr (mem_extending.1 hw)

/-- **What a word stands for stands for itself.** Where it was the only word that begins like the
typed one it is now an exact word, whatever longer words begin like it. -/
theorem StandsFor.self (h : StandsFor position valid typed w) : StandsFor position valid w w := by
  rcases h.eq_or_mem with rfl | ⟨hm, -⟩
  · exact h
  · exact .exact hm

/-- What a word stands for is a word, if no offered word contains a blank. -/
theorem StandsFor.isWord (h : StandsFor position valid typed w) (ht : IsWord typed)
    (hv : ∀ v ∈ valid, ∀ c ∈ v, isBlank c = false) : IsWord w := by
  rcases h.eq_or_mem with rfl | ⟨hm, hbegins⟩
  · exact ht
  · refine ⟨?_, hv w hm⟩
    rintro rfl
    exact ht.1 (List.prefix_nil.1 hbegins)

end Rules

namespace CommandTable

variable {Q H : Type} {answer : Q → List Text} {t : CommandTable Q H}

/-- No word that a table offers behind words contains a blank. -/
def Blankless (answer : Q → List Text) (t : CommandTable Q H) : Prop :=
  ∀ before, (∀ w ∈ before, IsWord w) → ∀ w ∈ t.following answer before, ∀ c ∈ w, isBlank c = false

/-- A table offers no blanks if its names and the words in its completers are words. -/
theorem Each.blankless (h : t.Each answer IsWord) : t.Blankless answer :=
  fun _ hbefore w hw => (h.following hbefore w hw).2

/-- An expanded line expands to itself. -/
theorem Expands.self {typed expanded : List Text} (h : t.Expands answer typed expanded) :
    t.Expands answer expanded expanded := by
  refine ⟨rfl, fun i word w hword hw => ?_⟩
  obtain ⟨typedWord, htyped⟩ : ∃ u, typed[i]? = some u := by
    have hi := (List.getElem?_eq_some_iff.1 hw).1
    exact ⟨_, List.getElem?_eq_getElem (h.1 ▸ hi)⟩
  obtain rfl : word = w := by simpa [hword] using hw
  exact (h.2 i typedWord word htyped hw).self

/-- The words of a line expand to words. -/
theorem Expands.isWord {typed expanded : List Text} (h : t.Expands answer typed expanded)
    (ht : t.Blankless answer) (hw : ∀ w ∈ typed, IsWord w) : ∀ w ∈ expanded, IsWord w := by
  -- the words before a position decide what is offered there
  have htake (n : Nat) : ∀ w ∈ expanded.take n, IsWord w := by
    induction n with
    | zero => simp
    | succ n ih =>
      intro w hmem
      rw [List.take_add_one, List.mem_append, Option.mem_toList] at hmem
      rcases hmem with hmem | hn
      · exact ih w hmem
      obtain ⟨word, hword⟩ : ∃ word, typed[n]? = some word := by
        have hlt := (List.getElem?_eq_some_iff.1 hn).1
        exact ⟨_, List.getElem?_eq_getElem (h.1 ▸ hlt)⟩
      exact (h.2 n word w hword hn).isWord (hw word (List.mem_of_getElem? hword)) (ht _ ih)
  rw [← List.take_length (l := expanded)]
  exact htake expanded.length

/-- The expansion word by word finds what a line expands to. -/
theorem Expands.expand_eq {typed expanded : List Text} (h : t.Expands answer typed expanded)
    (hne : typed ≠ []) (hw : ∀ w ∈ typed, IsWord w) :
    (t.expand (m := Id) (fun q => pure (answer q)) typed).run = .ok expanded := by
  have hnil : t.Expands answer [] [] := .nil
  have hspec := expandBehind_spec hnil hw
  rw [expand_of_ne_nil _ t hne]
  match hr : (t.expandBehind (m := Id) (fun q => pure (answer q)) [] typed).run with
  | .ok u =>
    rw [hr] at hspec
    rw [hspec.unique h]
  | .error e =>
    rw [hr] at hspec
    obtain ⟨i, hi⟩ := hspec
    exact absurd hi h.not_failsAt

/-- The expansion word by word fails with the fault of a line. -/
theorem FailsAt.expand_eq {typed : List Text} {i : Nat} {e : InvalidInput}
    (h : t.FailsAt answer typed i e) (hw : ∀ w ∈ typed, IsWord w) :
    (t.expand (m := Id) (fun q => pure (answer q)) typed).run = .error e := by
  have hne : typed ≠ [] := by
    rintro rfl
    obtain ⟨_, _, hword, -⟩ := h
    cases hword
  have hnil : t.Expands answer [] [] := .nil
  have hspec := expandBehind_spec hnil hw
  rw [expand_of_ne_nil _ t hne]
  cases hr : (t.expandBehind (m := Id) (fun q => pure (answer q)) [] typed).run with
  | ok u =>
    rw [hr] at hspec
    exact absurd h hspec.not_failsAt
  | error f =>
    rw [hr] at hspec
    obtain ⟨j, hj⟩ := hspec
    rw [(hj.unique h).2]

/-- The expansion word by word finds nothing but what a line expands to. -/
theorem expands_of_expand {typed expanded : List Text} (hw : ∀ w ∈ typed, IsWord w)
    (h : (t.expand (m := Id) (fun q => pure (answer q)) typed).run = .ok expanded) :
    t.Expands answer typed expanded := by
  have hnil : t.Expands answer [] [] := .nil
  have hspec := expandBehind_spec hnil hw
  rcases eq_or_ne typed [] with rfl | hne
  · cases h
  · rw [expand_of_ne_nil _ t hne] at h
    rwa [h] at hspec

/-- A line is resolved to what it expands to. -/
theorem resolve_of_expands {line command : Text} {arguments : List Text}
    (h : t.Expands answer line.words (command :: arguments)) {c : Command Q H}
    (hget : t.get? command = some c) :
    (t.resolve (m := Id) (fun q => pure (answer q)) line).run =
      .ok ⟨c.handler, command, arguments⟩ := by
  have hne : line.words ≠ [] := by
    intro hnil
    have hlen := h.1
    rw [hnil] at hlen
    cases hlen
  simp only [resolve, Id.run_bind, h.expand_eq hne fun w => mem_words, List.headD_cons, hget]
  rfl

/-- A line that fails is not resolved. -/
theorem resolve_of_failsAt {line : Text} {i : Nat} {e : InvalidInput}
    (h : t.FailsAt answer line.words i e) :
    (t.resolve (m := Id) (fun q => pure (answer q)) line).run = .error e := by
  simp only [resolve, Id.run_bind, h.expand_eq fun w => mem_words]
  rfl

end CommandTable

/-- **Expansion is a fixed point.** When a line is resolved, then its command and its arguments,
joined with single spaces, are resolved to the same command, by the same handler, with the same
arguments, provided that no word that the table offers contains a blank. -/
theorem CommandTable.resolve_unwords {Q H : Type} (answer : Q → List Text) (t : CommandTable Q H)
    (ht : t.Blankless answer) {line : Text} {r : Resolved H}
    (h : (t.resolve (m := Id) (fun q => pure (answer q)) line).run = .ok r) :
    (t.resolve (m := Id) (fun q => pure (answer q)) (unwords (r.command :: r.arguments))).run =
      .ok r := by
  obtain ⟨⟨c, hget, hhandler⟩, hexpands⟩ := expands_of_resolve h
  have hwords := words_unwords (hexpands.isWord ht fun w => mem_words)
  have hself : t.Expands answer (unwords (r.command :: r.arguments)).words
      (r.command :: r.arguments) := by
    rw [hwords]
    exact hexpands.self
  rw [resolve_of_expands hself hget, ← hhandler]

theorem each_sampleTable :
    sampleTable.Each (fun _ => ["location:1", "location:2"]) IsWord := by
  let answer : Unit → List Text := fun _ => ["location:1", "location:2"]
  let attributes : List AttributeDescriptor := [⟨"fec-type", false, "[rs|fc|none]"⟩,
    ⟨"oper-status", true, "[unknown|ready]"⟩]
  have hvalues : ∀ a ∈ attributes, IsWord a.name ∧ ∀ v ∈ Usage.values a.usage, IsWord v := by
    decide
  have hslots : (Completer.slots (.writing attributes)).Each answer IsWord :=
    Completer.each_ofAttributes hvalues _
  have hnested : (Completer.nested [("module", some (.asking ())), ("netif", none)]).Each answer
      IsWord := ⟨by decide, (by decide : ∀ w ∈ answer (), IsWord w), by decide, trivial⟩
  have hsimple : (Completer.words ["simple"]).Each answer IsWord :=
    (by decide : ∀ w ∈ ([("simple" : String)] : List Text), IsWord w)
  refine CommandTable.Each.ofList ?_
  simp only [List.forall_mem_cons, Option.mem_def, Option.some.injEq, forall_eq']
  exact ⟨⟨by decide, nofun⟩, ⟨by decide, nofun⟩, ⟨by decide, hsimple⟩, ⟨by decide, hslots⟩,
    ⟨by decide, hnested⟩, nofun⟩

theorem resolve_unwords_sampleTable :
    let answer : Unit → List Text := fun _ => ["location:1", "location:2"]
    let r : Resolved Nat := ⟨3, "set", ["fec-type", "fc", "x"]⟩
    sampleTable.Blankless answer ∧
      (sampleTable.resolve (m := Id) (fun q => pure (answer q)) "se fec  f x").run = .ok r ∧
      (sampleTable.resolve (m := Id) (fun q => pure (answer q)) "set fec-type fc x").run =
        .ok r := by
  intro answer r
  have hblankless : sampleTable.Blankless answer := each_sampleTable.blankless
  let typed : List Text := ["se", "fec", "f", "x"]
  have hwords : words "se fec  f x" = typed := by decide
  have hexpand : (sampleTable.expand (m := Id) (fun q => pure (answer q)) typed).run =
      .ok ["set", "fec-type", "fc", "x"] := by decide
  have hget : (sampleTable.get? "set").map Command.handler = some 3 := by decide
  have hline : (sampleTable.resolve (m := Id) (fun q => pure (answer q)) "se fec  f x").run =
      .ok r := by
    obtain ⟨c, hc, hhandler⟩ := Option.map_eq_some_iff.1 hget
    rw [CommandTable.resolve, hwords, Id.run_bind, hexpand]
    simp only [List.headD_cons, hc, hhandler]
    rfl
  have hagain := CommandTable.resolve_unwords answer sampleTable hblankless hline
  have hjoined : unwords (r.command :: r.arguments) = "set fec-type fc x" := by decide
  rw [hjoined] at hagain
  exact ⟨hblankless, hline, hagain⟩

end TransponderShell
