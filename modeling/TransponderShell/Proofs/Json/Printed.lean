import TransponderShell.Json.Reader
import TransponderShell.Proofs.Text.Decimals

/-!
# What a rendered value holds

A character of a string is escaped by a letter, by its number, or not at all (`escape_cases`). So no
control character is left in the text of a value, and the text stays on one line
(`noControl_render`).
-/

namespace TransponderShell.Json

/-! ## Escapes -/

/-- The four digits of the number of a control character. -/
theorem hexPadded_of_lt : ∀ n < 0x20, Numeral.hexPadded 4 n =
    ['0', '0', (n / 16).digitChar, (n % 16).digitChar] := by
  decide

/-- The characters that are escaped by a letter. -/
def lettered : Text := ['"', '\\', '\n', '\r', '\t', Char.ofNat 0x08, Char.ofNat 0x0C]

/-- The letters for them. -/
def letters : Text := ['"', '\\', 'n', 'r', 't', 'b', 'f']

/-- Behind a backslash a letter is read as its character. -/
theorem escape_lettered {c : Char} (h : c ∈ lettered) :
    ∃ e ∈ letters, escape c = ['\\', e] ∧ unescape? e = some c := by
  simp only [lettered, List.mem_cons, List.not_mem_nil, or_false] at h
  rcases h with rfl | rfl | rfl | rfl | rfl | rfl | rfl
  · exact ⟨'"', by decide, rfl, rfl⟩
  · exact ⟨'\\', by decide, rfl, rfl⟩
  · exact ⟨'n', by decide, rfl, rfl⟩
  · exact ⟨'r', by decide, rfl, rfl⟩
  · exact ⟨'t', by decide, rfl, rfl⟩
  · exact ⟨'b', by decide, rfl, rfl⟩
  · exact ⟨'f', by decide, rfl, rfl⟩

/-- **A character is escaped** by a letter, or by its number, or not at all. -/
theorem escape_cases (c : Char) :
    (∃ e ∈ letters, escape c = ['\\', e] ∧ unescape? e = some c) ∨
    (c.toNat < 0x20 ∧ escape c =
      ['\\', 'u', '0', '0', (c.toNat / 16).digitChar, (c.toNat % 16).digitChar]) ∨
    (0x20 ≤ c.toNat ∧ c ≠ '"' ∧ c ≠ '\\' ∧ escape c = [c]) := by
  by_cases hc : c ∈ lettered
  · exact Or.inl (escape_lettered hc)
  have heq {n : Nat} (h : c.toNat = n) : c = Char.ofNat n := h ▸ (Char.ofNat_toNat c).symm
  obtain ⟨hquote, hbackslash, hn, hr, ht, hb, hf⟩ : c ≠ '"' ∧ c ≠ '\\' ∧ c ≠ '\n' ∧ c ≠ '\r' ∧
      c ≠ '\t' ∧ c.toNat ≠ 0x08 ∧ c.toNat ≠ 0x0C := by
    simp only [lettered, List.mem_cons, List.not_mem_nil, or_false, not_or] at hc
    exact ⟨hc.1, hc.2.1, hc.2.2.1, hc.2.2.2.1, hc.2.2.2.2.1, mt heq hc.2.2.2.2.2.1,
      mt heq hc.2.2.2.2.2.2⟩
  have hescape : escape c =
      if c.toNat < 0x20 then ['\\', 'u'] ++ Numeral.hexPadded 4 c.toNat else [c] := by
    simp only [escape, hquote, hbackslash, hn, hr, ht, hb, hf, if_false]
  by_cases hlt : c.toNat < 0x20
  · rw [if_pos hlt, hexPadded_of_lt _ hlt] at hescape
    exact Or.inr (Or.inl ⟨hlt, hescape⟩)
  · rw [if_neg hlt] at hescape
    exact Or.inr (Or.inr ⟨Nat.le_of_not_lt hlt, hquote, hbackslash, hescape⟩)

/-! ## No control characters -/

/-- A text holds no control character, in particular no line break. -/
def NoControl (t : Text) : Prop := ∀ c ∈ t, 0x20 ≤ c.toNat

section NoControl

variable {c : Char} {s t : Text}

@[simp] theorem noControl_nil : NoControl [] := nofun

@[simp] theorem noControl_cons : NoControl (c :: t) ↔ 0x20 ≤ c.toNat ∧ NoControl t :=
  List.forall_mem_cons

@[simp] theorem noControl_append : NoControl (s ++ t) ↔ NoControl s ∧ NoControl t :=
  List.forall_mem_append

theorem noControl_of_digits (h : ∀ c ∈ t, c.isDigit = true) : NoControl t := by
  intro c hc
  have hzero : '0'.toNat ≤ c.toNat := (Char.isDigit_iff_toNat.1 (h c hc)).1
  exact Nat.le_trans (by decide) hzero

theorem noControl_decimal (n : Nat) : NoControl (Numeral.decimal n) :=
  noControl_of_digits fun _ => Numeral.isDigit_of_mem_decimal

theorem noControl_replicate (h : 0x20 ≤ c.toNat) (n : Nat) : NoControl (List.replicate n c) := by
  intro d hd
  obtain ⟨-, rfl⟩ := List.mem_replicate.1 hd
  exact h

theorem NoControl.take (h : NoControl t) (n : Nat) : NoControl (t.take n) :=
  fun c hc => h c (List.mem_of_mem_take hc)

theorem NoControl.drop (h : NoControl t) (n : Nat) : NoControl (t.drop n) :=
  fun c hc => h c (List.mem_of_mem_drop hc)

theorem noControl_withPoint (h : NoControl t) (whole : Int) :
    NoControl (Binary64.withPoint t whole) := by
  have hzeros := noControl_replicate (c := '0') (by decide)
  unfold Binary64.withPoint
  dsimp only
  split
  · simp [hzeros, h]
  · split
    · simp [hzeros, h]
    · simp [h.take, h.drop]

theorem noControl_withExponent (h : NoControl t) (exponent : Int) :
    NoControl (Binary64.withExponent t exponent) := by
  have hdecimal := noControl_decimal exponent.natAbs
  unfold Binary64.withExponent
  dsimp only
  split <;> split <;> simp [h.take, h.drop, hdecimal, -List.drop_one]

theorem noControl_renderFloat (x : Binary64) : NoControl x.render := by
  have hdigits := noControl_decimal x.shortest.digits
  have hsign : NoControl (if x.negative then ['-'] else []) := by
    split <;> simp
  unfold Binary64.render
  dsimp only
  split
  · simp [hsign]
  · split
    · exact noControl_append.2 ⟨hsign, noControl_withPoint hdigits _⟩
    · exact noControl_append.2 ⟨hsign, noControl_withExponent hdigits _⟩

theorem noControl_renderInt (n : Int) : NoControl (renderInt n) := by
  have hdecimal := noControl_decimal n.natAbs
  unfold renderInt
  split <;> simp [hdecimal]

theorem noControl_escape (c : Char) : NoControl (escape c) := by
  have hdigit : ∀ n < 16, 0x20 ≤ n.digitChar.toNat := by decide
  have hletters : NoControl letters := by simp [letters]
  rcases escape_cases c with ⟨e, he, hescape, -⟩ | ⟨hlt, hescape⟩ | ⟨hle, -, -, hescape⟩
  · simp [hescape, hletters e he]
  · simp [hescape, hdigit _ (show c.toNat / 16 < 16 by omega),
      hdigit _ (show c.toNat % 16 < 16 by omega)]
  · simp [hescape, hle]

theorem noControl_quote (t : Text) : NoControl (quote t) := by
  have hinner : NoControl (t.flatMap escape) := by
    intro c hc
    obtain ⟨d, -, hd⟩ := List.mem_flatMap.1 hc
    exact noControl_escape d c hd
  simp [quote, hinner]

end NoControl

mutual

/-- **A rendered value holds no control character.** -/
theorem noControl_render : ∀ v : Json, NoControl v.render
  | null => by simp [render]
  | bool true => by simp [render]
  | bool false => by simp [render]
  | int n => noControl_renderInt n
  | float x => noControl_renderFloat x
  | string t => noControl_quote t
  | array items => by simp [render, noControl_renderItems items]
  | object members => by simp [render, noControl_renderMembers members]

theorem noControl_renderItems : ∀ items : List Json, NoControl (renderItems items)
  | [] => by simp [renderItems]
  | [v] => noControl_render v
  | v :: w :: rest => by
    simp [renderItems, noControl_render v, noControl_renderItems (w :: rest)]

theorem noControl_renderMembers : ∀ members : List (Text × Json),
    NoControl (renderMembers members)
  | [] => by simp [renderMembers]
  | [(name, v)] => by simp [renderMembers, noControl_quote, noControl_render v]
  | (name, v) :: m :: rest => by
    simp [renderMembers, noControl_quote, noControl_render v, noControl_renderMembers (m :: rest)]

end

end TransponderShell.Json
