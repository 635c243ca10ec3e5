import TransponderShell.Proofs.Json.Printed

/-!
# Reading back JSON text

The text of a string is read back character by character: the escape of a character is one part of
the string, which stands for this character again (`takeUnits_escape`), and so it is with the whole
string (`takeString_escaped`). A whole number is read back from its digits if it is a number of 64
bits (`takeNumber_renderInt`), as the whole numbers among the values of attributes are
(`wholeNumber?_eq_some_iff`).

`ofText?_render_ofAttribute` has the result: a value is read back from its text if it is no floating
point number.
-/

namespace TransponderShell.Json

/-! ## Strings -/

/-- A character that is given by its number is one character, unless it is half of a pair. -/
theorem joinUnits_code {n : Nat} (h : n < 0xD800) (units : List CodeUnit) :
    joinUnits (.code n :: units) = (joinUnits units).map (Char.ofNat n :: ·) := by
  have hhigh : ¬ (0xD800 ≤ n ∧ n < 0xDC00) := by omega
  have hlow : ¬ (0xDC00 ≤ n ∧ n < 0xE000) := by omega
  have hhalf : ¬ (0xD800 ≤ n ∧ n < 0xE000) := by omega
  rcases units with _ | ⟨_ | _, units⟩
  · simp only [joinUnits, if_neg hhalf]
  · simp only [joinUnits, if_neg hhalf]
  · simp only [joinUnits, if_neg hhigh, if_neg hlow]

section

variable {c : Char} {t rest : Text} {units : List CodeUnit}

/-- A letter behind a backslash is one part of a string. -/
theorem takeUnits_letter {e : Char} (h : unescape? e = some c)
    (ht : takeUnits t = some (units, rest)) :
    takeUnits ('\\' :: e :: t) = some (.char c :: units, rest) := by
  have hu : e ≠ 'u' := by
    rintro rfl
    cases h
  simp [takeUnits, h, ht, hu]

/-- So are four hexadecimal digits. -/
theorem takeUnits_number {n : Nat} (h : n < 0x20) (ht : takeUnits t = some (units, rest)) :
    takeUnits ('\\' :: 'u' :: '0' :: '0' :: (n / 16).digitChar :: (n % 16).digitChar :: t) =
      some (.code n :: units, rest) := by
  have hquad : ∀ n < 0x20,
      hexQuad? '0' '0' (n / 16).digitChar (n % 16).digitChar = some n := by decide
  simp [takeUnits, hquad n h, ht]

/-- So is a character that needs no escape. -/
theorem takeUnits_plain (hle : 0x20 ≤ c.toNat) (hquote : c ≠ '"') (hbackslash : c ≠ '\\')
    (ht : takeUnits t = some (units, rest)) :
    takeUnits (c :: t) = some (.char c :: units, rest) := by
  have hlt : ¬ c.toNat < 0x20 := by omega
  simp [takeUnits, hbackslash, hlt, ht]

/-- **The escape of a character stands for this character again.** -/
theorem takeUnits_escape (c : Char) (ht : takeUnits t = some (units, rest)) :
    ∃ u, takeUnits (escape c ++ t) = some (u :: units, rest) ∧
      joinUnits (u :: units) = (joinUnits units).map (c :: ·) := by
  rcases escape_cases c with
    ⟨e, -, hescape, hletter⟩ | ⟨hlt, hescape⟩ | ⟨hle, hquote, hbackslash, hescape⟩
  · rw [hescape]
    exact ⟨.char c, takeUnits_letter hletter ht, rfl⟩
  · rw [hescape]
    refine ⟨.code c.toNat, takeUnits_number hlt ht, ?_⟩
    rw [joinUnits_code (by omega), Char.ofNat_toNat]
  · rw [hescape]
    exact ⟨.char c, takeUnits_plain hle hquote hbackslash ht, rfl⟩

/-- **A string is read back up to its closing quote.** -/
theorem takeString_escaped (t rest : Text) :
    takeString (t.flatMap escape ++ '"' :: rest) = some (t, rest) := by
  have hunits : ∃ units, takeUnits (t.flatMap escape ++ '"' :: rest) = some (units, rest) ∧
      joinUnits units = some t := by
    induction t with
    | nil => exact ⟨[], rfl, rfl⟩
    | cons c t ih =>
      obtain ⟨units, hunits, hjoin⟩ := ih
      obtain ⟨u, htake, hu⟩ := takeUnits_escape c hunits
      refine ⟨u :: units, ?_, ?_⟩
      · rwa [List.flatMap_cons, List.append_assoc]
      · rw [hu, hjoin]
        rfl
  obtain ⟨units, hunits, hjoin⟩ := hunits
  simp [takeString, hunits, hjoin]

end

/-! ## Whole numbers -/

/-- A whole number of 64 bits, with or without a sign. -/
def Fits (n : Int) : Prop := -(Numeral.bound63 : Int) ≤ n ∧ n < Numeral.bound64

/-- A decimal is taken as the whole number that it is, with its sign. -/
theorem ofParts?_decimal {n : Int} (h : Fits n) :
    ofParts? (decide (n < 0)) ⟨Numeral.decimal n.natAbs, none, none⟩ = some (int n) := by
  obtain ⟨hlow, hhigh⟩ := h
  unfold ofParts?
  dsimp only
  rw [digitsValue_decimal]
  by_cases hn : n < 0
  · rw [if_neg (by simp [hn]), if_pos ⟨decide_eq_true hn, by omega, by omega⟩]
    congr 2
    omega
  · rw [if_pos ⟨by simpa using hn, by omega⟩]
    congr 2
    omega

/-- **A whole number is read back from its digits.** -/
theorem takeNumber_renderInt {n : Int} (h : Fits n) :
    takeNumber (renderInt n) = some (int n, []) := by
  by_cases hn0 : n = 0
  · subst hn0
    rfl
  have hparts := ofParts?_decimal h
  have htake := DecimalParts.take?_of_digits fun _ => Numeral.isDigit_of_mem_decimal (n := n.natAbs)
  -- the digits do not begin with zero, so they are no fault
  obtain ⟨d, hd, rest, hcons, hzero⟩ := Numeral.decimal_eq_cons n.natAbs
  have hd0 : d ≠ 0 := fun hd => hn0 (Int.natAbs_eq_zero.1 (hzero hd))
  have hminus : ∀ d < 10, d.digitChar ≠ '-' := by decide
  unfold renderInt
  rw [hcons] at hparts htake ⊢
  by_cases hn : n < 0
  · rw [decide_eq_true hn] at hparts
    simp [hn, takeNumber, htake, hparts, hd0]
  · rw [decide_eq_false hn] at hparts
    simp [hn, takeNumber, htake, hparts, hd0, hminus d hd]

/-- A text is a whole number of 64 bits: digits with or without a sign. -/
def IsWhole (t : Text) (n : Int) : Prop :=
  ∃ digits : Text, digits ≠ [] ∧ (∀ c ∈ digits, c.isDigit = true) ∧ Fits n ∧
    ((t = digits ∨ t = '+' :: digits) ∧ n = digitsValue digits ∨
      t = '-' :: digits ∧ n = -(digitsValue digits : Int))

/-- What is read as a whole number is one. -/
theorem isWhole_of_wholeNumber? {t : Text} {n : Int} (h : wholeNumber? t = some n) :
    IsWhole t n := by
  have hbounds : Numeral.bound63 < Numeral.bound64 := by decide
  unfold wholeNumber? at h
  split at h
  · cases h
  · split at h
    · rename_i hsigned _ m hread
      obtain rfl := Option.some.inj h
      obtain ⟨digits, ht | ht, hne, hall, rfl, hlt⟩ := Numeral.read_eq_ok_iff.1 hread
      · exact ⟨digits, hne, hall, ⟨by omega, by omega⟩, Or.inr ⟨ht ▸ rfl, rfl⟩⟩
      · exact (hsigned _ ht).elim
    · cases h
  · split at h
    · rename_i m hread
      obtain rfl := Option.some.inj h
      obtain ⟨digits, ht, hne, hall, rfl, hlt⟩ := Numeral.read_eq_ok_iff.1 hread
      exact ⟨digits, hne, hall, ⟨by omega, by omega⟩, Or.inl ⟨ht, rfl⟩⟩
    · cases h

/-- Each whole number is read. -/
theorem IsWhole.wholeNumber?_eq {t : Text} {n : Int} (h : IsWhole t n) :
    wholeNumber? t = some n := by
  obtain ⟨digits, hne, hall, ⟨hlow, hhigh⟩, hsign⟩ := h
  have hfirst {c : Char} {rest : Text} (h : digits = c :: rest) : c.isDigit = true :=
    hall c (h ▸ List.mem_cons_self ..)
  unfold wholeNumber?
  rcases hsign with ⟨ht, rfl⟩ | ⟨rfl, rfl⟩
  · have hread := Numeral.read_eq_ok_iff.2
      ⟨digits, ht, hne, hall, rfl, (by omega : digitsValue digits < Numeral.bound64)⟩
    have hminus {rest : Text} : t ≠ '-' :: rest := by
      rintro rfl
      rcases ht with h | h
      · exact absurd (hfirst h.symm) (by decide)
      · cases h
    split
    · exact absurd rfl hminus
    · exact absurd rfl hminus
    · rw [hread]
  · have hread := Numeral.read_eq_ok_iff.2
      ⟨digits, Or.inl rfl, hne, hall, rfl,
        (by omega : digitsValue digits < Numeral.bound63 + 1)⟩
    split
    · rename_i h
      exact absurd (hfirst (List.cons.inj h).2) (by decide)
    · rename_i h
      obtain rfl := (List.cons.inj h).2
      rw [hread]
    · rename_i h
      exact (h _ rfl).elim

/-- **These are the texts that are read as whole numbers.** -/
theorem wholeNumber?_eq_some_iff {t : Text} {n : Int} : wholeNumber? t = some n ↔ IsWhole t n :=
  ⟨isWhole_of_wholeNumber?, IsWhole.wholeNumber?_eq⟩

theorem IsWhole.fits {t : Text} {n : Int} (h : IsWhole t n) : Fits n := by
  obtain ⟨-, -, -, hfits, -⟩ := h
  exact hfits

/-! ## Whole texts -/

/-- A text of one token that is a value is read as this value. -/
theorem ofText?_of_takeToken {c : Char} {t : Text} {token : Token} {v : Json}
    (hc : isSpace c = false) (htake : takeToken (c :: t) = some (token, []))
    (hv : Reader.beginValue [] token = some (.done v)) : ofText? (c :: t) = some v := by
  have htokens : tokens? (c :: t) = some [token] := by
    simp [tokens?, tokensWithin, hc, htake]
  simp [ofText?, htokens, Reader.run, Reader.step, hv]

/-- A token that begins with a digit or a minus is a number. -/
theorem takeToken_number {c : Char} (hc : c = '-' ∨ c.isDigit = true) {t after : Text} {v : Json}
    (h : takeNumber (c :: t) = some (v, after)) :
    takeToken (c :: t) = some (.scalar v, after) := by
  unfold takeToken
  split
  case h_11 =>
    rw [h]
    rfl
  all_goals
    rename_i heq
    obtain ⟨rfl, -⟩ := List.cons.inj heq
    exact absurd hc (by decide)

/-- **A string is read back from its text.** -/
theorem ofText?_quote (t : Text) : ofText? (quote t) = some (string t) := by
  have htake : takeToken (quote t) = some (.text t, []) := by
    show (takeString (t.flatMap escape ++ ['"'])).map _ = _
    rw [takeString_escaped]
    rfl
  exact ofText?_of_takeToken rfl htake rfl

/-- **A whole number of 64 bits is read back from its text.** -/
theorem ofText?_renderInt {n : Int} (h : Fits n) : ofText? (renderInt n) = some (int n) := by
  obtain ⟨c, t, hcons, hc⟩ : ∃ c t, renderInt n = c :: t ∧ (c = '-' ∨ c.isDigit = true) := by
    obtain ⟨d, hd, rest, hcons, -⟩ := Numeral.decimal_eq_cons n.natAbs
    unfold renderInt
    split
    · exact ⟨'-', _, rfl, Or.inl rfl⟩
    · refine ⟨_, _, hcons, Or.inr (Numeral.isDigit_of_mem_decimal (n := n.natAbs) ?_)⟩
      rw [hcons]
      exact List.mem_cons_self ..
  have hspace : isSpace c = false := by
    simp only [isSpace, Bool.or_eq_false_iff, decide_eq_false_iff_not]
    refine ⟨⟨⟨?_, ?_⟩, ?_⟩, ?_⟩ <;>
    · rintro rfl
      exact absurd hc (by decide)
  have htake := takeNumber_renderInt h
  rw [hcons] at htake ⊢
  exact ofText?_of_takeToken hspace (takeToken_number hc htake) rfl

/-! ## The values of attributes -/

/-- The text of a whole number stands for this number. -/
theorem IsWhole.ofAttribute_eq {t : Text} {n : Int} (h : IsWhole t n) : ofAttribute t = int n := by
  have hwhole := wholeNumber?_eq_some_iff.2 h
  have htrue : t ≠ "true" := by
    rintro rfl
    cases hwhole
  have hfalse : t ≠ "false" := by
    rintro rfl
    cases hwhole
  rw [ofAttribute, if_neg htrue, if_neg hfalse, hwhole]

/-- What is neither a truth value nor a number stands for itself. -/
theorem ofAttribute_eq_string {t : Text} (htrue : t ≠ "true") (hfalse : t ≠ "false")
    (hwhole : ¬ ∃ n, IsWhole t n) (hfloat : Binary64.ofText? t = none) :
    ofAttribute t = string t := by
  have hnone : wholeNumber? t = none :=
    Option.eq_none_iff_forall_ne_some.2 fun n h => hwhole ⟨n, wholeNumber?_eq_some_iff.1 h⟩
  rw [ofAttribute, if_neg htrue, if_neg hfalse, hnone, hfloat]

/-- **A value is read back** from its text if it is no floating-point number. -/
theorem ofText?_render_ofAttribute {t : Text}
    (h : Binary64.ofText? t = none ∨ ∃ n, IsWhole t n) :
    ofText? (ofAttribute t).render = some (ofAttribute t) := by
  by_cases htrue : t = "true"
  · subst htrue
    rfl
  by_cases hfalse : t = "false"
  · subst hfalse
    rfl
  by_cases hwhole : ∃ n, IsWhole t n
  · obtain ⟨n, hn⟩ := hwhole
    rw [hn.ofAttribute_eq]
    exact ofText?_renderInt hn.fits
  · rw [ofAttribute_eq_string htrue hfalse hwhole (h.resolve_right hwhole)]
    exact ofText?_quote t

end TransponderShell.Json
