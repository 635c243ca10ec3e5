import Mathlib.Data.List.Forall2
import TransponderShell.Text.Lemmas
import TransponderShell.Text.NumeralLemmas

/-!
# Digits of a radix

A numeral is an optional plus sign and at least one digit. Digits are written in either letter case
(`Numeral.IsDigit`), zeros may stand in front, and the digits make a number by their places
(`Numeral.placeValue`).

* `read_map_toLower` says that the letter case does not matter for what is read.
* `read_eq_ok_iff_spells` says that exactly the numerals of numbers below the limit are read. The
  digits so far never make more than all of them do (`readDigits_of_forall₂`), so a number below the
  limit is never taken for one that is too large.
-/

namespace TransponderShell

/-! ## Letter case -/

/-- A small character is the character of a small number. -/
theorem exists_ofNat {c : Char} {bound : Nat} (h : c.toNat < bound) :
    ∃ n < bound, c = Char.ofNat n :=
  ⟨c.toNat, h, (Char.ofNat_toNat c).symm⟩

/-- Only small characters are letters that change. -/
theorem toLower_of_large {c : Char} (h : 128 ≤ c.toNat) : c.toLower = c := by
  refine dif_neg fun hupper => ?_
  have hle : c.toNat ≤ 'Z'.toNat := hupper.2
  have hlast : 'Z'.toNat = 90 := rfl
  omega

/-- A character that is `d` in lowercase is `d` or its uppercase letter. -/
theorem eq_or_eq_toUpper_of_toLower {c d : Char} (h : c.toLower = d) : c = d ∨ c = d.toUpper := by
  subst h
  by_cases hc : c.toNat < 128
  · have hsmall : ∀ n < 128, Char.ofNat n = (Char.ofNat n).toLower ∨
        Char.ofNat n = (Char.ofNat n).toLower.toUpper := by
      decide
    obtain ⟨n, hn, rfl⟩ := exists_ofNat hc
    exact hsmall n hn
  · exact Or.inl (toLower_of_large (by omega)).symm

namespace Numeral

/-- Only small characters have a value. -/
theorem digitValue?_of_large {c : Char} (h : 128 ≤ c.toNat) : digitValue? c = none := by
  have hlast : '9'.toNat = 57 ∧ 'z'.toNat = 122 ∧ 'Z'.toNat = 90 := ⟨rfl, rfl, rfl⟩
  have hnot {d : Char} (hd : d.toNat < 128) : ¬ c ≤ d := fun hle => by
    have hle : c.toNat ≤ d.toNat := hle
    omega
  have h9 : ¬ c ≤ '9' := hnot (by decide)
  have hz : ¬ c ≤ 'z' := hnot (by decide)
  have hZ : ¬ c ≤ 'Z' := hnot (by decide)
  simp [digitValue?, h9, hz, hZ]

theorem digitValue?_toLower (c : Char) : digitValue? c.toLower = digitValue? c := by
  by_cases hc : c.toNat < 128
  · have hsmall : ∀ n < 128, digitValue? (Char.ofNat n).toLower = digitValue? (Char.ofNat n) := by
      decide
    obtain ⟨n, hn, rfl⟩ := exists_ofNat hc
    exact hsmall n hn
  · rw [toLower_of_large (by omega)]

theorem digit?_toLower (radix : Nat) (c : Char) : digit? radix c.toLower = digit? radix c := by
  rw [digit?, digitValue?_toLower, digit?]

theorem readDigits_map_toLower (radix limit acc : Nat) (t : Text) :
    readDigits radix limit acc (t.map Char.toLower) = readDigits radix limit acc t := by
  induction t generalizing acc with
  | nil => rfl
  | cons c rest ih =>
    simp only [List.map_cons, readDigits, digit?_toLower, ih]

/-- A digit of a radix up to sixteen: a digit sign or a letter in either case. -/
def IsDigit (radix : Nat) (c : Char) (d : Nat) : Prop :=
  d < radix ∧ (c = d.digitChar ∨ c = d.digitChar.toUpper)

instance (radix : Nat) (c : Char) (d : Nat) : Decidable (IsDigit radix c d) :=
  inferInstanceAs (Decidable (_ ∧ _))

theorem digit?_eq_some_iff {radix : Nat} (h16 : radix ≤ 16) {c : Char} {d : Nat} :
    digit? radix c = some d ↔ IsDigit radix c d := by
  have hsmall : ∀ n < 128, ∀ d < 16, digitValue? (Char.ofNat n) = some d →
      Char.ofNat n = d.digitChar ∨ Char.ofNat n = d.digitChar.toUpper := by
    decide
  have hvalue : ∀ d < 16, digitValue? d.digitChar = some d ∧
      digitValue? d.digitChar.toUpper = some d := by
    decide
  rw [digit?, Option.filter_eq_some_iff, decide_eq_true_eq, and_comm, IsDigit]
  refine and_congr_right fun hd => ⟨fun h => ?_, ?_⟩
  · by_cases hc : c.toNat < 128
    · obtain ⟨n, hn, rfl⟩ := exists_ofNat hc
      exact hsmall n hn d (by omega) h
    · rw [digitValue?_of_large (by omega)] at h
      cases h
  · rintro (rfl | rfl)
    · exact (hvalue d (by omega)).1
    · exact (hvalue d (by omega)).2

/-! ## What is read -/

/-- The number that digits make: each counts by its place. -/
def placeValue (radix : Nat) : List Nat → Nat
  | [] => 0
  | d :: rest => d * Nat.pow radix rest.length + placeValue radix rest

/-- Digits of a number. -/
def Makes (radix : Nat) (digits : Text) (n : Nat) : Prop :=
  ∃ values, List.Forall₂ (IsDigit radix) digits values ∧ placeValue radix values = n

/-- A numeral of a number: an optional plus sign and digits that make the number. -/
def Spells (radix : Nat) (t : Text) (n : Nat) : Prop :=
  ∃ digits, (t = digits ∨ t = '+' :: digits) ∧ digits ≠ [] ∧ Makes radix digits n

/-- A digit behind those before it moves them by one place. -/
theorem mul_pow_add_placeValue (radix acc d : Nat) (values : List Nat) :
    acc * Nat.pow radix (d :: values).length + placeValue radix (d :: values) =
      (acc * radix + d) * Nat.pow radix values.length + placeValue radix values := by
  have hpow : Nat.pow radix (d :: values).length = radix * Nat.pow radix values.length :=
    Nat.pow_succ'
  rw [hpow, placeValue, Nat.add_mul, Nat.mul_assoc, Nat.add_assoc]

/-- What is read are digits, and they make the number that is read. -/
theorem forall₂_of_readDigits {radix limit acc n : Nat} (h16 : radix ≤ 16) {t : Text}
    (h : readDigits radix limit acc t = .ok n) :
    ∃ values, List.Forall₂ (IsDigit radix) t values ∧
      acc * Nat.pow radix values.length + placeValue radix values = n ∧ (t ≠ [] → n < limit) := by
  induction t generalizing acc with
  | nil =>
    cases h
    exact ⟨[], .nil, Nat.mul_one _, fun hne => absurd rfl hne⟩
  | cons c rest ih =>
    rw [readDigits] at h
    split at h
    · cases h
    · rename_i d hd
      split at h
      · rename_i hlt
        obtain ⟨values, hvalues, hn, hrest⟩ := ih h
        refine ⟨d :: values, .cons ((digit?_eq_some_iff h16).1 hd) hvalues, ?_, fun _ => ?_⟩
        · rw [mul_pow_add_placeValue, hn]
        · cases rest with
          | nil =>
            cases h
            exact hlt
          | cons _ _ => exact hrest (List.cons_ne_nil _ _)
      · cases h

/-- Digits that make a number below the limit are read as it. The number so far never exceeds the
whole. -/
theorem readDigits_of_forall₂ {radix limit acc : Nat} (h1 : 0 < radix) (h16 : radix ≤ 16)
    {t : Text} {values : List Nat} (h : List.Forall₂ (IsDigit radix) t values)
    (hlt : acc * Nat.pow radix values.length + placeValue radix values < limit) :
    readDigits radix limit acc t =
      .ok (acc * Nat.pow radix values.length + placeValue radix values) := by
  induction h generalizing acc with
  | nil => exact congrArg Except.ok (Nat.mul_one acc).symm
  | @cons c d rest values hd hrest ih =>
    rw [mul_pow_add_placeValue] at hlt ⊢
    have hsofar : acc * radix + d ≤ (acc * radix + d) * Nat.pow radix values.length :=
      Nat.le_mul_of_pos_right _ (Nat.pow_pos h1)
    rw [readDigits, (digit?_eq_some_iff h16).2 hd]
    simp only
    rw [if_pos (by omega), ih hlt]

/-- Exactly the digits of numbers below the limit are read. -/
theorem readDigits_eq_ok_iff_makes {radix limit n : Nat} (h1 : 0 < radix) (h16 : radix ≤ 16)
    {digits : Text} (hne : digits ≠ []) :
    readDigits radix limit 0 digits = .ok n ↔ Makes radix digits n ∧ n < limit := by
  constructor
  · intro h
    obtain ⟨values, hvalues, hn, hlt⟩ := forall₂_of_readDigits h16 h
    rw [Nat.zero_mul, Nat.zero_add] at hn
    exact ⟨⟨values, hvalues, hn⟩, hlt hne⟩
  · rintro ⟨⟨values, hvalues, rfl⟩, hlt⟩
    have hvalue : 0 * Nat.pow radix values.length + placeValue radix values =
        placeValue radix values := by
      rw [Nat.zero_mul, Nat.zero_add]
    have hread := readDigits_of_forall₂ h1 h16 hvalues (hvalue.symm ▸ hlt)
    rwa [hvalue] at hread

/-- Digits begin with no plus sign. -/
theorem not_makes_plus {radix n : Nat} (h16 : radix ≤ 16) (rest : Text) :
    ¬ Makes radix ('+' :: rest) n := by
  rintro ⟨_, hvalues, -⟩
  have hplus : digitValue? '+' = none := by decide
  cases hvalues with
  | cons hd _ =>
    rw [← digit?_eq_some_iff h16, digit?, hplus] at hd
    cases hd

/-- **Exactly the numerals** of numbers below the limit are read. -/
theorem read_eq_ok_iff_spells {radix limit n : Nat} (h1 : 0 < radix) (h16 : radix ≤ 16)
    {t : Text} : read radix limit t = .ok n ↔ Spells radix t n ∧ n < limit := by
  unfold read
  split
  · constructor
    · intro h
      cases h
    · rintro ⟨⟨digits, rfl | h, hne, -⟩, -⟩
      · exact absurd rfl hne
      · cases h
  · constructor
    · intro h
      cases h
    · rintro ⟨⟨digits, rfl | h, hne, hmakes⟩, -⟩
      · exact absurd hmakes (not_makes_plus h16 _)
      · exact absurd (List.cons.inj h).2.symm hne
  · rename_i digits hne
    rw [readDigits_eq_ok_iff_makes h1 h16 hne]
    refine and_congr_left fun _ => ⟨fun h => ⟨digits, Or.inr rfl, hne, h⟩, ?_⟩
    rintro ⟨digits', rfl | h, -, hmakes⟩
    · exact absurd hmakes (not_makes_plus h16 _)
    · obtain rfl := (List.cons.inj h).2
      exact hmakes
  · rename_i hempty _ hsigned
    rw [readDigits_eq_ok_iff_makes h1 h16 hempty]
    refine and_congr_left fun _ => ⟨fun h => ⟨t, Or.inl rfl, hempty, h⟩, ?_⟩
    rintro ⟨digits, rfl | h, -, hmakes⟩
    · exact hmakes
    · exact (hsigned _ h).elim

/-- The letter case does not matter for what is read. -/
theorem read_map_toLower (radix limit : Nat) (t : Text) :
    read radix limit (t.map Char.toLower) = read radix limit t := by
  cases t with
  | nil => rfl
  | cons c rest =>
    by_cases hc : c = '+'
    · subst hc
      have hplus : '+'.toLower = '+' := by decide
      rw [List.map_cons, hplus]
      cases rest with
      | nil => rfl
      | cons d rest => exact readDigits_map_toLower radix limit 0 (d :: rest)
    · have hplus : '+'.toUpper = '+' := by decide
      have hlower : c.toLower ≠ '+' := fun h =>
        hc ((eq_or_eq_toUpper_of_toLower h).elim id fun hupper => hupper.trans hplus)
      rw [read_of_head?_ne (by simp) (by simpa using hlower),
        read_of_head?_ne (by simp) (by simpa using hc), readDigits_map_toLower]

/-! ## What is written -/

/-- The digits of a number come from numbers below the radix. -/
theorem exists_digitChar {radix n : Nat} (h1 : 1 < radix) {c : Char}
    (hc : c ∈ Nat.toDigits radix n) : ∃ d < radix, c = d.digitChar := by
  induction n using Nat.strongRecOn with
  | ind n ih =>
    by_cases hlt : n < radix
    · rw [Nat.toDigits_of_lt_base hlt, List.mem_singleton] at hc
      exact ⟨n, hlt, hc⟩
    · rw [Nat.toDigits_of_base_le h1 (by omega), List.mem_append, List.mem_singleton] at hc
      rcases hc with hc | rfl
      · exact ih _ (Nat.div_lt_self (by omega) h1) hc
      · exact ⟨n % radix, Nat.mod_lt _ (by omega), rfl⟩

/-- Numbers are words. -/
theorem isWord_toDigits {radix : Nat} (h1 : 1 < radix) (h16 : radix ≤ 16) (n : Nat) :
    Text.IsWord (Nat.toDigits radix n) := by
  have hdigit : ∀ d < 16, isBlank d.digitChar = false := by decide
  refine ⟨Nat.toDigits_ne_nil, fun c hc => ?_⟩
  obtain ⟨d, hd, rfl⟩ := exists_digitChar h1 hc
  exact hdigit d (by omega)

/-- A beginning of the digits of a number are the digits of a number. -/
theorem exists_toDigits_of_prefix {radix n : Nat} (h1 : 1 < radix) {u : Text} (hne : u ≠ [])
    (hu : u <+: Nat.toDigits radix n) : ∃ q, u = Nat.toDigits radix q := by
  induction n using Nat.strongRecOn with
  | ind n ih =>
    by_cases hlt : n < radix
    · rw [Nat.toDigits_of_lt_base hlt] at hu
      refine ⟨n, ?_⟩
      rw [Nat.toDigits_of_lt_base hlt]
      exact hu.eq_of_length (Nat.le_antisymm hu.length_le (List.length_pos_iff.2 hne))
    · have hdigits := Nat.toDigits_of_base_le h1 (Nat.le_of_not_lt hlt)
      rw [hdigits, List.prefix_concat_iff] at hu
      rcases hu with hu | hu
      · exact ⟨n, hu.trans hdigits.symm⟩
      · exact ih _ (Nat.div_lt_self (by omega) h1) hu

/-- A number is read back from its digits, or it is too large. -/
theorem eq_of_read_toDigits {radix limit m n : Nat} (h1 : 1 < radix) (h16 : radix ≤ 16)
    (h : read radix limit (Nat.toDigits radix m) = .ok n) : n = m := by
  obtain ⟨hspells, -⟩ := (read_eq_ok_iff_spells (by omega) h16).1 h
  -- What is spelled does not depend on the limit.
  have hread := (read_eq_ok_iff_spells (by omega) h16).2 ⟨hspells, Nat.lt_succ_of_le
    (Nat.le_max_right m n)⟩
  rw [read_toDigits h1 h16 (Nat.lt_succ_of_le (Nat.le_max_left m n))] at hread
  exact (Except.ok.inj hread).symm

/-- Zeros in front of digits do not count. -/
theorem readDigits_replicate_zero {radix limit : Nat} (hradix : 1 < radix) (hlimit : 0 < limit)
    (k : Nat) (t : Text) :
    readDigits radix limit 0 (List.replicate k '0' ++ t) = readDigits radix limit 0 t := by
  have hzero : digit? radix '0' = some 0 := by
    have hvalue : digitValue? '0' = some 0 := by decide
    simp [digit?, hvalue, Nat.lt_of_succ_lt hradix]
  induction k with
  | zero => rfl
  | succ k ih =>
    rw [List.replicate_succ, List.cons_append, readDigits, hzero]
    simpa [hlimit] using ih

/-- A number is read back from its digits with zeros in front. -/
theorem read_hexPadded {limit n : Nat} (width : Nat) (hn : n < limit) :
    read 16 limit (hexPadded width n) = .ok n := by
  have hhex : hex n ≠ [] := Nat.toDigits_ne_nil
  rw [hexPadded, List.leftpad, read_of_head?_ne (by simp [hhex]),
    readDigits_replicate_zero (by decide) (Nat.zero_lt_of_lt hn)]
  · exact readDigits_toDigits (by decide) (by decide) hn
  · rcases hk : width - (hex n).length with _ | k
    · exact head?_toDigits_ne (by decide) (by decide)
    · simp [List.replicate_succ]

end Numeral

end TransponderShell
