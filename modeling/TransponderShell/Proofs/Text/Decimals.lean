import Mathlib.Data.List.TakeDrop
import Mathlib.Data.List.TakeWhile
import TransponderShell.Decimal.Notation
import TransponderShell.Proofs.Text.Digits

/-!
# Decimal digits

A numeral in decimal is an optional plus sign and digits that make a number below the limit
(`Numeral.read_eq_ok_iff`). The digits that a number is written with make this number
(`digitsValue_decimal`), without a zero in front (`Numeral.decimal_eq_cons`).
-/

namespace TransponderShell

open Numeral

theorem digitsValue_eq (t : Text) : digitsValue t = Nat.ofDigitChars 10 t 0 := by
  simp only [digitsValue, Nat.ofDigitChars_eq_foldl, Nat.mul_comm]

/-- The decimal digits are the digits of radix ten. -/
theorem Numeral.isDigit_ten {c : Char} {d : Nat} :
    IsDigit 10 c d ↔ c.isDigit = true ∧ c.toNat - '0'.toNat = d := by
  constructor
  · rintro ⟨hd, hc⟩
    have hdigits : ∀ d < 10, d.digitChar.toUpper = d.digitChar ∧ d.digitChar.isDigit = true ∧
        d.digitChar.toNat - '0'.toNat = d := by
      decide
    obtain ⟨hupper, hdigit⟩ := hdigits d hd
    rw [hupper, or_self] at hc
    rwa [hc]
  · rintro ⟨hc, rfl⟩
    have hdigits : ∀ n < 128, (Char.ofNat n).isDigit = true →
        IsDigit 10 (Char.ofNat n) ((Char.ofNat n).toNat - '0'.toNat) := by
      decide
    have hlast : '9'.toNat = 57 := rfl
    have hle : c.toNat ≤ '9'.toNat := (Char.isDigit_iff_toNat.1 hc).2
    obtain ⟨n, hn, rfl⟩ := exists_ofNat (show c.toNat < 128 by omega)
    exact hdigits n hn hc

/-- Digits count as much behind those before them as they count by their places. -/
theorem ofDigitChars_ten (digits : Text) (acc : Nat) :
    Nat.ofDigitChars 10 digits acc = acc * Nat.pow 10 digits.length +
      placeValue 10 (digits.map fun c => c.toNat - '0'.toNat) := by
  induction digits generalizing acc with
  | nil => exact (Nat.mul_one acc).symm
  | cons c rest ih =>
    have hstep := mul_pow_add_placeValue 10 acc (c.toNat - '0'.toNat)
      (rest.map fun c => c.toNat - '0'.toNat)
    rw [List.length_cons, List.length_map] at hstep
    rw [Nat.ofDigitChars_cons, ih, Nat.mul_comm 10 acc, List.map_cons, List.length_cons, hstep]

/-- Digits of radix ten make what they are written for. -/
theorem Numeral.makes_ten {digits : Text} {n : Nat} :
    Makes 10 digits n ↔ (∀ c ∈ digits, c.isDigit = true) ∧ digitsValue digits = n := by
  have hvalues {values : List Nat} : List.Forall₂ (IsDigit 10) digits values ↔
      (∀ c ∈ digits, c.isDigit = true) ∧ values = digits.map fun c => c.toNat - '0'.toNat := by
    have hten : IsDigit 10 = fun c d => c.isDigit = true ∧ c.toNat - '0'.toNat = d :=
      funext₂ fun c d => propext isDigit_ten
    rw [hten, List.forall₂_and_left,
      ← List.forall₂_map_left_iff (f := fun c : Char => c.toNat - '0'.toNat),
      List.forall₂_eq_eq_eq, eq_comm]
  have hvalue : digitsValue digits =
      placeValue 10 (digits.map fun c => c.toNat - '0'.toNat) := by
    rw [digitsValue_eq, ofDigitChars_ten, Nat.zero_mul, Nat.zero_add]
  constructor
  · rintro ⟨values, h, rfl⟩
    obtain ⟨hall, rfl⟩ := hvalues.1 h
    exact ⟨hall, hvalue⟩
  · rintro ⟨hall, rfl⟩
    exact ⟨_, hvalues.2 ⟨hall, rfl⟩, hvalue.symm⟩

/-- **A numeral** is an optional plus sign and digits that make a number below the limit. -/
theorem Numeral.read_eq_ok_iff {limit n : Nat} {t : Text} :
    read 10 limit t = .ok n ↔ ∃ digits, (t = digits ∨ t = '+' :: digits) ∧ digits ≠ [] ∧
      (∀ c ∈ digits, c.isDigit = true) ∧ digitsValue digits = n ∧ n < limit := by
  rw [read_eq_ok_iff_spells (by decide) (by decide)]
  simp only [Spells, makes_ten]
  constructor
  · rintro ⟨⟨digits, ht, hne, hall, hn⟩, hlt⟩
    exact ⟨digits, ht, hne, hall, hn, hlt⟩
  · rintro ⟨digits, ht, hne, hall, hn, hlt⟩
    exact ⟨⟨digits, ht, hne, hall, hn⟩, hlt⟩

theorem Numeral.isDigit_of_mem_decimal {n : Nat} {c : Char} (h : c ∈ decimal n) :
    c.isDigit = true :=
  Nat.isDigit_of_mem_toDigits (by decide) (by decide) h

/-- A decimal begins with zero only if it is zero. -/
theorem Numeral.decimal_eq_cons (n : Nat) :
    ∃ d < 10, ∃ rest, decimal n = d.digitChar :: rest ∧ (d = 0 → n = 0) := by
  induction n using Nat.strongRecOn with
  | ind n ih =>
    rw [decimal]
    by_cases hlt : n < 10
    · exact ⟨n, hlt, [], Nat.toDigits_of_lt_base hlt, id⟩
    · obtain ⟨d, hd, rest, hrest, hzero⟩ := ih (n / 10) (by omega)
      rw [Nat.toDigits_of_base_le (by decide) (by omega), ← decimal, hrest]
      refine ⟨d, hd, rest ++ [(n % 10).digitChar], rfl, fun h => ?_⟩
      have := hzero h
      omega

/-- The digits of a number make this number. -/
theorem digitsValue_decimal (n : Nat) : digitsValue (decimal n) = n := by
  rw [digitsValue_eq]
  exact Nat.ofDigitChars_ten_toDigits

/-- Digits only are a decimal without a fraction and an exponent. -/
theorem DecimalParts.take?_of_digits {t : Text} (h : ∀ c ∈ t, c.isDigit = true) :
    take? t = some (⟨t, none, none⟩, []) := by
  have hdigits : takeDigits t = (t, []) := by
    rw [takeDigits, List.span_eq_takeWhile_dropWhile, List.takeWhile_eq_self_iff.2 h,
      List.dropWhile_eq_nil_iff.2 h]
  rw [take?, hdigits]

end TransponderShell
