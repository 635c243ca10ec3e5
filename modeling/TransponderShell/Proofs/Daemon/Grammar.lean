import TransponderShell.Daemon.Oid
import TransponderShell.Proofs.Text.Digits

/-!
# What is an object id

The text of an object id is a mark of a radix, or none for decimal, and a numeral of that radix
(`Oid.Spells`). These texts are read, and no others: `Oid.parse_marked` and `Oid.parse_decimal` say
which radix a text is read in, and `Numeral.read_eq_ok_iff_spells` what is read in it.
-/

namespace TransponderShell.Oid

/-- The letters that stand for a radix behind a zero. -/
def marks : List (Char × Nat) := [('x', 16), ('o', 8), ('b', 2)]

/-- What stands in front of a numeral: nothing in decimal, else a zero and the letter of the radix
in either letter case. -/
inductive Announces : Text → Nat → Prop
  | decimal : Announces [] 10
  | marked {c : Char} {radix : Nat} (h : (c.toLower, radix) ∈ marks) : Announces ['0', c] radix

theorem Announces.hexadecimal : Announces "0x" 16 := .marked (by decide)

/-- The text of an object id. -/
def Spells (t : Text) (n : Nat) : Prop :=
  ∃ mark radix numeral, Announces mark radix ∧ t = mark ++ numeral ∧ Numeral.Spells radix numeral n

/-- The radix of a mark is one of three. -/
theorem cases_of_mem_marks {c : Char} {radix : Nat} (h : (c, radix) ∈ marks) :
    c = 'x' ∧ radix = 16 ∨ c = 'o' ∧ radix = 8 ∨ c = 'b' ∧ radix = 2 := by
  simpa [marks] using h

theorem Announces.radix_le {mark : Text} {radix : Nat} (h : Announces mark radix) :
    0 < radix ∧ radix ≤ 16 := by
  cases h with
  | decimal => decide
  | marked h => rcases cases_of_mem_marks h with ⟨-, rfl⟩ | ⟨-, rfl⟩ | ⟨-, rfl⟩ <;> decide

/-! ## Which radix -/

/-- Behind a mark a text is read in the radix of the mark. -/
theorem parse_marked {c : Char} {radix : Nat} (h : (c.toLower, radix) ∈ marks) (numeral : Text) :
    parse ('0' :: c :: numeral) = Numeral.read radix Numeral.bound64 numeral := by
  have hlower : ('0' :: c :: numeral).map Char.toLower =
      '0' :: c.toLower :: numeral.map Char.toLower := rfl
  rw [parse, hlower]
  rcases cases_of_mem_marks h with ⟨hc, rfl⟩ | ⟨hc, rfl⟩ | ⟨hc, rfl⟩
  all_goals
    rw [hc]
    exact Numeral.read_map_toLower ..

/-- A text that is a mark and more in lowercase is that before. -/
theorem exists_of_map_toLower {t digits : Text} {c : Char}
    (h : t.map Char.toLower = '0' :: c :: digits) :
    ∃ d rest, t = '0' :: d :: rest ∧ d.toLower = c := by
  obtain ⟨z, u, rfl, hz, hu⟩ := List.map_eq_cons_iff.1 h
  obtain ⟨d, rest, rfl, hd, -⟩ := List.map_eq_cons_iff.1 hu
  have hzero : '0'.toUpper = '0' := by decide
  obtain rfl : z = '0' :=
    (eq_or_eq_toUpper_of_toLower hz).elim id fun hupper => hupper.trans hzero
  exact ⟨d, rest, rfl, hd⟩

/-- A text without a mark is read in decimal. -/
theorem parse_decimal {t : Text}
    (h : ∀ c radix rest, (c.toLower, radix) ∈ marks → t ≠ '0' :: c :: rest) :
    parse t = Numeral.read 10 Numeral.bound64 t := by
  have hno {c : Char} {radix : Nat} (hc : (c, radix) ∈ marks) (digits : Text) :
      t.map Char.toLower ≠ '0' :: c :: digits := fun hlower => by
    obtain ⟨d, rest, ht, rfl⟩ := exists_of_map_toLower hlower
    exact h d radix rest hc ht
  unfold parse
  split
  · rename_i digits hlower
    exact absurd hlower (hno (by decide : ('x', 16) ∈ marks) digits)
  · rename_i digits hlower
    exact absurd hlower (hno (by decide : ('o', 8) ∈ marks) digits)
  · rename_i digits hlower
    exact absurd hlower (hno (by decide : ('b', 2) ∈ marks) digits)
  · exact Numeral.read_map_toLower ..

/-- Every text is read as a numeral behind what announces its radix. -/
theorem exists_parse_eq (t : Text) :
    ∃ mark radix numeral, Announces mark radix ∧ t = mark ++ numeral ∧
      parse t = Numeral.read radix Numeral.bound64 numeral := by
  by_cases h : ∃ c radix rest, (c.toLower, radix) ∈ marks ∧ t = '0' :: c :: rest
  · obtain ⟨c, radix, rest, hc, rfl⟩ := h
    exact ⟨['0', c], radix, rest, .marked hc, rfl, parse_marked hc rest⟩
  · refine ⟨[], 10, t, .decimal, rfl, parse_decimal fun c radix rest hc ht => h ?_⟩
    exact ⟨c, radix, rest, hc, ht⟩

/-! ## What is read -/

/-- The letter of a mark is no decimal digit. -/
theorem not_isDigit_of_mem_marks {c : Char} {radix d : Nat} (h : (c.toLower, radix) ∈ marks) :
    ¬ Numeral.IsDigit 10 c d := by
  have hnone : Numeral.digit? 10 'x' = none ∧ Numeral.digit? 10 'o' = none ∧
      Numeral.digit? 10 'b' = none := by
    decide
  obtain ⟨hx, ho, hb⟩ := hnone
  rw [← Numeral.digit?_eq_some_iff (by decide), ← Numeral.digit?_toLower]
  rcases cases_of_mem_marks h with ⟨hc, -⟩ | ⟨hc, -⟩ | ⟨hc, -⟩
  · simp [hc, hx]
  · simp [hc, ho]
  · simp [hc, hb]

/-- A mark begins no decimal numeral. -/
theorem not_spells_marked {c : Char} {radix n : Nat} (h : (c.toLower, radix) ∈ marks)
    (rest : Text) : ¬ Numeral.Spells 10 ('0' :: c :: rest) n := by
  rintro ⟨digits, rfl | hplus, -, values, hvalues, -⟩
  · cases hvalues with
    | cons _ hvalues =>
      cases hvalues with
      | cons hc _ => exact not_isDigit_of_mem_marks h hc
  · cases hplus

/-- A numeral behind what announces its radix is read. -/
theorem parse_of_read {mark numeral : Text} {radix n : Nat} (hmark : Announces mark radix)
    (h : Numeral.read radix Numeral.bound64 numeral = .ok n) : parse (mark ++ numeral) = .ok n := by
  cases hmark with
  | decimal =>
    obtain ⟨hspells, -⟩ := (Numeral.read_eq_ok_iff_spells (by decide) (by decide)).1 h
    rw [List.nil_append, parse_decimal, h]
    rintro c radix rest hc rfl
    exact not_spells_marked hc rest hspells
  | marked hc => exact (parse_marked hc numeral).trans h

/-- **The texts of ids** below the bound are read, and no others. -/
theorem parse_eq_ok_iff {t : Text} {n : Nat} :
    parse t = .ok n ↔ Spells t n ∧ n < Numeral.bound64 := by
  constructor
  · intro h
    obtain ⟨mark, radix, numeral, hmark, rfl, hparse⟩ := exists_parse_eq t
    rw [hparse, Numeral.read_eq_ok_iff_spells hmark.radix_le.1 hmark.radix_le.2] at h
    exact ⟨⟨mark, radix, numeral, hmark, rfl, h.1⟩, h.2⟩
  · rintro ⟨⟨mark, radix, numeral, hmark, rfl, hspells⟩, hlt⟩
    exact parse_of_read hmark
      ((Numeral.read_eq_ok_iff_spells hmark.radix_le.1 hmark.radix_le.2).2 ⟨hspells, hlt⟩)

/-- **Ids are read by their grammar.** A text is read as a number if it spells this number and the
number is below the bound; every other text is an error. What an id is written as is read back: the
shortest text of it, the one with zeros in front up to any width, and the numerals in decimal,
octal and binary. -/
theorem parse_grammar :
    (∀ t n, parse t = .ok n ↔ Spells t n ∧ n < Numeral.bound64) ∧
      (∀ t, (∀ n < Numeral.bound64, ¬ Spells t n) → ∃ e, parse t = .error e) ∧
      ∀ n < Numeral.bound64,
        parse (render n) = .ok n ∧
          (∀ width, parse ("0x" ++ Numeral.hexPadded width n) = .ok n) ∧
          parse (Numeral.decimal n) = .ok n ∧
          parse ("0o" ++ Nat.toDigits 8 n) = .ok n ∧
          parse ("0b" ++ Nat.toDigits 2 n) = .ok n := by
  have hoctal : Announces "0o" 8 := .marked (by decide)
  have hbinary : Announces "0b" 2 := .marked (by decide)
  refine ⟨fun t n => parse_eq_ok_iff, fun t h => ?_, fun n hn => ⟨?_, fun width => ?_, ?_, ?_, ?_⟩⟩
  · cases hparse : parse t with
    | error e => exact ⟨e, rfl⟩
    | ok n =>
      obtain ⟨hspells, hn⟩ := parse_eq_ok_iff.1 hparse
      exact absurd hspells (h n hn)
  · exact parse_of_read .hexadecimal (Numeral.read_hex hn)
  · exact parse_of_read .hexadecimal (Numeral.read_hexPadded width hn)
  · exact parse_of_read .decimal (Numeral.read_decimal hn)
  · exact parse_of_read hoctal (Numeral.read_toDigits (by decide) (by decide) hn)
  · exact parse_of_read hbinary (Numeral.read_toDigits (by decide) (by decide) hn)

/-- An uppercase mark, a plus sign, zeros in front and digits in both letter cases; the greatest id;
and the least number that is too large. -/
theorem parse_grammar_boundary :
    Spells "0X+00fF" 255 ∧ parse "0X+00fF" = .ok 255 ∧
      parse (Numeral.decimal (Numeral.bound64 - 1)) = .ok (Numeral.bound64 - 1) ∧
      ∃ e, parse "18446744073709551616" = .error e := by
  have hspells : Spells "0X+00fF" 255 := by
    refine ⟨"0X", 16, "+00fF", .marked (by decide), rfl, "00fF", Or.inr rfl,
      by decide, [0, 0, 15, 15], ?_, by decide⟩
    exact .cons (by decide) (.cons (by decide) (.cons (by decide) (.cons (by decide) .nil)))
  refine ⟨hspells, (parse_grammar.1 _ _).2 ⟨hspells, by decide⟩,
    (parse_grammar.2.2 _ (by decide)).2.2.1, parse_grammar.2.1 _ fun n hn hspelled => ?_⟩
  have hlarge : parse "18446744073709551616" = .error .tooLarge := by decide
  have hparse := (parse_grammar.1 _ n).2 ⟨hspelled, hn⟩
  rw [hlarge] at hparse
  cases hparse

end TransponderShell.Oid
