import TransponderShell.Text.Numeral

/-!
# Reading back numerals

`Numeral.readDigits_toDigits` reads the digits of a number back onto the digits before them;
`Numeral.read_toDigits` is the same for a whole numeral, and `read_decimal` and `read_hex` are the
cases that occur.
-/

namespace TransponderShell.Numeral

/-- The digit of a value has that value. -/
theorem digit?_digitChar {radix d : Nat} (hr : radix ≤ 16) (hd : d < radix) :
    digit? radix d.digitChar = some d := by
  have h : ∀ d < 16, digitValue? d.digitChar = some d := by decide
  simp [digit?, h d (by omega), hd]

/-- Digits are read onto the digits before them. -/
theorem readDigits_append {radix limit acc n : Nat} {s : Text}
    (h : readDigits radix limit acc s = .ok n) (t : Text) :
    readDigits radix limit acc (s ++ t) = readDigits radix limit n t := by
  induction s generalizing acc with
  | nil =>
    cases h
    rfl
  | cons c rest ih =>
    simp only [readDigits, List.cons_append] at h ⊢
    split at h
    · simp at h
    · rename_i d hd
      split at h
      · rename_i hlt
        simp only [hlt, if_true]
        exact ih h
      · simp at h

/-- The digits of a number below the limit are read back. -/
theorem readDigits_toDigits {radix limit n : Nat} (h1 : 1 < radix) (h16 : radix ≤ 16)
    (hn : n < limit) : readDigits radix limit 0 (Nat.toDigits radix n) = .ok n := by
  induction n using Nat.strongRecOn with
  | ind n ih =>
    by_cases hlt : n < radix
    · rw [Nat.toDigits_of_lt_base hlt]
      simp [readDigits, digit?_digitChar h16 hlt, hn]
    · have hle : radix ≤ n := by omega
      rw [Nat.toDigits_of_base_le h1 hle]
      have hdiv : n / radix < n := Nat.div_lt_self (by omega) h1
      have hmod : n % radix < radix := Nat.mod_lt _ (by omega)
      rw [readDigits_append (ih _ hdiv (by omega))]
      have hval : n / radix * radix + n % radix = n := by
        rw [Nat.mul_comm]
        exact Nat.div_add_mod n radix
      simp [readDigits, digit?_digitChar h16 hmod, hval, hn]

/-- No digit is a plus sign. -/
theorem digitChar_ne_plus {d : Nat} (h : d < 16) : d.digitChar ≠ '+' := by
  have : ∀ d < 16, d.digitChar ≠ '+' := by decide
  exact this d h

/-- A numeral begins with no plus sign. -/
theorem head?_toDigits_ne {radix n : Nat} (h1 : 1 < radix) (h16 : radix ≤ 16) :
    (Nat.toDigits radix n).head? ≠ some '+' := by
  induction n using Nat.strongRecOn with
  | ind n ih =>
    by_cases hlt : n < radix
    · rw [Nat.toDigits_of_lt_base hlt]
      simp [digitChar_ne_plus (show n < 16 by omega)]
    · have hle : radix ≤ n := by omega
      have hdiv : n / radix < n := Nat.div_lt_self (by omega) h1
      rw [Nat.toDigits_of_base_le h1 hle, List.head?_append]
      match hd : (Nat.toDigits radix (n / radix)).head? with
      | some c => simpa [hd] using ih _ hdiv
      | none => exact absurd (List.head?_eq_none_iff.1 hd) Nat.toDigits_ne_nil

/-- A text that begins with no plus sign is read as its digits. -/
theorem read_of_head?_ne {radix limit : Nat} {t : Text} (hne : t ≠ []) (hp : t.head? ≠ some '+') :
    read radix limit t = readDigits radix limit 0 t := by
  match t with
  | [] => exact absurd rfl hne
  | c :: rest =>
    have hc : c ≠ '+' := by simpa using hp
    simp only [read]
    split <;> simp_all

/-- The numeral of a number below the limit is read back. -/
theorem read_toDigits {radix limit n : Nat} (h1 : 1 < radix) (h16 : radix ≤ 16) (hn : n < limit) :
    read radix limit (Nat.toDigits radix n) = .ok n := by
  rw [read_of_head?_ne Nat.toDigits_ne_nil (head?_toDigits_ne h1 h16),
    readDigits_toDigits h1 h16 hn]

theorem read_decimal {limit n : Nat} (hn : n < limit) : read 10 limit (decimal n) = .ok n :=
  read_toDigits (by decide) (by decide) hn

theorem read_hex {limit n : Nat} (hn : n < limit) : read 16 limit (hex n) = .ok n :=
  read_toDigits (by decide) (by decide) hn

end TransponderShell.Numeral
