import Mathlib.Tactic.SplitIfs
import TransponderShell.Text.Lemmas

/-!
# Texts in the order of their bytes

Texts are ordered by the numbers of their characters, and this is the order of their UTF-8 encodings
by bytes (`Text.utf8_lt_iff`). It comes down to a single character: the encoding of one with a
greater number is greater, whatever follows both (`utf8EncodeChar_append_lt`). Of two encodings of
different lengths the first bytes decide, and of two of the same length the first base-64 digit in
which the numbers differ (`digits_lt`).
-/

namespace TransponderShell

namespace Text

/-- The last base-64 digit decides if the others are the same. -/
theorem digits_lt {v w : Nat} (h : v < w) :
    v / 64 < w / 64 ∨ v / 64 = w / 64 ∧ v % 64 < w % 64 := by
  omega

/-- Bytes are compared as numbers, and the first ones that differ decide. -/
theorem cons_ofNat_lt_cons {m n : Nat} (hm : m < 256) (hn : n < 256) {x y : List UInt8} :
    UInt8.ofNat m :: x < UInt8.ofNat n :: y ↔ m < n ∨ m = n ∧ x < y := by
  rw [List.cons_lt_cons_iff, UInt8.lt_iff_toNat_lt, ← UInt8.toNat_inj, UInt8.toNat_ofNat',
    UInt8.toNat_ofNat', Nat.mod_eq_of_lt hm, Nat.mod_eq_of_lt hn]

/-- **The encoding of a greater character is greater**, whatever follows. -/
theorem utf8EncodeChar_append_lt {c d : Char} (h : c.toNat < d.toNat) (x y : List UInt8) :
    String.utf8EncodeChar c ++ x < String.utf8EncodeChar d ++ y := by
  have hd : d.val.toNat < 0x110000 := by
    rcases d.valid with hlow | ⟨-, hhigh⟩
    · exact Nat.lt_trans hlow (by decide)
    · exact hhigh
  have h : c.val.toNat < d.val.toNat := h
  unfold String.utf8EncodeChar
  dsimp only
  generalize c.val.toNat = v at h ⊢
  generalize d.val.toNat = w at h hd ⊢
  by_cases hlong : 0xFFFF < v
  · -- four bytes each: the first digit that differs decides
    rw [if_neg (by omega), if_neg (by omega), if_neg (by omega), if_neg (by omega),
      if_neg (by omega), if_neg (by omega)]
    simp (disch := omega) only [List.cons_append, List.nil_append, cons_ofNat_lt_cons]
    rcases digits_lt h with h₁ | ⟨h₁, h₀⟩
    · rcases digits_lt h₁ with h₂ | ⟨h₂, h₁⟩
      · rcases digits_lt h₂ with h₃ | ⟨h₃, h₂⟩
        · omega
        · omega
      · omega
    · omega
  · -- the first bytes tell the lengths apart, and up to three bytes are few digits
    split_ifs
    all_goals simp (disch := omega) only [List.cons_append, List.nil_append, cons_ofNat_lt_cons]
    all_goals omega

theorem utf8_cons (c : Char) (t : Text) : utf8 (c :: t) = String.utf8EncodeChar c ++ utf8 t := rfl

theorem utf8_lt_of_le {s t : Text} (hle : le s t = true) (hne : s ≠ t) : s.utf8 < t.utf8 := by
  induction s generalizing t with
  | nil =>
    cases t with
    | nil => exact absurd rfl hne
    | cons d t =>
      obtain ⟨b, rest, hd⟩ := List.exists_cons_of_ne_nil (String.utf8EncodeChar_ne_nil (c := d))
      rw [utf8_cons, hd]
      exact List.nil_lt_cons b _
  | cons c s ih =>
    cases t with
    | nil => simp at hle
    | cons d t =>
      rw [utf8_cons, utf8_cons]
      rcases cons_le_cons.1 hle with hlt | ⟨rfl, hrest⟩
      · exact utf8EncodeChar_append_lt hlt _ _
      · exact List.append_left_lt (ih hrest fun heq => hne (congrArg (c :: ·) heq))

/-- **The order of texts is the order of their bytes.** -/
theorem utf8_lt_iff {s t : Text} : s.utf8 < t.utf8 ↔ le s t = true ∧ s ≠ t := by
  constructor
  · intro hlt
    have hne : s ≠ t := by
      rintro rfl
      exact List.lt_irrefl _ hlt
    rcases Bool.or_eq_true_iff.1 (le_total s t) with hle | hge
    · exact ⟨hle, hne⟩
    · exact absurd (utf8_lt_of_le hge hne.symm) (List.lt_asymm hlt)
  · rintro ⟨hle, hne⟩
    exact utf8_lt_of_le hle hne

end Text

end TransponderShell
