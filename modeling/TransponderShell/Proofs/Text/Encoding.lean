import TransponderShell.Proofs.Text.ByteOrder

/-!
# Texts and their bytes

The encoding of a text is read back (`ofUtf8?_utf8`), and only the end of a line has its byte in it,
so that bytes are cut into lines where the text is (`pieces_utf8`).
-/

namespace TransponderShell

section Pieces

variable {α : Type} {p : α → Bool}

/-- What comes before the first separator is in front of the first piece. -/
theorem piecesBy_append_of_not {xs : List α} (h : ∀ a ∈ xs, p a = false) {ys piece : List α}
    {more : List (List α)} (hys : piecesBy p ys = piece :: more) :
    piecesBy p (xs ++ ys) = (xs ++ piece) :: more := by
  induction xs with
  | nil => exact hys
  | cons a rest ih =>
    have hrest := ih fun b hb => h b (List.mem_cons_of_mem _ hb)
    have ha := h a (List.mem_cons_self ..)
    simp [piecesBy, ha, hrest]

end Pieces

namespace Text

/-- **The encoding of a text is read back.** -/
@[simp] theorem ofUtf8?_utf8 (t : Text) : ofUtf8? t.utf8 = some t := by
  have hbytes : (⟨t.utf8.toArray⟩ : ByteArray) = t.utf8Encode := by
    apply ByteArray.ext
    rw [List.utf8Encode, List.data_toByteArray]
    rfl
  have hvalid : ByteArray.IsValidUTF8 t.utf8Encode := ByteArray.isValidUTF8_utf8Encode
  have htext : String.fromUTF8 t.utf8Encode hvalid = String.ofList t := by
    rw [← String.toByteArray_inj, String.toByteArray_ofList]
    rfl
  rw [ofUtf8?, hbytes, String.fromUTF8?, dif_pos hvalid, htext, Option.map_some,
    String.toList_ofList]

theorem eq_ofNat_iff {b : UInt8} {n : Nat} (hn : n < 256) : b = UInt8.ofNat n ↔ b.toNat = n := by
  rw [← UInt8.toNat_inj, UInt8.toNat_ofNat', Nat.mod_eq_of_lt hn]

/-- **Only the end of a line has its byte** in its encoding: the bytes of longer encodings are
greater. -/
theorem lineEnd_mem_utf8EncodeChar {c : Char} : 10 ∈ String.utf8EncodeChar c ↔ c = '\n' := by
  constructor
  · intro h
    apply Char.toNat_inj.1
    show c.val.toNat = 10
    have hten : (10 : UInt8).toNat = 10 := rfl
    unfold String.utf8EncodeChar at h
    dsimp only at h
    generalize c.val.toNat = v at h ⊢
    split_ifs at h
    all_goals simp (disch := omega) only [List.mem_cons, List.not_mem_nil, or_false, eq_ofNat_iff,
      hten] at h
    all_goals omega
  · rintro rfl
    decide

theorem utf8_eq_nil_iff {t : Text} : t.utf8 = [] ↔ t = [] := by
  cases t with
  | nil => simp [utf8]
  | cons c rest => simp [utf8_cons]

/-- **Bytes are cut into lines where the text is.** -/
theorem pieces_utf8 (t : Text) : pieces 10 t.utf8 = (pieces '\n' t).map utf8 := by
  induction t with
  | nil => rfl
  | cons c rest ih =>
    rw [pieces, pieces] at ih ⊢
    rw [utf8_cons]
    by_cases hc : c = '\n'
    · have hbytes : String.utf8EncodeChar c = [10] := by
        rw [hc]
        decide
      rw [hbytes, List.singleton_append, piecesBy_cons_of (by simp),
        piecesBy_cons_of (by simpa using hc), ih]
      rfl
    · obtain ⟨piece, more, hrest, hcons⟩ :=
        piecesBy_cons_of_not (p := (· = '\n')) (by simpa using hc) rest
      have hnone : ∀ b ∈ String.utf8EncodeChar c, decide (b = 10) = false := by
        intro b hb
        have : b ≠ 10 := fun e => hc (lineEnd_mem_utf8EncodeChar.1 (e ▸ hb))
        simpa using this
      rw [hrest, List.map_cons] at ih
      rw [hcons, piecesBy_append_of_not hnone ih]
      rfl

end Text

end TransponderShell
