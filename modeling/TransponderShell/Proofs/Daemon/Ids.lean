import TransponderShell.Proofs.Daemon.Grammar

/-!
# Object ids as texts

An object id is read back from its shortest text if it can be read at all
(`Oid.eq_of_parse_render`), so different ids have different texts (`Oid.render_injective`). A
beginning of such a text that reads as an id other than zero is itself the shortest text of that id
(`Oid.eq_render_of_prefix`).

In a list an id stands with zeros in front of it. This text reads as the id as well
(`Oid.parse_renderPadded`), but it is the shortest one for large ids only
(`Oid.renderPadded_eq_render_iff`).
-/

namespace TransponderShell

namespace Oid

theorem parse_render (m : Nat) :
    parse (render m) = Numeral.read 16 Numeral.bound64 (Numeral.hex m) :=
  parse_marked (by decide) (Numeral.hex m)

/-- **An id is read back from its text**, or it is too large. -/
theorem eq_of_parse_render {m n : Nat} (h : parse (render m) = .ok n) : n = m := by
  rw [parse_render] at h
  exact Numeral.eq_of_read_toDigits (by decide) (by decide) h

/-- The text of an id is a word. -/
theorem isWord_render (oid : Nat) : Text.IsWord (render oid) := by
  refine ⟨by simp [render], fun c hc => ?_⟩
  rcases List.mem_append.1 hc with hc | hc
  · exact (by decide : Text.IsWord "0x").2 c hc
  · exact (Numeral.isWord_toDigits (by decide) (by decide) oid).2 c hc

/-! ## The text in a list -/

/-- The text of an id in a list reads as the id. -/
theorem parse_renderPadded {n : Nat} (hn : n < Numeral.bound64) :
    parse (renderPadded n) = .ok n :=
  parse_of_read Announces.hexadecimal (Numeral.read_hexPadded 8 hn)

/-- The text of an id in a list is a word. -/
theorem isWord_renderPadded (n : Nat) : Text.IsWord (renderPadded n) := by
  refine ⟨by simp [renderPadded], fun c hc => ?_⟩
  rcases List.mem_append.1 hc with hc | hc
  · exact (by decide : Text.IsWord "0x").2 c hc
  rcases List.mem_append.1 hc with hc | hc
  · rw [List.eq_of_mem_replicate hc]
    decide
  · exact (Numeral.isWord_toDigits (by decide) (by decide) n).2 c hc

/-- The least id of eight digits. -/
def leastWide : Nat := Nat.pow 16 7

/-- Ids of eight digits and more have no zeros in front of them in a list. -/
theorem renderPadded_eq_render_iff {n : Nat} : renderPadded n = render n ↔ leastWide ≤ n := by
  have hpadded : renderPadded n = render n ↔ 8 ≤ (Numeral.hex n).length := by
    rw [renderPadded, render, List.append_cancel_left_eq, Numeral.hexPadded, List.leftpad,
      List.append_left_eq_self, List.replicate_eq_nil_iff]
    omega
  have hlength : (Numeral.hex n).length ≤ 7 ↔ n < leastWide :=
    Nat.length_toDigits_le_iff (by decide) (by decide)
  rw [hpadded]
  omega

/-! ## Beginnings of a text -/

/-- A beginning of the text of an id that reads as another id is the text of that one, or reads as
zero. -/
theorem eq_render_of_prefix {t : Text} {m n : Nat} (ht : t <+: render m) (hn : parse t = .ok n)
    (hpos : n ≠ 0) : t = render n := by
  have hrender : render m = '0' :: 'x' :: Numeral.hex m := rfl
  rw [hrender] at ht
  rcases t with _ | ⟨a, _ | ⟨b, _ | ⟨c, u⟩⟩⟩
  · cases hn
  · obtain ⟨rfl, -⟩ := List.cons_prefix_cons.1 ht
    have hzero : parse ['0'] = .ok 0 := rfl
    rw [hzero] at hn
    cases hn
    exact absurd rfl hpos
  · simp only [List.cons_prefix_cons] at ht
    obtain ⟨rfl, rfl, -⟩ := ht
    have hempty : parse ['0', 'x'] = .error .empty := rfl
    rw [hempty] at hn
    cases hn
  · simp only [List.cons_prefix_cons] at ht
    obtain ⟨rfl, rfl, hdigits⟩ := ht
    obtain ⟨q, hq⟩ := Numeral.exists_toDigits_of_prefix (by decide : 1 < 16)
      (List.cons_ne_nil c u) hdigits
    have hq : '0' :: 'x' :: c :: u = render q := by
      rw [hq]
      rfl
    rw [hq] at hn ⊢
    rw [eq_of_parse_render hn]

end Oid

end TransponderShell
