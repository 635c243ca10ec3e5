import TransponderShell.Daemon.Feed

/-!
# Playing feeds

`Feed.run_keeps` says that a feed keeps what its receiver keeps.

A feed that delivers a list delivers nothing to a receiver that has cancelled it
(`Feed.run_ofList_cancelled`), and it ends without a failure in any case
(`Feed.exists_run_ofList`).
-/

namespace TransponderShell.Feed

variable {σ γ : Type}

/-- What a receiver keeps, whatever it receives, it keeps over a whole feed. -/
theorem run_keeps {P : γ → Prop} {r : Receiver γ} (hreceive : ∀ n g, P g → P (r.receive n g))
    (hinterrupt : ∀ g, P g → P (r.interrupt g)) (feed : Feed σ) {g : γ} (hg : P g) :
    P (feed.run r g).2.2 := by
  induction feed generalizing g with
  | done result state => exact hg
  | poll next ih => exact ih _ hg
  | deliver n rest ih => exact ih (hreceive n g hg)
  | interrupt rest ih => exact ih (hinterrupt g hg)

/-- A cancelled feed of a list delivers nothing. -/
theorem run_ofList_cancelled (r : Receiver γ) (state : σ) (ns : List Notification) (g : γ)
    (h : r.cancelled g = true) : (ofList state ns).run r g = (.ok (), state, g) := by
  cases ns with
  | nil => rfl
  | cons n rest => simp [ofList, run, h]

/-- A feed of a list does not fail, whoever follows it. -/
theorem exists_run_ofList (r : Receiver γ) (state : σ) (ns : List Notification) (g : γ) :
    ∃ g', (ofList state ns).run r g = (.ok (), state, g') := by
  induction ns generalizing g with
  | nil => exact ⟨g, rfl⟩
  | cons n rest ih =>
    simp only [ofList, run]
    split
    · exact ⟨g, rfl⟩
    · exact ih _

end TransponderShell.Feed
