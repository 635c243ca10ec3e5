import TransponderShell.Proofs.Command.Replaced
import TransponderShell.Proofs.Daemon.Effect
import TransponderShell.Proofs.Shell.Opened
import TransponderShell.Shell.Tab

/-!
# The line editor keeps what is typed

The line editor puts a word that it offers between the start of the completion and the cursor. All
candidates agree on this start (`Context.start_add_replace`). It lies between two characters, and
what is taken away is a beginning of every word that is offered (`Context.exists_kept`).

The result is `completion_keeps_line`: the candidates of every table complete the word before the
cursor, and the line that the editor makes begins with what stood before the cursor.
-/

namespace TransponderShell

open Text

namespace Context

variable {σ : Type} (d : Daemon σ) (c : Context) (before : Text) (s : σ)

theorem tab_eq : (c.tab d before s).1 =
    ⟨before.byteSize - (c.completion d before s).1.head?.elim 0 Candidate.replace,
      Candidate.texts (c.completion d before s).1⟩ := by
  unfold tab
  rcases h : c.completion d before s with ⟨_ | ⟨first, rest⟩, s'⟩
  · rw [run_stateBind h]
    rfl
  · rw [run_stateBind h]
    rfl

theorem completes_of_mem {k : Candidate} (h : k ∈ (c.completion d before s).1) :
    k.Completes before.wordBeforeCursor :=
  c.table.completes (Question.ask d) h

/-- **Whichever candidate is asked, the completion starts at the same place**, and it does not start
in front of the line. -/
theorem start_add_replace {k : Candidate} (h : k ∈ (c.completion d before s).1) :
    (c.tab d before s).1.start + k.replace = before.byteSize := by
  have hfirst : (c.completion d before s).1.head?.elim 0 Candidate.replace =
      before.wordBeforeCursor.byteSize := by
    obtain ⟨first, rest, hcons⟩ := List.exists_cons_of_ne_nil (List.ne_nil_of_mem h)
    rw [hcons, List.head?_cons, Option.elim_some]
    exact (completes_of_mem d c before s (hcons ▸ List.mem_cons_self ..)).replace
  have hle : before.wordBeforeCursor.byteSize ≤ before.byteSize := by
    obtain ⟨kept, hkept⟩ := exists_append_wordBeforeCursor before
    have hsize := congrArg byteSize hkept
    rw [byteSize_append] at hsize
    omega
  rw [tab_eq, hfirst, (completes_of_mem d c before s h).replace]
  exact Nat.sub_add_cancel hle

/-- What stands before the start is kept, and what stands behind it is a beginning of every word
that is offered. -/
theorem exists_kept : ∃ kept taken, before = kept ++ taken ∧
    (c.tab d before s).1.start = kept.byteSize ∧ ∀ r ∈ (c.tab d before s).1.words, taken <+: r := by
  rcases hcandidates : (c.completion d before s).1 with _ | ⟨first, rest⟩
  · refine ⟨before, [], (List.append_nil _).symm, ?_, ?_⟩
    · rw [tab_eq, hcandidates]
      exact Nat.sub_zero _
    · rw [tab_eq, hcandidates]
      nofun
  · obtain ⟨kept, hkept⟩ := exists_append_wordBeforeCursor before
    have hmem : first ∈ (c.completion d before s).1 := hcandidates ▸ List.mem_cons_self ..
    refine ⟨kept, before.wordBeforeCursor, hkept, ?_, fun r hr => ?_⟩
    · have hstart := start_add_replace d c before s hmem
      have hsize := congrArg byteSize hkept
      rw [byteSize_append] at hsize
      rw [(completes_of_mem d c before s hmem).replace] at hstart
      omega
    · rw [tab_eq] at hr
      obtain ⟨k, hk, rfl⟩ := List.mem_map.1 hr
      exact (completes_of_mem d c before s hk).begins

end Context

/-- **Completion edits the word before the cursor only.** Every candidate of a table begins with
this word and replaces all of it. So for a cursor between two characters of a line, the start of the
completion lies between two characters, not behind the cursor, and it is the one that every
candidate asks for. The line with an offered word in the place of what stands between the start and
the cursor begins with what stood before the cursor. -/
theorem completion_keeps_line :
    (∀ {Q H σ : Type} (ask : Q → StateM σ (List Text)) (t : CommandTable Q H) (text : Text)
      (mode : CompletionMode) (s : σ), ∀ k ∈ (t.completion ask text mode s).1,
        k.replace = text.wordBeforeCursor.byteSize ∧ text.wordBeforeCursor <+: k.text) ∧
    ∀ {σ : Type} (d : Daemon σ) (c : Context) (s : σ) (line before behind : Text) (cursor : Nat),
      line.cutAt cursor = some (before, behind) →
      let tab := (c.tab d before s).1
      (∀ k ∈ (c.completion d before s).1, tab.start + k.replace = cursor) ∧
        (line.cutAt tab.start).isSome ∧ tab.start ≤ cursor ∧
        ∀ r ∈ tab.words, ∃ edited, line.splice? tab.start cursor r = some edited ∧
          before <+: edited := by
  refine ⟨fun ask t text mode s k hk => ?_, fun d c s line before behind cursor hcut => ?_⟩
  · have hcompletes := t.completes ask hk
    exact ⟨hcompletes.replace, hcompletes.begins⟩
  · obtain ⟨rfl, rfl⟩ := cutAt_eq_some_iff.1 hcut
    refine ⟨fun k hk => c.start_add_replace d before s hk, ?_⟩
    obtain ⟨kept, taken, rfl, hstart, htaken⟩ := c.exists_kept d before s
    rw [hstart]
    refine ⟨?_, ?_, fun r hr => ?_⟩
    · rw [List.append_assoc, cutAt_append]
      rfl
    · rw [byteSize_append]
      exact Nat.le_add_right _ _
    · refine ⟨kept ++ r ++ behind, splice?_append kept taken behind r, ?_⟩
      have hkept : kept ++ taken <+: kept ++ r := (List.prefix_append_right_inj kept).2 (htaken r hr)
      exact hkept.trans (List.prefix_append ..)

/-- The blank in the line takes three bytes. -/
theorem completion_keeps_line_hostContext :
    let line : Text := "se　fec r"
    let before : Text := "se　fec"
    line.cutAt 8 = some (before, [' ', 'r']) ∧
      (hostContext.tab Simulator.daemon before Simulator.seed).1 = ⟨5, ["fec-type"]⟩ ∧
      ∃ edited, line.splice? 5 8 "fec-type" = some edited ∧ before <+: edited := by
  intro line before
  have hcut : line.cutAt 8 = some (before, [' ', 'r']) := by decide
  have htab : (hostContext.tab Simulator.daemon before Simulator.seed).1 = ⟨5, ["fec-type"]⟩ := by
    decide +kernel
  obtain ⟨-, -, -, hedited⟩ := completion_keeps_line.2 Simulator.daemon hostContext Simulator.seed
    line before [' ', 'r'] 8 hcut
  rw [htab] at hedited
  exact ⟨hcut, htab, hedited "fec-type" (List.mem_singleton_self _)⟩

end TransponderShell
