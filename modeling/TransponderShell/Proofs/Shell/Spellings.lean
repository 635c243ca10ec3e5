import TransponderShell.Proofs.Command.Resolved
import TransponderShell.Proofs.Shell.Removing

/-!
# Spellings of an object id

An object id has many spellings: with leading zeros, in capitals, and in four radices. `Oid.parse`
reads them all, and so does the command `remove` with the word that it is given. But at the root
this word is first looked for among the ids of the live objects, which are offered in their shortest
spelling (`Simulator.Sound.mem_answers_oids`).

So of all spellings of a live id the shortest one alone is let through
(`resolve_remove_render`); any other one, among them the one that the list of slots shows, is an
unknown argument (`faults_of_ne_render`). The results are `remove_spelling` and, for the list of
slots, `remove_listed`.
-/

namespace TransponderShell

open Text Simulator CommandTable

variable {s : Simulator} {typed : Text} {n : Nat}

/-- The command of the line is resolved in any case. -/
theorem expands_remove (s : Simulator) :
    Context.root.table.Expands s.answers ["remove"] ["remove"] := by
  refine Expands.concat .nil (.exact ?_)
  rw [following_nil]
  exact get?_isSome.1 (get?_remove_root ▸ rfl)

/-- The shortest spelling of a live id stands for itself. -/
theorem resolve_remove_render (hs : s.Sound) (hlive : (s.object? n).isSome) :
    (Context.root.table.resolve (m := Id) (fun q => pure (s.answers q))
      (removeLine (Oid.render n))).run = .ok ⟨.remove, "remove", [Oid.render n]⟩ := by
  have hoffered : Oid.render n ∈ s.answers .oids := hs.mem_answers_oids.2 ⟨n, hlive, rfl⟩
  refine resolve_of_expands ?_ get?_remove_root
  rw [words_removeLine (Oid.isWord_render n)]
  exact (expands_remove s).concat (following_remove s ▸ .exact hoffered)

/-- Any other spelling of a live id is at fault, as it is no beginning of a shortest spelling. -/
theorem faults_of_ne_render (hs : s.Sound) (hlive : (s.object? n).isSome)
    (hn : Oid.parse typed = .ok n) (hne : typed ≠ Oid.render n) :
    Faults 1 (s.answers .oids) typed (.unknownArgument (s.answers .oids)) := by
  have hoffered : Oid.render n ∈ s.answers .oids := hs.mem_answers_oids.2 ⟨n, hlive, rfl⟩
  refine .unknownArgument Nat.one_pos (List.ne_nil_of_mem hoffered) ?_
  refine List.eq_nil_iff_forall_not_mem.2 fun w hw => ?_
  obtain ⟨hanswer, hprefix⟩ := mem_extending.1 hw
  obtain ⟨m, -, rfl⟩ := hs.mem_answers_oids.1 hanswer
  obtain ⟨object, hobject⟩ := Option.isSome_iff_exists.1 hlive
  have hpos : n ≠ 0 := Nat.ne_of_gt (hs.pos _ (mem_directory_of_object? hobject))
  exact hne (Oid.eq_render_of_prefix hprefix hn hpos)

theorem resolve_remove_of_ne_render (hs : s.Sound) (hlive : (s.object? n).isSome)
    (ht : IsWord typed) (hn : Oid.parse typed = .ok n) (hne : typed ≠ Oid.render n) :
    (Context.root.table.resolve (m := Id) (fun q => pure (s.answers q)) (removeLine typed)).run =
      .error (.unknownArgument (s.answers .oids)) := by
  refine resolve_of_failsAt (i := 1) ⟨["remove"], typed, ?_, ?_, ?_⟩
  · rw [words_removeLine ht]
    rfl
  · rw [words_removeLine ht]
    exact expands_remove s
  · rw [following_remove]
    exact faults_of_ne_render hs hlive hn hne

/-! ## The command -/

/-- What can be removed is there. -/
theorem Simulator.Sound.isSome_of_remove {s s' : Simulator} (h : s.Sound) {n : Nat}
    (hremove : remove n s = (.ok (), s')) : (s.object? n).isSome := by
  rcases remove_cases h n with ⟨e, he⟩ | ⟨_, -, hlive, -⟩
  · rw [hremove] at he
    cases he
  · exact hlive

section Perform

variable {ω : Type} (t : Terminal Simulator ω) (hdaemon : t.daemon = daemon)
  {world : World Simulator ω}

include hdaemon

/-- With the shortest spelling the object is removed. -/
theorem perform_remove_render (hs : world.daemon.Sound) {s' : Simulator}
    (hn : Oid.parse (Oid.render n) = .ok n)
    (hremove : remove n world.daemon = (.ok (), s')) :
    Context.root.perform t (removeLine (Oid.render n)) world =
      (.ok .stay, { world with daemon := s' }) := by
  have hresolve := resolve_remove_render hs (hs.isSome_of_remove hremove)
  rw [Context.perform_eq, hdaemon, resolve_eq, hresolve]
  dsimp only [Handler.run, Handler.runRemove]
  rw [hn]
  dsimp only
  rw [run_bind, Step.run_request, hdaemon, show daemon.remove n world.daemon = _ from hremove]
  rfl

/-- With any other spelling of the id nothing happens. -/
theorem perform_remove_of_ne_render (hs : world.daemon.Sound)
    (hlive : (world.daemon.object? n).isSome) (ht : IsWord typed) (hn : Oid.parse typed = .ok n)
    (hne : typed ≠ Oid.render n) :
    Context.root.perform t (removeLine typed) world =
      (.error (.input (.unknownArgument (world.daemon.answers .oids))), world) := by
  have hresolve := resolve_remove_of_ne_render hs hlive ht hn hne
  rw [Context.perform_eq, hdaemon, resolve_eq, hresolve]

end Perform

/-- **Which spellings remove an object.** At the root, let a word read as the id `n` of an object
that the simulator lets go. The line `remove` with this word removes the object if the word is the
shortest spelling of `n`. Otherwise the word is an unknown argument and nothing is removed. -/
theorem remove_spelling {ω : Type} (w : Writer ω) (json : Bool) {s₀ s' : Simulator}
    {shell : Shell Simulator ω} (h₀ : Initial s₀) (h : Reaches s₀ shell.world.daemon)
    (hroot : shell.context = Context.root) (ht : IsWord typed) (hn : Oid.parse typed = .ok n)
    (hremove : remove n shell.world.daemon = (.ok (), s')) :
    let t : Terminal Simulator ω := ⟨daemon, w, json⟩
    let after := (Shell.execute t (removeLine typed) shell).2.world.daemon
    (typed = Oid.render n → after = s') ∧
      (typed ≠ Oid.render n → after = shell.world.daemon ∧
        Context.root.perform t (removeLine typed) shell.world =
          (.error (.input (.unknownArgument (shell.world.daemon.answers .oids))),
            shell.world)) := by
  intro t after
  have hsound : shell.world.daemon.Sound := (h.evolves h₀.sound).1
  have hafter : after = (Context.root.perform t (removeLine typed) shell.world).2.daemon := by
    rw [← hroot]
    exact Shell.daemon_execute t (removeLine typed) shell
  refine ⟨?_, fun hne => ?_⟩
  · rintro rfl
    rw [hafter, perform_remove_render t rfl hsound hn hremove]
  · have hperform := perform_remove_of_ne_render t rfl hsound (hsound.isSome_of_remove hremove) ht
      hn hne
    exact ⟨by rw [hafter, hperform], hperform⟩

/-- A shell at the root of the transponder that is there at first. -/
def seededShell : Shell Simulator Text := Shell.start seed []

theorem seededShell_spec : Reaches seed seededShell.world.daemon ∧
    seededShell.context = Context.root ∧
    remove 2 seededShell.world.daemon = (.ok (), (remove 2 seed).2) := ⟨.refl, rfl, rfl⟩

/-- The daemon after the line `remove typed` in this shell. -/
def afterRemoving (typed : Text) : Simulator :=
  (Shell.execute ⟨daemon, .unlimited, false⟩ (removeLine typed) seededShell).2.world.daemon

theorem remove_spelling_seed : afterRemoving "0x2" = (remove 2 seed).2 ∧
    afterRemoving "0x00000002" = seededShell.world.daemon := by
  obtain ⟨hreaches, hroot, hremove⟩ := seededShell_spec
  have hspelling (typed : Text) (ht : IsWord typed) (hn : Oid.parse typed = .ok 2) :=
    remove_spelling .unlimited false .seed hreaches hroot ht hn hremove
  exact ⟨(hspelling "0x2" (by decide) rfl).1 rfl,
    ((hspelling "0x00000002" (by decide) rfl).2 (by decide)).1⟩

/-- The object 2 is there after the line with the spelling that the list of slots shows. -/
theorem object?_afterRemoving : ((afterRemoving (Oid.renderPadded 2)).object? 2).isSome = true ∧
    (remove 2 seed).2.object? 2 = none := by
  decide +kernel

/-- **Not every spelling removes.** The line `remove 0x00000002` leaves the object 2 where it is. -/
theorem not_remove_every_spelling :
    ¬ ∀ (s₀ s' : Simulator) (shell : Shell Simulator Text), Initial s₀ →
      Reaches s₀ shell.world.daemon → shell.context = Context.root →
      ∀ (typed : Text) (n : Nat), IsWord typed → Oid.parse typed = .ok n →
        remove n shell.world.daemon = (.ok (), s') →
        (Shell.execute ⟨daemon, .unlimited, false⟩ (removeLine typed) shell).2.world.daemon =
          s' := by
  intro hall
  obtain ⟨hreaches, hroot, hremove⟩ := seededShell_spec
  obtain ⟨hlive, hgone⟩ := object?_afterRemoving
  have hremoved : afterRemoving (Oid.renderPadded 2) = (remove 2 seed).2 :=
    hall seed _ seededShell .seed hreaches hroot (Oid.renderPadded 2) 2
      (Oid.isWord_renderPadded 2) rfl hremove
  rw [hremoved, hgone] at hlive
  cases hlive

/-- **The spelling that the list of slots shows** removes the object only if its id has eight digits
at least. -/
theorem remove_listed {ω : Type} (w : Writer ω) (json : Bool) {s₀ s' : Simulator}
    {shell : Shell Simulator ω} (h₀ : Initial s₀) (h : Reaches s₀ shell.world.daemon)
    (hroot : shell.context = Context.root) (hn : n < Numeral.bound64)
    (hremove : remove n shell.world.daemon = (.ok (), s')) :
    (Shell.execute ⟨daemon, w, json⟩ (removeLine (Oid.renderPadded n)) shell).2.world.daemon =
      if Oid.leastWide ≤ n then s' else shell.world.daemon := by
  have hsound : shell.world.daemon.Sound := (h.evolves h₀.sound).1
  have hparse := Oid.parse_renderPadded hn
  rw [Shell.daemon_execute, hroot]
  by_cases hlarge : Oid.leastWide ≤ n
  · have hshortest := Oid.renderPadded_eq_render_iff.2 hlarge
    rw [hshortest] at hparse ⊢
    rw [if_pos hlarge, perform_remove_render _ rfl hsound hparse hremove]
  · have hne := mt Oid.renderPadded_eq_render_iff.1 hlarge
    rw [if_neg hlarge, perform_remove_of_ne_render _ rfl hsound (hsound.isSome_of_remove hremove)
      (Oid.isWord_renderPadded n) hparse hne]

end TransponderShell
