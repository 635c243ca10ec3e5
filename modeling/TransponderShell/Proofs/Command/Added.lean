import TransponderShell.Proofs.Command.Unasked

/-!
# Lines when a command is added

A command that is added to a table may take an abbreviation away from another one, but it never
takes a line over.

* `expandWord_nil` says that the first word of a line is expanded to what it is picked for, and
  `pick_append_singleton` what becomes of it when there is one more name to pick from.
* `expandBehind_congr` says that two tables expand the words behind a command in the same way if
  they have the same completer for it, whatever other commands they have.
* `resolve_insert` puts these together: the line is resolved as before, or it is refused with the
  two commands that its first word may stand for, or its first word is the new name.
-/

namespace TransponderShell

open Text

theorem extending_singleton (word option : Text) :
    extending word [option] = if word <+: option then [option] else [] := by
  simp [extending, List.filter_cons]

theorem mem_of_pick? {typed w : Text} {options : List Text} (h : pick? typed options = some w) :
    w ∈ options := by
  rcases pick?_eq_some_iff.1 h with ⟨hmem, rfl⟩ | honly
  · exact hmem
  · have : w ∈ extending typed options := by simp [honly]
    exact (mem_extending.1 this).1

/-- **One more option** for a word that stands for `w`: it stands for `w` still, or it may stand for
both, or it is the new option. -/
theorem pick_append_singleton {typed w : Text} {options : List Text} (new : Text)
    (h : pick? typed options = some w) :
    pick? typed (options ++ [new]) = some w ∨
      (typed ≠ w ∧ pick typed (options ++ [new]) = .ambiguous [w, new]) ∨ typed = new := by
  rcases pick?_eq_some_iff.1 h with ⟨hmem, rfl⟩ | honly
  · apply Or.inl
    apply pick?_eq_some_iff.2
    exact Or.inl ⟨List.mem_append_left _ hmem, rfl⟩
  by_cases hnew : typed = new
  · exact Or.inr (Or.inr hnew)
  by_cases hp : typed <+: new
  · have hboth : extending typed (options ++ [new]) = [w, new] := by
      rw [extending_append, honly, extending_singleton, if_pos hp, List.singleton_append]
    by_cases hw : typed = w
    · apply Or.inl
      apply pick?_eq_some_iff.2
      exact Or.inl ⟨List.mem_append_left _ (hw ▸ mem_of_pick? h), hw.symm⟩
    · apply Or.inr
      apply Or.inl
      refine ⟨hw, ?_⟩
      simp [pick, hboth, Pick.among, hw, hnew]
  · apply Or.inl
    apply pick?_eq_some_iff.2
    apply Or.inr
    rw [extending_append, honly, extending_singleton, if_neg hp, List.append_nil]

namespace CommandTable

variable {Q H : Type}

/-! ## The first word -/

section FirstWord

variable {m : Type → Type} [Monad m] [LawfulMonad m]

/-- The first word is expanded to what it stands for among the names, without a question. -/
theorem expandWord_nil (ask : Q → m (List Text)) (t : CommandTable Q H) {word : Text}
    (hw : IsWord word) :
    t.expandWord ask [] word = pure (match pick word t.names with
      | .word w => .ok w
      | .ambiguous several => .error (.ambiguousCommand several)
      | .unknown => .error (.unknownCommand t.names)) := by
  have hone : unwords ([] ++ [word]) = word := by simp [unwords, joinWith]
  have hprobe : t.completion ask word .probe = pure (Candidate.matching word t.names) := by
    simp only [completion, completionAt, hw.trimStart, words_of_isWord hw, hw.not_endsBlank,
      reduceCtorEq, false_and, if_false]
  rw [expandWord, hone, hprobe, pure_bind, Candidate.texts_matching]
  simp only [pick]
  cases Pick.among word (extending word t.names) with
  | unknown => rfl
  | word w => rfl
  | ambiguous several => rfl

/-- Behind its first word a line is expanded behind what that word stands for. -/
theorem expand_of_pick? (ask : Q → m (List Text)) {t : CommandTable Q H} {word command : Text}
    (hw : IsWord word) (h : pick? word t.names = some command) (rest : List Text) :
    t.expand ask (word :: rest) = t.expandBehind ask [command] rest := by
  rw [pick?] at h
  rw [expand_of_ne_nil ask t (List.cons_ne_nil word rest), expandBehind, expandWord_nil ask t hw,
    pure_bind]
  cases hpick : pick word t.names with
  | unknown => simp [hpick] at h
  | ambiguous several => simp [hpick] at h
  | word w =>
    simp only [hpick, Option.some.injEq] at h
    rw [h]
    rfl

/-- A line whose first word may stand for several commands is refused with these. -/
theorem expand_of_ambiguous (ask : Q → m (List Text)) {t : CommandTable Q H} {word : Text}
    {several : List Text} (hw : IsWord word) (h : pick word t.names = .ambiguous several)
    (rest : List Text) :
    t.expand ask (word :: rest) = pure (.error (.ambiguousCommand several)) := by
  rw [expand_of_ne_nil ask t (List.cons_ne_nil word rest), expandBehind, expandWord_nil ask t hw,
    pure_bind, h]

/-- A line is refused if its first word stands for no command. -/
theorem exists_expand_eq_error (ask : Q → m (List Text)) {t : CommandTable Q H} {word : Text}
    (hw : IsWord word) (h : pick? word t.names = none) (rest : List Text) :
    ∃ e, t.expand ask (word :: rest) = pure (.error e) := by
  cases hpick : pick word t.names with
  | word w => simp [pick?, hpick] at h
  | ambiguous several => exact ⟨_, expand_of_ambiguous ask hw hpick rest⟩
  | unknown =>
    refine ⟨.unknownCommand t.names, ?_⟩
    rw [expand_of_ne_nil ask t (List.cons_ne_nil word rest), expandBehind, expandWord_nil ask t hw,
      pure_bind, hpick]

end FirstWord

/-! ## The words behind a command that two tables share -/

section Congr

variable {m : Type → Type} [Monad m] (ask : Q → m (List Text)) {t u : CommandTable Q H}
variable {command : Text} (hw : IsWord command)
variable (ht : command ∈ t.names) (hu : command ∈ u.names)
variable (hc : t.completerOf command = u.completerOf command)
include hw ht hu hc

/-- Nothing but the completer of the command says what is offered behind it. -/
theorem completion_congr {rest : Text} {b : Char} (hb : isBlank b = true)
    (h : words rest ≠ [] ∨ endsBlank (command ++ b :: rest) = true) :
    t.completion ask (command ++ b :: rest) .probe =
      u.completion ask (command ++ b :: rest) .probe := by
  have htrim : trimStart (command ++ b :: rest) = command ++ b :: rest := by
    obtain ⟨c, cs, rfl⟩ := List.exists_cons_of_ne_nil hw.1
    simp [Text.trimStart, hw.2 c (List.mem_cons_self ..)]
  have hpick {v : CommandTable Q H} (hv : command ∈ v.names) :
      pick? command v.names = some command :=
    pick?_eq_some_iff.2 (Or.inl ⟨hv, rfl⟩)
  simp only [completion, htrim, reduceCtorEq, false_and, if_false]
  rw [completionAt_firstWord ask t hw hb h, completionAt_firstWord ask u hw hb h, hpick ht,
    hpick hu, Option.bind_some, Option.bind_some, hc]

theorem expandWord_congr (before : List Text) {word : Text} (hword : IsWord word) :
    t.expandWord ask (command :: before) word = u.expandWord ask (command :: before) word := by
  have hspace : isBlank ' ' = true := by decide
  obtain ⟨tail, htail⟩ := exists_unwords_cons command before
  -- the word that is probed stands behind a space, whatever the words before it look like
  have hopen : IsOpen tail := by
    have := isOpen_append_space (unwords (command :: before))
    rw [htail] at this
    exact (show IsOpen ([' '] ++ tail) from this.of_append).of_append
  have hprobe : unwords (command :: before ++ [word]) = command ++ ' ' :: (tail ++ word) := by
    rw [unwords_concat (List.cons_ne_nil command before), htail]
    simp
  have hwords : words (tail ++ word) ≠ [] := by simp [words_append_word hopen hword]
  have hblank : endsBlank (command ++ ' ' :: tail) = true :=
    htail ▸ (isOpen_append_space _).endsBlank (by simp)
  have hcandidates := completion_congr ask hw ht hu hc hspace (Or.inl hwords)
  have hexpected := completion_congr ask hw ht hu hc hspace (Or.inr hblank)
  simp only [expandWord, hprobe, htail, hcandidates, hexpected]
  apply bind_congr
  intro candidates
  cases Pick.among word (Candidate.texts candidates) with
  | unknown => simp only [hc]
  | word w => rfl
  | ambiguous several => rfl

/-- **Two tables expand the words behind a command in the same way** if they have the same completer
for it. -/
theorem expandBehind_congr {rest : List Text} (hrest : ∀ w ∈ rest, IsWord w) (before : List Text) :
    t.expandBehind ask (command :: before) rest = u.expandBehind ask (command :: before) rest := by
  induction rest generalizing before with
  | nil => rfl
  | cons word rest ih =>
    have hfirst := expandWord_congr ask hw ht hu hc before (hrest word (List.mem_cons_self ..))
    have hbehind (w : Text) : t.expandBehind ask (command :: before ++ [w]) rest =
        u.expandBehind ask (command :: before ++ [w]) rest :=
      ih (fun v hv => hrest v (List.mem_cons_of_mem _ hv)) (before ++ [w])
    simp only [expandBehind, hfirst, hbehind]

end Congr

/-! ## Adding a command -/

section Added

variable {t : CommandTable Q H} {added : Command Q H} (hnew : added.name ∉ t.names)
include hnew

theorem names_insert_of_not_mem : (t.insert added).names = t.names ++ [added.name] := by
  rw [names_insert, if_neg hnew]

/-- The commands of a table stay what they are when another one is added. -/
theorem get?_insert_of_mem {command : Text} (h : command ∈ t.names) :
    (t.insert added).get? command = t.get? command :=
  get?_insert_of_ne t fun e => hnew (e ▸ h)

theorem completerOf_insert_of_mem {command : Text} (h : command ∈ t.names) :
    (t.insert added).completerOf command = t.completerOf command := by
  rw [completerOf, completerOf, get?_insert_of_mem hnew h]

end Added

section States

variable {σ : Type} {ask : Q → StateM σ (List Text)} {t : CommandTable Q H} {s s' : σ}

/-- What a line is resolved to, from the command that its first word stands for. -/
theorem resolve_of_pick? {line first command : Text} {rest : List Text} {c : Command Q H}
    (hwords : line.words = first :: rest) (hpick : pick? first t.names = some command)
    (hget : t.get? command = some c) {arguments : List Text}
    (h : t.expandBehind ask [command] rest s = (.ok (command :: arguments), s')) :
    t.resolve ask line s = (.ok ⟨c.handler, command, arguments⟩, s') := by
  have hfirst : IsWord first := mem_words (hwords ▸ List.mem_cons_self ..)
  have hexpand : t.expand ask line.words s = (.ok (command :: arguments), s') := by
    rw [hwords, expand_of_pick? ask hfirst hpick, h]
  rw [resolve, run_stateBind hexpand]
  simp only [List.headD_cons, hget, List.drop_succ_cons, List.drop_zero]
  rfl

/-- A line that is resolved has a first word that stands for its command, and the words behind it
expand to its arguments. -/
theorem exists_of_resolve {line : Text} {r : Resolved H}
    (h : t.resolve ask line s = (.ok r, s')) :
    ∃ first rest c, line.words = first :: rest ∧ pick? first t.names = some r.command ∧
      t.get? r.command = some c ∧ r.handler = c.handler ∧
      t.expandBehind ask [r.command] rest s = (.ok (r.command :: r.arguments), s') := by
  rcases hexpand : t.expand ask line.words s with ⟨e | expanded, s₁⟩
  · rw [resolve, run_stateBind hexpand] at h
    cases h
  rw [resolve, run_stateBind hexpand] at h
  dsimp only at h
  cases hwords : line.words with
  | nil =>
    rw [hwords] at hexpand
    cases hexpand
  | cons first rest =>
    have hfirst : IsWord first := mem_words (hwords ▸ List.mem_cons_self ..)
    rw [hwords] at hexpand
    cases hpick : pick? first t.names with
    | none =>
      obtain ⟨e, he⟩ := exists_expand_eq_error ask hfirst hpick rest
      rw [he] at hexpand
      cases hexpand
    | some command =>
      rw [expand_of_pick? ask hfirst hpick] at hexpand
      have hok : (t.expandBehind ask [command] rest s).1 = .ok expanded := by rw [hexpand]
      obtain ⟨arguments, rfl⟩ := prefix_of_expandBehind hok
      obtain ⟨c, hget⟩ := Option.isSome_iff_exists.1 (get?_isSome.2 (mem_of_pick? hpick))
      simp only [List.singleton_append, List.headD_cons, hget] at h
      cases h
      exact ⟨first, rest, c, rfl, hpick, hget, rfl, hexpand⟩

end States

end CommandTable

/-- **Adding a command never takes a line over.** A line that a table resolves is resolved to the
same command with the same arguments when a command of a new name is added, or it is refused with
these two commands, or it begins with the new name; and if it begins with the name of its command,
nothing changes. -/
theorem CommandTable.resolve_insert {Q H σ : Type} (ask : Q → StateM σ (List Text))
    {t : CommandTable Q H} {added : Command Q H} (hnames : ∀ name ∈ t.names, IsWord name)
    (hnew : added.name ∉ t.names) {line : Text} {s s' : σ} {r : Resolved H}
    (h : t.resolve ask line s = (.ok r, s')) :
    ((t.insert added).resolve ask line s = (.ok r, s') ∨
      (t.insert added).resolve ask line s =
        (.error (.ambiguousCommand [r.command, added.name]), s) ∨
      line.firstWord = added.name) ∧
    (line.firstWord = r.command → (t.insert added).resolve ask line s = (.ok r, s')) := by
  obtain ⟨first, rest, c, hwords, hpick, hget, hhandler, hbehind⟩ := exists_of_resolve h
  have hmem : r.command ∈ t.names := mem_of_pick? hpick
  have hall : ∀ w ∈ first :: rest, IsWord w := fun w hw => mem_words (hwords ▸ hw)
  have hfirst : line.firstWord = first := by simp [firstWord, hwords]
  have hinsert : (t.insert added).names = t.names ++ [added.name] := names_insert_of_not_mem hnew
  -- once the first word stands for the command, the rest of the line does not see the new one
  have hsame (hp : pick? first (t.insert added).names = some r.command) :
      (t.insert added).resolve ask line s = (.ok r, s') := by
    have hshared := expandBehind_congr ask (hnames _ hmem) hmem
      (hinsert ▸ List.mem_append_left _ hmem) (completerOf_insert_of_mem hnew hmem).symm
      (fun w hw => hall w (List.mem_cons_of_mem _ hw)) []
    rw [hshared] at hbehind
    rw [← get?_insert_of_mem hnew hmem] at hget
    rw [resolve_of_pick? hwords hp hget hbehind, ← hhandler]
  rw [hfirst]
  constructor
  · rcases pick_append_singleton added.name hpick with hp | ⟨-, hp⟩ | hp
    · exact Or.inl (hsame (hinsert ▸ hp))
    · apply Or.inr
      apply Or.inl
      have hexpand :=
        expand_of_ambiguous ask (hall first (List.mem_cons_self ..)) (hinsert ▸ hp) rest
      have hrun : (t.insert added).expand ask line.words s =
          (.error (.ambiguousCommand [r.command, added.name]), s) := by
        rw [hwords, hexpand]
        rfl
      rw [resolve, run_stateBind hrun]
      rfl
    · exact Or.inr (Or.inr hp)
  · rintro rfl
    apply hsame
    rw [hinsert]
    exact pick?_eq_some_iff.2 (Or.inl ⟨List.mem_append_left _ hmem, rfl⟩)

theorem resolve_insert_sampleTable :
    let ask : Unit → StateM Nat (List Text) := fun _ n => (["location:1", "location:2"], n + 1)
    let added : Command Unit Nat := ⟨"crash", 5, none⟩
    let r : Resolved Nat := ⟨4, "create", ["module", "location:1"]⟩
    ((∀ name ∈ sampleTable.names, IsWord name) ∧ added.name ∉ sampleTable.names ∧
      sampleTable.resolve ask "create mod location:1" 0 = (.ok r, 1) ∧
      (sampleTable.insert added).resolve ask "create mod location:1" 0 = (.ok r, 1)) ∧
    sampleTable.resolve ask "cr mod location:1" 0 = (.ok r, 1) ∧
    ((sampleTable.insert added).expand ask (words "cr mod location:1") 0).1 =
      .error (.ambiguousCommand ["create", "crash"]) := by
  intro ask added r
  have hnames : ∀ name ∈ sampleTable.names, IsWord name := by decide
  have hnew : added.name ∉ sampleTable.names := by decide
  have hget : (sampleTable.get? "create").map Command.handler = some 4 := by decide
  obtain ⟨c, hc, hhandler⟩ := Option.map_eq_some_iff.1 hget
  have hbehind : sampleTable.expandBehind ask ["create"] ["mod", "location:1"] 0 =
      (.ok ["create", "module", "location:1"], 1) :=
    Prod.ext (by decide +kernel) (by decide +kernel)
  have hline (line first : Text) (hwords : line.words = [first, "mod", "location:1"])
      (hpick : pick? first sampleTable.names = some ("create" : String).toList) :
      sampleTable.resolve ask line 0 = (.ok r, 1) := by
    rw [CommandTable.resolve_of_pick? hwords hpick hc hbehind, hhandler]
  have hfull := hline "create mod location:1" "create" (by decide) (by decide)
  have hshort := hline "cr mod location:1" "cr" (by decide) (by decide)
  refine ⟨⟨hnames, hnew, hfull, ?_⟩, hshort, by decide⟩
  exact (CommandTable.resolve_insert ask hnames hnew hfull).2 (by decide)

end TransponderShell
