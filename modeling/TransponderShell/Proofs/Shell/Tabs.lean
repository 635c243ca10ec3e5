import TransponderShell.Proofs.Command.Abbreviation
import TransponderShell.Proofs.Daemon.Questions
import TransponderShell.Proofs.Shell.Opened
import TransponderShell.Shell.Tab

/-!
# The line editor agrees with validation

The line editor completes the raw line, while validation completes the line with its words expanded.
Over a steady daemon the commands of all contexts are plain (`Context.Opened.plain`): they offer
words only, and none behind nested ones. So both agree, which is the result `Context.tab_words`: the
editor offers what may be typed behind the expanded line, and a word that it offers expands to
itself.
-/

namespace TransponderShell

open Text

variable {σ : Type}

/-! ## The commands of the shell -/

/-- A command whose name and arguments are words, none of which are offered behind nested ones. -/
structure Command.Plain {Q H : Type} (answer : Q → List Text) (command : Command Q H) : Prop where
  name : IsWord command.name
  each : ∀ c ∈ command.completer, c.Each answer IsWord
  flat : ∀ c ∈ command.completer, c.Flat

namespace Command.Plain

variable {Q H : Type} {answer : Q → List Text} {name : Text} {handler : H}

theorem free (hname : IsWord name) : Command.Plain answer ⟨name, handler, none⟩ :=
  ⟨hname, nofun, nofun⟩

theorem some (hname : IsWord name) {c : Completer Q} (heach : c.Each answer IsWord)
    (hflat : c.Flat) : Command.Plain answer ⟨name, handler, some c⟩ := by
  refine ⟨hname, ?_, ?_⟩
  · rintro _ ⟨⟩
    exact heach
  · rintro _ ⟨⟩
    exact hflat

end Command.Plain

namespace Context

variable {answer : Question → List Text}

theorem rootCommands_plain (h : ∀ q, ∀ w ∈ answer q, IsWord w) :
    ∀ command ∈ rootCommands, command.Plain answer := by
  have hlevels : (Completer.slots (.fixed (LogLevel.all.map LogLevel.label)
      (ApiScope.all.map ApiScope.label))).Each answer IsWord :=
    ⟨by decide, fun _ => (by decide : ∀ w ∈ ApiScope.all.map ApiScope.label, IsWord w)⟩
  have htypes : (Completer.nested (ObjectType.all.map fun type => (type.label, none))).Each answer
      IsWord := ⟨by decide, by decide, by decide, trivial⟩
  have hflat : (Completer.nested (ObjectType.all.map fun type => (type.label, none)) :
      Completer Question).Flat := by
    intro option hoption
    obtain ⟨type, -, rfl⟩ := List.mem_map.1 hoption
    rfl
  simp only [rootCommands, List.forall_mem_cons]
  exact ⟨.some (by decide) (h .locations) trivial, .free (by decide),
    .some (by decide) hlevels trivial, .some (by decide) htypes hflat,
    .some (by decide) (h .oids) trivial, nofun⟩

theorem objectCommands_plain (handle : ObjectHandle) {attributes : List Attribute}
    (h : ∀ a ∈ attributes, IsWord a.name ∧ ∀ v ∈ Usage.values a.usage, IsWord v) :
    ∀ command ∈ objectCommands handle attributes, command.Plain answer := by
  have hslots (keep : AttributeDescriptor → Bool) : (Completer.slots
      (.ofAttributes keep (attributes.map Attribute.descriptor))).Each answer IsWord := by
    refine Completer.each_ofAttributes (fun descriptor hdescriptor => ?_) keep
    obtain ⟨a, ha, rfl⟩ := List.mem_map.1 hdescriptor
    exact h a ha
  have hsimple : (Completer.words ["simple"]).Each answer IsWord :=
    (by decide : ∀ w ∈ ([("simple" : String)] : List Text), IsWord w)
  simp only [objectCommands, List.forall_mem_cons]
  exact ⟨.some (by decide) (hslots _) trivial, .some (by decide) (hslots _) trivial,
    .some (by decide) (hslots _) trivial, .some (by decide) (hslots _) trivial,
    .some (by decide) hsimple trivial, nofun⟩

theorem interfaceCommands_plain (h : ∀ q, ∀ w ∈ answer q, IsWord w) (location : Text) :
    ∀ command ∈ interfaceCommands location, command.Plain answer := by
  have hlabel : ∀ kind : InterfaceKind, IsWord kind.label := by
    intro kind
    cases kind <;> decide
  intro command hcommand
  obtain ⟨kind, -, rfl⟩ := List.mem_map.1 hcommand
  exact .some (hlabel kind) (h (.indices kind location)) trivial

variable {d : Daemon σ} {I : σ → Prop} {listed : Except DaemonError (List ModuleSummary)}

/-- **The commands of every context are plain.** -/
theorem Opened.plain (hd : d.Steady I listed) {c : Context} (hc : c.Opened d I) :
    ∀ command ∈ c.table.commands, command.Plain (Question.answersTo listed) := by
  intro command hcommand
  rcases hc.mem_cases hd.keeps hcommand with
    rfl | hroot | ⟨s, hs, handle, attributes, hattributes, hobject⟩ | ⟨location, hinterface⟩
  · exact .free (by decide)
  · exact rootCommands_plain hd.isWord command hroot
  · exact objectCommands_plain handle (hd.declared s hs _ attributes hattributes) command hobject
  · exact interfaceCommands_plain hd.isWord location command hinterface

end Context

/-! ## The line editor -/

/-- The line editor offers the candidates of the table. -/
theorem Context.words_tab (d : Daemon σ) (c : Context) (text : Text) (s : σ) :
    (c.tab d text s).1.words =
      Candidate.texts (c.table.completion (Question.ask d) text .interactive s).1 := by
  unfold Context.tab Context.completion
  rcases h : c.table.completion (Question.ask d) text .interactive s with ⟨candidates, s'⟩
  rw [run_stateBind h]
  rfl

/-- **The line editor agrees with validation.** Behind a line of words that expand, however
abbreviated and spaced, and a word that is being typed, the line editor offers the words that may
complete this word behind the expanded line. A word that it offers there expands to itself. -/
theorem Context.tab_words {d : Daemon σ} {I : σ → Prop}
    {listed : Except DaemonError (List ModuleSummary)} (hd : d.Steady I listed) {c : Context}
    (hc : c.Opened d I) {before : Text} (ho : IsOpen before) {w : Text} (hw : w = [] ∨ IsWord w)
    (hne : before.words ≠ [] ∨ w ≠ []) {expanded : List Text} {s : σ} (hs : I s)
    (hexpand : (before.words = [] ∧ expanded = []) ∨
      (c.table.expand (Question.ask d) before.words s).1 = .ok expanded) :
    ∀ s₁ s₂, I s₁ → I s₂ →
      (∀ mode, (c.tab d (before ++ w) s₁).1.words =
        Candidate.texts
          (c.table.completion (Question.ask d) (unwords (expanded ++ [w])) mode s₂).1) ∧
      ∀ offered ∈ (c.tab d (before ++ w) s₁).1.words,
        (c.table.expand (Question.ask d) (before.words ++ [offered]) s₂).1 =
          .ok (expanded ++ [offered]) := by
  intro s₁ s₂ hs₁ hs₂
  have hplain := hc.plain hd
  have heach : c.table.Each (Question.answersTo listed) IsWord :=
    fun command hcommand => ⟨(hplain command hcommand).name, (hplain command hcommand).each⟩
  have hflat : c.table.Flat := fun command hcommand => (hplain command hcommand).flat
  -- the answers are fixed from here on
  have hcompletion (text : Text) (mode : CompletionMode) (s : σ) (hs : I s) :=
    (c.table.completion_related (answersWhile I) hd.ask text mode s hs).1
  have hexpansion (words : List Text) (s : σ) (hs : I s) :=
    (c.table.expand_related (answersWhile I) hd.ask words s hs).1
  have hexpands : c.table.Expands (Question.answersTo listed) before.words expanded := by
    rcases hexpand with ⟨hnil, rfl⟩ | hexpand
    · rw [hnil]
      exact .nil
    · rw [hexpansion _ s hs] at hexpand
      exact CommandTable.expands_of_expand (fun w => mem_words) hexpand
  have hwords := hexpands.isWord heach.blankless fun v => mem_words
  have hne' : expanded ≠ [] ∨ w ≠ [] := by
    refine hne.imp_left fun hcons hnil => hcons ?_
    rw [← List.length_eq_zero_iff, ← hexpands.1, hnil, List.length_nil]
  have htab : (c.tab d (before ++ w) s₁).1.words =
      extending w (c.table.following (Question.answersTo listed) expanded) := by
    rw [words_tab, hcompletion _ _ s₁ hs₁,
      ← hexpands.following_eq hflat (fun v => mem_words) hwords]
    exact CommandTable.texts_completion ho hw hne .interactive
  rw [htab]
  refine ⟨fun mode => ?_, fun offered hoffered => ?_⟩
  · rw [hcompletion _ _ s₂ hs₂]
    exact (CommandTable.texts_completion_unwords hwords hw hne' mode).symm
  · have hfollowing := (mem_extending.1 hoffered).1
    rw [hexpansion _ s₂ hs₂]
    exact hexpands.expand_offered (fun v => mem_words)
      (heach.following hwords offered hfollowing) hfollowing

theorem Simulator.steady_seed :
    daemon.Steady (· = seed) (.ok (seed.slots.map Slot.summary)) where
  list s hs := by rw [hs]; rfl
  keeps s hs := hs
  location slots hslots := by
    obtain rfl : seed.slots.map Slot.summary = slots := by simpa using hslots
    decide
  declared s hs type attributes hattributes := by
    have hwords : ∀ type ∈ ObjectType.all, ∀ d ∈ seedCatalogue.of type,
        IsWord d.name ∧ ∀ v ∈ Usage.values d.usage, IsWord v := by decide
    have hseed : (daemon.attributes type seed).1 =
        .ok ((seedCatalogue.of type).map Declaration.toAttribute) := rfl
    rw [hs, hseed] at hattributes
    cases hattributes
    intro a ha
    obtain ⟨declaration, hdeclaration, rfl⟩ := List.mem_map.1 ha
    exact hwords type type.mem_all declaration hdeclaration

theorem tab_words_hostContext :
    let d := Simulator.daemon
    let s := Simulator.seed
    let typed : List Text := ["se", "fec"]
    let expanded : List Text := ["set", "fec-type"]
    hostContext.Opened d (· = s) ∧
      (hostContext.table.expand (Question.ask d) typed s).1 = .ok expanded ∧
      (hostContext.tab d "se  fec r" s).1.words = Candidate.texts
        (hostContext.table.completion (Question.ask d) "set fec-type r" .probe s).1 ∧
      ∀ offered ∈ (hostContext.tab d "se  fec r" s).1.words,
        (hostContext.table.expand (Question.ask d) (typed ++ [offered]) s).1 =
          .ok (expanded ++ [offered]) := by
  intro d s typed expanded
  have hopened : hostContext.Opened d (· = s) := hostContext_opened rfl
  have hopen : IsOpen (("se  fec " : String) : Text) := Or.inr (by decide)
  have hbefore : words "se  fec " = typed := by decide
  have hexpand : (hostContext.table.expand (Question.ask d) typed s).1 = .ok expanded := by
    decide +kernel
  have htab := Context.tab_words Simulator.steady_seed hopened hopen (w := "r")
    (Or.inr (by decide)) (Or.inr (by decide)) rfl (Or.inr (hbefore ▸ hexpand)) s s rfl rfl
  rw [hbefore] at htab
  exact ⟨hopened, hexpand, htab.1 .probe, htab.2⟩

end TransponderShell
