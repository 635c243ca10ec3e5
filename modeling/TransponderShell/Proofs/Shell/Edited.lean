import TransponderShell.Proofs.Command.Added
import TransponderShell.Proofs.Shell.Opened

/-!
# Contexts whose commands are changed

A context is made by adding and deleting commands, one after another, and it begins with the command
that leaves it. `Built history c` says that `c` is the context after the changes `history`. Which
names are registered then, where each was registered first since it was deleted last, and which
command of a name is the latest one is said of the changes alone (`Registered`, `FirstAdded`,
`Latest`); all three ask for a change that nothing has undone (`Since`).

* `Since.concat_iff` says what one more change does to such a statement.
* `Ordered.edit` says that the table keeps up with it, so that it is an ordered map of what the
  changes registered (`Built.ordered`).
* `root_built` and `Opened.exists_built` say that the shell makes its contexts so.
* `editAll_built` collects what is known of a context after any changes.
-/

namespace TransponderShell.Context

open Text

/-! ## Changes -/

/-- A change to the commands of a context. -/
inductive Edit where
  | add (command : Command Question Handler)
  | delete (name : Text)

namespace Edit

/-- A change that registers a name. -/
def Adds (e : Edit) (name : Text) : Prop := ∃ command, e = add command ∧ command.name = name

/-- A change that takes a name out. The name of the command that leaves is never taken out. -/
def Deletes (e : Edit) (name : Text) : Prop := e = delete name ∧ name ≠ quitCommand.name

@[simp] theorem adds_add {command : Command Question Handler} {name : Text} :
    (add command).Adds name ↔ command.name = name := by
  simp [Adds]

@[simp] theorem not_adds_delete {deleted name : Text} : ¬ (delete deleted).Adds name := by
  simp [Adds]

@[simp] theorem not_deletes_add {command : Command Question Handler} {name : Text} :
    ¬ (add command).Deletes name := by
  simp [Deletes]

@[simp] theorem deletes_delete {deleted name : Text} :
    (delete deleted).Deletes name ↔ deleted = name ∧ name ≠ quitCommand.name := by
  simp [Deletes]

theorem Adds.not_deletes {e : Edit} {name : Text} (h : e.Adds name) (other : Text) :
    ¬ e.Deletes other := by
  obtain ⟨command, rfl, -⟩ := h
  exact not_deletes_add

end Edit

/-- Make one change. -/
def edit (c : Context) : Edit → Context
  | .add command => c.addCommand command
  | .delete name => (c.deleteCommand name).2

/-- Make changes one after another. -/
def editAll (c : Context) (edits : List Edit) : Context := edits.foldl edit c

/-- The contexts that are made by changes. A context begins with the command that leaves it. -/
inductive Built : List Edit → Context → Prop
  | bare (scope : Scope) : Built [.add quitCommand] (bare scope)
  | edit {history : List Edit} {c : Context} (h : Built history c) (e : Edit) :
    Built (history ++ [e]) (c.edit e)

/-! ## What the changes say -/

/-- There is a change of the kind `P`, which may look at the changes before it, and no change of the
kind `D` since. -/
def Since (P : List Edit → Edit → Prop) (D : Edit → Prop) (history : List Edit) : Prop :=
  ∃ before e after, history = before ++ e :: after ∧ P before e ∧ ∀ f ∈ after, ¬ D f

/-- A name is registered: it was added, and it has not been deleted since. -/
def Registered (history : List Edit) (name : Text) : Prop :=
  Since (fun _ e => e.Adds name) (fun f => f.Deletes name) history

/-- A name has been registered since the change at a position: it was added there when it was not
registered, and it has not been deleted since. -/
def FirstAdded (history : List Edit) (name : Text) (position : Nat) : Prop :=
  Since (fun before e => before.length = position ∧ e.Adds name ∧ ¬ Registered before name)
    (fun f => f.Deletes name) history

/-- A command is the latest one of its name: it was added, and since then no command of its name was
added and its name has not been deleted. -/
def Latest (history : List Edit) (command : Command Question Handler) : Prop :=
  Since (fun _ e => e = .add command)
    (fun f => f.Adds command.name ∨ f.Deletes command.name) history

section Since

variable {P : List Edit → Edit → Prop} {D : Edit → Prop} {history : List Edit} {e : Edit}

theorem not_since_nil : ¬ Since P D [] := by
  rintro ⟨before, e, after, h, -⟩
  simp at h

/-- **One more change** is the one that is looked for, or it leaves the one that was found. -/
theorem Since.concat_iff :
    Since P D (history ++ [e]) ↔ P history e ∨ Since P D history ∧ ¬ D e := by
  constructor
  · rintro ⟨before, f, after, h, hP, hD⟩
    rcases List.eq_nil_or_concat after with rfl | ⟨rest, g, rfl⟩
    · obtain ⟨rfl, hf⟩ := List.append_inj' h rfl
      obtain rfl : e = f := by simpa using hf
      exact Or.inl hP
    · have hsplit : history ++ [e] = (before ++ f :: rest) ++ [g] := by simpa using h
      obtain ⟨rfl, hg⟩ := List.append_inj' hsplit rfl
      obtain rfl : e = g := by simpa using hg
      apply Or.inr
      refine ⟨⟨before, f, rest, rfl, hP, fun d hd => hD d ?_⟩, hD e ?_⟩
      · simp [hd]
      · simp
  · rintro (hP | ⟨⟨before, f, after, rfl, hP, hD⟩, he⟩)
    · exact ⟨history, e, [], rfl, hP, by simp⟩
    · refine ⟨before, f, after ++ [e], by simp, hP, fun d hd => ?_⟩
      rcases List.mem_append.1 hd with hd | hd
      · exact hD d hd
      · rwa [List.mem_singleton.1 hd]

end Since

section Names

variable {history : List Edit} {name : Text}

theorem registered_concat_add {command : Command Question Handler} :
    Registered (history ++ [.add command]) name ↔
      command.name = name ∨ Registered history name := by
  rw [Registered, Since.concat_iff]
  simp [Registered]

theorem registered_concat_delete {deleted : Text} :
    Registered (history ++ [.delete deleted]) name ↔
      Registered history name ∧ ¬ (deleted = name ∧ name ≠ quitCommand.name) := by
  rw [Registered, Since.concat_iff]
  simp [Registered]

theorem latest_concat_add {command added : Command Question Handler} :
    Latest (history ++ [.add added]) command ↔
      added = command ∨ Latest history command ∧ added.name ≠ command.name := by
  rw [Latest, Since.concat_iff]
  simp [Latest]

theorem latest_concat_delete {command : Command Question Handler} {deleted : Text} :
    Latest (history ++ [.delete deleted]) command ↔
      Latest history command ∧ ¬ (deleted = command.name ∧ command.name ≠ quitCommand.name) := by
  rw [Latest, Since.concat_iff]
  simp [Latest]

theorem FirstAdded.registered {i : Nat} (h : FirstAdded history name i) :
    Registered history name := by
  obtain ⟨before, e, after, hsplit, ⟨-, hadds, -⟩, hafter⟩ := h
  exact ⟨before, e, after, hsplit, hadds, hafter⟩

theorem FirstAdded.lt_length {i : Nat} (h : FirstAdded history name i) : i < history.length := by
  obtain ⟨before, e, after, rfl, ⟨rfl, -⟩, -⟩ := h
  simp

/-- A registered name has been registered since some change. -/
theorem Registered.exists_firstAdded (h : Registered history name) :
    ∃ i, FirstAdded history name i := by
  induction history using List.reverseRecOn with
  | nil => exact absurd h not_since_nil
  | append_singleton history e ih =>
    by_cases hbefore : Registered history name
    · obtain ⟨i, hi⟩ := ih hbefore
      refine ⟨i, Since.concat_iff.2 (Or.inr ⟨hi, ?_⟩)⟩
      rcases Since.concat_iff.1 h with hadds | ⟨-, hkept⟩
      · exact hadds.not_deletes name
      · exact hkept
    · rcases Since.concat_iff.1 h with hadds | ⟨hregistered, -⟩
      · exact ⟨history.length, Since.concat_iff.2 (Or.inl ⟨rfl, hadds, hbefore⟩)⟩
      · exact absurd hregistered hbefore

/-- There is only one such change. -/
theorem FirstAdded.unique {i j : Nat} (hi : FirstAdded history name i)
    (hj : FirstAdded history name j) : i = j := by
  induction history using List.reverseRecOn with
  | nil => exact absurd hi not_since_nil
  | append_singleton history e ih =>
    rcases Since.concat_iff.1 hi with ⟨hi, -, hnew⟩ | ⟨hi, -⟩
    · rcases Since.concat_iff.1 hj with ⟨hj, -, -⟩ | ⟨hj, -⟩
      · omega
      · exact absurd (FirstAdded.registered hj) hnew
    · rcases Since.concat_iff.1 hj with ⟨-, -, hnew⟩ | ⟨hj, -⟩
      · exact absurd (FirstAdded.registered hi) hnew
      · exact ih hi hj

end Names

/-! ## The table keeps up -/

/-- The table of a context is the ordered map of what the changes registered. -/
structure Ordered (history : List Edit) (c : Context) : Prop where
  head_names : c.table.names.head? = some quitCommand.name
  mem_names_iff : ∀ name, name ∈ c.table.names ↔ Registered history name
  pairwise : c.table.names.Pairwise fun a b =>
    ∃ i j, i < j ∧ FirstAdded history a i ∧ FirstAdded history b j
  get?_iff : ∀ name command,
    c.table.get? name = some command ↔ command.name = name ∧ Latest history command

namespace Ordered

variable {history : List Edit} {c : Context}

theorem nodup (h : Ordered history c) : c.table.names.Nodup := by
  refine h.pairwise.imp ?_
  rintro a b ⟨i, j, hij, hi, hj⟩ rfl
  have := hi.unique hj
  omega

/-- The command that leaves stands in front of all others. -/
theorem exists_names (h : Ordered history c) :
    ∃ rest, c.table.names = quitCommand.name :: rest := by
  have hhead := h.head_names
  cases hnames : c.table.names with
  | nil => simp [hnames] at hhead
  | cons first rest =>
    rw [hnames, List.head?_cons, Option.some.injEq] at hhead
    exact ⟨rest, by rw [hhead]⟩

/-- A change that deletes none of the names in a table leaves their order. -/
theorem pairwise_concat (h : Ordered history c) {names : List Text} {e : Edit}
    (hsub : names.Sublist c.table.names) (hkept : ∀ name ∈ names, ¬ e.Deletes name) :
    names.Pairwise fun a b =>
      ∃ i j, i < j ∧ FirstAdded (history ++ [e]) a i ∧ FirstAdded (history ++ [e]) b j := by
  refine (h.pairwise.sublist hsub).imp_of_mem ?_
  rintro a b ha hb ⟨i, j, hij, hi, hj⟩
  exact ⟨i, j, hij, Since.concat_iff.2 (Or.inr ⟨hi, hkept a ha⟩),
    Since.concat_iff.2 (Or.inr ⟨hj, hkept b hb⟩)⟩

/-- **A command that is added** keeps the place of its name, or it comes last. -/
theorem add (h : Ordered history c) (command : Command Question Handler) :
    Ordered (history ++ [.add command]) (c.addCommand command) := by
  have hnames : (c.addCommand command).table.names =
      if command.name ∈ c.table.names then c.table.names else c.table.names ++ [command.name] :=
    CommandTable.names_insert c.table command
  have hold := h.pairwise_concat (e := .add command) (List.Sublist.refl _)
    fun name _ => Edit.not_deletes_add
  have hget (name : Text) (found : Command Question Handler) :
      (c.addCommand command).table.get? name = some found ↔
        found.name = name ∧ Latest (history ++ [.add command]) found := by
    rw [latest_concat_add]
    by_cases hname : name = command.name
    · rw [hname, show (c.addCommand command).table.get? command.name = some command from
        CommandTable.get?_insert_self c.table command, Option.some.injEq]
      constructor
      · rintro rfl
        exact ⟨rfl, Or.inl rfl⟩
      · rintro ⟨hfound, rfl | ⟨-, hne⟩⟩
        · rfl
        · exact absurd hfound.symm hne
    · rw [show (c.addCommand command).table.get? name = c.table.get? name from
        CommandTable.get?_insert_of_ne c.table hname, h.get?_iff]
      constructor
      · rintro ⟨rfl, hlatest⟩
        exact ⟨rfl, Or.inr ⟨hlatest, Ne.symm hname⟩⟩
      · rintro ⟨rfl, rfl | ⟨hlatest, -⟩⟩
        · exact absurd rfl hname
        · exact ⟨rfl, hlatest⟩
  obtain ⟨rest, hquit⟩ := h.exists_names
  by_cases hthere : command.name ∈ c.table.names
  · rw [if_pos hthere] at hnames
    refine ⟨hnames ▸ h.head_names, fun name => ?_, hnames ▸ hold, hget⟩
    rw [registered_concat_add, hnames, ← h.mem_names_iff]
    exact (or_iff_right_of_imp fun e => e ▸ hthere).symm
  · rw [if_neg hthere] at hnames
    refine ⟨by rw [hnames, hquit]; rfl, fun name => ?_, ?_, hget⟩
    · rw [registered_concat_add, hnames, ← h.mem_names_iff, List.mem_append, List.mem_singleton,
        or_comm, eq_comm]
    · rw [hnames, List.pairwise_append]
      refine ⟨hold, List.pairwise_singleton .., fun a ha b hb => ?_⟩
      rw [List.mem_singleton.1 hb]
      -- every other name has been registered since an earlier change
      obtain ⟨i, hi⟩ := ((h.mem_names_iff a).1 ha).exists_firstAdded
      have hnew : ¬ Registered history command.name := fun hr =>
        hthere ((h.mem_names_iff _).2 hr)
      exact ⟨i, history.length, hi.lt_length,
        Since.concat_iff.2 (Or.inr ⟨hi, Edit.not_deletes_add⟩),
        Since.concat_iff.2 (Or.inl ⟨rfl, Edit.adds_add.2 rfl, hnew⟩)⟩

/-- **A name that is deleted** is taken out, unless it is that of the command that leaves. -/
theorem delete (h : Ordered history c) (deleted : Text) :
    Ordered (history ++ [.delete deleted]) (c.deleteCommand deleted).2 := by
  by_cases hquit : deleted = quitCommand.name
  · have hsame : (c.deleteCommand deleted).2 = c := by rw [deleteCommand, if_pos hquit]
    have hkept (name : Text) : ¬ (deleted = name ∧ name ≠ quitCommand.name) := fun hn =>
      hn.2 (hn.1 ▸ hquit)
    rw [hsame]
    refine ⟨h.head_names, fun name => ?_, ?_, fun name found => ?_⟩
    · rw [registered_concat_delete, and_iff_left (hkept name), h.mem_names_iff]
    · exact h.pairwise_concat (List.Sublist.refl _) fun name _ hd =>
        hkept name (Edit.deletes_delete.1 hd)
    · rw [latest_concat_delete, and_iff_left (hkept found.name), h.get?_iff]
  · have herased : (c.deleteCommand deleted).2.table = c.table.erase deleted := by
      rw [deleteCommand, if_neg hquit]
    have hnames : (c.deleteCommand deleted).2.table.names = c.table.names.erase deleted := by
      rw [herased, CommandTable.names_erase]
    have hmem (name : Text) : name ∈ (c.deleteCommand deleted).2.table.names ↔
        name ≠ deleted ∧ name ∈ c.table.names := by
      rw [hnames, h.nodup.mem_erase_iff]
    have hdeleted (name : Text) :
        ¬ (deleted = name ∧ name ≠ quitCommand.name) ↔ name ≠ deleted := by
      constructor
      · rintro hn rfl
        exact hn ⟨rfl, hquit⟩
      · rintro hn ⟨rfl, -⟩
        exact hn rfl
    obtain ⟨rest, hrest⟩ := h.exists_names
    refine ⟨?_, fun name => ?_, ?_, fun name found => ?_⟩
    · rw [hnames, hrest, List.erase_cons_tail (by simpa using Ne.symm hquit), List.head?_cons]
    · rw [registered_concat_delete, hdeleted, hmem, h.mem_names_iff, and_comm]
    · rw [hnames]
      refine h.pairwise_concat (List.erase_sublist ..) fun name hname hd => ?_
      rw [← hnames, hmem] at hname
      exact hname.1 (Edit.deletes_delete.1 hd).1.symm
    · rw [latest_concat_delete, hdeleted, herased]
      by_cases hname : name = deleted
      · have hnone : (c.table.erase deleted).get? name = none := by
          rw [Option.eq_none_iff_forall_ne_some]
          intro other hother
          have := (hmem name).1 (herased ▸ CommandTable.get?_isSome.1 (hother ▸ rfl))
          exact this.1 hname
        rw [hnone]
        constructor
        · rintro ⟨⟩
        · rintro ⟨rfl, -, hne⟩
          exact absurd hname hne
      · rw [CommandTable.get?_erase_of_ne _ hname, h.get?_iff]
        constructor
        · rintro ⟨rfl, hlatest⟩
          exact ⟨rfl, hlatest, hname⟩
        · rintro ⟨rfl, hlatest, -⟩
          exact ⟨rfl, hlatest⟩

/-- **One change.** -/
theorem edit (h : Ordered history c) (e : Edit) : Ordered (history ++ [e]) (c.edit e) := by
  cases e with
  | add command => exact h.add command
  | delete name => exact h.delete name

end Ordered

/-- In the beginning there is the command that leaves. -/
theorem ordered_bare (scope : Scope) : Ordered [.add quitCommand] (bare scope) := by
  have hregistered (name : Text) :
      Registered ([] ++ [.add quitCommand]) name ↔ quitCommand.name = name := by
    rw [registered_concat_add]
    exact or_iff_left not_since_nil
  have hlatest (command : Command Question Handler) :
      Latest ([] ++ [.add quitCommand]) command ↔ quitCommand = command := by
    rw [latest_concat_add]
    exact or_iff_left fun h => not_since_nil h.1
  refine ⟨rfl, fun name => ?_, List.pairwise_singleton .., fun name command => ?_⟩
  · rw [← List.nil_append [Edit.add quitCommand], hregistered, eq_comm]
    exact List.mem_singleton
  · rw [← List.nil_append [Edit.add quitCommand], hlatest]
    by_cases hname : name = quitCommand.name
    · rw [hname, show (bare scope).table.get? quitCommand.name = some quitCommand from
        CommandTable.get?_insert_self .., Option.some.injEq]
      constructor
      · rintro rfl
        exact ⟨rfl, rfl⟩
      · exact And.right
    · rw [show (bare scope).table.get? name = none from
        CommandTable.get?_insert_of_ne .empty hname]
      constructor
      · rintro ⟨⟩
      · rintro ⟨hfound, rfl⟩
        exact absurd hfound.symm hname

/-! ## Contexts that are built -/

namespace Built

variable {history : List Edit} {c : Context}

/-- **The table of a context is an ordered map**, whatever changes made it. -/
theorem ordered (h : Built history c) : Ordered history c := by
  induction h with
  | bare scope => exact ordered_bare scope
  | edit h e ih => exact ih.edit e

theorem editAll (h : Built history c) (edits : List Edit) :
    Built (history ++ edits) (c.editAll edits) := by
  induction edits generalizing history c with
  | nil => rwa [List.append_nil]
  | cons e rest ih =>
    have := ih (h.edit e)
    rwa [List.append_assoc, List.singleton_append] at this

theorem addCommands (h : Built history c) (commands : List (Command Question Handler)) :
    Built (history ++ commands.map .add) (c.addCommands commands) := by
  have hedits : c.addCommands commands = c.editAll (commands.map .add) := by
    rw [Context.addCommands, Context.editAll, List.foldl_map]
    rfl
  rw [hedits]
  exact h.editAll _

end Built

theorem root_built : Built (.add quitCommand :: rootCommands.map .add) root :=
  (Built.bare .root).addCommands rootCommands

/-- The contexts that the shell opens are built. -/
theorem Opened.exists_built {σ : Type} {d : Daemon σ} {I : σ → Prop} {c : Context}
    (h : c.Opened d I) : ∃ history, Built history c := by
  have hobject (scope : Scope) (handle : ObjectHandle) (attributes : List Attribute) :=
    (Built.bare scope).addCommands (objectCommands handle attributes)
  cases h with
  | root => exact ⟨_, root_built⟩
  | object hs h =>
    obtain ⟨handle, attributes, -, -, rfl⟩ := openObject_ok h
    exact ⟨_, hobject ..⟩
  | module hs h =>
    obtain ⟨slot, s', attributes, -, -, rfl⟩ := openModule_ok h
    exact ⟨_, (hobject ..).addCommands _⟩
  | interface hs h =>
    obtain ⟨slot, s', oid, attributes, -, -, rfl⟩ := openInterface_ok h
    exact ⟨_, hobject ..⟩

/-- A name is deleted if it is registered and not that of the command that leaves. -/
theorem fst_deleteCommand_iff (c : Context) (name : Text) :
    (c.deleteCommand name).1 = true ↔ name ∈ c.table.names ∧ name ≠ quitCommand.name := by
  rw [deleteCommand]
  by_cases hname : name = quitCommand.name
  · simp [hname]
  · simp [hname, CommandTable.get?_isSome]

/-- The name of the command that leaves is resolved to it, whatever other names begin like it. -/
theorem Ordered.resolve_quit {history : List Edit} {c : Context} (h : Ordered history c) {σ : Type}
    (ask : Question → StateM σ (List Text)) (s : σ) :
    ∃ entry, c.table.get? quitCommand.name = some entry ∧
      c.table.resolve ask quitCommand.name s =
        (.ok ⟨entry.handler, quitCommand.name, []⟩, s) := by
  obtain ⟨rest, hnames⟩ := h.exists_names
  have hmem : quitCommand.name ∈ c.table.names := by simp [hnames]
  have hwords : words quitCommand.name = [quitCommand.name] := by decide
  have hpick : pick? quitCommand.name c.table.names = some quitCommand.name :=
    pick?_eq_some_iff.2 (Or.inl ⟨hmem, rfl⟩)
  obtain ⟨entry, hentry⟩ := Option.isSome_iff_exists.1 (CommandTable.get?_isSome.2 hmem)
  exact ⟨entry, hentry, CommandTable.resolve_of_pick? hwords hpick hentry rfl⟩

/-- **A context is an ordered map of commands that always keeps `quit`.** After any changes `quit`
is registered and stands first, names are distinct and stand in the order in which they have been
registered since, a name is found with its latest command, those names are deleted that are
registered and not `quit`, and the line `quit` is resolved to the command of that name. -/
theorem editAll_built {c₀ : Context} {made : List Edit} (h : Built made c₀) (edits : List Edit) :
    let c := c₀.editAll edits
    let history := made ++ edits
    (c.table.names.head? = some quitCommand.name ∧ c.table.names.Nodup) ∧
    (∀ name, name ∈ c.table.names ↔ Registered history name) ∧
    (c.table.names.Pairwise fun a b =>
      ∃ i j, i < j ∧ FirstAdded history a i ∧ FirstAdded history b j) ∧
    (∀ name command,
      c.table.get? name = some command ↔ command.name = name ∧ Latest history command) ∧
    (∀ name, (c.deleteCommand name).1 = true ↔
      name ∈ c.table.names ∧ name ≠ quitCommand.name) ∧
    ∀ (σ : Type) (ask : Question → StateM σ (List Text)) (s : σ),
      ∃ entry, c.table.get? quitCommand.name = some entry ∧
        c.table.resolve ask quitCommand.name s =
          (.ok ⟨entry.handler, quitCommand.name, []⟩, s) := by
  intro c history
  have hordered : Ordered history c := (h.editAll edits).ordered
  refine ⟨⟨hordered.head_names, hordered.nodup⟩, hordered.mem_names_iff, hordered.pairwise,
    hordered.get?_iff, c.fst_deleteCommand_iff, fun σ ask s => hordered.resolve_quit ask s⟩

theorem editAll_built_root :
    let quitter : Command Question Handler := ⟨"quitter", .list, none⟩
    let edits : List Edit :=
      [.delete "list", .add quitter, .delete "quit", .add ⟨"list", .quit, none⟩]
    let c := root.editAll edits
    Built (.add quitCommand :: rootCommands.map .add) root ∧
      c.table.names = ["quit", "module", "log-level", "create", "remove", "quitter", "list"] ∧
      (c.deleteCommand "list").1 = true ∧ (c.deleteCommand "quit").1 = false ∧
      c.table.get? quitter.name = some quitter := by
  intro quitter edits c
  obtain ⟨-, -, -, hget, hdelete, -⟩ := editAll_built root_built edits
  have hnames : c.table.names =
      ["quit", "module", "log-level", "create", "remove", "quitter", "list"] := by decide
  -- `quitter` was added behind the first change, and the two behind it leave it alone
  have hlatest : Latest (((.add quitCommand :: rootCommands.map .add ++ [.delete "list"]) ++
      [.add quitter] ++ [.delete "quit"]) ++ [.add ⟨"list", .quit, none⟩]) quitter := by
    refine latest_concat_add.2 (Or.inr ⟨latest_concat_delete.2 ⟨?_, by decide⟩, by decide⟩)
    exact latest_concat_add.2 (Or.inl rfl)
  exact ⟨root_built, hnames, (hdelete _).2 (by decide), by decide, (hget _ _).2 ⟨rfl, hlatest⟩⟩

end TransponderShell.Context
