import TransponderShell.Command.Table

/-!
# Tables as ordered maps

`CommandTable.insert` keeps the order of the names (`names_insert`) and changes the command of one
name only (`get?_insert_self`, `get?_insert_of_ne`); `get?_isSome` says that the names are those
that are found. What is in the table afterwards was there or is the new command
(`mem_insertCommand`). `CommandTable.erase` takes one name out (`names_erase`) and leaves the
commands of the others (`get?_erase_of_ne`).
-/

namespace TransponderShell.CommandTable

variable {Q H : Type}

theorem get?_isSome {t : CommandTable Q H} {name : Text} :
    (t.get? name).isSome ↔ name ∈ t.names := by
  simp [get?, names]

/-- A found command has the name that was looked for. -/
theorem name_of_get? {t : CommandTable Q H} {name : Text} {c : Command Q H}
    (h : t.get? name = some c) : c.name = name := by
  simpa using List.find?_some h

theorem map_name_insertCommand (c : Command Q H) (commands : List (Command Q H)) :
    (insertCommand c commands).map Command.name =
      if c.name ∈ commands.map Command.name then commands.map Command.name
      else commands.map Command.name ++ [c.name] := by
  induction commands with
  | nil => rfl
  | cons d rest ih =>
    by_cases h : d.name = c.name
    · simp [insertCommand, h]
    · have h' : ¬ c.name = d.name := fun e => h e.symm
      simp only [insertCommand, h, if_false, List.map_cons, ih, List.mem_cons, h', false_or]
      split <;> rfl

/-- A name that is there keeps its place, and a new one comes last. -/
theorem names_insert (t : CommandTable Q H) (c : Command Q H) :
    (t.insert c).names = if c.name ∈ t.names then t.names else t.names ++ [c.name] :=
  map_name_insertCommand c t.commands

theorem get?_insert_self (t : CommandTable Q H) (c : Command Q H) :
    (t.insert c).get? c.name = some c := by
  simp only [insert, get?]
  induction t.commands with
  | nil => simp [insertCommand]
  | cons d rest ih =>
    by_cases h : d.name = c.name
    · simp [insertCommand, h]
    · simp [insertCommand, h, ih]

theorem get?_insert_of_ne (t : CommandTable Q H) {c : Command Q H} {name : Text}
    (hn : name ≠ c.name) : (t.insert c).get? name = t.get? name := by
  simp only [insert, get?]
  induction t.commands with
  | nil => simp [insertCommand, hn.symm]
  | cons d rest ih =>
    by_cases h : d.name = c.name
    · have hd : d.name ≠ name := fun e => hn (e.symm.trans h)
      simp [insertCommand, h, hn.symm]
    · by_cases hd : d.name = name
      · simp [insertCommand, hd, hn]
      · simp [insertCommand, h, hd, ih]

theorem mem_insertCommand {c d : Command Q H} {commands : List (Command Q H)}
    (h : c ∈ insertCommand d commands) : c = d ∨ c ∈ commands := by
  induction commands with
  | nil => exact Or.inl (List.mem_singleton.1 h)
  | cons e rest ih =>
    rw [insertCommand] at h
    split at h
    · rcases List.mem_cons.1 h with rfl | h
      · exact Or.inl rfl
      · exact Or.inr (List.mem_cons_of_mem _ h)
    · rcases List.mem_cons.1 h with rfl | h
      · exact Or.inr (List.mem_cons_self ..)
      · exact (ih h).imp_right (List.mem_cons_of_mem _)

/-- The names that are left keep their order. -/
theorem names_erase (t : CommandTable Q H) (name : Text) :
    (t.erase name).names = t.names.erase name := by
  simp only [names, erase]
  induction t.commands with
  | nil => rfl
  | cons c rest ih =>
    by_cases h : c.name = name
    · simp [h]
    · simp [h, ih]

theorem get?_erase_of_ne (t : CommandTable Q H) {name other : Text} (hn : other ≠ name) :
    (t.erase name).get? other = t.get? other := by
  simp only [erase, get?]
  induction t.commands with
  | nil => rfl
  | cons c rest ih =>
    by_cases h : c.name = name
    · simp [h, hn.symm]
    · by_cases hc : c.name = other
      · simp [hc, hn]
      · simp [h, hc, ih]

end TransponderShell.CommandTable
