import TransponderShell.Proofs.Shell.Recorded

/-!
# Commands refuse arguments that do not fit their usage

Resolving a line lets words through that nothing is known about, so it is left to each command to
count its arguments. `Handler.Fits` says which arguments fit the usage of a command, whatever the
words mean, and `Handler.Refused` that a command fails with its usage and has done nothing.

Every command refuses arguments that do not fit (`Handler.run_of_not_fits`), with one exception:
`set` with a name and no value writes the empty value. Both together are the result,
`Handler.refused_or_set`. In the shell, all that comes of a refused line is that the usage is
written (`Shell.execute_of_refused`).
-/

namespace TransponderShell

variable {σ ω : Type}

namespace Handler

/-! ## Usages -/

/-- What a command tells the operator of its arguments. Leaving a context and commands from outside
the shell take any arguments and tell nothing. -/
def usage : Handler → Text
  | quit | custom _ _ => []
  | openModule => "usage: module <name>"
  | openInterface kind _ => "usage: " ++ kind.label ++ " <index>"
  | list => "usage: list"
  | logLevel => "usage: log-level <level> [api]"
  | create => createUsage
  | remove => "usage: remove <oid>"
  | get _ => "usage: get <name>"
  | set _ => "usage: set <name> <value>"
  | capability _ => "usage: capability <name>"
  | monitor _ _ => "usage: monitor <name>"
  | listAttributes _ => "usage: list-attr [simple]"

/-- Whether arguments fit the usage of a command. -/
def Fits : Handler → List Text → Prop
  | quit, _ | custom _ _, _ => True
  | list, arguments => arguments.length = 0
  | openModule, arguments | openInterface _ _, arguments | remove, arguments | get _, arguments
  | capability _, arguments => arguments.length = 1
  | logLevel, arguments => arguments.length = 1 ∨ arguments.length = 2
  -- an interface is created below a module, whose id comes second
  | create, arguments => 1 ≤ arguments.length ∧
    ∀ kind : InterfaceKind, arguments.head? = some kind.label → 2 ≤ arguments.length
  | set _, arguments => 2 ≤ arguments.length
  | monitor _ _, arguments => arguments.length ≤ 1
  | listAttributes _, arguments => arguments = [] ∨ arguments = [("simple" : Text)]

variable (t : Terminal σ ω) {h : Handler} {arguments : List Text}

/-- A command fails with its usage. It has called nothing, and the world is as it was. -/
structure Refused (h : Handler) (arguments : List Text) (world : World σ ω) : Prop where
  run : h.run t arguments world = (.error (.input (.usage h.usage)), world)
  calls : h.callsOf t arguments world = []

/-- Arguments that do not fit are refused before anything is done, unless a name is to be written
without a value. -/
theorem run_of_not_fits (hfits : ¬ h.Fits arguments)
    (hset : ∀ object name, h = set object → arguments ≠ [name]) :
    h.run t arguments = Step.usage h.usage := by
  cases h with
  | quit | custom line leaves => exact absurd trivial hfits
  | openModule | openInterface kind location | remove | get object | capability object =>
    rcases arguments with _ | ⟨word, _ | ⟨_, _⟩⟩
    · rfl
    · exact absurd rfl hfits
    · rfl
  | list =>
    rcases arguments with _ | ⟨_, _⟩
    · exact absurd rfl hfits
    · rfl
  | logLevel =>
    rcases arguments with _ | ⟨level, _ | ⟨scope, _ | ⟨_, _⟩⟩⟩
    · rfl
    · exact absurd (Or.inl rfl) hfits
    · exact absurd (Or.inr rfl) hfits
    · rfl
  | create =>
    rcases arguments with _ | ⟨label, rest⟩
    · rfl
    -- the type is that of an interface, and nothing follows it
    obtain ⟨kind, hkind, hshort⟩ : ∃ kind : InterfaceKind, label = kind.label ∧
        ¬ 2 ≤ (label :: rest).length := by
      simpa [Fits] using hfits
    obtain rfl : rest = [] := by
      rw [← List.length_eq_zero_iff]
      simp only [List.length_cons] at hshort
      omega
    subst hkind
    cases kind with
    | network => rfl
    | host => rfl
  | set object =>
    rcases arguments with _ | ⟨name, _ | ⟨value, rest⟩⟩
    · rfl
    · exact absurd rfl (hset object name rfl)
    · exact absurd (Nat.le_add_left ..) hfits
  | monitor object attributes =>
    rcases arguments with _ | ⟨name, _ | ⟨_, _⟩⟩
    · exact absurd (Nat.zero_le _) hfits
    · exact absurd (Nat.le_refl _) hfits
    · rfl
  | listAttributes attributes =>
    rcases arguments with _ | ⟨mode, _ | ⟨_, _⟩⟩
    · exact absurd (Or.inl rfl) hfits
    · have hmode : mode ≠ "simple" := fun heq => hfits (Or.inr (congrArg (· :: []) heq))
      simp only [run, runListAttributes, if_neg hmode]
      rfl
    · rfl

/-- **Arguments that do not fit the usage of a command are refused**, over every daemon and every
writer, in every state of both: the command fails with its usage, it has called nothing, and nothing
is written. Only `set` with a name and no value is not refused: it writes the empty value. -/
theorem refused_or_set (hfits : ¬ h.Fits arguments) (world : World σ ω) :
    h.Refused t arguments world ∨ ∃ object name, h = set object ∧ arguments = [name] ∧
      h.callsOf t arguments world = [.set object name []] := by
  rcases Classical.em (∃ object name, h = set object ∧ arguments = [name]) with hlone | hother
  · obtain ⟨object, name, rfl, rfl⟩ := hlone
    exact Or.inr ⟨object, name, rfl, rfl, callsOf_set object name []⟩
  · have hset : ∀ object name, h = set object → arguments ≠ [name] :=
      fun object name hset hname => hother ⟨object, name, hset, hname⟩
    refine Or.inl ⟨?_, ?_⟩
    · rw [run_of_not_fits t hfits hset]
      rfl
    · rw [callsOf, run_of_not_fits t.recording hfits hset]
      rfl

theorem refused_or_set_remove :
    let t : Terminal Simulator Text := ⟨Simulator.daemon, .unlimited, false⟩
    let arguments : List Text := ["0x1", "0x2"]
    ¬ remove.Fits arguments ∧ remove.Refused t arguments ⟨Simulator.seed, [], false⟩ := by
  intro t arguments
  have hfits : ¬ remove.Fits arguments := by simp [Fits, arguments]
  refine ⟨hfits, ?_⟩
  rcases refused_or_set t hfits ⟨Simulator.seed, [], false⟩ with hrefused | hset
  · exact hrefused
  · obtain ⟨object, name, hhandler, -⟩ := hset
    cases hhandler

/-- A name without a value does not fit the usage of `set`, and it is not refused. -/
theorem not_refused_of_not_fits :
    ¬ ∀ (σ ω : Type) (t : Terminal σ ω) (h : Handler) (arguments : List Text) (world : World σ ω),
      ¬ h.Fits arguments → h.Refused t arguments world := by
  intro hrefused
  let object : ObjectHandle := ⟨.interface .network, 2⟩
  let world : World Simulator Text := ⟨Simulator.seed, [], false⟩
  have hfits : ¬ (set object).Fits ["output-power"] := by simp [Fits]
  have hnone := (hrefused _ _ ⟨Simulator.daemon, .unlimited, false⟩ _ _ world hfits).calls
  rw [callsOf_set] at hnone
  cases hnone

end Handler

/-- A line that is resolved to refused arguments has the usage of its command written. -/
theorem Shell.execute_of_refused {t : Terminal σ ω} {s : Shell σ ω} {line : Text}
    {r : Resolved Handler} {d : σ} (hline : line.all isBlank = false)
    (hresolve : s.context.resolving t.daemon line s.world.daemon = (.ok r, d))
    (h : r.handler.Refused t r.arguments { s.world with daemon := d }) :
    execute t line s = (writeLine t r.handler.usage >>= fun _ => pure .continue)
      { s with world := { s.world with daemon := d } } := by
  have hperform : s.context.perform t line s.world =
      (.error (.input (.usage r.handler.usage)), { s.world with daemon := d }) :=
    (Context.perform_of_resolved hresolve).trans h.run
  exact execute_of_error hline hperform

end TransponderShell
