import TransponderShell.Proofs.Shell.Observed
import TransponderShell.Proofs.Shell.Opened
import TransponderShell.Proofs.Shell.Sessions

/-!
# The stack of contexts

What holds of the stack of contexts over any daemon, whatever it answers and refuses, any writers
and any lines (`stack_disciplined`).

* It is the root alone, or a module in it, or an interface in that (`Nested`). What is opened is
  told by `Context.openModule_ok` and `Context.openInterface_ok`, and which commands open something
  in which context by the tables; `Stacked.run` is the step and `Shell.Session.stands` the run.
* A line puts one context on the stack, takes the innermost one off it, or leaves it as it is, and
  the command `quit` alone takes one off (`Shell.Disciplined`). For this the name of a command has
  to tell its handler (`Command.Standard`).
* A line that is not resolved has only asked for the slots (`Context.onlyListed_resolving`), as the
  daemon that records its calls shows.
-/

namespace TransponderShell

variable {σ ω : Type}

/-! ## Resolved lines -/

/-- A resolved line is carried out by the command of its name. -/
theorem CommandTable.get?_of_resolve {Q H : Type} {t : CommandTable Q H}
    {ask : Q → StateM σ (List Text)} {line : Text} {s : σ} {r : Resolved H}
    (h : (t.resolve ask line s).1 = .ok r) :
    ∃ c, t.get? r.command = some c ∧ c.handler = r.handler := by
  unfold resolve at h
  rcases hexpand : t.expand ask line.words s with ⟨e | words, s'⟩
  · rw [run_stateBind hexpand] at h
    cases h
  · rw [run_stateBind hexpand] at h
    dsimp only at h
    cases hget : t.get? (words.headD []) with
    | none =>
      rw [hget] at h
      cases h
    | some c =>
      rw [hget] at h
      cases h
      exact ⟨c, hget, rfl⟩

namespace Context

theorem resolve_of_resolving {d : Daemon σ} {c : Context} {line : Text} {s : σ}
    {r : Resolved Handler} (h : (c.resolving d line s).1 = .ok r) :
    (c.table.resolve (Question.ask d) line s).1 = .ok r := by
  rw [resolving_eq] at h
  cases hresolve : (c.table.resolve (Question.ask d) line s).1 with
  | error e =>
    rw [hresolve] at h
    cases h
  | ok r' =>
    rw [hresolve] at h
    cases h
    rfl

theorem get?_of_resolving {d : Daemon σ} {c : Context} {line : Text} {s : σ} {r : Resolved Handler}
    (h : (c.resolving d line s).1 = .ok r) :
    ∃ command, c.table.get? r.command = some command ∧ command.handler = r.handler :=
  CommandTable.get?_of_resolve (resolve_of_resolving h)

/-- The line is resolved to the command of a name. -/
def ResolvesTo (d : Daemon σ) (c : Context) (line : Text) (s : σ) (name : Text) : Prop :=
  ∃ r, (c.resolving d line s).1 = .ok r ∧ r.command = name

end Context

/-! ## The calls of a line that is not resolved -/

/-- The relation of programs that stay in it, whatever they return. -/
def keeping (R : σ → σ → Prop) [IsPreorder σ R] : ProgramRelation (StateM σ) Id where
  Rel x _ := ∀ s, R s (x s).2
  pure_pure _ s := refl_of R s
  bind_bind hx hf s := trans_of R (hx s) (hf _ _)

namespace Context

/-- No calls have been recorded but those of `list`. -/
def OnlyListed (recorded : σ × List Call) : Prop := ∀ c ∈ recorded.2, c = .list

/-- A line is resolved by asking for the slots alone. -/
theorem onlyListed_resolving (d : Daemon σ) (c : Context) (line : Text) {recorded : σ × List Call}
    (h : OnlyListed recorded) : OnlyListed (c.resolving d.recording line recorded).2 := by
  have hask (q : Question) : (keeping (Preserves OnlyListed)).Rel
      (Question.ask d.recording q) (pure [] : Id (List Text)) := by
    intro recorded h
    rw [Question.ask_run]
    intro c hc
    rcases List.mem_append.1 hc with hc | hc
    · exact h c hc
    · exact List.mem_singleton.1 hc
  rw [resolving_eq]
  exact c.table.resolve_related (keeping (Preserves OnlyListed)) hask line recorded h

end Context

/-! ## The commands of the shell -/

/-- The command is named `quit` exactly if it leaves, and it is not one from outside the shell. -/
structure Command.Standard (c : Command Question Handler) : Prop where
  quit_iff : c.name = Context.quitCommand.name ↔ c.handler = .quit
  ne_custom : ∀ line leaves, c.handler ≠ .custom line leaves

theorem Command.Standard.of_ne {name : Text} {handler : Handler}
    {completer : Option (Completer Question)} (hname : name ≠ Context.quitCommand.name)
    (hquit : handler ≠ .quit) (hcustom : ∀ line leaves, handler ≠ .custom line leaves) :
    Command.Standard ⟨name, handler, completer⟩ :=
  ⟨iff_of_false hname hquit, hcustom⟩

namespace Context

theorem quitCommand_standard : quitCommand.Standard :=
  ⟨iff_of_true rfl rfl, by simp [quitCommand]⟩

theorem rootCommands_standard : ∀ c ∈ rootCommands, c.Standard := by
  simp only [rootCommands, List.forall_mem_cons]
  exact ⟨.of_ne (by decide) (by simp) (by simp), .of_ne (by decide) (by simp) (by simp),
    .of_ne (by decide) (by simp) (by simp), .of_ne (by decide) (by simp) (by simp),
    .of_ne (by decide) (by simp) (by simp), List.forall_mem_nil _⟩

theorem objectCommands_standard (handle : ObjectHandle) (attributes : List Attribute) :
    ∀ c ∈ objectCommands handle attributes, c.Standard := by
  simp only [objectCommands, List.forall_mem_cons]
  exact ⟨.of_ne (by decide) (by simp) (by simp), .of_ne (by decide) (by simp) (by simp),
    .of_ne (by decide) (by simp) (by simp), .of_ne (by decide) (by simp) (by simp),
    .of_ne (by decide) (by simp) (by simp), List.forall_mem_nil _⟩

theorem interfaceCommands_standard (location : Text) :
    ∀ c ∈ interfaceCommands location, c.Standard := by
  have hlabel (kind : InterfaceKind) : kind.label ≠ quitCommand.name := by
    cases kind <;> decide
  intro c hc
  obtain ⟨kind, -, rfl⟩ := List.mem_map.1 hc
  exact .of_ne (hlabel kind) (by simp) (by simp)

/-! ## Opened contexts -/

/-- The context of a module. -/
def OfModule (c : Context) : Prop :=
  ∃ location oid attributes place, c = (object (.module location oid) ⟨.module, oid⟩
    attributes).addCommands (interfaceCommands place)

/-- The context of an interface. -/
def OfInterface (c : Context) : Prop := ∃ kind i, c.IsInterface kind i

theorem ofModule_of_openModule {d : Daemon σ} {location : Text} {s : σ} {c : Context}
    (h : (openModule d location s).1 = .ok c) : c.OfModule := by
  obtain ⟨slot, _, attributes, -, -, rfl⟩ := openModule_ok h
  exact ⟨slot.location, slot.oid, attributes, location, rfl⟩

theorem ofInterface_of_openInterface {d : Daemon σ} {kind : InterfaceKind} {location : Text}
    {index : Nat} {s : σ} {c : Context} (h : (openInterface d kind location index s).1 = .ok c) :
    c.OfInterface := by
  obtain ⟨_, _, oid, attributes, -, -, rfl⟩ := openInterface_ok h
  exact ⟨kind, ⟨index, oid⟩, attributes, rfl⟩

theorem standard_of_mem_object {scope : Scope} {handle : ObjectHandle}
    {attributes : List Attribute} {c : Command Question Handler}
    (h : c ∈ (object scope handle attributes).table.commands) : c.Standard := by
  rcases mem_object h with rfl | h
  · exact quitCommand_standard
  · exact objectCommands_standard handle attributes c h

theorem standard_of_mem_root {c : Command Question Handler} (h : c ∈ root.table.commands) :
    c.Standard := by
  rcases mem_addCommands h with h | h
  · obtain rfl : c = quitCommand := List.mem_singleton.1 h
    exact quitCommand_standard
  · exact rootCommands_standard c h

theorem OfModule.standard_of_mem {context : Context} (h : context.OfModule)
    {c : Command Question Handler} (hc : c ∈ context.table.commands) : c.Standard := by
  obtain ⟨location, oid, attributes, place, rfl⟩ := h
  rcases mem_addCommands hc with hc | hc
  · exact standard_of_mem_object hc
  · exact interfaceCommands_standard place c hc

/-- No command in a module opens another one. -/
theorem OfModule.ne_openModule {context : Context} (h : context.OfModule)
    {c : Command Question Handler} (hc : c ∈ context.table.commands) : c.handler ≠ .openModule := by
  obtain ⟨location, oid, attributes, place, rfl⟩ := h
  rcases mem_addCommands hc with hc | hc
  · have hat := atObject_of_mem_object hc
    intro hopen
    rw [hopen] at hat
    exact hat
  · obtain ⟨kind, -, rfl⟩ := List.mem_map.1 hc
    nofun

theorem OfInterface.standard_of_mem {context : Context} (h : context.OfInterface)
    {c : Command Question Handler} (hc : c ∈ context.table.commands) : c.Standard := by
  obtain ⟨kind, i, attributes, rfl⟩ := h
  exact standard_of_mem_object hc

end Context

/-! ## The invariant -/

/-- The contexts above the root, the innermost first: none, or that of a module, or that and the one
of an interface. -/
inductive Stacked : List Context → Prop
  | root : Stacked []
  | module {c : Context} (hc : c.OfModule) : Stacked [c]
  | interface {c inner : Context} (hc : c.OfModule) (hinner : inner.OfInterface) :
    Stacked [inner, c]

namespace Stacked

variable {above : List Context}

theorem standard_of_mem (h : Stacked above) {c : Command Question Handler}
    (hc : c ∈ (above.headD Context.root).table.commands) : c.Standard := by
  cases h with
  | root => exact Context.standard_of_mem_root hc
  | module hmodule => exact hmodule.standard_of_mem hc
  | interface _ hinner => exact hinner.standard_of_mem hc

theorem tail (h : Stacked above) : Stacked above.tail := by
  cases h with
  | root => exact .root
  | module => exact .root
  | interface hc => exact .module hc

/-- What a command opens is put where it belongs. -/
theorem enter (h : Stacked above) (t : Terminal σ ω) {command : Command Question Handler}
    (hcommand : command ∈ (above.headD Context.root).table.commands) {arguments : List Text}
    {world : World σ ω} {c : Context}
    (henter : (command.handler.run t arguments world).1 = .ok (.enter c)) :
    Stacked (c :: above) := by
  have hopened := Handler.cases_of_enter t henter
  cases h with
  | root =>
    rcases hopened with ⟨-, location, hopen⟩ | ⟨kind, location, index, hhandler, -⟩
    · exact .module (Context.ofModule_of_openModule hopen)
    · exact absurd hhandler (Context.handler_of_mem_root hcommand kind location)
  | module hmodule =>
    rcases hopened with ⟨hhandler, -⟩ | ⟨kind, location, index, -, hopen⟩
    · exact absurd hhandler (hmodule.ne_openModule hcommand)
    · exact .interface hmodule (Context.ofInterface_of_openInterface hopen)
  | interface _ hinner =>
    obtain ⟨_, _, hinner⟩ := hinner
    exact absurd henter ((hinner.handler_of_mem hcommand).run_ne_enter t _ _ _)

/-- **A command of the innermost context keeps the shape of the stack.** -/
theorem run (h : Stacked above) (t : Terminal σ ω) {command : Command Question Handler}
    (hcommand : command ∈ (above.headD Context.root).table.commands) (arguments : List Text)
    (world : World σ ω) :
    Stacked (Outcome.above (command.handler.run t arguments world).1 above) :=
  Outcome.above_of h h.tail fun _ => h.enter t hcommand

end Stacked

/-! ## A line -/

/-- Only `quit` leads out of a context, apart from commands from outside the shell. -/
theorem Handler.eq_quit_of_leads {h : Handler} (hcustom : ∀ line leaves, h ≠ .custom line leaves)
    (hleads : h.Leads .leave) : h = .quit := by
  cases h with
  | quit => rfl
  | openModule =>
    obtain ⟨c, hc⟩ := hleads
    cases hc
  | openInterface kind location =>
    obtain ⟨c, hc⟩ := hleads
    cases hc
  | custom line leaves => exact absurd rfl (hcustom line leaves)
  | _ => cases hleads

/-- Of commands that are named `quit` only if they leave, only such a one leaves. -/
theorem Context.perform_eq_leave_iff {t : Terminal σ ω} {c : Context}
    (h : ∀ command ∈ c.table.commands, command.Standard) (line : Text) (world : World σ ω) :
    (c.perform t line world).1 = .ok .leave ↔
      c.ResolvesTo t.daemon line world.daemon quitCommand.name := by
  unfold ResolvesTo
  rcases hresolve : c.resolving t.daemon line world.daemon with ⟨failure | r, d⟩
  · rw [perform_of_unresolved hresolve]
    exact iff_of_false nofun nofun
  obtain ⟨command, hget, hhandler⟩ := get?_of_resolving (congrArg Prod.fst hresolve)
  have hstandard := h command (List.mem_of_find?_eq_some hget)
  have hname : command.name = r.command := CommandTable.name_of_get? hget
  rw [perform_of_resolved hresolve]
  constructor
  · intro hleave
    refine ⟨r, rfl, hname ▸ hstandard.quit_iff.2 ?_⟩
    rw [← hhandler] at hleave
    exact Handler.eq_quit_of_leads hstandard.ne_custom (Handler.run_leads t _ _ _ _ hleave)
  · rintro ⟨_, ⟨⟩, hquit⟩
    rw [← hhandler, hstandard.quit_iff.1 (hname.trans hquit)]
    rfl

namespace Shell

variable (t : Terminal σ ω) (line : Text) (s : Shell σ ω)

/-- The shell ends when a command leaves the root. -/
theorem execute_eq_quit_iff :
    (execute t line s).1 = .ok .quit ↔
      (s.context.perform t line s.world).1 = .ok .leave ∧ s.above = [] := by
  cases hline : line.all isBlank with
  | true =>
    have hresolve := s.context.resolving_of_blank t.daemon s.world.daemon hline
    rw [execute_of_blank s hline, Context.perform_of_unresolved hresolve]
    exact iff_of_false nofun nofun
  | false =>
    rcases hperform : s.context.perform t line s.world with ⟨failure | outcome, world⟩
    · rw [execute_of_error hline hperform]
      refine iff_of_false ?_ nofun
      rcases hreport : report t failure { s with world := world } with ⟨e | _, s'⟩
      · rw [run_bind_error hreport]
        nofun
      · rw [run_bind_ok hreport]
        nofun
    · rw [execute_of_ok hline hperform, run_move]
      cases outcome with
      | leave => cases s.above <;> simp [Outcome.progress]
      | _ => simp [Outcome.progress]

variable {s}

/-- The contexts are those of the root and of what has been opened below it. -/
structure Stands (s : Shell σ ω) : Prop where
  root : s.root = Context.root
  above : Stacked s.above

theorem Stands.standard_of_mem (h : s.Stands) :
    ∀ command ∈ s.context.table.commands, command.Standard := by
  intro command hcommand
  rw [context, h.root] at hcommand
  exact h.above.standard_of_mem hcommand

/-- **A line keeps the shape of the stack.** -/
theorem Stands.execute (h : s.Stands) : (execute t line s).2.Stands := by
  obtain ⟨sink, hstate⟩ := state_execute t line s
  rw [hstate]
  refine ⟨h.root, ?_⟩
  rcases hresolve : s.context.resolving t.daemon line s.world.daemon with ⟨failure | r, d⟩
  · rw [Context.perform_of_unresolved hresolve]
    exact h.above
  · obtain ⟨command, hget, hhandler⟩ := Context.get?_of_resolving (congrArg Prod.fst hresolve)
    have hcommand := List.mem_of_find?_eq_some hget
    rw [context, h.root] at hcommand
    rw [Context.perform_of_resolved hresolve, ← hhandler]
    exact h.above.run t hcommand _ _

/-- **The stack keeps its shape in every session**, over any daemon. -/
theorem Session.stands {d : Daemon σ} {d₀ : σ} (h : Session d d₀ s) : s.Stands :=
  h.keeps (fun _ => ⟨rfl, .root⟩) (fun _ _ _ _ hs => hs.execute _ _)
    fun _ _ _ hs => ⟨hs.root, hs.above⟩

end Shell

/-! ## The results -/

/-- The places from the root to the innermost context. -/
inductive Nested : List Scope → Prop
  | root : Nested [.root]
  | module (location : Text) (oid : Nat) : Nested [.root, .module location oid]
  | interface (location : Text) (oid : Nat) (kind : InterfaceKind) (index ioid : Nat) :
    Nested [.root, .module location oid, .interface kind index ioid]

/-- Only the root has no label. -/
theorem Nested.labels {scopes : List Scope} (h : Nested scopes) :
    (scopes.map Scope.label).filter (fun label => !label.isEmpty) =
      scopes.tail.map Scope.label := by
  cases h with
  | root => rfl
  | module location oid => rfl
  | interface location oid kind index ioid => cases kind <;> rfl

namespace Shell

variable {s : Shell σ ω}

theorem Stands.nested (h : s.Stands) : Nested (s.contexts.map Context.scope) := by
  have habove := h.above
  rw [contexts, h.root]
  generalize s.above = above at habove ⊢
  cases habove with
  | root => exact .root
  | module hc =>
    obtain ⟨location, oid, _, _, rfl⟩ := hc
    exact .module location oid
  | interface hc hinner =>
    obtain ⟨location, oid, _, _, rfl⟩ := hc
    obtain ⟨kind, i, _, rfl⟩ := hinner
    exact .interface location oid kind i.index i.oid

theorem Stands.prompt_eq (h : s.Stands) :
    s.prompt = Text.joinWith "/" (s.contexts.tail.map fun c => c.scope.label) ++ "> " := by
  have hlabels := h.nested.labels
  rw [List.map_map, ← List.map_tail, List.map_map] at hlabels
  rw [prompt]
  exact congrArg (fun labels => Text.joinWith "/" labels ++ "> ") hlabels

/-- What a line does to the stack of contexts. -/
structure Disciplined (t : Terminal σ ω) (line : Text) (s : Shell σ ω) : Prop where
  /-- The stack stays as it is, or one context is put on it, or the innermost one is taken off. -/
  step : (execute t line s).2.contexts = s.contexts ∨
    (∃ c, (execute t line s).2.contexts = s.contexts ++ [c]) ∨
    s.contexts = (execute t line s).2.contexts ++ [s.context]
  /-- A context is taken off if the line is `quit` above the root. -/
  pops_iff : s.contexts = (execute t line s).2.contexts ++ [s.context] ↔
    s.context.ResolvesTo t.daemon line s.world.daemon "quit" ∧ s.above ≠ []
  /-- The shell ends if the line is `quit` at the root. -/
  quits_iff : (execute t line s).1 = .ok .quit ↔
    s.context.ResolvesTo t.daemon line s.world.daemon "quit" ∧ s.above = []
  /-- The stack stays as it is then. -/
  of_quits : (execute t line s).1 = .ok .quit → (execute t line s).2.contexts = s.contexts
  /-- A line that is not resolved, a context that cannot be opened and a command that fails leave
  the stack as it is. -/
  of_fails : ∀ failure, (s.context.perform t line s.world).1 = .error failure →
    (execute t line s).2.contexts = s.contexts
  /-- A line that is not resolved has called nothing but `list`. -/
  lists_only : ∀ failure, (s.context.resolving t.daemon line s.world.daemon).1 = .error failure →
    ∀ c ∈ callsOf t line s, c = .list

/-- A line that is not resolved has only asked for the slots. -/
theorem callsOf_of_unresolved {t : Terminal σ ω} {line : Text} {failure : Failure}
    (h : (s.context.resolving t.daemon line s.world.daemon).1 = .error failure) :
    ∀ c ∈ callsOf t line s, c = .list := by
  have hnone : Context.OnlyListed s.recording.world.daemon := nofun
  have hlisted : Context.OnlyListed (s.recording.context.resolving t.recording.daemon line
      s.recording.world.daemon).2 := s.context.onlyListed_resolving t.daemon line hnone
  have hresult : (s.recording.context.resolving t.recording.daemon line
      s.recording.world.daemon).1 = .error failure :=
    h ▸ (Context.resolving_lockstep t.daemon.mirrors_recording s.context line _ _ rfl).1.symm
  obtain ⟨sink, hstate⟩ := state_execute t.recording line s.recording
  rcases hresolve : s.recording.context.resolving t.recording.daemon line
    s.recording.world.daemon with ⟨r, d⟩
  rw [hresolve] at hlisted hresult
  obtain rfl : r = .error failure := hresult
  rw [callsOf, hstate, Context.perform_of_unresolved hresolve]
  exact hlisted

/-- Only leaving a context that is not the root takes one off the stack. -/
theorem contexts_eq_concat_iff (r : Except Failure Outcome) :
    s.contexts = s.root :: (Outcome.above r s.above).reverse ++ [s.context] ↔
      r = .ok .leave ∧ s.above ≠ [] := by
  obtain ⟨world, root, above⟩ := s
  have hlength (above' : List Context) (h : above.length ≤ above'.length) :
      root :: above.reverse ≠ root :: above'.reverse ++ [above.headD root] := by
    intro heq
    have hlengths := congrArg List.length heq
    simp only [List.length_cons, List.length_append, List.length_reverse, List.length_nil]
      at hlengths
    omega
  rcases r with failure | outcome
  · exact iff_of_false (hlength above (Nat.le_refl _)) nofun
  cases outcome with
  | stay => exact iff_of_false (hlength above (Nat.le_refl _)) nofun
  | enter c => exact iff_of_false (hlength (c :: above) (Nat.le_succ _)) nofun
  | leave =>
    cases above with
    | nil => exact iff_of_false (hlength [] (Nat.le_refl _)) fun h => h.2 rfl
    | cons c rest => exact iff_of_true (by simp [contexts, context, Outcome.above]) ⟨rfl, nofun⟩

theorem Stands.disciplined (t : Terminal σ ω) (line : Text) (h : s.Stands) :
    Disciplined t line s := by
  have hleave := Context.perform_eq_leave_iff (t := t) h.standard_of_mem line s.world
  have hquit := execute_eq_quit_iff t line s
  have hcontexts : (Shell.execute t line s).2.contexts =
      s.root :: (Outcome.above (s.context.perform t line s.world).1 s.above).reverse := by
    obtain ⟨sink, hstate⟩ := state_execute t line s
    rw [hstate]
    rfl
  constructor
  · rw [hcontexts]
    cases hresult : (s.context.perform t line s.world).1 with
    | error failure => exact Or.inl rfl
    | ok outcome =>
      cases outcome with
      | stay => exact Or.inl rfl
      | enter c => exact Or.inr (Or.inl ⟨c, by simp [Outcome.above, contexts]⟩)
      | leave =>
        by_cases hroot : s.above = []
        · exact Or.inl (by rw [contexts, hroot]; rfl)
        · exact Or.inr (Or.inr ((contexts_eq_concat_iff _).2 ⟨rfl, hroot⟩))
  · rw [hcontexts, contexts_eq_concat_iff, hleave]
    rfl
  · rw [hquit, hleave]
    rfl
  · intro hquits
    obtain ⟨hresult, hroot⟩ := hquit.1 hquits
    rw [hcontexts, hresult, contexts, hroot]
    rfl
  · intro failure hresult
    rw [hcontexts, hresult]
    rfl
  · exact fun failure hfails => callsOf_of_unresolved hfails

/-- **The stack is disciplined** in every session, over any daemon and any writers. -/
theorem stack_disciplined {d : Daemon σ} {d₀ : σ} (h : Session d d₀ s) :
    Nested (s.contexts.map Context.scope) ∧
      s.prompt = Text.joinWith "/" (s.contexts.tail.map fun c => c.scope.label) ++ "> " ∧
      ∀ (w : Writer ω) (json : Bool) (line : Text), Disciplined ⟨d, w, json⟩ line s :=
  ⟨h.stands.nested, h.stands.prompt_eq, fun _ _ _ => h.stands.disciplined _ _⟩

theorem stack_disciplined_enteredShell :
    enteredShell.prompt = "module(1)/netif(0)> " ∧
      Nested (enteredShell.contexts.map Context.scope) ∧
      enteredShell.prompt =
        Text.joinWith "/" (enteredShell.contexts.tail.map fun c => c.scope.label) ++ "> " ∧
      ∀ (w : Writer Text) (json : Bool) (line : Text),
        Disciplined ⟨Simulator.daemon, w, json⟩ line enteredShell :=
  ⟨by decide +kernel, stack_disciplined (.batch (.start []) .unlimited false _)⟩

end Shell

end TransponderShell
