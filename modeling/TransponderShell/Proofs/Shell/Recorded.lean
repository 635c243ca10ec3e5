import TransponderShell.Proofs.Shell.Stack

/-!
# Records of calls

A daemon that records its calls notes each of them (`Daemon.Makes.recorded`), so whatever is new on
the record after a run has the property that the calls of the run have (`Daemon.Run.recorded`). What
has been noted before makes no difference (`Daemon.mirrors_continued`).

* `Handler.callsOf` are the calls of a command. They are of its own kind
  (`Handler.mayCall_of_mem_callsOf`), and `set` makes one call (`Handler.callsOf_set`).
* The calls of a line are those of its command, behind those that resolving the line has made, which
  only asks for the slots (`Shell.mem_callsOf`).
-/

namespace TransponderShell

variable {σ ω : Type}

/-! ## The record of a daemon -/

theorem Feed.alike_mapState_mapState {σ' σ'' : Type} {S : σ' → σ'' → Prop} {f : σ → σ'}
    {f' : σ → σ''} (h : ∀ s, S (f s) (f' s)) (feed : Feed σ) :
    Feed.Alike S (feed.mapState f) (feed.mapState f') := by
  induction feed with
  | done result s => exact .done result (h s)
  | poll next ih => exact .poll ih
  | deliver n rest ih => exact .deliver n ih
  | interrupt rest ih => exact .interrupt ih

/-- Everyone receives alike with themselves. -/
theorem Receiver.Alike.refl {γ : Type} (r : Receiver γ) : r.Alike Eq r where
  cancelled h := congrArg r.cancelled h
  receive n _ _ h := congrArg (r.receive n) h
  interrupt h := congrArg r.interrupt h

namespace Daemon

/-- Each call is noted. -/
theorem Makes.recorded {d : Daemon σ} {c : Call} {s s' : σ × List Call}
    (h : d.recording.Makes c s s') : s'.2 = s.2 ++ [c] := by
  obtain ⟨s, calls⟩ := s
  cases h with
  | monitor object name json r g =>
    let Noted : σ → σ × List Call → Prop := fun _ recorded =>
      recorded.2 = calls ++ [.monitor object name json]
    have hnoted : ∀ s : σ, Noted s (s, calls ++ [.monitor object name json]) := fun _ => rfl
    have halike : Feed.Alike Noted (d.monitor object name json s)
        (d.recording.monitor object name json (s, calls)) := Feed.alike_mapState hnoted _
    exact (halike.run (.refl r) rfl).2.1
  | _ => rfl

/-- What is new on the record has been called. -/
theorem Run.recorded {d : Daemon σ} {P : Call → Prop} {s s' : σ × List Call}
    (h : d.recording.Run P s s') : ∀ c ∈ s'.2, c ∈ s.2 ∨ P c := by
  induction h with
  | refl => exact fun c hc => Or.inl hc
  | tail _ hstep ih =>
    obtain ⟨called, hcalled, hmakes⟩ := hstep
    intro c hc
    rw [hmakes.recorded] at hc
    rcases List.mem_append.1 hc with hc | hc
    · exact ih c hc
    · exact Or.inr (List.mem_singleton.1 hc ▸ hcalled)

/-- The second record is the first one behind the calls that have been noted before. -/
def Continued (calls : List Call) (s s' : σ × List Call) : Prop := s' = (s.1, calls ++ s.2)

theorem lockstep_continued {α : Type} (calls : List Call) (c : Call) (r : Request σ α) :
    Lockstep (Continued calls) (record c r) (record c r) := by
  rintro ⟨s, noted⟩ _ rfl
  exact ⟨rfl, congrArg (Prod.mk _) (List.append_assoc ..)⟩

/-- **A record may begin with anything.** -/
theorem mirrors_continued (d : Daemon σ) (calls : List Call) :
    d.recording.Mirrors (Continued calls) d.recording where
  list := lockstep_continued calls _ _
  attributes _ := lockstep_continued calls _ _
  get _ _ _ := lockstep_continued calls _ _
  set _ _ _ := lockstep_continued calls _ _
  capability _ _ := lockstep_continued calls _ _
  create _ _ _ := lockstep_continued calls _ _
  remove _ := lockstep_continued calls _ _
  monitor object name json s s' hs := by
    obtain ⟨s, noted⟩ := s
    obtain rfl := hs
    have hnoted : ∀ s : σ, Continued calls (s, noted ++ [.monitor object name json])
        (s, calls ++ noted ++ [.monitor object name json]) :=
      fun s => congrArg (Prod.mk s) (List.append_assoc ..)
    exact Feed.alike_mapState_mapState hnoted _
  setLogLevel _ _ := lockstep_continued calls _ _

end Daemon

theorem Terminal.mirrors_continued (t : Terminal σ ω) (calls : List Call) :
    t.recording.Mirrors (Daemon.Continued calls) Eq t.recording :=
  ⟨t.daemon.mirrors_continued calls, fun _ => .refl _, rfl⟩

/-! ## The calls of a command -/

/-- The world with a record of the calls to its daemon, which is empty. -/
def World.recording (world : World σ ω) : World (σ × List Call) ω :=
  ⟨(world.daemon, []), world.sink, world.interrupted⟩

namespace Handler

variable (t : Terminal σ ω) {handler : Handler} {arguments : List Text} {world : World σ ω}

/-- The calls that the daemon gets while a command is carried out, in their order. -/
def callsOf (handler : Handler) (arguments : List Text) (world : World σ ω) : List Call :=
  (handler.run t.recording arguments world.recording).2.daemon.2

/-- A command is carried out in lockstep. -/
theorem run_lockstep {σ' ω' : Type} {S : σ → σ' → Prop} {O : ω → ω' → Prop} {t : Terminal σ ω}
    {t' : Terminal σ' ω'} (h : t.Mirrors S O t') (handler : Handler) (arguments : List Text) :
    Lockstep (World.Alike S O) (handler.run t arguments) (handler.run t' arguments) :=
  handler.run_related h.related (fun object attributes _ => Monitor.follow_lockstep h object
    attributes) arguments

variable {t}

/-- A command gets only calls of its own kind through. -/
theorem mayCall_of_mem_callsOf {c : Call} (h : c ∈ handler.callsOf t arguments world) :
    handler.MayCall c := by
  have hmakes := handler.run_makes t.recording arguments world.recording
  exact (Daemon.Run.recorded hmakes c h).resolve_left List.not_mem_nil

/-- The values behind a name are written in one call. -/
theorem callsOf_set (object : ObjectHandle) (name : Text) (values : List Text) :
    (set object).callsOf t (name :: values) world =
      [.set object name (Text.unwords values)] := by
  have hrun : (set object).run t.recording (name :: values) world.recording =
      (Step.request (t.recording.daemon.set object name (Text.unwords values)) >>=
        fun _ => pure .stay) world.recording := rfl
  rw [callsOf, hrun, run_bind, Step.run_request]
  cases (t.recording.daemon.set object name (Text.unwords values) world.recording.daemon).1 with
  | ok => rfl
  | error e => rfl

end Handler

/-! ## The calls of a line -/

namespace Shell

variable {t : Terminal σ ω} {s : Shell σ ω} {line : Text}

/-- **What a line calls** is `list`, or it is called by the command that the line is resolved to. -/
theorem mem_callsOf {c : Call} (h : c ∈ callsOf t line s) :
    c = .list ∨ ∃ r d, s.context.resolving t.daemon line s.world.daemon = (.ok r, d) ∧
      c ∈ r.handler.callsOf t r.arguments { s.world with daemon := d } := by
  obtain ⟨hresult, hdaemon⟩ :=
    Context.resolving_lockstep t.daemon.mirrors_recording s.context line s.world.daemon
      s.recording.world.daemon rfl
  rcases hrecorded : s.context.resolving t.recording.daemon line s.recording.world.daemon with
    ⟨failure | r, d, noted⟩
  · have hfails : (s.context.resolving t.daemon line s.world.daemon).1 = .error failure :=
      hresult.trans (congrArg Prod.fst hrecorded)
    exact Or.inl (callsOf_of_unresolved hfails c h)
  have hresolved : s.context.resolving t.daemon line s.world.daemon = (.ok r, d) :=
    Prod.ext (hresult.trans (congrArg Prod.fst hrecorded))
      (hdaemon.symm.trans (congrArg (fun p => p.2.1) hrecorded))
  have hnone : Context.OnlyListed s.recording.world.daemon := nofun
  have hlisted : Context.OnlyListed
      (s.context.resolving t.recording.daemon line s.recording.world.daemon).2 :=
    s.context.onlyListed_resolving t.daemon line hnone
  obtain ⟨sink, hstate⟩ := state_execute t.recording line s.recording
  have hperform : s.recording.context.perform t.recording line s.recording.world =
      r.handler.run t.recording r.arguments
        { s.recording.world with daemon := (d, noted) } := Context.perform_of_resolved hrecorded
  rw [callsOf, hstate, hperform] at h
  -- the command continues the record that resolving the line has begun
  let world : World σ ω := { s.world with daemon := d }
  have hcontinued : Daemon.Continued noted
      (r.handler.run t.recording r.arguments world.recording).2.daemon _ :=
    ((Handler.run_lockstep (t.mirrors_continued noted) r.handler r.arguments) world.recording
      { s.recording.world with daemon := (d, noted) }
      ⟨congrArg (Prod.mk d) (List.append_nil noted).symm, rfl, rfl⟩).2.daemon
  rw [hcontinued] at h
  rcases List.mem_append.1 h with h | h
  · rw [hrecorded] at hlisted
    exact Or.inl (hlisted c h)
  · exact Or.inr ⟨r, d, hresolved, h⟩

end Shell

end TransponderShell
