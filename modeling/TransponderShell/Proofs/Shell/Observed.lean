import TransponderShell.Proofs.Daemon.Lockstep
import TransponderShell.Proofs.Shell.Related

/-!
# What happens while a line is carried out

A shell cannot tell two terminals apart that run in lockstep (`Shell.execute_lockstep`). So its
daemon and its writer may be observed without any effect on what it does:

* `Shell.callsOf` are the calls that the daemon gets while a line is carried out, kept by a daemon
  that records them (`Shell.execute_recording`);
* `Shell.failuresOf` is how often the writer fails while a line is carried out, kept by a writer
  that counts its failures (`Shell.execute_counting`).
-/

namespace TransponderShell

variable {σ σ' ω ω' : Type} {S : σ → σ' → Prop} {O : ω → ω' → Prop}

/-! ## Worlds in lockstep -/

/-- Two worlds have related daemons and related sinks, and are interrupted at the same time. -/
structure World.Alike (S : σ → σ' → Prop) (O : ω → ω' → Prop) (world : World σ ω)
    (world' : World σ' ω') : Prop where
  daemon : S world.daemon world'.daemon
  sink : O world.sink world'.sink
  interrupted : world.interrupted = world'.interrupted

/-- Two terminals give the same answers, and fail to write at the same time. -/
structure Terminal.Mirrors (S : σ → σ' → Prop) (O : ω → ω' → Prop) (t : Terminal σ ω)
    (t' : Terminal σ' ω') : Prop where
  daemon : t.daemon.Mirrors S t'.daemon
  writer : ∀ text, Lockstep O (t.writer.write text) (t'.writer.write text)
  json : t.json = t'.json

section Steps

variable {α : Type}

theorem Context.request_lockstep {r : Request σ α} {r' : Request σ' α} (hr : Lockstep S r r')
    (because : DaemonError → Failure) :
    Lockstep S (Context.request r because) (Context.request r' because) := by
  intro s s' hs
  obtain ⟨hresult, hs₁⟩ := hr s s' hs
  rw [run_request, run_request, hresult]
  exact ⟨rfl, hs₁⟩

theorem Context.resolving_lockstep {d : Daemon σ} {d' : Daemon σ'} (h : d.Mirrors S d')
    (c : Context) (line : Text) : Lockstep S (c.resolving d line) (c.resolving d' line) := by
  refine (lockstep S).bind_bind (h.resolve c.table line) fun resolved => ?_
  cases resolved with
  | ok r => exact (lockstep S).pure_pure _
  | error e => exact (lockstep S).pure_pure _

theorem Step.onDaemon_lockstep {x : ExceptT Failure (StateM σ) α}
    {x' : ExceptT Failure (StateM σ') α} (hx : Lockstep S x x') :
    Lockstep (World.Alike S O) (Step.onDaemon x : Step σ ω α)
      (Step.onDaemon x' : Step σ' ω' α) := by
  intro world world' h
  obtain ⟨hresult, hdaemon⟩ := hx _ _ h.daemon
  rw [run_onDaemon, run_onDaemon]
  exact ⟨hresult, hdaemon, h.sink, h.interrupted⟩

theorem Step.line_lockstep {w : Writer ω} {w' : Writer ω'}
    (h : ∀ text, Lockstep O (w.write text) (w'.write text)) (text : Text) :
    Lockstep (World.Alike S O) (Step.line w text : Step σ ω Unit) (Step.line w' text) := by
  intro world world' hworld
  obtain ⟨hresult, hsink⟩ := h (text ++ ['\n']) _ _ hworld.sink
  have hline : (w.line text world.sink).1 = (w'.line text world'.sink).1 := hresult
  rw [run_line, run_line, hline]
  exact ⟨rfl, hworld.daemon, hsink, hworld.interrupted⟩

end Steps

/-! ## Following an attribute in lockstep -/

namespace Monitor

/-- Two commands that follow an attribute have got equally far. -/
structure Following.Alike (O : ω → ω' → Prop) (f : Following ω) (f' : Following ω') : Prop where
  sink : O f.sink f'.sink
  interrupted : f.interrupted = f'.interrupted
  failure : f.failure = f'.failure

theorem writeAll_alike {w : Writer ω} {w' : Writer ω'}
    (h : ∀ text, Lockstep O (w.write text) (w'.write text)) (texts : List Text) {f : Following ω}
    {f' : Following ω'} (hf : f.Alike O f') :
    (writeAll w texts f).Alike O (writeAll w' texts f') := by
  induction texts generalizing f f' with
  | nil => exact hf
  | cons text rest ih =>
    obtain ⟨hresult, hsink⟩ := h (text ++ ['\n']) _ _ hf.sink
    simp only [writeAll, ← hf.failure]
    cases hfailure : f.failure with
    | some e => exact hf
    | none =>
      dsimp only [Writer.line]
      rcases hwrite : w.write (text ++ ['\n']) f.sink with ⟨r, sink⟩
      rcases hwrite' : w'.write (text ++ ['\n']) f'.sink with ⟨r', sink'⟩
      rw [hwrite, hwrite'] at hresult hsink
      obtain rfl : r = r' := hresult
      cases r with
      | ok => exact ih ⟨hsink, hf.interrupted, rfl⟩
      | error e => exact ih ⟨hsink, hf.interrupted, rfl⟩

theorem receiver_alike {w : Writer ω} {w' : Writer ω'}
    (h : ∀ text, Lockstep O (w.write text) (w'.write text)) (attributes : List Attribute)
    (json : Bool) :
    (receiver w attributes json).Alike (Following.Alike O) (receiver w' attributes json) where
  cancelled hf := hf.interrupted
  receive _ _ _ hf := writeAll_alike h _ hf
  interrupt hf := ⟨hf.sink, rfl, hf.failure⟩

/-- Play the feed of an attribute: its result, the daemon behind it, and how far the output has
got. -/
def play (t : Terminal σ ω) (object : ObjectHandle) (attributes : List Attribute) (name : Text)
    (world : World σ ω) : Except DaemonError Unit × σ × Following ω :=
  (t.daemon.monitor object name t.json world.daemon).run (receiver t.writer attributes t.json)
    ⟨world.sink, false, none⟩

/-- A failure of the daemon comes before one of the output. -/
theorem run_follow (t : Terminal σ ω) (object : ObjectHandle) (attributes : List Attribute)
    (name : Text) (world : World σ ω) :
    follow t object attributes name world =
      (match (play t object attributes name world).1,
          (play t object attributes name world).2.2.failure with
        | .error e, _ => .error (.daemon e)
        | .ok (), some e => .error (.output e)
        | .ok (), none => .ok (),
      ⟨(play t object attributes name world).2.1, (play t object attributes name world).2.2.sink,
        (play t object attributes name world).2.2.interrupted⟩) := by
  unfold follow play
  dsimp only [ExceptT.mk]
  generalize (t.daemon.monitor object name t.json world.daemon).run _ _ = played
  rcases played with ⟨_ | _, daemon, sink, interrupted, _ | _⟩ <;> rfl

section Lockstep

variable {t : Terminal σ ω} {t' : Terminal σ' ω'}

theorem play_alike (h : t.Mirrors S O t') (object : ObjectHandle) (attributes : List Attribute)
    (name : Text) {world : World σ ω} {world' : World σ' ω'} (hworld : world.Alike S O world') :
    (play t object attributes name world).1 = (play t' object attributes name world').1 ∧
      S (play t object attributes name world).2.1 (play t' object attributes name world').2.1 ∧
      (play t object attributes name world).2.2.Alike O
        (play t' object attributes name world').2.2 := by
  have hfeed := h.daemon.monitor object name t.json hworld.daemon
  have hreceiver := receiver_alike h.writer attributes t.json
  have hfollowing : Following.Alike O ⟨world.sink, false, none⟩ ⟨world'.sink, false, none⟩ :=
    ⟨hworld.sink, rfl, rfl⟩
  unfold play
  rw [← h.json]
  exact hfeed.run hreceiver hfollowing

theorem follow_lockstep (h : t.Mirrors S O t') (object : ObjectHandle)
    (attributes : List Attribute) (name : Text) :
    Lockstep (World.Alike S O) (follow t object attributes name)
      (follow t' object attributes name) := by
  intro world world' hworld
  obtain ⟨hresult, hdaemon, hf⟩ := play_alike h object attributes name hworld
  rw [run_follow, run_follow, hresult, hf.failure]
  exact ⟨rfl, hdaemon, hf.sink, hf.interrupted⟩

end Lockstep

end Monitor

/-! ## Lines in lockstep -/

/-- The steps of commands in lockstep. -/
def lockstepRelations (S : σ → σ' → Prop) (O : ω → ω' → Prop) : Relations σ σ' ω ω' where
  requests := lockstepOrFail DaemonError S
  programs := lockstepOrFail Failure S
  steps := lockstepOrFail Failure (World.Alike S O)

namespace Terminal.Mirrors

variable {t : Terminal σ ω} {t' : Terminal σ' ω'}

theorem related (h : t.Mirrors S O t') : t.Related (lockstepRelations S O) t' where
  list := h.daemon.list
  attributes := h.daemon.attributes
  get object name := h.json ▸ h.daemon.get object name t.json
  set := h.daemon.set
  capability := h.daemon.capability
  create := h.daemon.create
  remove := h.daemon.remove
  setLogLevel := h.daemon.setLogLevel
  refuse _ _ _ hs := ⟨rfl, hs⟩
  request _ hr := Context.request_lockstep hr _
  fail _ _ _ hs := ⟨rfl, hs⟩
  resolve := Context.resolving_lockstep h.daemon
  onDaemon := Step.onDaemon_lockstep
  line := Step.line_lockstep h.writer

/-- A line is resolved and carried out in lockstep. -/
theorem perform (h : t.Mirrors S O t') (c : Context) (line : Text) :
    Lockstep (World.Alike S O) (c.perform t line) (c.perform t' line) :=
  c.perform_related h.related (Monitor.follow_lockstep h) line

end Terminal.Mirrors

namespace Shell

/-- Two shells stand in the same place, in related worlds. -/
structure Alike (S : σ → σ' → Prop) (O : ω → ω' → Prop) (s : Shell σ ω) (s' : Shell σ' ω') :
    Prop where
  world : s.world.Alike S O s'.world
  root : s.root = s'.root
  above : s.above = s'.above

section Execute

variable {t : Terminal σ ω} {t' : Terminal σ' ω'}

theorem writeLine_lockstep (h : t.Mirrors S O t') (text : Text) :
    Lockstep (Alike S O) (writeLine t text) (writeLine t' text) := by
  intro s s' hs
  obtain ⟨hresult, hsink⟩ := h.writer (text ++ ['\n']) _ _ hs.world.sink
  rw [run_writeLine, run_writeLine]
  refine ⟨?_, ⟨hs.world.daemon, hsink, hs.world.interrupted⟩, hs.root, hs.above⟩
  dsimp only [Writer.line]
  rw [hresult]

theorem report_lockstep (h : t.Mirrors S O t') (failure : Failure) :
    Lockstep (Alike S O) (report t failure) (report t' failure) := by
  by_cases hreturned : ∃ reason, failure = .output ⟨reason, []⟩
  · obtain ⟨reason, rfl⟩ := hreturned
    exact fun _ _ hs => ⟨rfl, hs⟩
  · have hne : ∀ reason, failure ≠ .output ⟨reason, []⟩ := fun reason h => hreturned ⟨reason, h⟩
    rw [report_of_ne hne, report_of_ne hne]
    exact writeLine_lockstep h _

theorem move_lockstep (outcome : Outcome) :
    Lockstep (Alike S O) (move outcome : ShellM σ ω Progress) (move outcome) := by
  intro s s' hs
  cases outcome with
  | stay => exact ⟨rfl, hs⟩
  | enter c => exact ⟨rfl, hs.world, hs.root, congrArg (c :: ·) hs.above⟩
  | leave =>
    obtain ⟨world, root, above⟩ := s
    obtain ⟨world', root', above'⟩ := s'
    obtain rfl : above = above' := hs.above
    cases above with
    | nil => exact ⟨rfl, hs⟩
    | cons c rest => exact ⟨rfl, hs.world, hs.root, rfl⟩

theorem perform_lockstep (h : t.Mirrors S O t') (line : Text) :
    Lockstep (Alike S O) (perform t line) (perform t' line) := by
  intro s s' hs
  have hcontext : s.context = s'.context := by
    rw [context, context, hs.above, hs.root]
  obtain ⟨hresult, hworld⟩ := h.perform s.context line _ _ hs.world
  rw [run_perform, run_perform, ← hcontext]
  exact ⟨congrArg Except.ok hresult, hworld, hs.root, hs.above⟩

/-- **A shell cannot tell terminals in lockstep apart.** -/
theorem execute_lockstep (h : t.Mirrors S O t') (line : Text) :
    Lockstep (Alike S O) (execute t line) (execute t' line) := by
  unfold execute
  split
  · exact fun _ _ hs => ⟨rfl, hs⟩
  refine (lockstepOrFail ShellError (Alike S O)).bind_bind (perform_lockstep h line) fun r => ?_
  cases r with
  | ok outcome => exact move_lockstep outcome
  | error failure =>
    exact (lockstepOrFail ShellError (Alike S O)).bind_bind (report_lockstep h failure)
      fun _ _ _ hs => ⟨rfl, hs⟩

end Execute

end Shell

/-! ## The calls of a line -/

/-- The terminal with a record of the calls to its daemon. -/
def Terminal.recording (t : Terminal σ ω) : Terminal (σ × List Call) ω :=
  ⟨t.daemon.recording, t.writer, t.json⟩

theorem Terminal.mirrors_recording (t : Terminal σ ω) :
    t.Mirrors Daemon.Unrecorded Eq t.recording :=
  ⟨t.daemon.mirrors_recording, fun _ => .refl _, rfl⟩

namespace Shell

/-- The shell with a record of the calls to its daemon, which is empty. -/
def recording (s : Shell σ ω) : Shell (σ × List Call) ω where
  world := ⟨(s.world.daemon, []), s.world.sink, s.world.interrupted⟩
  root := s.root
  above := s.above

/-- The calls that the daemon gets while a line is carried out, in their order. -/
def callsOf (t : Terminal σ ω) (line : Text) (s : Shell σ ω) : List Call :=
  (execute t.recording line s.recording).2.world.daemon.2

/-- **Recording the calls has no effect.** -/
theorem execute_recording (t : Terminal σ ω) (line : Text) (s : Shell σ ω) :
    (execute t line s).1 = (execute t.recording line s.recording).1 ∧
      Alike Daemon.Unrecorded Eq (execute t line s).2 (execute t.recording line s.recording).2 :=
  execute_lockstep t.mirrors_recording line s s.recording ⟨⟨rfl, rfl, rfl⟩, rfl, rfl⟩

end Shell

/-! ## The failures of writing in a line -/

/-- A writer that counts its failures beside its states. -/
def Writer.counting (w : Writer ω) : Writer (ω × Nat) where
  write := fun text (sink, failures) =>
    match w.write text sink with
    | (.ok (), sink) => (.ok (), (sink, failures))
    | (.error e, sink) => (.error e, (sink, failures + 1))

/-- A sink without the count of failures. -/
def Uncounted (sink : ω) (counted : ω × Nat) : Prop := counted.1 = sink

theorem Writer.lockstep_counting (w : Writer ω) (text : Text) :
    Lockstep Uncounted (w.write text) (w.counting.write text) := by
  rintro sink ⟨_, failures⟩ rfl
  dsimp only [counting]
  rcases w.write text _ with ⟨e | _, sink⟩
  · exact ⟨rfl, rfl⟩
  · exact ⟨rfl, rfl⟩

/-- The terminal with a count of the failures of its writer. -/
def Terminal.counting (t : Terminal σ ω) : Terminal σ (ω × Nat) :=
  ⟨t.daemon, t.writer.counting, t.json⟩

theorem Terminal.mirrors_counting (t : Terminal σ ω) : t.Mirrors Eq Uncounted t.counting :=
  ⟨.refl _, t.writer.lockstep_counting, rfl⟩

/-- The world with a count of the failures of its writer, which begins at zero. -/
def World.counting (world : World σ ω) : World σ (ω × Nat) :=
  ⟨world.daemon, (world.sink, 0), world.interrupted⟩

theorem World.alike_counting (world : World σ ω) : world.Alike Eq Uncounted world.counting :=
  ⟨rfl, rfl, rfl⟩

namespace Shell

/-- The shell with a count of the failures of its writer, which begins at zero. -/
def counting (s : Shell σ ω) : Shell σ (ω × Nat) where
  world := s.world.counting
  root := s.root
  above := s.above

/-- How often the writer fails while a line is carried out. -/
def failuresOf (t : Terminal σ ω) (line : Text) (s : Shell σ ω) : Nat :=
  (execute t.counting line s.counting).2.world.sink.2

/-- **Counting the failures has no effect.** -/
theorem execute_counting (t : Terminal σ ω) (line : Text) (s : Shell σ ω) :
    (execute t line s).1 = (execute t.counting line s.counting).1 ∧
      Alike Eq Uncounted (execute t line s).2 (execute t.counting line s.counting).2 :=
  execute_lockstep t.mirrors_counting line s s.counting ⟨s.world.alike_counting, rfl, rfl⟩

end Shell

end TransponderShell
