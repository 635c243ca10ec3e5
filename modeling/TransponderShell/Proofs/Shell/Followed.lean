import TransponderShell.Proofs.Shell.JsonValues
import TransponderShell.Proofs.Shell.Observed
import TransponderShell.Proofs.Shell.RoundTrip

/-!
# What following an attribute prints

A line with `monitor` and a notification of a live object prints one line for each value of each
notification that waits for it, and a blank line behind them (`Monitor.printed`). The interrupt flag
is lowered first, so that it does not matter whether it was raised (`Monitor.play_eq`).

A value is printed behind the name of its attribute. `Monitor.Heads` spells out which line that is,
plain or as an object of JSON, in terms of what is declared: the name if one attribute has the id,
the id if none has it, and an error if several have it (`heads_record`).

The result is `monitor_prints`.
-/

namespace TransponderShell

open Text Simulator

variable {ω : Type}

/-! ## The line for a value -/

namespace Monitor

/-- What stands in the line for a reported value, whose text is `value`, if these attributes are
declared. In JSON the line is an object with two members: the name or the id, and the value that
the text is read as. -/
structure Heads (declared : List Declaration) (json : Bool) (id : Nat) (value line : Text) :
    Prop where
  /-- One attribute has the id. -/
  named : ∀ d ∈ declared, d.id = id → (∀ e ∈ declared, e.id = id → e = d) →
    line = if json then
        "\x7b\"name\":" ++ Json.quote d.name ++ ",\"value\":" ++
          (Json.ofTextOrString value).render ++ "\x7d"
      else d.name ++ " | " ++ value
  /-- No attribute has the id. -/
  unnamed : (∀ d ∈ declared, d.id ≠ id) →
    line = if json then
        "\x7b\"name\":" ++ Numeral.decimal id ++ ",\"value\":" ++
          (Json.ofTextOrString value).render ++ "\x7d"
      else Oid.render id ++ " | " ++ value
  /-- Several attributes have the id. -/
  ambiguous : ∀ d ∈ declared, ∀ e ∈ declared, d ≠ e → d.id = id → e.id = id →
    line = "error: more than one metadata matched for id " ++ Oid.render id ++ ": [" ++
      Text.joinWith ", " ((declared.filter fun d => d.id = id).map fun d => Text.quoted d.name) ++
      "]"

theorem names_toAttribute (declared : List Declaration) (id : Nat) :
    names (declared.map Declaration.toAttribute) id =
      (declared.filter fun d => d.id = id).map fun d => d.name := by
  rw [names, List.filter_map, List.map_map]
  rfl

/-- **Every value is headed as it is declared.** -/
theorem heads_record {declared : List Declaration} (hnodup : (declared.map fun d => d.name).Nodup)
    (json : Bool) (v : ReportedValue) : Heads declared json v.id v.value
      (record (declared.map Declaration.toAttribute) json v) where
  named d hd hid hunique := by
    have hsingle : declared.filter (fun d => d.id = v.id) = [d] := by
      refine List.perm_singleton.1 ((List.perm_ext_iff_of_nodup
        ((List.Nodup.of_map _ hnodup).filter _) (List.nodup_singleton d)).2 fun e => ?_)
      rw [List.mem_filter, List.mem_singleton, decide_eq_true_eq]
      constructor
      · exact fun ⟨he, hid⟩ => hunique e he hid
      · rintro rfl
        exact ⟨hd, hid⟩
    unfold record
    rw [names_toAttribute, hsingle]
    cases json with
    | false => rfl
    | true => exact jsonRecord_eq (.string d.name) v.value
  unnamed hnone := by
    have hempty : declared.filter (fun d => d.id = v.id) = [] := by simpa using hnone
    unfold record
    rw [names_toAttribute, hempty]
    cases json with
    | false => rfl
    | true => exact jsonRecord_eq (.int v.id) v.value
  ambiguous d hd e he hne hid hid' := by
    have hmem {a : Declaration} (ha : a ∈ declared) (hid : a.id = v.id) :
        a ∈ declared.filter fun d => d.id = v.id :=
      List.mem_filter.2 ⟨ha, decide_eq_true hid⟩
    have hd := hmem hd hid
    have he := hmem he hid'
    unfold record
    rw [names_toAttribute]
    rcases hseveral : declared.filter (fun d => d.id = v.id) with _ | ⟨a, _ | ⟨b, rest⟩⟩
    · rw [hseveral] at hd
      cases hd
    · rw [hseveral, List.mem_singleton] at hd he
      exact absurd (hd.trans he.symm) hne
    · rw [← Function.comp_def Text.quoted, ← List.map_map, hseveral]
      simp [bracketed]

/-! ## The lines for the queue -/

/-- The lines for what waits for an attribute of a type: one for each value of each notification, in
their order, and a blank line. -/
def printed (s : Simulator) (type : ObjectType) (name : Text) (json : Bool) : List Text :=
  ((s.waiting type name).flatMap fun n => n.values.map fun v =>
    record ((s.catalogue.of type).map Declaration.toAttribute) json
      { v with value := encode json v.value }) ++ [[]]

/-- These are the lines for the notifications that an object sends. -/
theorem printed_eq (s : Simulator) (handle : ObjectHandle) (name : Text) (json : Bool) :
    printed s handle.type name json =
      (((s.waiting handle.type name).map (·.sentBy handle json)).flatMap fun n =>
        n.values.map (record ((s.catalogue.of handle.type).map Declaration.toAttribute) json)) ++
      [[]] := by
  rw [printed, List.flatMap_map]
  simp only [QueuedNotification.sentBy, List.map_map]
  rfl

theorem written_append (w : Writer ω) (lines more : List Text) (sink : ω) :
    w.written (lines ++ more) sink = w.written more (w.written lines sink) :=
  List.foldl_append

/-- A receiver over a reliable writer writes a line for every value that it receives. -/
theorem after_receiver {w : Writer ω} (hw : w.Reliable) (attributes : List Attribute) (json : Bool)
    (ns : List Notification) (sink : ω) :
    (receiver w attributes json).after ⟨sink, false, none⟩ ns =
      ⟨w.written (ns.flatMap fun n => n.values.map (record attributes json)) sink,
        false, none⟩ := by
  induction ns generalizing sink with
  | nil => rfl
  | cons n rest ih =>
    have hreceive : (receiver w attributes json).receive n ⟨sink, false, none⟩ =
        ⟨w.written (n.values.map (record attributes json)) sink, false, none⟩ :=
      writeAll_eq hw _ rfl
    rw [List.flatMap_cons, written_append, ← ih, ← hreceive]
    rfl

variable {handle : ObjectHandle} {s : Simulator} {w : Writer ω} {d : Declaration} {json : Bool}

/-- **The whole queue is played to the writer**, whatever the interrupt flag was. -/
theorem play_eq (hw : w.Reliable) (hlive : s.HasObject handle.oid handle.type)
    (hd : s.catalogue.find? handle.type d.name = some d) (hnotification : d.isNotification = true)
    (attributes : List Attribute) (sink : ω) (interrupted : Bool) :
    play ⟨daemon, w, json⟩ handle attributes d.name ⟨s, sink, interrupted⟩ =
      (.ok (), s, ⟨w.written (((s.waiting handle.type d.name).map (·.sentBy handle json)).flatMap
        fun n => n.values.map (record attributes json)) sink, false, none⟩) := by
  have hopen (ns : List Notification) :
      (receiver w attributes json).cancelled
        ((receiver w attributes json).after ⟨sink, false, none⟩ ns) = false := by
    rw [after_receiver hw]
    rfl
  have hcancels := Receiver.cancelsAt_of_open (r := receiver w attributes json)
    (g := ⟨sink, false, none⟩) fun i =>
      hopen (((s.waiting handle.type d.name).map (·.sentBy handle json)).take i)
  have hfeed : daemon.monitor handle d.name json s = _ := follow_eq hlive hd hnotification json
  unfold play
  rw [hfeed, Feed.run_ofList_of_cancelsAt hcancels, List.take_of_length_le (Nat.le_succ _),
    after_receiver hw]

end Monitor

/-- **Following an attribute prints the queue** and a blank line, and lowers the interrupt flag. -/
theorem Handler.run_monitor {handle : ObjectHandle} {s : Simulator} {w : Writer ω}
    {d : Declaration} {json : Bool} (hw : w.Reliable) (hlive : s.HasObject handle.oid handle.type)
    (hd : s.catalogue.find? handle.type d.name = some d) (hnotification : d.isNotification = true)
    {arguments : List Text}
    (harguments : arguments = [d.name] ∨ arguments = [] ∧ d.name = "notify")
    (sink : ω) (interrupted : Bool) :
    (Handler.monitor handle ((s.catalogue.of handle.type).map Declaration.toAttribute)).run
        ⟨daemon, w, json⟩ arguments ⟨s, sink, interrupted⟩ =
      (.ok .stay, ⟨s, w.written (Monitor.printed s handle.type d.name json) sink, false⟩) := by
  have hfollow := Monitor.run_follow ⟨daemon, w, json⟩ handle
    ((s.catalogue.of handle.type).map Declaration.toAttribute) d.name ⟨s, sink, interrupted⟩
  rw [Monitor.play_eq hw hlive hd hnotification] at hfollow
  have hwith (world : World Simulator ω) (hworld : world = ⟨s, sink, interrupted⟩) :
      runMonitor.followWith ⟨daemon, w, json⟩ handle
        ((s.catalogue.of handle.type).map Declaration.toAttribute) d.name world =
      (.ok .stay, ⟨s, w.written (Monitor.printed s handle.type d.name json) sink, false⟩) := by
    rw [hworld, runMonitor.followWith, run_bind_ok hfollow, run_bind_ok (Step.line_eq hw [] _),
      run_pure, Monitor.printed_eq, Monitor.written_append]
    rfl
  rcases harguments with rfl | ⟨rfl, hname⟩
  · exact hwith _ rfl
  · rw [hname] at hwith ⊢
    exact hwith _ rfl

/-- So it does in the shell, which stays where it is. -/
theorem Shell.execute_monitor {shell : Shell Simulator ω} {handle : ObjectHandle} {w : Writer ω}
    {d : Declaration} (json : Bool) (hw : w.Reliable)
    (hlive : shell.world.daemon.HasObject handle.oid handle.type)
    (hd : shell.world.daemon.catalogue.find? handle.type d.name = some d)
    (hnotification : d.isNotification = true) {line : Text} {r : Resolved Handler}
    (hr : (shell.context.resolving daemon line shell.world.daemon).1 = .ok r)
    (hhandler : r.handler = .monitor handle
      ((shell.world.daemon.catalogue.of handle.type).map Declaration.toAttribute))
    (harguments : r.arguments = [d.name] ∨ r.arguments = [] ∧ d.name = "notify")
    (sink : ω) (interrupted : Bool) :
    execute ⟨daemon, w, json⟩ line
        { shell with world := ⟨shell.world.daemon, sink, interrupted⟩ } =
      (.ok .continue, { shell with world := ⟨shell.world.daemon, w.written
        (Monitor.printed shell.world.daemon handle.type d.name json) sink, false⟩ }) := by
  have hperform : shell.context.perform ⟨daemon, w, json⟩ line
      ⟨shell.world.daemon, sink, interrupted⟩ = _ :=
    Context.perform_of_resolved (t := ⟨daemon, w, json⟩) (Context.resolving_of_ok hr)
  rw [hhandler] at hperform
  have hrun := hperform.trans
    (Handler.run_monitor hw hlive hd hnotification harguments sink interrupted)
  exact execute_of_ok (s := { shell with world := ⟨shell.world.daemon, sink, interrupted⟩ })
    (Context.not_blank_of_resolving hr) hrun

/-- A line with `monitor` and the name of a notification follows it. -/
theorem Context.IsOf.resolving_monitor {c : Context} {handle : ObjectHandle}
    {attributes : List Attribute} (hof : c.IsOf handle attributes) {a : Attribute}
    (ha : a ∈ attributes) (hnotification : a.isNotification = true) (hname : IsWord a.name)
    (s : Simulator) : (c.resolving daemon (unwords [("monitor" : Text), a.name]) s).1 =
      .ok ⟨.monitor handle attributes, "monitor", [a.name]⟩ := by
  have hmonitor : IsWord "monitor" := by decide
  have hcompleter : c.table.completerOf "monitor" =
      some (.slots (.following (attributes.map Attribute.descriptor))) := by
    rw [CommandTable.completerOf, hof.get?_monitor]
    rfl
  have hoffered : a.name ∈ c.table.following s.answers ["monitor"] := by
    rw [CommandTable.following_command hcompleter (by simpa using hmonitor)]
    show a.name ∈ (((attributes.map Attribute.descriptor).filter
      fun a => a.usage = notificationUsage).map AttributeDescriptor.name)
    refine List.mem_map.2 ⟨a.descriptor, ?_, rfl⟩
    exact List.mem_filter.2 ⟨List.mem_map_of_mem ha, hnotification⟩
  exact resolving_of_offered ⟨"monitor", .monitor handle attributes, _⟩ hof.get?_monitor hmonitor
    hname hoffered

/-- **Following an attribute prints the whole queue**, once and in order. In the context of a live
object, over a simulator in any state that is reached and with a writer that never fails, take a
line that is resolved to `monitor` and a notification of the type. It writes one line for each value
of each notification that waits for the type and the attribute, headed as it is declared, and then a
blank line, whether or not the interrupt flag has been raised before. The simulator stays as it is,
so the line writes the same when it is run again. -/
theorem monitor_prints {s₀ : Simulator} (h₀ : Initial s₀) {shell : Shell Simulator ω}
    (h : Reaches s₀ shell.world.daemon) (hc : shell.context.Opened daemon (Reaches s₀))
    {handle : ObjectHandle} (hhandle : shell.context.scope.handle = some handle)
    (hlive : shell.world.daemon.HasObject handle.oid handle.type) {d : Declaration}
    (hd : d ∈ shell.world.daemon.catalogue.of handle.type)
    (hnotification : d.isNotification = true) {w : Writer ω} (hw : w.Reliable) (json : Bool) :
    let s := shell.world.daemon
    ∃ record : ReportedValue → Text,
      (∀ v, Monitor.Heads (s.catalogue.of handle.type) json v.id (encode json v.value)
        (record v)) ∧
      let lines := ((s.waiting handle.type d.name).flatMap fun n => n.values.map record) ++ [[]]
      (∀ line r, (shell.context.resolving daemon line s).1 = .ok r → r.command = "monitor" →
        (r.arguments = [d.name] ∨ r.arguments = [] ∧ d.name = "notify") →
        ∃ again, Shell.execute ⟨daemon, w, json⟩ line shell = (.ok .continue, again) ∧
          again = { shell with world := ⟨s, w.written lines shell.world.sink, false⟩ } ∧
          Shell.execute ⟨daemon, w, json⟩ line again = (.ok .continue,
            { shell with world := ⟨s, w.written lines again.world.sink, false⟩ })) ∧
      (IsWord d.name → ∃ r,
        (shell.context.resolving daemon (unwords [("monitor" : Text), d.name]) s).1 = .ok r ∧
          r.command = "monitor" ∧ r.arguments = [d.name]) := by
  intro s
  have hdistinct : s.catalogue.Distinct := h.catalogue_eq ▸ h₀.distinct
  have hof := hc.isOf hhandle
  rw [← h.catalogue_eq] at hof
  refine ⟨fun v => Monitor.record ((s.catalogue.of handle.type).map Declaration.toAttribute) json
    { v with value := encode json v.value }, fun v => ?_, ?_, fun hname => ?_⟩
  · exact Monitor.heads_record (hdistinct handle.type) json { v with value := encode json v.value }
  · intro line r hr hcommand harguments
    have hhandler := Context.handler_of_resolving hr (hcommand ▸ hof.get?_monitor)
    have hfound := Catalogue.find?_of_mem hdistinct hd
    have hexecute := Shell.execute_monitor json hw hlive hfound hnotification hr hhandler harguments
    exact ⟨_, hexecute shell.world.sink shell.world.interrupted, rfl, hexecute _ false⟩
  · exact ⟨_, hof.resolving_monitor (List.mem_map_of_mem hd) hnotification hname s, rfl, rfl⟩

theorem written_unlimited (lines : List Text) (sink : Text) :
    Writer.unlimited.written lines sink = sink ++ lines.flatMap (· ++ ['\n']) := by
  induction lines generalizing sink with
  | nil => exact (List.append_nil sink).symm
  | cons line rest ih =>
    show Writer.unlimited.written rest (sink ++ (line ++ ['\n'])) = _
    rw [ih, List.flatMap_cons, List.append_assoc]

/-- In the network interface of the seed the three values that wait are printed, plain or in JSON,
although an interruption has been asked for before. For an id of two attributes there would be an
error with both names. -/
theorem monitor_prints_enteredShell :
    let shell : Shell Simulator Text :=
      { enteredShell with world := { enteredShell.world with interrupted := true } }
    let prints (json : Bool) (text : Text) : Prop :=
      ∃ again, Shell.execute ⟨daemon, .unlimited, json⟩ "monitor notify" shell =
          (.ok .continue, again) ∧
        again = { shell with
          world := ⟨shell.world.daemon, shell.world.sink ++ text, false⟩ }
    prints false "oper-status | ready\ncurrent-output-power | -3.1\n0x20000001 | 1\n\n" ∧
      prints true ("\x7b\"name\":\"oper-status\",\"value\":\"ready\"\x7d\n" ++
        "\x7b\"name\":\"current-output-power\",\"value\":-3.1\x7d\n" ++
        "\x7b\"name\":536870913,\"value\":1\x7d\n\n") ∧
      ∀ json line, Monitor.Heads
        [⟨⟨3, "up", true, "<uint32>"⟩, none⟩, ⟨⟨3, "down", true, "<uint32>"⟩, none⟩] json 3 "1"
          line →
        line = "error: more than one metadata matched for id 0x3: [\"up\", \"down\"]" := by
  have hreaches := session_enteredShell.tracks.reaches
  have hopened := session_enteredShell.tracks.context_opened
  have hdeclared : enteredShell.world.daemon.catalogue.of (.interface .network) = seedNetwork := by
    rw [hreaches.catalogue_eq, catalogue_seed]
    rfl
  obtain ⟨hhandle, htype, hwaiting⟩ :
      enteredShell.context.scope.handle = some ⟨.interface .network, 2⟩ ∧
      (enteredShell.world.daemon.object? 2).map LiveObject.type = some (.interface .network) ∧
      enteredShell.world.daemon.waiting (.interface .network) "notify" =
        [⟨.interface .network, "notify", [⟨7, "ready"⟩, ⟨5, "-3.1"⟩]⟩,
          ⟨.interface .network, "notify", [⟨0x20000001, "1"⟩]⟩] := by
    decide +kernel
  -- from here on the shell is a variable, so that nothing is evaluated any more
  generalize enteredShell = entered at *
  intro shell prints
  have hd : (⟨⟨8, "notify", false, notificationUsage⟩, none⟩ : Declaration) ∈
      shell.world.daemon.catalogue.of (.interface .network) := by
    rw [hdeclared]
    decide
  have hreliable : Writer.unlimited.Reliable := fun _ _ => rfl
  -- what is printed, if nothing but these lines may stand for the three values
  have hprints (json : Bool) (status power vendor : Text) {text : Text}
      (htext : [status, power, vendor, []].flatMap (· ++ ['\n']) = text)
      (hstatus : ∀ line, Monitor.Heads seedNetwork json 7 (encode json "ready") line →
        line = status)
      (hpower : ∀ line, Monitor.Heads seedNetwork json 5 (encode json "-3.1") line → line = power)
      (hvendor : ∀ line, Monitor.Heads seedNetwork json 0x20000001 (encode json "1") line →
        line = vendor) : prints json text := by
    obtain ⟨record, hheads, hexecutes, hresolves⟩ := @monitor_prints Text seed .seed shell hreaches
      hopened ⟨.interface .network, 2⟩ hhandle (Option.map_eq_some_iff.1 htype) _ hd (by decide)
      .unlimited hreliable json
    obtain ⟨r, hr, hcommand, harguments⟩ := hresolves (by decide)
    obtain ⟨again, hexecute, hagain, -⟩ := hexecutes _ r hr hcommand (Or.inl harguments)
    refine ⟨again, hexecute, ?_⟩
    rw [hdeclared] at hheads
    rw [hagain, hwaiting, written_unlimited, ← htext, ← hstatus _ (hheads ⟨7, "ready"⟩),
      ← hpower _ (hheads ⟨5, "-3.1"⟩), ← hvendor _ (hheads ⟨0x20000001, "1"⟩)]
    rfl
  have hstatus {json : Bool} {value line : Text}
      (h : Monitor.Heads seedNetwork json 7 value line) :=
    h.named ⟨⟨7, "oper-status", true, "[unknown|initialize|ready]"⟩, some "ready"⟩
      (by decide) rfl (by decide)
  have hpower {json : Bool} {value line : Text}
      (h : Monitor.Heads seedNetwork json 5 value line) :=
    h.named ⟨⟨5, "current-output-power", true, "<float>"⟩, some "-3.2"⟩
      (by decide) rfl (by decide)
  have hvendor {json : Bool} {value line : Text}
      (h : Monitor.Heads seedNetwork json 0x20000001 value line) :=
    h.unnamed (by decide)
  refine ⟨?_, ?_, ?_⟩
  · exact hprints false "oper-status | ready" "current-output-power | -3.1" "0x20000001 | 1"
      (by decide) (fun _ h => hstatus h) (fun _ h => hpower h) fun _ h => hvendor h
  · exact hprints true "\x7b\"name\":\"oper-status\",\"value\":\"ready\"\x7d"
      "\x7b\"name\":\"current-output-power\",\"value\":-3.1\x7d"
      "\x7b\"name\":536870913,\"value\":1\x7d" (by decide)
      (fun _ h => (hstatus h).trans (by decide +kernel))
      (fun _ h => (hpower h).trans (by decide +kernel))
      fun _ h => (hvendor h).trans (by decide +kernel)
  · intro json line h
    have hline := h.ambiguous _ List.mem_cons_self _
      (List.mem_cons_of_mem _ List.mem_cons_self) (by decide) rfl rfl
    exact hline.trans (by decide +kernel)

end TransponderShell
