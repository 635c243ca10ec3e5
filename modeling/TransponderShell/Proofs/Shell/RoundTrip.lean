import TransponderShell.Proofs.Shell.Reading

/-!
# Writing an attribute and reading it back

A line with `set` that reports no failure has written the words behind the name, joined with single
spaces, and has changed nothing else (`Shell.execute_set`): the state after it differs from the one
before in one value of one object (`Simulator.Sets`). A line with `get` and the name then shows that
text.

The words that are written are what the typed words stand for. Behind the name of an attribute with
a free value nothing is offered, so there they are the typed words (`Expands.drop_eq`).
`set_get_roundTrip` is the result.
-/

namespace TransponderShell

open Text Simulator

variable {ω : Type}

/-! ## What writing changes -/

namespace Simulator

/-- A state differs from another one in the value that an object has under one name. -/
structure Sets (s : Simulator) (oid : Nat) (name value : Text) (s' : Simulator) : Prop where
  /-- Apart from the live objects everything is the same. -/
  rest : s' = { s with objects := s'.objects }
  oids : s'.oids = s.oids
  other : ∀ id ≠ oid, s'.object? id = s.object? id
  object : ∃ old object, s.object? oid = some old ∧ s'.object? oid = some object ∧
    object.type = old.type ∧ object.values.get? name = some value ∧
    ∀ key ≠ name, object.values.get? key = old.values.get? key

theorem sets_updateValues {s : Simulator} {oid : Nat} {old : LiveObject}
    (hold : s.object? oid = some old) (name value : Text) :
    s.Sets oid name value (s.updateValues oid (Values.set name value)) where
  rest := rfl
  oids := by rw [oids_eq, oids_eq, directory_updateValues]
  other id hid := by simp [object?_updateValues, hid]
  object := by
    refine ⟨old, { old with values := old.values.set name value }, hold, ?_, rfl, ?_, ?_⟩
    · simp [object?_updateValues, hold]
    · exact Values.get?_set_self ..
    · intro key hkey
      simp [Values.get?_set, hkey]

end Simulator

/-! ## Words that are left as they are -/

namespace CommandTable

variable {Q H : Type} {answer : Q → List Text} {t : CommandTable Q H}

/-- Where nothing is offered words stand for themselves: from some position on, if the words before
it expand to words and nothing is offered behind words from there on. -/
theorem Expands.drop_eq {typed expanded : List Text} (h : t.Expands answer typed expanded)
    (htyped : ∀ w ∈ typed, IsWord w) {n : Nat} (hbefore : ∀ w ∈ expanded.take n, IsWord w)
    (hfree : ∀ i, n ≤ i → (∀ w ∈ expanded.take i, IsWord w) →
      t.following answer (expanded.take i) = []) : expanded.drop n = typed.drop n := by
  have hself {i : Nat} (hi : n ≤ i) (hwords : ∀ w ∈ expanded.take i, IsWord w) :
      expanded[i]? = typed[i]? := by
    cases hword : typed[i]? with
    | none => exact List.getElem?_eq_none (h.1 ▸ List.getElem?_eq_none_iff.1 hword)
    | some word =>
      have hlt := (List.getElem?_eq_some_iff.1 hword).1
      obtain ⟨w, hw⟩ : ∃ w, expanded[i]? = some w :=
        ⟨_, List.getElem?_eq_getElem (h.1.symm ▸ hlt)⟩
      have hstands := h.2 i word w hword hw
      rw [hfree i hi hwords] at hstands
      rcases hstands.eq_or_mem with rfl | ⟨hmem, -⟩
      · exact hw
      · cases hmem
  -- the words before a position decide what is offered there
  have hwords (k : Nat) : ∀ w ∈ expanded.take (n + k), IsWord w := by
    induction k with
    | zero => exact hbefore
    | succ k ih =>
      intro w hmem
      rw [← Nat.add_assoc, List.take_add_one, List.mem_append, Option.mem_toList,
        hself (Nat.le_add_right n k) ih] at hmem
      rcases hmem with hmem | hmem
      · exact ih w hmem
      · exact htyped w (List.mem_of_getElem? hmem)
  refine List.ext_getElem? fun k => ?_
  rw [List.getElem?_drop, List.getElem?_drop]
  exact hself (Nat.le_add_right n k) (hwords k)

end CommandTable

namespace Context

variable {s₀ s : Simulator} {c : Context} {handle : ObjectHandle} {line name : Text}

/-- Behind the name of an attribute with a free value the typed words are the arguments. -/
theorem Opened.values_eq (hc : c.Opened daemon (Reaches s₀))
    (hhandle : c.scope.handle = some handle) {values : List Text}
    (hexpands : c.table.Expands s.answers line.words ("set" :: name :: values))
    (hname : IsWord name) {d : Declaration} (hd : s₀.catalogue.find? handle.type name = some d)
    (hwrite : d.readOnly = false) (hfree : Usage.values d.usage = []) :
    values = line.words.drop 2 := by
  have hset : IsWord "set" := by decide
  refine hexpands.drop_eq (n := 2) (fun _ => mem_words) (by simpa using ⟨hset, hname⟩)
    fun i hi hwords => ?_
  obtain ⟨k, rfl⟩ := Nat.exists_eq_add_of_le hi
  have htake : List.take (2 + k) (("set" : Text) :: name :: values) =
      ("set" : Text) :: name :: values.take k := by
    rw [Nat.add_comm]
    rfl
  rw [htake] at hwords ⊢
  rw [CommandTable.following_command (hc.completerOf_set hhandle) hwords]
  cases values.take k with
  | nil => exact (Slots.offers_writable hd hwrite).trans hfree
  | cons value rest => rfl

/-- A command and a word that is offered behind it are resolved as they stand. -/
theorem resolving_of_offered (command : Command Question Handler)
    (hget : c.table.get? command.name = some command) (hcommand : IsWord command.name)
    (hname : IsWord name) (hoffered : name ∈ c.table.following s.answers [command.name]) :
    (c.resolving daemon (unwords [command.name, name]) s).1 =
      .ok ⟨command.handler, command.name, [name]⟩ := by
  have hexpands : c.table.Expands s.answers [command.name] [command.name] := by
    refine CommandTable.Expands.concat .nil (.exact ?_)
    rw [CommandTable.following_nil]
    exact CommandTable.get?_isSome.1 (hget ▸ rfl)
  have hwords : words (unwords [command.name, name]) = [command.name, name] :=
    words_unwords (by simpa using ⟨hcommand, hname⟩)
  exact resolving_of_expands (hwords.symm ▸ hexpands.concat (.exact hoffered)) hget

/-- A line with `get` and the name of an attribute reads it. -/
theorem IsOf.resolving_get {attributes : List Attribute} (hof : c.IsOf handle attributes)
    (hname : IsWord name) (hmem : name ∈ attributes.map Attribute.name) (s : Simulator) :
    (c.resolving daemon (unwords [("get" : Text), name]) s).1 =
      .ok ⟨.get handle, "get", [name]⟩ := by
  have hget : IsWord "get" := by decide
  have hcompleter : c.table.completerOf "get" =
      some (.slots (.reading (attributes.map Attribute.descriptor))) := by
    rw [CommandTable.completerOf, hof.get?_get]
    rfl
  have hnames : c.table.following s.answers ["get"] = attributes.map Attribute.name := by
    rw [CommandTable.following_command hcompleter (by simpa using hget)]
    simp [Completer.offers, Slots.offers, Slots.reading, Slots.ofAttributes, Slots.offering,
      Attribute.descriptor, Function.comp_def]
  have hoffered : name ∈ c.table.following s.answers ["get"] := hnames ▸ hmem
  exact resolving_of_offered ⟨"get", .get handle, _⟩ hof.get?_get hget hname hoffered

end Context

/-! ## Lines that write -/

/-- **A line that writes and does not fail** has written the words behind the name, joined with
single spaces, and nothing else has happened. -/
theorem Shell.execute_set {w : Writer ω} {json : Bool} {line : Text} {shell : Shell Simulator ω}
    {r : Resolved Handler} (hr : (shell.context.resolving daemon line shell.world.daemon).1 = .ok r)
    {handle : ObjectHandle} (hhandler : r.handler = .set handle) {name : Text} {values : List Text}
    (harguments : r.arguments = name :: values)
    (hok : ∀ failure,
      (shell.context.perform ⟨daemon, w, json⟩ line shell.world).1 ≠ .error failure) :
    ∃ s', daemon.set handle name (unwords values) shell.world.daemon = (.ok (), s') ∧
      execute ⟨daemon, w, json⟩ line shell =
        (.ok .continue, { shell with world := { shell.world with daemon := s' } }) := by
  have hline := Context.not_blank_of_resolving hr
  have hperform := Context.perform_of_resolved (t := ⟨daemon, w, json⟩)
    (Context.resolving_of_ok hr)
  rw [hhandler, harguments] at hperform
  have hrequest := Step.run_request (daemon.set handle name (unwords values)) shell.world
  rcases hset : daemon.set handle name (unwords values) shell.world.daemon with ⟨e | ⟨⟩, s'⟩
  · rw [hset] at hrequest
    have hfailed := hperform.trans (run_bind_error hrequest _)
    exact absurd (congrArg Prod.fst hfailed) (hok _)
  · rw [hset] at hrequest
    have hdone := hperform.trans (run_bind_ok hrequest _)
    refine ⟨s', rfl, ?_⟩
    rw [execute_of_ok hline hdone, run_move]
    rfl

/-- **A written attribute is read back.** In the context of an object whose attributes have words
for names, over a simulator in any state that is reached and with a writer that never fails, take a
line that is resolved to `set` with a name and values and reports no failure. Then the object has
the values under that name, joined with single spaces, and nothing else has changed; a line with
`get` and the name shows exactly that text and a line end. If the attribute has a free value, these
are the words as they have been typed. -/
theorem set_get_roundTrip {s₀ : Simulator} (h₀ : Initial s₀) {shell : Shell Simulator ω}
    (h : Reaches s₀ shell.world.daemon) (hc : shell.context.Opened daemon (Reaches s₀))
    {handle : ObjectHandle} (hhandle : shell.context.scope.handle = some handle)
    (hnames : ∀ d ∈ shell.world.daemon.catalogue.of handle.type, IsWord d.name)
    {w : Writer ω} (hw : w.Reliable) {line : Text} {r : Resolved Handler}
    (hr : (shell.context.resolving daemon line shell.world.daemon).1 = .ok r)
    (hcommand : r.command = "set") {name : Text} {values : List Text}
    (harguments : r.arguments = name :: values)
    (hok : ∀ failure,
      (shell.context.perform ⟨daemon, w, false⟩ line shell.world).1 ≠ .error failure) :
    ∃ s', Sets shell.world.daemon handle.oid name (unwords values) s' ∧
      Shell.execute ⟨daemon, w, false⟩ line shell =
        (.ok .continue, { shell with world := { shell.world with daemon := s' } }) ∧
      Shell.execute ⟨daemon, w, false⟩ (unwords [("get" : Text), name])
          { shell with world := { shell.world with daemon := s' } } =
        (.ok .continue, { shell with world := { shell.world with
          daemon := s'
          sink := (w.write (unwords values ++ ['\n']) shell.world.sink).2 } }) ∧
      ∀ d ∈ shell.world.daemon.catalogue.of handle.type, d.name = name →
        Usage.values d.usage = [] → values = line.words.drop 2 := by
  have hset := Context.handler_of_resolving hr (hcommand ▸ hc.get?_set hhandle)
  obtain ⟨s', hgranted, hexecute⟩ := Shell.execute_set hr hset harguments hok
  obtain ⟨⟨old, hold, htype⟩, d, hd, hwrite, -⟩ :=
    writeAttribute_eq_ok.1 (congrArg Prod.fst hgranted)
  have hs' : s' =
      shell.world.daemon.updateValues handle.oid (Values.set name (unwords values)) := by
    rcases writeAttribute_cases handle name (unwords values) shell.world.daemon with ⟨e, he⟩ | hrun
    · cases hgranted.symm.trans he
    · exact congrArg Prod.snd (hgranted.symm.trans hrun)
  have hsets : Sets shell.world.daemon handle.oid name (unwords values) s' :=
    hs' ▸ sets_updateValues hold name (unwords values)
  obtain ⟨hdeclared, rfl⟩ := Catalogue.of_find? hd
  have hword := hnames d hdeclared
  refine ⟨s', hsets, hexecute, ?_, fun e he hname hfree => ?_⟩
  · have hof := hc.isOf hhandle
    have hmem : d.name ∈ ((s₀.catalogue.of handle.type).map Declaration.toAttribute).map
        Attribute.name := by
      rw [h.catalogue_eq] at hdeclared
      simpa using ⟨d, hdeclared, rfl⟩
    obtain ⟨before, object, hbefore, hlive, hsame, hvalue, -⟩ := hsets.object
    obtain rfl : old = before := Option.some.inj (hold.symm.trans hbefore)
    have hd' : s'.catalogue.find? handle.type d.name = some d := hs' ▸ hd
    have hread : (daemon.get handle d.name false s').1 = .ok (unwords values) :=
      readAttribute_eq_ok.2
        ⟨object, ⟨hlive, hsame.trans htype⟩, d, hd', unwords values, hvalue, rfl⟩
    exact Shell.execute_get hw (hof.resolving_get hword hmem s') rfl rfl hread
  · have hdistinct : shell.world.daemon.catalogue.Distinct := h.catalogue_eq ▸ h₀.distinct
    obtain rfl : d = e := hdistinct.eq_of_name he (hname ▸ hd)
    have hresolve := Context.resolve_of_resolving hr
    rw [resolve_eq] at hresolve
    have hexpands := (CommandTable.expands_of_resolve hresolve).2
    rw [hcommand, harguments] at hexpands
    exact hc.values_eq hhandle hexpands hword (h.catalogue_eq ▸ hd) hwrite hfree

/-- Two words are written to a list of numbers in the network interface of the seed. -/
theorem set_get_roundTrip_enteredShell :
    let t : Terminal Simulator Text := ⟨daemon, .unlimited, false⟩
    let written : Text := "4 5,6"
    ∃ s', Sets enteredShell.world.daemon 2 "custom-list" written s' ∧
      Shell.execute t "set custom  4 5,6" enteredShell =
        (.ok .continue, { enteredShell with world := { enteredShell.world with daemon := s' } }) ∧
      Shell.execute t "get custom-list"
          { enteredShell with world := { enteredShell.world with daemon := s' } } =
        (.ok .continue, { enteredShell with world := { enteredShell.world with
          daemon := s'
          sink := enteredShell.world.sink ++ (written ++ ['\n']) } }) := by
  intro t written
  have hreaches := session_enteredShell.tracks.reaches
  have hopened := session_enteredShell.tracks.context_opened
  have hhandle : enteredShell.context.scope.handle = some ⟨.interface .network, 2⟩ := by
    decide +kernel
  have hnames : ∀ d ∈ enteredShell.world.daemon.catalogue.of (.interface .network),
      IsWord d.name := by decide +kernel
  have hwords : words "set custom  4 5,6" = [("set" : Text), "custom", "4", "5,6"] := by decide
  have hexpand : (enteredShell.context.table.expand (m := Id)
      (fun q => pure (enteredShell.world.daemon.answers q))
      [("set" : Text), "custom", "4", "5,6"]).run =
        .ok [("set" : Text), "custom-list", "4", "5,6"] := by decide +kernel
  have hr := Context.resolving_of_expand hwords hexpand (hopened.get?_set hhandle)
  have hdone : (enteredShell.context.perform t "set custom  4 5,6" enteredShell.world).1.toBool =
      true := by
    decide +kernel
  have hok (failure : Failure) :
      (enteredShell.context.perform t "set custom  4 5,6" enteredShell.world).1 ≠
        .error failure := by
    intro hfailure
    rw [hfailure] at hdone
    cases hdone
  obtain ⟨s', hsets, hexecute, hread, -⟩ := set_get_roundTrip .seed hreaches hopened hhandle hnames
    (fun _ _ => rfl) hr rfl rfl hok
  exact ⟨s', hsets, hexecute, hread⟩

end TransponderShell
