import TransponderShell.Proofs.Command.Resolved
import TransponderShell.Proofs.Shell.Opened
import TransponderShell.Proofs.Simulator.Catalogue

/-!
# The shell and the simulator agree on what can be written

The shell validates a line with `set` against the attributes that it was told when the context was
opened, and the simulator validates the request against its declarations.
`Slots.mem_names_writable` and `Slots.values_writable` say what the shell goes by, and
`writeAttribute_eq_ok` what the simulator goes by.

So what is resolved is granted (`Opened.granted_of_resolve`), and what would be granted is resolved
to itself (`Opened.resolve_of_granted`). Both together are the result, `resolve_set`.
-/

namespace TransponderShell

open Text Simulator

/-! ## What the shell goes by -/

namespace Slots

/-- The names that are offered behind `set` are those of the attributes that can be written. -/
theorem mem_names_writing {attributes : List Attribute} {name : Text} :
    name ∈ (writing (attributes.map Attribute.descriptor)).names ↔
      ∃ a ∈ attributes, a.readOnly = false ∧ a.name = name := by
  simp [writing, ofAttributes, Attribute.descriptor, and_assoc]

variable {c : Catalogue} {type : ObjectType}

/-- The slots of a writing command on objects of a type. -/
def writable (c : Catalogue) (type : ObjectType) : Slots :=
  .writing (((c.of type).map Declaration.toAttribute).map Attribute.descriptor)

/-- The names are those of the attributes that can be written. -/
theorem mem_names_writable {name : Text} :
    name ∈ (writable c type).names ↔ ∃ d ∈ c.of type, d.readOnly = false ∧ d.name = name := by
  rw [writable, mem_names_writing]
  simp

/-- The values of a name are those that its attribute lists. -/
theorem values_writable {d : Declaration} {name : Text} (h : c.find? type name = some d) :
    (writable c type).values name = Usage.values d.usage := by
  have hfind : (((c.of type).map Declaration.toAttribute).map Attribute.descriptor).find?
      (fun a => a.name = name) = some d.toAttribute.descriptor := by
    rw [List.map_map, List.find?_map]
    exact congrArg (Option.map _) h
  simp only [writable, writing, ofAttributes, hfind]
  rfl

/-- Behind the name of an attribute that can be written, its values are offered. -/
theorem offers_writable {d : Declaration} {name : Text} (h : c.find? type name = some d)
    (hd : d.readOnly = false) : (writable c type).offers [name] = Usage.values d.usage := by
  obtain ⟨hdeclared, hname⟩ := Catalogue.of_find? h
  have hmem : name ∈ (writable c type).names :=
    mem_names_writable.2 ⟨d, hdeclared, hd, hname⟩
  have hresolve : (writable c type).resolveName name = some name :=
    pick?_eq_some_iff.2 (Or.inl ⟨hmem, rfl⟩)
  have hoffers : (writable c type).offersValues = true := rfl
  rw [offers, if_pos hoffers, hresolve, Option.elim_some, values_writable h]

end Slots

/-- Where words can be enumerated, a word stands for one of them. -/
theorem StandsFor.mem {position : Nat} {valid : List Text} {typed w : Text}
    (h : StandsFor position valid typed w) (hne : valid ≠ []) : w ∈ valid := by
  rcases h with ⟨-, hnil⟩ | h | h
  · exact absurd hnil hne
  · exact h
  · exact (mem_extending.1 (h ▸ List.mem_singleton_self w)).1

/-- A word behind the name of an attribute stands for a value that the usage admits. -/
theorem StandsFor.admits {position : Nat} {usage typed value : Text}
    (h : StandsFor position (Usage.values usage) typed value) :
    Usage.admits usage value = true := by
  rcases eq_or_ne (Usage.values usage) [] with hfree | hlisted
  · simp [Usage.admits, hfree]
  · simp [Usage.admits, h.mem hlisted]

/-- A value that the usage admits stands for itself. -/
theorem StandsFor.of_admits {position : Nat} (hp : 0 < position) {usage value : Text}
    (h : Usage.admits usage value = true) :
    StandsFor position (Usage.values usage) value value := by
  rw [Usage.admits, Bool.or_eq_true, List.isEmpty_iff, List.contains_iff_mem] at h
  rcases h with hfree | hlisted
  · exact .free hp hfree
  · exact .exact hlisted

namespace Context

/-- The context of an object has the command that writes. -/
theorem IsOf.get?_set {c : Context} {handle : ObjectHandle} {attributes : List Attribute}
    (h : c.IsOf handle attributes) : c.table.get? "set" = some ⟨"set", .set handle,
      some (.slots (.writing (attributes.map Attribute.descriptor)))⟩ := by
  rcases h with ⟨scope, h | ⟨location, h⟩⟩
  · rw [h]
    rfl
  · rw [h]
    rfl

/-- Over the simulator, the context of an object is made from the attributes that are declared. -/
theorem Opened.isOf {s₀ : Simulator} {c : Context} (hc : c.Opened daemon (Reaches s₀))
    {handle : ObjectHandle} (hhandle : c.scope.handle = some handle) :
    c.IsOf handle ((s₀.catalogue.of handle.type).map Declaration.toAttribute) := by
  have hlist : Keeps (Preserves (Reaches s₀)) daemon.list := fun s hs => hs
  rcases hc.cases hlist with rfl | ⟨s, hs, found, attributes, hfound, hattributes, hcontext⟩
  · cases hhandle
  rw [hhandle] at hfound
  obtain rfl : handle = found := Option.some.inj hfound
  have htold : (daemon.attributes handle.type s).1 =
      .ok ((s.catalogue.of handle.type).map Declaration.toAttribute) := rfl
  rw [htold, hs.catalogue_eq] at hattributes
  obtain rfl := Except.ok.inj hattributes
  exact ⟨c.scope, hcontext⟩

/-- In the simulator, the command that writes goes by the attributes that are declared. -/
theorem Opened.get?_set {s₀ : Simulator} {c : Context} (hc : c.Opened daemon (Reaches s₀))
    {handle : ObjectHandle} (hhandle : c.scope.handle = some handle) :
    c.table.get? "set" =
      some ⟨"set", .set handle, some (.slots (.writable s₀.catalogue handle.type))⟩ :=
  (hc.isOf hhandle).get?_set

variable {s₀ : Simulator} {c : Context} {handle : ObjectHandle} (answer : Question → List Text)

theorem Opened.completerOf_set (hc : c.Opened daemon (Reaches s₀))
    (hhandle : c.scope.handle = some handle) :
    c.table.completerOf "set" = some (.slots (.writable s₀.catalogue handle.type)) := by
  rw [CommandTable.completerOf, hc.get?_set hhandle]
  rfl

/-- Behind `set` the attributes are offered that can be written. -/
theorem Opened.following_set (hc : c.Opened daemon (Reaches s₀))
    (hhandle : c.scope.handle = some handle) :
    c.table.following answer ["set"] = (Slots.writable s₀.catalogue handle.type).names :=
  CommandTable.following_command (hc.completerOf_set hhandle) (by decide)

/-- Behind `set` and such an attribute its values are offered. -/
theorem Opened.following_set_name (hc : c.Opened daemon (Reaches s₀))
    (hhandle : c.scope.handle = some handle) {name : Text} (hname : IsWord name) {d : Declaration}
    (hd : s₀.catalogue.find? handle.type name = some d) (hwrite : d.readOnly = false) :
    c.table.following answer ["set", name] = Usage.values d.usage := by
  have hset : IsWord "set" := by decide
  rw [← Slots.offers_writable hd hwrite]
  exact CommandTable.following_command (hc.completerOf_set hhandle) (by simpa using ⟨hset, hname⟩)

section Lines

variable {s : Simulator} {line name value : Text}

/-- What is resolved is granted, if the object is live and an attribute can be written at all. -/
theorem Opened.granted_of_resolve (hc : c.Opened daemon (Reaches s₀))
    (hhandle : c.scope.handle = some handle) (h₀ : Initial s₀) (h : Reaches s₀ s)
    (hlive : ∃ object, s.object? handle.oid = some object ∧ object.type = handle.type)
    (hwritable : ∃ d ∈ s.catalogue.of handle.type, d.readOnly = false)
    (hnames : ∀ d ∈ s.catalogue.of handle.type, IsWord d.name)
    (hline : line.words = [("set" : Text), name, value]) {r : Resolved Handler}
    (hr : (c.table.resolve (Question.ask daemon) line s).1 = .ok r) :
    ∃ name' value', r = ⟨.set handle, "set", [name', value']⟩ ∧
      (daemon.set handle name' value' s).1 = .ok () := by
  rw [resolve_eq] at hr
  rw [h.catalogue_eq] at hwritable hnames
  obtain ⟨heq, hlength, hexpands⟩ := CommandTable.resolve_command hline (hc.get?_set hhandle) hr
  obtain ⟨name', value', harguments⟩ : ∃ name' value', r.arguments = [name', value'] :=
    List.length_eq_two.1 (by simpa using hlength)
  rw [harguments] at heq hexpands
  -- the second word stands for an attribute that can be written
  have hname' := hexpands 1 name name' rfl rfl
  rw [show List.take 1 _ = [("set" : Text)] from rfl, hc.following_set _ hhandle] at hname'
  have hsome : (Slots.writable s₀.catalogue handle.type).names ≠ [] := by
    obtain ⟨d, hd, hwrite⟩ := hwritable
    exact List.ne_nil_of_mem (Slots.mem_names_writable.2 ⟨d, hd, hwrite, rfl⟩)
  obtain ⟨d, hd, hwrite, rfl⟩ := Slots.mem_names_writable.1 (hname'.mem hsome)
  have hfind := Catalogue.find?_of_mem h₀.distinct hd
  -- and the third one for a value that it admits
  have hvalue' := hexpands 2 value value' rfl rfl
  rw [show List.take 2 _ = [("set" : Text), d.name] from rfl,
    hc.following_set_name _ hhandle (hnames d hd) hfind hwrite] at hvalue'
  refine ⟨d.name, value', heq, writeAttribute_eq_ok.2 ⟨hlive, d, ?_⟩⟩
  rw [h.catalogue_eq]
  exact ⟨hfind, hwrite, hvalue'.admits⟩

/-- What would be granted as it is typed is resolved to itself. -/
theorem Opened.resolve_of_granted (hc : c.Opened daemon (Reaches s₀))
    (hhandle : c.scope.handle = some handle) (h : Reaches s₀ s)
    (hline : line.words = [("set" : Text), name, value])
    (hgranted : (daemon.set handle name value s).1 = .ok ()) :
    (c.table.resolve (Question.ask daemon) line s).1 =
      .ok ⟨.set handle, "set", [name, value]⟩ := by
  have hget := hc.get?_set hhandle
  obtain ⟨-, d, hd, hwrite, hadmits⟩ := writeAttribute_eq_ok.1 hgranted
  rw [h.catalogue_eq] at hd
  have hname : IsWord name := by
    have hmem : name ∈ line.words := by simp [hline]
    exact mem_words hmem
  obtain ⟨hdeclared, hdname⟩ := Catalogue.of_find? hd
  have hmem : name ∈ (Slots.writable s₀.catalogue handle.type).names :=
    Slots.mem_names_writable.2 ⟨d, hdeclared, hwrite, hdname⟩
  have hfirst := hc.following_set s.answers hhandle
  have hsecond := hc.following_set_name s.answers hhandle hname hd hwrite
  -- each of the three words is among those that are offered for it, or nothing is offered there
  have hcommand : c.table.Expands s.answers ["set"] ["set"] := by
    refine CommandTable.Expands.concat .nil (.exact ?_)
    rw [CommandTable.following_nil]
    exact CommandTable.get?_isSome.1 (hget ▸ rfl)
  have hattribute : c.table.Expands s.answers [("set" : Text), name] ["set", name] :=
    hcommand.concat (.exact (hfirst ▸ hmem))
  have hexpands : c.table.Expands s.answers line.words ["set", name, value] := by
    rw [hline]
    exact hattribute.concat (hsecond ▸ .of_admits (Nat.succ_pos 1) hadmits)
  rw [resolve_eq, CommandTable.resolve_of_expands hexpands hget]

end Lines

end Context

/-- **The shell and the simulator agree on what can be written.** In the context of a live object
whose type declares an attribute that can be written, and only names that are words, a line with
`set` that is resolved is granted, and a line that would be granted as it is typed is resolved to
itself. -/
theorem resolve_set {s₀ s : Simulator} (h₀ : Initial s₀) (h : Reaches s₀ s) {c : Context}
    (hc : c.Opened daemon (Reaches s₀)) {handle : ObjectHandle}
    (hhandle : c.scope.handle = some handle) {object : LiveObject}
    (hlive : s.object? handle.oid = some object) (htype : object.type = handle.type)
    (hwritable : ∃ d ∈ s.catalogue.of handle.type, d.readOnly = false)
    (hnames : ∀ d ∈ s.catalogue.of handle.type, IsWord d.name) {line name value : Text}
    (hline : line.words = [("set" : Text), name, value]) :
    (∀ r, (c.table.resolve (Question.ask daemon) line s).1 = .ok r →
      ∃ name' value', r = ⟨.set handle, "set", [name', value']⟩ ∧
        (daemon.set handle name' value' s).1 = .ok ()) ∧
    ((daemon.set handle name value s).1 = .ok () →
      (c.table.resolve (Question.ask daemon) line s).1 =
        .ok ⟨.set handle, "set", [name, value]⟩) := by
  constructor
  · intro r hr
    exact hc.granted_of_resolve hhandle h₀ h ⟨object, hlive, htype⟩ hwritable hnames hline hr
  · intro hgranted
    exact hc.resolve_of_granted hhandle h hline hgranted

theorem resolve_set_hostContext :
    let s := seed
    let handle : ObjectHandle := ⟨.interface .host, 3⟩
    let r : Resolved Handler := ⟨.set handle, "set", ["fec-type", "rs"]⟩
    (hostContext.table.resolve (Question.ask daemon) "set fec r" s).1 = .ok r ∧
      (daemon.set handle "fec-type" "rs" s).1 = .ok () ∧
      (hostContext.table.resolve (Question.ask daemon) "set fec-type rs" s).1 = .ok r := by
  intro s handle r
  have hopened : hostContext.Opened daemon (Reaches s) := hostContext_opened .refl
  obtain ⟨object, hlive, htype⟩ : ∃ object, s.object? handle.oid = some object ∧
      object.type = handle.type := ⟨_, rfl, rfl⟩
  have hwritable : ∃ d ∈ s.catalogue.of handle.type, d.readOnly = false :=
    ⟨_, .tail _ (.head _), rfl⟩
  have hnames : ∀ d ∈ s.catalogue.of handle.type, IsWord d.name := by decide +kernel
  have htyped : words "set fec r" = [("set" : Text), "fec", "r"] := by decide
  have hexact : words "set fec-type rs" = [("set" : Text), "fec-type", "rs"] := by decide
  have hshort : (hostContext.table.resolve (Question.ask daemon) "set fec r" s).1 = .ok r := by
    have hexpand : (hostContext.table.expand (m := Id) (fun q => pure (s.answers q))
        (words "set fec r")).run = .ok [("set" : Text), "fec-type", "rs"] := by
      rw [htyped]
      decide +kernel
    have hexpands := CommandTable.expands_of_expand (fun w => mem_words) hexpand
    rw [resolve_eq, CommandTable.resolve_of_expands hexpands (hopened.get?_set rfl)]
  have hagree := resolve_set .seed .refl hopened rfl hlive htype hwritable hnames htyped
  obtain ⟨name, value, hr, hgranted⟩ := hagree.1 r hshort
  have harguments : [("fec-type" : Text), "rs"] = [name, value] := congrArg Resolved.arguments hr
  obtain ⟨hname, hvalue⟩ : name = "fec-type" ∧ value = "rs" := by simpa [eq_comm] using harguments
  rw [hname, hvalue] at hgranted
  have hagain := resolve_set .seed .refl hopened rfl hlive htype hwritable hnames hexact
  exact ⟨hshort, hgranted, hagain.2 hgranted⟩

end TransponderShell
