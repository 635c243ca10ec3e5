import TransponderShell.Proofs.Command.Offered

/-!
# Which lines expand, and to what

A word *stands for* another one among the words that may stand at its position (`StandsFor`), or it
is at *fault* there (`Faults`); both are said without the algorithm. A line expands if each of its
words stands for one behind the expanded words before it (`Expands`), and otherwise it fails at its
first word at fault (`FailsAt`).

* `standsFor_or_faults` says that a word does one of the two, `StandsFor.unique` and `Faults.unique`
  that it does so in one way, and `Expands.unique` and `FailsAt.unique` say the same of lines.
* `expandWord_spec` and `expandBehind_spec` say that the expansion word by word follows these rules,
  and `expand_iff` that it is determined by them.
-/

namespace TransponderShell

open Text

/-- What the word `typed` stands for at a position of a line where the words `valid` may stand. -/
inductive StandsFor (position : Nat) (valid : List Text) (typed : Text) : Text → Prop where
  /-- Behind the command any word may stand where none can be enumerated. -/
  | free (hp : 0 < position) (hv : valid = []) : StandsFor position valid typed typed
  | exact (h : typed ∈ valid) : StandsFor position valid typed typed
  /-- The only word that begins like it. -/
  | only {w : Text} (h : extending typed valid = [w]) : StandsFor position valid typed w

/-- The fault of the word `typed` at a position of a line where the words `valid` may stand. -/
inductive Faults (position : Nat) (valid : List Text) (typed : Text) : InvalidInput → Prop where
  | unknownCommand (hp : position = 0) (h : extending typed valid = []) :
    Faults position valid typed (.unknownCommand valid)
  | unknownArgument (hp : 0 < position) (hv : valid ≠ []) (h : extending typed valid = []) :
    Faults position valid typed (.unknownArgument valid)
  | ambiguousCommand (hp : position = 0) (hm : typed ∉ valid)
      (h : 2 ≤ (extending typed valid).length) :
    Faults position valid typed (.ambiguousCommand (extending typed valid))
  | ambiguousArgument (hp : 0 < position) (hm : typed ∉ valid)
      (h : 2 ≤ (extending typed valid).length) :
    Faults position valid typed (.ambiguousArgument (extending typed valid))

section Rules

variable {position : Nat} {valid : List Text} {typed : Text}

theorem mem_extending_self : typed ∈ extending typed valid ↔ typed ∈ valid := by
  simp [mem_extending]

/-- Where a command stands, a word stands for what it is picked for. -/
theorem standsFor_zero_iff {w : Text} : StandsFor 0 valid typed w ↔ pick? typed valid = some w := by
  rw [pick?_eq_some_iff]
  constructor
  · rintro (⟨hp, -⟩ | h | h)
    · omega
    · exact Or.inl ⟨h, rfl⟩
    · exact Or.inr h
  · rintro (⟨h, rfl⟩ | h)
    · exact .exact h
    · exact .only h

/-- A word stands for one word only. -/
theorem StandsFor.unique {v w : Text} (hv : StandsFor position valid typed v)
    (hw : StandsFor position valid typed w) : v = w := by
  have hself {u : Text} (hm : typed ∈ valid) (hu : extending typed valid = [u]) : typed = u := by
    have := mem_extending_self.2 hm
    rw [hu] at this
    exact List.mem_singleton.1 this
  cases hv with
  | free hp hnil =>
    cases hw with
    | free | exact => rfl
    | only h => simp [hnil, extending] at h
  | exact hm =>
    cases hw with
    | free | exact => rfl
    | only h => exact hself hm h
  | only h =>
    cases hw with
    | free hp hnil => simp [hnil, extending] at h
    | exact hm => exact (hself hm h).symm
    | only h' => simpa using h.symm.trans h'

/-- A word at fault stands for no word. -/
theorem Faults.not_standsFor {e : InvalidInput} {w : Text} (he : Faults position valid typed e) :
    ¬ StandsFor position valid typed w := by
  intro hw
  -- a word at fault is none of the valid words, and it is not the case that one of them extends it
  have hm : typed ∉ valid := by
    cases he with
    | unknownCommand hp h | unknownArgument hp hv h =>
      intro hm
      simpa [h] using mem_extending_self.2 hm
    | ambiguousCommand hp hm h | ambiguousArgument hp hm h => exact hm
  have hlen : (extending typed valid).length ≠ 1 := by
    cases he with
    | unknownCommand hp h | unknownArgument hp hv h => simp [h]
    | ambiguousCommand hp hm h | ambiguousArgument hp hm h => omega
  cases hw with
  | exact h => exact hm h
  | only h => exact hlen (by rw [h]; rfl)
  | free hp hv =>
    cases he with
    | unknownCommand hp' h => omega
    | unknownArgument hp' hv' h => exact hv' hv
    | ambiguousCommand hp' hm h | ambiguousArgument hp' hm h => simp [hv, extending] at h

/-- A word has one fault only. -/
theorem Faults.unique {e f : InvalidInput} (he : Faults position valid typed e)
    (hf : Faults position valid typed f) : e = f := by
  cases he <;> cases hf <;> simp_all

/-- A word stands for one among the words that may stand at its position, or it is at fault. -/
theorem standsFor_or_faults (position : Nat) (valid : List Text) (typed : Text) :
    (∃ w, StandsFor position valid typed w) ∨ ∃ e, Faults position valid typed e := by
  match he : extending typed valid with
  | [w] => exact Or.inl ⟨w, .only he⟩
  | [] =>
    rcases Nat.eq_zero_or_pos position with hp | hp
    · exact Or.inr ⟨_, .unknownCommand hp he⟩
    · rcases Classical.em (valid = []) with hv | hv
      · exact Or.inl ⟨typed, .free hp hv⟩
      · exact Or.inr ⟨_, .unknownArgument hp hv he⟩
  | _ :: _ :: _ =>
    have hlen : 2 ≤ (extending typed valid).length := by simp [he]
    rcases Classical.em (typed ∈ valid) with hm | hm
    · exact Or.inl ⟨typed, .exact hm⟩
    · rcases Nat.eq_zero_or_pos position with hp | hp
      · exact Or.inr ⟨_, .ambiguousCommand hp hm hlen⟩
      · exact Or.inr ⟨_, .ambiguousArgument hp hm hlen⟩

end Rules

/-! ## Lines -/

namespace CommandTable

variable {Q H : Type} (answer : Q → List Text) (t : CommandTable Q H)

/-- Every word of a line stands for a word, behind the expanded words before it. -/
def Expands (typed expanded : List Text) : Prop :=
  expanded.length = typed.length ∧ ∀ i word w, typed[i]? = some word → expanded[i]? = some w →
    StandsFor i (t.following answer (expanded.take i)) word w

/-- The words of a line before the position `i` expand, and the word there is at fault. -/
def FailsAt (typed : List Text) (i : Nat) (e : InvalidInput) : Prop :=
  ∃ before word, typed[i]? = some word ∧ t.Expands answer (typed.take i) before ∧
    Faults i (t.following answer before) word e

variable {answer t}

theorem Expands.nil : t.Expands answer [] [] := ⟨rfl, by simp⟩

/-- One more word expands behind the expanded words. -/
theorem Expands.concat {typed expanded : List Text} {word w : Text}
    (h : t.Expands answer typed expanded)
    (hw : StandsFor expanded.length (t.following answer expanded) word w) :
    t.Expands answer (typed ++ [word]) (expanded ++ [w]) := by
  obtain ⟨hlen, hall⟩ := h
  refine ⟨by simp [hlen], fun i u v hu hv => ?_⟩
  rcases Nat.lt_trichotomy i expanded.length with hi | rfl | hi
  · rw [List.getElem?_append_left (by omega)] at hu hv
    rw [List.take_append_of_le_length (by omega)]
    exact hall i u v hu hv
  · rw [hlen, List.getElem?_concat_length] at hu
    rw [List.getElem?_concat_length] at hv
    obtain ⟨rfl, rfl⟩ : word = u ∧ w = v := ⟨by simpa using hu, by simpa using hv⟩
    simpa using hw
  · rw [List.getElem?_eq_none (by simp; omega)] at hv
    cases hv

/-- The first words of a line expand to the first words of its expansion. -/
theorem Expands.take {typed expanded : List Text} (h : t.Expands answer typed expanded) (n : Nat) :
    t.Expands answer (typed.take n) (expanded.take n) := by
  refine ⟨by simp [h.1], fun i word w hword hw => ?_⟩
  rcases Nat.lt_or_ge i n with hi | hi
  · rw [List.getElem?_take_of_lt hi] at hword hw
    rw [List.take_take, Nat.min_eq_left (by omega)]
    exact h.2 i word w hword hw
  · rw [List.getElem?_take_eq_none hi] at hw
    cases hw

/-- A line expands in one way only. -/
theorem Expands.unique {typed u v : List Text} (hu : t.Expands answer typed u)
    (hv : t.Expands answer typed v) : u = v := by
  have hlen : u.length = v.length := hu.1.trans hv.1.symm
  -- the words before a position determine the word there
  have htake (n : Nat) : u.take n = v.take n := by
    induction n with
    | zero => rfl
    | succ n ih =>
      rw [List.take_add_one, List.take_add_one, ih]
      congr 2
      rcases Nat.lt_or_ge n u.length with hn | hn
      · obtain ⟨word, hword⟩ : ∃ word, typed[n]? = some word :=
          ⟨_, List.getElem?_eq_getElem (hu.1 ▸ hn)⟩
        have hun := hu.2 n _ _ hword (List.getElem?_eq_getElem hn)
        have hvn := hv.2 n _ _ hword (List.getElem?_eq_getElem (hlen ▸ hn))
        rw [ih] at hun
        rw [List.getElem?_eq_getElem hn, List.getElem?_eq_getElem (hlen ▸ hn), hun.unique hvn]
      · rw [List.getElem?_eq_none hn, List.getElem?_eq_none (hlen ▸ hn)]
  calc u = u.take u.length := List.take_length.symm
    _ = v.take u.length := htake _
    _ = v := by rw [hlen, List.take_length]

/-- A line that expands fails nowhere. -/
theorem Expands.not_failsAt {typed expanded : List Text} (h : t.Expands answer typed expanded)
    {i : Nat} {e : InvalidInput} : ¬ t.FailsAt answer typed i e := by
  rintro ⟨before, word, hword, hbefore, hf⟩
  obtain rfl := hbefore.unique (h.take i)
  have hi : i < expanded.length := h.1 ▸ (List.getElem?_eq_some_iff.1 hword).1
  exact hf.not_standsFor (h.2 i _ _ hword (List.getElem?_eq_getElem hi))

/-- A line fails at one position only, for one reason. -/
theorem FailsAt.unique {typed : List Text} {i j : Nat} {e f : InvalidInput}
    (hi : t.FailsAt answer typed i e) (hj : t.FailsAt answer typed j f) : i = j ∧ e = f := by
  -- the words before the later position expand, so no earlier one fails
  have hlt {i j : Nat} {e f : InvalidInput} (hi : t.FailsAt answer typed i e)
      (hj : t.FailsAt answer typed j f) : ¬ i < j := by
    intro hlt
    obtain ⟨before, word, hword, hbefore, he⟩ := hi
    obtain ⟨before', word', -, hbefore', -⟩ := hj
    refine hbefore'.not_failsAt ⟨before, word, ?_, ?_, he⟩
    · rw [List.getElem?_take_of_lt hlt, hword]
    · rwa [List.take_take, Nat.min_eq_left (by omega)]
  obtain rfl : i = j := by
    have h₁ := hlt hi hj
    have h₂ := hlt hj hi
    omega
  obtain ⟨before, word, hword, hbefore, he⟩ := hi
  obtain ⟨before', word', hword', hbefore', hf⟩ := hj
  obtain rfl := hbefore.unique hbefore'
  obtain rfl : word = word' := by simpa [hword] using hword'
  exact ⟨rfl, he.unique hf⟩

/-! ## The expansion word by word -/

/-- The command of an expanded line is what its first word stands for. -/
theorem Expands.command {typed rest : List Text} {command : Text}
    (h : t.Expands answer typed (command :: rest)) (hw : ∀ w ∈ typed, IsWord w) :
    ∃ w, IsWord w ∧ pick? w t.names = some command := by
  cases typed with
  | nil => simp [Expands] at h
  | cons word more =>
    refine ⟨word, hw word (List.mem_cons_self ..), standsFor_zero_iff.1 ?_⟩
    simpa using h.2 0 word command rfl rfl

/-- **The expansion of one word follows the rules for its position.** -/
theorem expandWord_spec {typed before : List Text} {word : Text}
    (hb : t.Expands answer typed before) (hw : ∀ w ∈ typed, IsWord w) (hword : IsWord word) :
    match (t.expandWord (m := Id) (fun q => pure (answer q)) before word).run with
    | .ok w => StandsFor before.length (t.following answer before) word w
    | .error e => Faults before.length (t.following answer before) word e := by
  have hoffered := offered_unwords_append answer t before hword
  have hself : word ∈ extending word (t.following answer before) ↔
      word ∈ t.following answer before := mem_extending_self
  simp only [offered] at hoffered
  simp only [expandWord, Id.run_bind, hoffered]
  rcases he : extending word (t.following answer before) with _ | ⟨u, _ | ⟨v, more⟩⟩
  case nil =>
    cases before with
    | nil => simpa [Pick.among] using Faults.unknownCommand rfl he
    | cons command rest =>
      obtain ⟨first, hfirst, hpick⟩ := hb.command hw
      simp only [Pick.among]
      cases hc : t.completerOf command with
      | none =>
        have hv := following_eq_nil answer t rest hfirst hpick hc
        simpa using StandsFor.free (Nat.succ_pos _) hv
      | some c =>
        have hbehind : Candidate.texts (Id.run (t.completion (fun q => pure (answer q))
            (unwords (command :: rest) ++ [' ']) .probe)) = t.following answer (command :: rest) :=
          rfl
        simp only [Option.isNone_some, Bool.false_eq_true, if_false, Id.run_bind]
        cases hexpected : Id.run (t.completion (fun q => pure (answer q))
            (unwords (command :: rest) ++ [' ']) .probe) with
        | nil =>
          rw [hexpected] at hbehind
          exact .free (Nat.succ_pos _) hbehind.symm
        | cons d more =>
          have hv : t.following answer (command :: rest) ≠ [] := by
            rw [← hbehind, hexpected]
            simp [Candidate.texts]
          rw [hexpected] at hbehind
          rw [← hbehind] at hv he ⊢
          exact .unknownArgument (Nat.succ_pos _) hv he
  case cons.nil => exact .only he
  case cons.cons =>
    have hlen : 2 ≤ (extending word (t.following answer before)).length := by simp [he]
    rw [he] at hself
    by_cases hm : word ∈ u :: v :: more
    · simpa [Pick.among, hm] using StandsFor.exact (hself.1 hm)
    · have hv : word ∉ t.following answer before := fun h => hm (hself.2 h)
      rcases Nat.eq_zero_or_pos before.length with hp | hp
      · simpa [Pick.among, hm, InvalidInput.ambiguous, hp, he] using
          Faults.ambiguousCommand hp hv hlen
      · simpa [Pick.among, hm, InvalidInput.ambiguous, Nat.ne_of_gt hp, he] using
          Faults.ambiguousArgument hp hv hlen

/-- **The expansion of the words `rest` behind an expanded line follows the rules for lines.** -/
theorem expandBehind_spec {typed before rest : List Text} (hb : t.Expands answer typed before)
    (hw : ∀ w ∈ typed ++ rest, IsWord w) :
    match (t.expandBehind (m := Id) (fun q => pure (answer q)) before rest).run with
    | .ok expanded => t.Expands answer (typed ++ rest) expanded
    | .error e => ∃ i, t.FailsAt answer (typed ++ rest) i e := by
  induction rest generalizing typed before with
  | nil => simpa [expandBehind] using hb
  | cons word rest ih =>
    have hspec := expandWord_spec hb (fun w hm => hw w (List.mem_append_left _ hm))
      (hw word (by simp))
    simp only [expandBehind, Id.run_bind]
    match hr : (t.expandWord (m := Id) (fun q => pure (answer q)) before word).run with
    | .ok w =>
      rw [hr] at hspec
      have := ih (hb.concat hspec) (by simpa using hw)
      rwa [List.append_assoc, List.singleton_append] at this
    | .error e =>
      rw [hr] at hspec
      refine ⟨before.length, before, word, ?_, ?_, hspec⟩
      · simp [hb.1]
      · simpa [hb.1] using hb

theorem expand_of_ne_nil {m : Type → Type} [Monad m] (ask : Q → m (List Text))
    (t : CommandTable Q H) {words : List Text} (hne : words ≠ []) :
    t.expand ask words = t.expandBehind ask [] words := by
  simp [expand, hne]

/-- A line that is resolved expands to its command, which is in the table, and its arguments. -/
theorem expands_of_resolve {line : Text} {r : Resolved H}
    (h : (t.resolve (m := Id) (fun q => pure (answer q)) line).run = .ok r) :
    (∃ c, t.get? r.command = some c ∧ r.handler = c.handler) ∧
      t.Expands answer line.words (r.command :: r.arguments) := by
  have hnil : t.Expands answer [] [] := .nil
  have hspec := expandBehind_spec hnil fun w (hw : w ∈ [] ++ line.words) => mem_words hw
  rw [List.nil_append] at hspec
  rcases Classical.em (line.words = []) with hempty | hne
  · simp [resolve, expand, hempty] at h
  simp only [resolve, Id.run_bind, expand_of_ne_nil _ t hne] at h
  match hr : (t.expandBehind (m := Id) (fun q => pure (answer q)) [] line.words).run with
  | .error e =>
    rw [hr] at h
    cases h
  | .ok [] =>
    rw [hr] at hspec
    exact absurd (List.length_eq_zero_iff.1 hspec.1.symm) hne
  | .ok (command :: arguments) =>
    rw [hr] at h hspec
    dsimp only [List.headD_cons] at h
    cases hget : t.get? command with
    | none =>
      rw [hget] at h
      cases h
    | some c =>
      rw [hget] at h
      cases h
      exact ⟨⟨c, hget, rfl⟩, hspec⟩

/-- A line that begins with the name of a command is resolved to this command. -/
theorem resolve_command {line command : Text} {typed : List Text} {c : Command Q H}
    (hwords : line.words = command :: typed) (hget : t.get? command = some c) {r : Resolved H}
    (h : (t.resolve (m := Id) (fun q => pure (answer q)) line).run = .ok r) :
    r = ⟨c.handler, command, r.arguments⟩ ∧
      t.Expands answer (command :: typed) (command :: r.arguments) := by
  obtain ⟨⟨found, hfound, hhandler⟩, hexpands⟩ := expands_of_resolve h
  rw [hwords] at hexpands
  have hmem : command ∈ t.following answer [] := by
    rw [following_nil]
    exact get?_isSome.1 (by rw [hget]; rfl)
  have hcommand : r.command = command := (hexpands.2 0 _ _ rfl rfl).unique (.exact hmem)
  rw [hcommand, hget] at hfound
  cases hfound
  rw [hcommand] at hexpands
  obtain ⟨handler, name, arguments⟩ := r
  obtain rfl : handler = c.handler := hhandler
  obtain rfl : name = command := hcommand
  exact ⟨rfl, hexpands⟩

end CommandTable

/-- **A line of words expands exactly if each of its words stands for one behind the expanded words
before it, and to these; otherwise it fails with the fault of its first word at fault.** -/
theorem CommandTable.expand_iff {Q H : Type} (answer : Q → List Text) (t : CommandTable Q H)
    {typed : List Text} (hne : typed ≠ []) (hw : ∀ w ∈ typed, IsWord w) :
    t.following answer [] = t.names ∧
    (∀ expanded, (t.expand (m := Id) (fun q => pure (answer q)) typed).run = .ok expanded ↔
      t.Expands answer typed expanded) ∧
    ∀ e, (t.expand (m := Id) (fun q => pure (answer q)) typed).run = .error e ↔
      ∃ i, t.FailsAt answer typed i e := by
  have hnil : t.Expands answer [] [] := Expands.nil
  have hspec := expandBehind_spec hnil hw
  rw [List.nil_append] at hspec
  rw [expand_of_ne_nil _ t hne]
  refine ⟨following_nil answer t, ?_⟩
  match hr : (t.expandBehind (m := Id) (fun q => pure (answer q)) [] typed).run with
  | .ok expanded =>
    rw [hr] at hspec
    refine ⟨fun u => ⟨?_, fun hu => ?_⟩, fun e => ⟨?_, ?_⟩⟩
    · rintro ⟨⟩
      exact hspec
    · rw [hspec.unique hu]
    · rintro ⟨⟩
    · rintro ⟨i, hi⟩
      exact absurd hi hspec.not_failsAt
  | .error e =>
    rw [hr] at hspec
    obtain ⟨i, hi⟩ := hspec
    refine ⟨fun u => ⟨?_, fun hu => absurd hi hu.not_failsAt⟩, fun f => ⟨?_, ?_⟩⟩
    · rintro ⟨⟩
    · rintro ⟨⟩
      exact ⟨i, hi⟩
    · rintro ⟨j, hj⟩
      rw [(hi.unique hj).2]

/-- A table with every kind of completer. -/
def sampleTable : CommandTable Unit Nat := .ofList [
  ⟨"quit", 0, none⟩, ⟨"list", 1, none⟩, ⟨"list-attr", 2, some (.words ["simple"])⟩,
  ⟨"set", 3, some (.slots (.writing [⟨"fec-type", false, "[rs|fc|none]"⟩,
    ⟨"oper-status", true, "[unknown|ready]"⟩]))⟩,
  ⟨"create", 4, some (.nested [("module", some (.asking ())), ("netif", none)])⟩]

theorem expand_iff_sampleTable :
    let answer : Unit → List Text := fun _ => ["location:1", "location:2"]
    let typed : List Text := ["se", "fec", "f", "x"]
    let short : List Text := ["cr", "mod", "loc"]
    (typed ≠ [] ∧ (∀ w ∈ typed, IsWord w) ∧
      sampleTable.Expands answer typed ["set", "fec-type", "fc", "x"]) ∧
    (short ≠ [] ∧ (∀ w ∈ short, IsWord w) ∧
      ∃ i, sampleTable.FailsAt answer short i
        (.ambiguousArgument ["location:1", "location:2"])) := by
  intro answer typed short
  have ht : typed ≠ [] ∧ ∀ w ∈ typed, IsWord w := by decide
  have hs : short ≠ [] ∧ ∀ w ∈ short, IsWord w := by decide
  refine ⟨⟨ht.1, ht.2, ?_⟩, hs.1, hs.2, ?_⟩
  · exact ((CommandTable.expand_iff answer sampleTable ht.1 ht.2).2.1 _).1 (by decide)
  · exact ((CommandTable.expand_iff answer sampleTable hs.1 hs.2).2.2 _).1 (by decide)

end TransponderShell
