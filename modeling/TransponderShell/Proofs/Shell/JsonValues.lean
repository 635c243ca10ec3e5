import TransponderShell.Proofs.Json.RoundTrip
import TransponderShell.Proofs.Simulator.Delivered
import TransponderShell.Shell.Monitor

/-!
# JSON values on their way to the output

Reading an attribute shows the JSON text of its value as the daemon gives it. Following an attribute
reads this text and writes the value again, as a member of an object. The value stays what it is on
this way, and so does its text (`json_values_survive`).
-/

namespace TransponderShell

open Simulator

/-- The record of a reported value, member by member. -/
theorem Monitor.jsonRecord_eq (head : Json) (value : Text) :
    jsonRecord head value = "\x7b\"name\":" ++ head.render ++ ",\"value\":" ++
      (Json.ofTextOrString value).render ++ "\x7d" := by
  simp [jsonRecord, Json.render, Json.renderMembers, Json.quote, Json.escape]

/-- What heads the JSON record of a reported value: the name of the attribute that has the id, or
the id if no attribute has it. -/
inductive Monitor.HeadedBy (attributes : List Attribute) (id : Nat) : Json → Prop where
  | name {name : Text} (h : names attributes id = [name]) : HeadedBy attributes id (.string name)
  | id (h : names attributes id = []) : HeadedBy attributes id (.int id)

/-- The record holds the value that its text stands for. -/
theorem Monitor.HeadedBy.record_eq {attributes : List Attribute} {id : Nat} {head : Json}
    (h : HeadedBy attributes id head) (value : Text) :
    record attributes true ⟨id, value⟩ = "\x7b\"name\":" ++ head.render ++ ",\"value\":" ++
      (Json.ofTextOrString value).render ++ "\x7d" := by
  have hjson : record attributes true ⟨id, value⟩ = jsonRecord head value := by
    unfold record
    rcases h with h | h <;> rw [h]
  rw [hjson, jsonRecord_eq]

/-- **JSON values survive** on their way from the daemon to the output. Take a text that is not read
as floating point, or that is a whole number of 64 bits. In JSON the simulator gives it as a text
that holds no control character, hence no line break. Read again, this text is the value that the
attribute stands for: a truth value, a whole number, or else a string of the same characters. So the
record of a reported value holds the very text that is shown when the attribute is read. -/
theorem json_values_survive {v : Text}
    (hv : Binary64.ofText? v = none ∨ ∃ n, Json.IsWhole v n) :
    let text := encode true v
    (∀ c ∈ text, 0x20 ≤ c.toNat) ∧
    Json.ofTextOrString text = Json.ofAttribute v ∧
    (v = "true" → Json.ofAttribute v = .bool true) ∧
    (v = "false" → Json.ofAttribute v = .bool false) ∧
    (∀ n, Json.IsWhole v n → Json.ofAttribute v = .int n) ∧
    (v ≠ "true" → v ≠ "false" → (¬ ∃ n, Json.IsWhole v n) → Json.ofAttribute v = .string v) ∧
    (∀ attributes id head, Monitor.HeadedBy attributes id head →
      Monitor.record attributes true ⟨id, text⟩ =
        "\x7b\"name\":" ++ head.render ++ ",\"value\":" ++ text ++ "\x7d") ∧
    ∀ s₀ s, Initial s₀ → Reaches s₀ s → ∀ (handle : ObjectHandle) (object : LiveObject),
      s.object? handle.oid = some object → object.type = handle.type →
      ∀ d ∈ s.catalogue.of handle.type, object.values.get? d.name = some v →
      daemon.get handle d.name true s = (.ok text, s) := by
  intro text
  have hread : Json.ofTextOrString text = Json.ofAttribute v := by
    have hback : Json.ofText? text = some (Json.ofAttribute v) := Json.ofText?_render_ofAttribute hv
    rw [Json.ofTextOrString, hback]
    rfl
  refine ⟨Json.noControl_render _, hread, ?_, ?_, fun n hn => hn.ofAttribute_eq, ?_, ?_, ?_⟩
  · rintro rfl
    rfl
  · rintro rfl
    rfl
  · intro htrue hfalse hwhole
    exact Json.ofAttribute_eq_string htrue hfalse hwhole (hv.resolve_right hwhole)
  · intro attributes id head hhead
    rw [hhead.record_eq, hread]
    rfl
  · intro s₀ s h₀ h handle object hlive htype d hd hvalue
    exact get_eq (h.catalogue_eq ▸ h₀.distinct) hlive htype hd hvalue true

/-- A text that has to be escaped survives, a text that looks like JSON, the least whole number of
64 bits, and a value of the seed. -/
theorem json_values_survive_awkward :
    (let escaped : Text := "say \"1\"\\\n\x01"
    Json.ofTextOrString (encode true escaped) = .string escaped ∧
      Monitor.record [] true ⟨7, encode true escaped⟩ =
        "\x7b\"name\":7,\"value\":\"say \\\"1\\\"\\\\\\n\\u0001\"\x7d") ∧
    Json.ofTextOrString (encode true "null") = .string "null" ∧
    Json.ofTextOrString (encode true "-9223372036854775808") = .int (-9223372036854775808) ∧
    daemon.get ⟨.interface .network, 2⟩ "oper-status" true seed = (.ok "\"ready\"", seed) := by
  refine ⟨?_, ?_, ?_, ?_⟩
  · intro escaped
    have hvalue : Json.ofAttribute escaped = .string escaped := rfl
    obtain ⟨-, hread, -, -, -, -, hrecord, -⟩ :=
      json_values_survive (v := escaped) (Or.inl (by decide))
    exact ⟨hread.trans hvalue, hrecord [] 7 _ (.id rfl)⟩
  · exact (json_values_survive (v := "null") (Or.inl (by decide))).2.1
  · have hwhole : Json.IsWhole "-9223372036854775808" (-9223372036854775808) :=
      ⟨"9223372036854775808", by decide, List.all_eq_true.1 rfl, ⟨by decide, by decide⟩,
        Or.inr ⟨rfl, by decide⟩⟩
    obtain ⟨-, hread, -, -, hint, -⟩ := json_values_survive (Or.inr ⟨_, hwhole⟩)
    exact hread.trans (hint _ hwhole)
  · obtain ⟨-, -, -, -, -, -, -, hget⟩ :=
      json_values_survive (v := "ready") (Or.inl (by decide))
    exact hget seed seed .seed .refl ⟨.interface .network, 2⟩ _ rfl rfl
      ⟨⟨7, "oper-status", true, "[unknown|initialize|ready]"⟩, some "ready"⟩ (by decide) rfl

end TransponderShell
