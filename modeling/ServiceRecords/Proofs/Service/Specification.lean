import ServiceRecords.Proofs.Json.Fields

set_option autoImplicit false

/-!
# Specifications are read back

The text of a specification is read as that specification, whatever characters its zone, its hosts
and its names have (`Spec.ofText?_text`). So a specification that was read from any text settles
when it is written: reading and writing it again changes neither itself nor its text
(`Spec.settles_text`).
-/

namespace ServiceRecords

open Json

namespace Endpoint

theorem isWritable_value (endpoint : Endpoint) : endpoint.value.IsWritable := by
  apply Value.isWritable_ofMembers
  simp only [List.forall_mem_cons]
  exact ⟨.string _, .string _, .number _, .string _, by simp⟩

theorem ofValue?_value (endpoint : Endpoint) : ofValue? endpoint.value = some endpoint := by
  simp [ofValue?, value, Value.fields?_ofMembers, Value.field?, Value.withDefault?]

end Endpoint

namespace Spec

theorem endpoints?_value (endpoints : List Endpoint) :
    endpoints? (.array (endpoints.map Endpoint.value)) = some endpoints := by
  unfold endpoints?
  rw [Value.mapM_eq_some, List.map_map]
  exact List.map_congr_left fun endpoint _ => endpoint.ofValue?_value

theorem isWritable_value (spec : Spec) : spec.value.IsWritable := by
  apply Value.isWritable_ofMembers
  simp only [List.forall_mem_append, List.forall_mem_cons]
  refine ⟨⟨.string _, .array _ ?_, by simp⟩, Value.isWritable_member? (fun _ => .number _) _⟩
  rw [List.forall_mem_map]
  exact fun endpoint _ => endpoint.isWritable_value

theorem ofValue?_value (spec : Spec) : ofValue? spec.value = some spec := by
  obtain ⟨zone, endpoints, ttl⟩ := spec
  cases ttl <;>
    simp [ofValue?, value, Value.fields?_ofMembers, member?, Value.field?, Value.withDefault?,
      endpoints?_value]

theorem ofText?_text (spec : Spec) : ofText? spec.text = some spec := by
  unfold ofText? text
  rw [Value.ofText?_text (isWritable_value spec)]
  exact ofValue?_value spec

/-- Every specification is read back from its text. One that was read from another text becomes what
it is by the first writing: when it is read and written again, it has the same text. -/
theorem settles_text :
    (∀ spec : Spec, ofText? spec.text = some spec) ∧
    ∀ text spec, ofText? text = some spec →
      ofText? spec.text = some spec ∧
        ∀ again, ofText? spec.text = some again → again.text = spec.text := by
  refine ⟨ofText?_text, fun text spec _ => ⟨ofText?_text spec, ?_⟩⟩
  intro again read
  rw [ofText?_text, Option.some.injEq] at read
  rw [read]

/-- An array whose last field is missing, with one endpoint as an array and one as an object that
has a foreign member and its protocol in the longer form. -/
def looseText : String :=
  "[\"z\\u002e\", [[\"a\",\"h\\n\",1],\x7b\"port\":2,\"host\":\"i\",\"x\":[null],\"name\":\"b\"," ++
  "\"protocol\":\x7b\"udp\":null\x7d\x7d]]"

theorem settles_text_loose :
    ∃ spec, ofText? looseText = some spec ∧ ofText? spec.text = some spec ∧
      spec.text = "\x7b\"zone\":\"z.\",\"endpoints\":[\x7b\"name\":\"a\",\"host\":\"h\\n\"," ++
        "\"port\":1,\"protocol\":\"grpc\"\x7d,\x7b\"name\":\"b\",\"host\":\"i\",\"port\":2," ++
        "\"protocol\":\"udp\"\x7d]\x7d" := by
  have read : ofText? looseText =
      some ⟨"z.", [⟨"a", "h\n", 1, .grpc⟩, ⟨"b", "i", 2, .udp⟩], none⟩ := by
    decide +kernel
  exact ⟨_, read, (settles_text.2 _ _ read).1, by decide +kernel⟩

end Spec

end ServiceRecords
