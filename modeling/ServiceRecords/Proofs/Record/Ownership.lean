import ServiceRecords.Proofs.Json.Fields
import ServiceRecords.Proofs.Record.Placement

set_option autoImplicit false

/-!
# Entries and their owner

An entry is read back from its text (`Entry.ofText?_text`), so that the writer of an entry is
recognised in the store (`Layout.owns_text`). Every entry of a record resides where its service
is published and names the owner of the layout (`resides_of_record`, `owner_of_record`).
-/

namespace ServiceRecords

open Json

namespace Entry

variable {entry : Entry}

theorem isWritable_value (entry : Entry) : entry.value.IsWritable := by
  apply Value.isWritable_ofMembers
  simp only [List.forall_mem_append, List.forall_mem_cons]
  exact ⟨⟨⟨⟨.string _, .number _, by simp⟩, Value.isWritable_member? (fun _ => .number _) _⟩,
    Value.isWritable_member? (fun _ => .string _) _⟩,
    Value.isWritable_member? (fun _ => .string _) _⟩

theorem ofValue?_value (entry : Entry) : ofValue? entry.value = some entry := by
  obtain ⟨host, port, ttl, protocol, owner⟩ := entry
  cases ttl <;> cases protocol <;> cases owner <;>
    simp [ofValue?, value, Value.fields?_ofMembers, member?, Value.field?,
      Value.withDefault?]

theorem ofText?_text (entry : Entry) : ofText? entry.text = some entry := by
  unfold ofText? text
  rw [Value.ofText?_text (isWritable_value entry)]
  exact ofValue?_value entry

end Entry

theorem exists_mem_of_getElem?_ofList {α : Type} {pairs : List (String × α)} {key : String} {a : α}
    (found : (Std.ExtTreeMap.ofList pairs compare)[key]? = some a) : (key, a) ∈ pairs := by
  have general : ∀ (pairs : List (String × α)) (map : Std.ExtTreeMap String α),
      (map.insertMany pairs)[key]? = some a → (key, a) ∈ pairs ∨ map[key]? = some a := by
    intro pairs
    induction pairs with
    | nil =>
      intro map found
      exact .inr (by simpa using found)
    | cons pair rest ih =>
      intro map found
      rw [Std.ExtTreeMap.insertMany_cons] at found
      rcases ih _ found with member | found
      · exact .inl (List.mem_cons_of_mem _ member)
      · rw [Std.ExtTreeMap.getElem?_insert] at found
        split at found
        · rename_i same
          simp only [Std.LawfulEqCmp.compare_eq_iff_eq, Option.some.injEq] at same found
          exact .inl (by simp [← same, ← found])
        · exact .inr found
  rw [Std.ExtTreeMap.ofList_eq_insertMany_empty] at found
  rcases general pairs ∅ found with member | found
  · exact member
  · simp at found

/-- No key is listed twice. -/
theorem pairwise_of_nodup {α : Type} {pairs : List (String × α)}
    (distinct : (pairs.map Prod.fst).Nodup) :
    pairs.Pairwise fun a b => ¬compare a.1 b.1 = .eq := by
  rw [List.Nodup, List.pairwise_map] at distinct
  exact distinct.imp fun different same => different (Std.LawfulEqOrd.eq_of_compare same)

theorem getElem?_ofList_iff {α : Type} {pairs : List (String × α)} {key : String} {a : α}
    (distinct : (pairs.map Prod.fst).Nodup) :
    (Std.ExtTreeMap.ofList pairs compare)[key]? = some a ↔ (key, a) ∈ pairs := by
  refine ⟨exists_mem_of_getElem?_ofList, ?_⟩
  exact Std.ExtTreeMap.getElem?_ofList_of_mem Std.ReflOrd.compare_self (pairwise_of_nodup distinct)

/-- The entry that an endpoint asks for. -/
def Endpoint.wanted (owner : String) (ttl : Option UInt32) (endpoint : Endpoint) : Entry where
  host := Text.trim endpoint.host
  port := endpoint.port
  ttl := ttl
  protocol := some endpoint.protocol
  owner := some owner

theorem Endpoint.eq_wanted {owner name : String} {ttl : Option UInt32} {endpoint : Endpoint}
    {entry : Entry} (made : endpoint.entry owner ttl name = .ok entry) :
    entry = endpoint.wanted owner ttl := by
  unfold Endpoint.entry at made
  dsimp only at made
  split at made
  · cases made
  · split at made
    · cases made
    · cases made
      rfl

theorem namedEntries_eq_map {owner : String} {ttl : Option UInt32} {taken : List String}
    {endpoints : List Endpoint} {named : List (String × Entry)}
    (made : namedEntries owner ttl taken endpoints = .ok named) :
    named = endpoints.map (fun endpoint => (endpoint.name.toLower, endpoint.wanted owner ttl)) ∧
      ∀ endpoint ∈ endpoints, Dns.Label.IsValid endpoint.name := by
  induction endpoints generalizing taken named with
  | nil =>
    cases made
    simp
  | cons endpoint rest ih =>
    simp only [namedEntries, exceptBind_eq_ok, checkedLabel_eq_ok] at made
    obtain ⟨name, ⟨valid, rfl⟩, made⟩ := made
    split at made
    · cases made
    · simp only [exceptBind_eq_ok] at made
      obtain ⟨entry, first, others, following, made⟩ := made
      cases made
      obtain ⟨rfl, validRest⟩ := ih following
      rw [Endpoint.eq_wanted first, List.forall_mem_cons]
      exact ⟨rfl, valid, validRest⟩

namespace Layout

variable {layout : Layout} {service : Service} {record : Record} {x : String} {entry : Entry}

theorem record_eq_ok :
    layout.record service = .ok record ↔
      ∃ directory named, layout.directory service.key service.spec.zone = .ok directory ∧
        namedEntries layout.owner service.spec.ttl [] service.spec.endpoints = .ok named ∧
        ⟨directory, .ofList (named.map fun pair => (entryKey directory pair.1, pair.2)) compare⟩ =
          record := by
  unfold Layout.record
  simp [exceptBind_eq_ok, pure, Except.pure]

theorem directory_of_record (made : layout.record service = .ok record) :
    layout.directory service.key service.spec.zone = .ok record.directory := by
  obtain ⟨directory, named, found, -, rfl⟩ := record_eq_ok.mp made
  exact found

theorem spec_of_record (made : layout.record service = .ok record)
    (member : record.entries[x]? = some entry) :
    isDirectlyBelow record.directory x = true ∧ entry.owner = some layout.owner := by
  obtain ⟨directory, named, -, listed, rfl⟩ := record_eq_ok.mp made
  obtain ⟨rfl, valid⟩ := namedEntries_eq_map listed
  have present := exists_mem_of_getElem?_ofList member
  rw [List.map_map, List.mem_map] at present
  obtain ⟨endpoint, present, same⟩ := present
  obtain ⟨rfl, rfl⟩ := Prod.mk.inj same
  have named := (valid endpoint present).toLower
  exact ⟨isDirectlyBelow_iff.mpr ⟨_, rfl, named.ne_empty, named.not_mem (by decide)⟩, rfl⟩

theorem resides_of_record (made : layout.record service = .ok record)
    (member : record.entries[x]? = some entry) :
    layout.Resides service.key service.spec.zone x :=
  ⟨record.directory, directory_of_record made, (spec_of_record made member).1⟩

theorem owner_of_record (made : layout.record service = .ok record)
    (member : record.entries[x]? = some entry) : entry.owner = some layout.owner :=
  (spec_of_record made member).2

theorem decode_eq_ok {value : String} :
    Layout.decode x value = .ok entry ↔ Entry.ofText? value = some entry := by
  unfold Layout.decode
  cases Entry.ofText? value <;> simp

theorem owns_iff {value : String} :
    layout.owns value = true ↔
      ∃ entry, Entry.ofText? value = some entry ∧ entry.owner = some layout.owner := by
  unfold owns Entry.isOwnedBy
  cases Entry.ofText? value <;> simp

theorem owns_text : layout.owns entry.text = true ↔ entry.owner = some layout.owner := by
  simp [owns_iff, Entry.ofText?_text]

end Layout

end ServiceRecords
