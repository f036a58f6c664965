import ServiceRecords.Proofs.Json.Grammar
import ServiceRecords.Proofs.Store.Writes

set_option autoImplicit false

/-!
# Entries in other words

A stored text can show an entry in other words than those that are written for it: with its members
in another order and among others, with null for what is absent, and as any JSON text of such an
object (`Entry.IsShownBy`). All these texts are taken for the entry, and a text that says something
twice is taken for none (`Layout.reads_presentations`). Each field is looked up on its own
(`Entry.IsReadFrom`), and to each of them the ways to show an entry are the same.
-/

namespace ServiceRecords

open Json

namespace Entry

variable {entry : Entry} {members members' : List (String × Value)} {name text : String}

def fieldNames : List String := ["host", "port", "ttl", "protocol", "owner"]

/-- The fields that may be null, which says as little as their absence. -/
def nullable : List String := ["ttl", "protocol", "owner"]

/-- The members of an object that says of an entry what its own text says. -/
inductive IsShownBy (entry : Entry) : List (String × Value) → Prop
  | own {members : List (String × Value)} (written : entry.value = .ofMembers members) :
      IsShownBy entry members
  | foreign {name : String} {value : Value} {members : List (String × Value)}
      (unknown : name ∉ fieldNames) (shown : IsShownBy entry members) :
      IsShownBy entry ((name, value) :: members)
  | null {name : String} {members : List (String × Value)} (optional : name ∈ nullable)
      (absent : ∀ member ∈ members, member.1 ≠ name) (shown : IsShownBy entry members) :
      IsShownBy entry ((name, .null) :: members)
  | reordered {members members' : List (String × Value)} (same : members.Perm members')
      (shown : IsShownBy entry members) : IsShownBy entry members'

/-- Each field of the entry is read from the members of its name. -/
structure IsReadFrom (entry : Entry) (members : List (String × Value)) : Prop where
  host : (Value.field? members "host").bind (·.bind Value.string?) = some entry.host
  port : (Value.field? members "port").bind (Value.withDefault? 0 port?) = some entry.port
  ttl : (Value.field? members "ttl").bind (Value.optional? ttl?) = some entry.ttl
  protocol : (Value.field? members "protocol").bind (Value.optional? Protocol.ofValue?) =
    some entry.protocol
  owner : (Value.field? members "owner").bind (Value.optional? Value.string?) = some entry.owner

theorem ofValue?_eq_some :
    ofValue? (.ofMembers members) = some entry ↔ entry.IsReadFrom members := by
  unfold ofValue?
  rw [Value.fields?_ofMembers]
  constructor
  · intro read
    split at read
    · rename_i found
      rw [Value.mapM_eq_some] at found
      simp only [List.map_cons, List.map_nil, List.cons.injEq, and_true] at found
      obtain ⟨host, port, ttl, protocol, owner⟩ := found
      simp only [bind, pure, Option.bind_eq_some_iff, Option.some.injEq] at read
      obtain ⟨_, _, _, _, _, _, _, _, _, _, rfl⟩ := read
      constructor <;> simp [*]
    · cases read
  · rintro ⟨host, port, ttl, protocol, owner⟩
    simp only [Option.bind_eq_some_iff] at host port ttl protocol owner
    obtain ⟨_, host, _, rfl, _⟩ := host
    obtain ⟨_, port, _⟩ := port
    obtain ⟨_, ttl, _⟩ := ttl
    obtain ⟨_, protocol, _⟩ := protocol
    obtain ⟨_, owner, _⟩ := owner
    simp [*]

/-- What an object says elsewhere makes no difference. -/
theorem IsReadFrom.congr (read : entry.IsReadFrom members)
    (same : ∀ name ∈ fieldNames, Value.field? members' name = Value.field? members name) :
    entry.IsReadFrom members' := by
  simp only [fieldNames, List.forall_mem_cons] at same
  obtain ⟨host, port, ttl, protocol, owner, -⟩ := same
  exact ⟨host ▸ read.host, port ▸ read.port, ttl ▸ read.ttl, protocol ▸ read.protocol,
    owner ▸ read.owner⟩

theorem optional?_cons_null {α : Type} (read : Value → Option α)
    (absent : ∀ member ∈ members, member.1 ≠ name) (field : String) :
    (Value.field? ((name, .null) :: members) field).bind (Value.optional? read) =
      (Value.field? members field).bind (Value.optional? read) := by
  by_cases same : name = field
  · subst same
    rw [Value.field?_cons_self absent, Value.field?_of_absent absent]
    rfl
  · rw [Value.field?_cons_of_ne same]

theorem IsReadFrom.cons_null (read : entry.IsReadFrom members) (optional : name ∈ nullable)
    (absent : ∀ member ∈ members, member.1 ≠ name) :
    entry.IsReadFrom ((name, .null) :: members) where
  host := by
    rw [Value.field?_cons_of_ne (ne_of_mem_of_not_mem optional (by decide))]
    exact read.host
  port := by
    rw [Value.field?_cons_of_ne (ne_of_mem_of_not_mem optional (by decide))]
    exact read.port
  ttl := by rw [optional?_cons_null _ absent, read.ttl]
  protocol := by rw [optional?_cons_null _ absent, read.protocol]
  owner := by rw [optional?_cons_null _ absent, read.owner]

theorem isReadFrom_of_isShownBy (shown : entry.IsShownBy members) : entry.IsReadFrom members := by
  -- Whoever wrote the members began with those of the entry itself.
  induction shown with
  | own written => rw [← ofValue?_eq_some, ← written, ofValue?_value]
  | foreign unknown _ ih =>
    exact ih.congr fun name known =>
      Value.field?_cons_of_ne fun same => unknown (same ▸ known)
  | null optional absent _ ih => exact ih.cons_null optional absent
  | reordered same _ ih => exact ih.congr fun name _ => (Value.field?_perm same name).symm

theorem ofText?_of_isShownBy (shown : entry.IsShownBy members)
    (written : (Value.ofMembers members).IsWrittenAs text) : ofText? text = some entry := by
  unfold ofText?
  rw [Value.ofText?_eq_some.mpr written, Option.bind_some, ofValue?_eq_some]
  exact isReadFrom_of_isShownBy shown

theorem ofText?_of_repeated (known : name ∈ fieldNames)
    (repeated : 2 ≤ (members.map Prod.fst).count name)
    (written : (Value.ofMembers members).IsWrittenAs text) : ofText? text = none := by
  unfold ofText?
  rw [Value.ofText?_eq_some.mpr written, Option.bind_some, Option.eq_none_iff_forall_ne_some]
  intro entry found
  obtain ⟨host, port, ttl, protocol, owner⟩ := ofValue?_eq_some.mp found
  have unread := Value.field?_of_repeated repeated
  simp only [fieldNames, List.mem_cons, List.not_mem_nil, or_false] at known
  rcases known with rfl | rfl | rfl | rfl | rfl
  · simp [unread] at host
  · simp [unread] at port
  · simp [unread] at ttl
  · simp [unread] at protocol
  · simp [unread] at owner

end Entry

namespace Changes

variable {layout : Layout} {desired : Std.ExtTreeMap String Entry}
  {current before after : List (String × String)} {x text text' : String} {entry : Entry}

theorem valueOf?_append (before after : List (String × String)) (key : String) :
    valueOf? (before ++ after) key = (valueOf? after key).or (valueOf? before key) := by
  unfold valueOf?
  rw [List.reverse_append, List.lookup_append]

theorem valueOf?_middle (before after : List (String × String)) (x text key : String) :
    valueOf? (before ++ (x, text) :: after) key =
      (valueOf? after key).or (if key = x then some text else valueOf? before key) := by
  rw [List.append_cons, valueOf?_append, valueOf?_append]
  by_cases same : key = x
  · simp [valueOf?, same]
  · have other : (key == x) = false := by simpa using same
    simp [valueOf?, other, same]

theorem valueOf?_of_absent (absent : x ∉ current.map Prod.fst) : valueOf? current x = none := by
  unfold valueOf?
  rw [List.lookup_eq_none_iff]
  rintro ⟨key, text⟩ member
  have different : x ≠ key := by
    rintro rfl
    exact absent (List.mem_map_of_mem (List.mem_reverse.mp member))
  simpa using different

theorem holds_eq (current : List (String × String)) (key : String) (entry : Entry) :
    holds current key entry = ((valueOf? current key).bind Entry.ofText? == some entry) := by
  unfold holds
  cases valueOf? current key <;> rfl

/-- What a listing holds does not depend on the words. -/
theorem holds_congr (same : Entry.ofText? text = Entry.ofText? text') (key : String) :
    holds (before ++ (x, text) :: after) key entry =
      holds (before ++ (x, text') :: after) key entry := by
  rw [holds_eq, holds_eq, valueOf?_middle, valueOf?_middle]
  cases valueOf? after key with
  | some last => rfl
  | none =>
    split
    · simp [same]
    · rfl

theorem between_congr (same : Entry.ofText? text = Entry.ofText? text') :
    between layout desired (before ++ (x, text) :: after) =
      between layout desired (before ++ (x, text') :: after) := by
  have owned : layout.owns text = layout.owns text' := by
    unfold Layout.owns Entry.isOwnedBy
    rw [same]
  unfold between
  simp only [holds_congr same, List.filter_append, List.filter_cons, owned, List.map_append]
  congr 2
  split <;> rfl

theorem not_mem_puts (wanted : desired[x]? = some entry) (read : Entry.ofText? text = some entry)
    (last : x ∉ after.map Prod.fst) (value : String) :
    (x, value) ∉ (between layout desired (before ++ (x, text) :: after)).puts := by
  intro put
  obtain ⟨missing, desiring, unheld, -⟩ := mem_puts.mp put
  rw [wanted] at desiring
  cases desiring
  simp [holds_eq, valueOf?_middle, valueOf?_of_absent last, read] at unheld

end Changes

namespace Layout

variable {layout : Layout} {text : String} {entry : Entry}

/-- The text is taken for the entry: it is read as the entry, it belongs to whom the entry's own
text belongs to, and wherever it is listed the changes are those that the entry's own text would
lead to. Nothing is put in its place where the entry is desired. -/
structure TakesFor (layout : Layout) (text : String) (entry : Entry) : Prop where
  reads : ∀ x, decode x text = .ok entry
  owns : layout.owns text = layout.owns entry.text
  changes : ∀ desired before x after,
    Changes.between layout desired (before ++ (x, text) :: after) =
      Changes.between layout desired (before ++ (x, entry.text) :: after)
  leaves : ∀ (desired : Std.ExtTreeMap String Entry) before x after,
    desired[x]? = some entry → x ∉ after.map Prod.fst →
      ∀ value, (x, value) ∉ (Changes.between layout desired (before ++ (x, text) :: after)).puts

theorem takesFor_of_ofText? (read : Entry.ofText? text = some entry) :
    layout.TakesFor text entry := by
  have same : Entry.ofText? text = Entry.ofText? entry.text := by
    rw [read, Entry.ofText?_text]
  constructor
  case reads => exact fun x => decode_eq_ok.mpr read
  case owns =>
    unfold owns Entry.isOwnedBy
    rw [same]
  case changes => exact fun desired before x after => Changes.between_congr same
  case leaves => exact fun desired before x after wanted => Changes.not_mem_puts wanted read

/-- Every JSON text that shows an entry is taken for it, however it does that, and a text with a
field that occurs twice is not read and not owned. -/
theorem reads_presentations (layout : Layout) :
    (∀ (entry : Entry) members text, entry.IsShownBy members →
      (Value.ofMembers members).IsWrittenAs text → layout.TakesFor text entry) ∧
    ∀ members text name, name ∈ Entry.fieldNames → 2 ≤ (members.map Prod.fst).count name →
      (Value.ofMembers members).IsWrittenAs text →
      (∀ x, decode x text = .error (.malformedValue x)) ∧ layout.owns text = false := by
  constructor
  · intro entry members text shown written
    exact takesFor_of_ofText? (Entry.ofText?_of_isShownBy shown written)
  · intro members text name known repeated written
    have unread := Entry.ofText?_of_repeated known repeated written
    constructor
    · intro x
      simp [decode, unread]
    · simp [owns, Entry.isOwnedBy, unread]

/-- Members that show an entry: without its protocol and with null for its time to live, and next to
a note with a number in another notation, half a character and an object in an array. -/
def notedMembers : List (String × Value) :=
  [("x y", .array [.number ⟨true, ['1'], some ['5', '0'], some (false, ['7'])⟩, .string none,
      .object [(none, .null), (some "port", .ofNat 2)]]),
    ("ttl", .null), ("port", .ofNat 1), ("host", .ofString "h"),
    ("owner", .ofString "rpc-controller")]

def notedText : String :=
  "\t\x7b \"x\\u0020y\":[-1.50E+7, \"\\ud800\",\x7b\"\\uDFFF\":null,\"port\":2\x7d],\n" ++
  "\"ttl\" : null,\"port\":1,\"\\u0068ost\":\"h\",\"owner\":\"rpc-controller\"\x7d "

theorem reads_presentations_noted :
    TakesFor {} notedText { host := "h", port := 1, owner := some "rpc-controller" } ∧
    owns {} notedText = true ∧
    owns {} "\x7b\"host\":\"h\",\"owner\":\"rpc-controller\",\"ow\\u006eer\":null\x7d" = false := by
  obtain ⟨shown, repeated⟩ := reads_presentations {}
  let entry : Entry := { host := "h", port := 1, owner := some "rpc-controller" }
  have shows : entry.IsShownBy notedMembers :=
    .foreign (by decide) (.null (by decide) (by simp) (.reordered (.swap ..) (.own rfl)))
  have written : (Value.ofMembers notedMembers).IsWrittenAs notedText :=
    Token.spellAll_of_scan (by decide +kernel)
  have taken := shown entry notedMembers notedText shows written
  refine ⟨taken, ?_, (repeated [("host", .ofString "h"), ("owner", .ofString "rpc-controller"),
    ("owner", .null)] _ "owner" (by decide) (by decide)
    (Token.spellAll_of_scan (by decide +kernel))).2⟩
  rw [taken.owns, owns_text]

end Layout

end ServiceRecords
