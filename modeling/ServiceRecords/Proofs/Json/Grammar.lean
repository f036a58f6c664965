import ServiceRecords.Json.Value
import ServiceRecords.Proofs.Json.Spelling

set_option autoImplicit false

/-!
# Texts of values

`Value.ofText?_eq_some`: a text is read as a value just when it spells the tokens of the value.
The tokens of a value lead the reader from where the value may begin to what follows it, with the
stack of open containers left as it was (`reads`). The other way round, the containers that are open
hold all tokens that have been read (`consumed_of_run?`), so that no other tokens make the value.
-/

namespace ServiceRecords.Json.Value

@[induction_eliminator]
theorem induction {motive : Value → Prop} (null : motive .null)
    (boolean : ∀ truth, motive (.boolean truth)) (number : ∀ n, motive (.number n))
    (string : ∀ text, motive (.string text))
    (array : ∀ items, (∀ item ∈ items, motive item) → motive (.array items))
    (object : ∀ members, (∀ member ∈ members, motive member.2) → motive (.object members))
    (value : Value) : motive value :=
  match value with
  | .null => null
  | .boolean truth => boolean truth
  | .number n => number n
  | .string text => string text
  | .array items => array items fun item _ =>
    induction null boolean number string array object item
  | .object members => object members fun (_, inner) _ =>
    induction null boolean number string array object inner
decreasing_by
  all_goals
    have smaller := List.sizeOf_lt_of_mem ‹_›
    simp_wf
    grind

/-- A text of the value: its tokens, spelled in any way and with any space around them. -/
def IsWrittenAs (value : Value) (text : String) : Prop := Token.SpellAll value.tokens text.toList

variable {value : Value} {tokens : List Token} {reading reading' : Reading}

namespace Reading

theorem run?_cons (reading : Reading) (token : Token) (tokens : List Token) :
    reading.run? (token :: tokens) = (reading.step? token).bind (·.run? tokens) := by
  simp [run?, List.foldlM_cons, bind]

end Reading

/-! ### The tokens of a value are read -/

/-- The tokens of a value lead from where it may begin to what follows it. -/
def Reads (value : Value) : Prop :=
  ∀ opened rest,
    Reading.run? ⟨opened, .value⟩ (value.tokens ++ rest) =
      Reading.run? ⟨opened, .follow value⟩ rest

theorem reads_of_token {token : Token} (single : value.tokens = [token])
    (begins : ∀ opened, Reading.begin? opened token = some ⟨opened, .follow value⟩) :
    value.Reads := by
  intro opened rest
  rw [single, List.singleton_append, Reading.run?_cons]
  simp [Reading.step?, begins]

theorem exists_tokens_eq_cons (value : Value) :
    ∃ token rest, value.tokens = token :: rest ∧ token ≠ .closeArray := by
  cases value <;> simp [Value.tokens]

theorem exists_itemTokens_eq_append (item : Value) (others : List Value) :
    ∃ rest, itemTokens (item :: others) = item.tokens ++ rest := by
  cases others with
  | nil => exact ⟨[], by simp [itemTokens]⟩
  | cons next others => exact ⟨_, itemTokens.eq_3 item next others⟩

theorem exists_memberTokens_eq_cons (name : Option String) (value : Value)
    (others : List (Option String × Value)) :
    ∃ rest, memberTokens ((name, value) :: others) = .string name :: rest := by
  cases others with
  | nil => exact ⟨_, memberTokens.eq_2 name value⟩
  | cons next others => exact ⟨_, memberTokens.eq_3 name value next others⟩

/-- The first item of an array is read like any other value. -/
theorem run?_firstItem (value : Value) (opened : List Partial) (rest : List Token) :
    Reading.run? ⟨.array [] :: opened, .firstItem⟩ (value.tokens ++ rest) =
      Reading.run? ⟨.array [] :: opened, .value⟩ (value.tokens ++ rest) := by
  obtain ⟨token, others, shape, other⟩ := exists_tokens_eq_cons value
  rw [shape, List.cons_append, Reading.run?_cons, Reading.run?_cons]
  cases token <;> first
    | exact absurd rfl other
    | rfl

theorem run?_itemTokens {item : Value} {others : List Value}
    (each : ∀ value ∈ item :: others, value.Reads) (done : List Value) (opened : List Partial)
    (rest : List Token) :
    Reading.run? ⟨.array done :: opened, .value⟩
        (itemTokens (item :: others) ++ .closeArray :: rest) =
      Reading.run? ⟨opened, .follow (.array (done.reverse ++ item :: others))⟩ rest := by
  induction others generalizing item done with
  | nil =>
    rw [itemTokens, each item (List.mem_cons_self ..), Reading.run?_cons]
    simp [Reading.step?]
  | cons next others ih =>
    rw [itemTokens, List.append_assoc, each item (List.mem_cons_self ..), List.cons_append,
      Reading.run?_cons]
    simp only [Reading.step?, Option.bind_some]
    rw [ih fun value member => each value (List.mem_cons_of_mem _ member)]
    simp

theorem run?_memberTokens {name : Option String} {value : Value}
    {others : List (Option String × Value)}
    (each : ∀ member ∈ (name, value) :: others, member.2.Reads)
    (done : List (Option String × Value)) (opened : List Partial) (rest : List Token) :
    Reading.run? ⟨.object done :: opened, .name⟩
        (memberTokens ((name, value) :: others) ++ .closeObject :: rest) =
      Reading.run? ⟨opened, .follow (.object (done.reverse ++ (name, value) :: others))⟩ rest := by
  induction others generalizing name value done with
  | nil =>
    rw [memberTokens, List.cons_append, List.cons_append, Reading.run?_cons]
    simp only [Reading.step?, Option.bind_some]
    rw [Reading.run?_cons]
    simp only [Reading.step?, Option.bind_some]
    rw [each _ (List.mem_cons_self ..), Reading.run?_cons]
    simp [Reading.step?]
  | cons next others ih =>
    rw [memberTokens, List.append_assoc, List.cons_append, List.cons_append, Reading.run?_cons]
    simp only [Reading.step?, Option.bind_some]
    rw [Reading.run?_cons]
    simp only [Reading.step?, Option.bind_some]
    rw [each _ (List.mem_cons_self ..), List.cons_append, Reading.run?_cons]
    simp only [Reading.step?, Option.bind_some]
    rw [ih fun member present => each member (List.mem_cons_of_mem _ present)]
    simp

theorem reads (value : Value) : value.Reads := by
  induction value with
  | null => exact reads_of_token (by rw [Value.tokens]) fun _ => rfl
  | boolean truth => exact reads_of_token (by rw [Value.tokens]) fun _ => rfl
  | number n => exact reads_of_token (by rw [Value.tokens]) fun _ => rfl
  | string text => exact reads_of_token (by rw [Value.tokens]) fun _ => rfl
  | array items ih =>
    intro opened rest
    rw [Value.tokens, List.append_assoc, List.cons_append, Reading.run?_cons]
    simp only [Reading.step?, Reading.begin?, Option.bind_some]
    cases items with
    | nil =>
      rw [itemTokens, List.nil_append, List.singleton_append, Reading.run?_cons]
      rfl
    | cons item others =>
      obtain ⟨tail, shape⟩ := exists_itemTokens_eq_append item others
      have whole := run?_itemTokens ih [] opened rest
      rw [shape, List.append_assoc] at whole
      rw [shape, List.append_assoc, List.singleton_append, run?_firstItem, whole]
      rfl
  | object members ih =>
    intro opened rest
    rw [Value.tokens, List.append_assoc, List.cons_append, Reading.run?_cons]
    simp only [Reading.step?, Reading.begin?, Option.bind_some]
    cases members with
    | nil =>
      rw [memberTokens, List.nil_append, List.singleton_append, Reading.run?_cons]
      rfl
    | cons member others =>
      obtain ⟨tail, shape⟩ := exists_memberTokens_eq_cons member.1 member.2 others
      have whole := run?_memberTokens ih [] opened rest
      rw [shape, List.cons_append, Reading.run?_cons] at whole
      rw [shape, List.cons_append, Reading.run?_cons]
      exact whole

/-! ### What has been read -/

/-- The tokens of an open container up to its next item or member. -/
def Partial.consumed : Partial → List Token
  | .array items => .openArray :: items.reverse.flatMap fun item => item.tokens ++ [.comma]
  | .object members =>
    .openObject :: members.reverse.flatMap fun (name, value) =>
      .string name :: .colon :: value.tokens ++ [.comma]
  | .member members name =>
    .openObject :: (members.reverse.flatMap fun (name, value) =>
      .string name :: .colon :: value.tokens ++ [.comma]) ++ [.string name, .colon]

/-- The tokens that have led from the beginning to here. -/
def Reading.consumed : Reading → List Token
  | ⟨opened, .colon name⟩ => opened.reverse.flatMap Partial.consumed ++ [.string name]
  | ⟨opened, .follow value⟩ => opened.reverse.flatMap Partial.consumed ++ value.tokens
  | ⟨opened, _⟩ => opened.reverse.flatMap Partial.consumed

theorem itemTokens_concat (items : List Value) (last : Value) :
    itemTokens (items ++ [last]) =
      (items.flatMap fun item => item.tokens ++ [.comma]) ++ last.tokens := by
  induction items with
  | nil => simp [itemTokens]
  | cons item others ih =>
    obtain ⟨next, rest, shape⟩ := List.exists_cons_of_ne_nil
      (List.append_ne_nil_of_right_ne_nil others (List.cons_ne_nil last []))
    rw [shape] at ih
    rw [List.cons_append, shape, itemTokens, ih]
    simp

theorem memberTokens_concat (members : List (Option String × Value)) (name : Option String)
    (last : Value) :
    memberTokens (members ++ [(name, last)]) =
      (members.flatMap fun (name, value) => .string name :: .colon :: value.tokens ++ [.comma]) ++
        .string name :: .colon :: last.tokens := by
  induction members with
  | nil => simp [memberTokens]
  | cons member others ih =>
    obtain ⟨next, rest, shape⟩ := List.exists_cons_of_ne_nil
      (List.append_ne_nil_of_right_ne_nil others (List.cons_ne_nil (name, last) []))
    rw [shape] at ih
    rw [List.cons_append, shape, memberTokens, ih]
    simp

theorem consumed_of_begin? {opened : List Partial} {token : Token}
    (begun : Reading.begin? opened token = some reading) :
    reading.consumed = opened.reverse.flatMap Partial.consumed ++ [token] := by
  unfold Reading.begin? at begun
  split at begun <;> cases begun <;> simp [Reading.consumed, Partial.consumed, Value.tokens]

theorem consumed_of_step? {token : Token} (stepped : reading.step? token = some reading') :
    reading'.consumed = reading.consumed ++ [token] := by
  unfold Reading.step? at stepped
  split at stepped
  case h_1 | h_3 => exact consumed_of_begin? stepped
  case h_12 => cases stepped
  all_goals
    cases stepped
    simp [Reading.consumed, Partial.consumed, Value.tokens, itemTokens, memberTokens,
      itemTokens_concat, memberTokens_concat]

theorem consumed_of_run? (run : reading.run? tokens = some reading') :
    reading'.consumed = reading.consumed ++ tokens := by
  induction tokens generalizing reading with
  | nil =>
    cases run
    simp
  | cons token rest ih =>
    rw [Reading.run?_cons] at run
    obtain ⟨next, stepped, run⟩ := Option.bind_eq_some_iff.mp run
    rw [ih run, consumed_of_step? stepped, List.append_assoc, List.singleton_append]

theorem ofTokens?_eq_some : ofTokens? tokens = some value ↔ tokens = value.tokens := by
  unfold ofTokens?
  constructor
  · intro found
    obtain ⟨⟨opened, expected⟩, run, finished⟩ := Option.bind_eq_some_iff.mp found
    unfold Reading.finish? at finished
    split at finished
    · rename_i shape
      cases shape
      cases finished
      have consumed := consumed_of_run? run
      simpa [Reading.consumed, Reading.start] using consumed.symm
    · cases finished
  · rintro rfl
    have read := reads value [] []
    rw [List.append_nil] at read
    rw [Reading.start, read]
    rfl

/-! ### Texts -/

theorem follows_of_number {n : Number} (stepped : reading.step? (.number n) = some reading') :
    ∃ opened, reading' = ⟨opened, .follow (.number n)⟩ := by
  unfold Reading.step? at stepped
  split at stepped
  case h_1 | h_3 => exact ⟨_, (Option.some.inj stepped).symm⟩
  case h_12 => cases stepped
  all_goals contradiction

/-- Where a value has ended there is no place for a number. -/
theorem closes_of_follow {opened : List Partial} {token : Token}
    (stepped : Reading.step? ⟨opened, .follow value⟩ token = some reading) :
    token = .comma ∨ token = .closeArray ∨ token = .closeObject := by
  unfold Reading.step? at stepped
  split at stepped
  all_goals simp_all

/-- No number is followed by another one in what can be read, so that every token ends. -/
theorem scan_of_run? {cs : List Char} (spelled : Token.SpellAll tokens cs)
    (run : reading.run? tokens = some reading') : Token.scan cs = some tokens := by
  induction spelled generalizing reading with
  | nil blank =>
    have scanned := Token.scan_spaces blank []
    rwa [List.append_nil, Token.scan] at scanned
  | cons blank spells following ih =>
    rw [Reading.run?_cons] at run
    obtain ⟨next, stepped, run⟩ := Option.bind_eq_some_iff.mp run
    rw [Token.scan_spaces blank, Token.scan_spelled spells, ih run, Option.map_some]
    rintro n rfl
    obtain ⟨opened, rfl⟩ := follows_of_number stepped
    apply following.ends
    intro token first
    obtain ⟨others, rfl⟩ := List.head?_eq_some_iff.mp first
    rw [Reading.run?_cons] at run
    obtain ⟨_, closed, -⟩ := Option.bind_eq_some_iff.mp run
    exact closes_of_follow closed

/-- A text is read as a value just when it is a text of the value. -/
theorem ofText?_eq_some {text : String} : ofText? text = some value ↔ value.IsWrittenAs text := by
  unfold ofText? IsWrittenAs
  constructor
  · intro found
    obtain ⟨tokens, scanned, found⟩ := Option.bind_eq_some_iff.mp found
    rw [← ofTokens?_eq_some.mp found]
    exact Token.spellAll_of_scan scanned
  · intro spelled
    have read := reads value [] []
    rw [List.append_nil] at read
    rw [scan_of_run? spelled read, Option.bind_some]
    exact ofTokens?_eq_some.mpr rfl

end ServiceRecords.Json.Value
