import ServiceRecords.Proofs.Json.Grammar

set_option autoImplicit false

/-!
# Written values are read back

`Value.ofText?_text`: the text of a value is read as that value. The value must be writable: a
text that is half of a pair of units has no text, and a number is written by its digits only. What
is written for a token spells it (`spells_write`), so that the text of a value is one of its texts.
-/

namespace ServiceRecords.Json

namespace Number

theorem isDigit_of_mem_toDigits {n : Nat} {c : Char} (member : c ∈ Nat.toDigits 10 n) :
    isDigit c = true := by
  have digit := Nat.isDigit_of_mem_toDigits (by decide) (by decide) member
  simpa [isDigit, Char.isDigit, Char.le_def] using digit

theorem head?_toDigits {n : Nat} (positive : 0 < n) : (Nat.toDigits 10 n).head? ≠ some '0' := by
  induction n using Nat.strongRecOn with
  | ind n ih =>
    by_cases small : n < 10
    · rw [Nat.toDigits_of_lt_base small]
      have tested : ∀ n < 10, 0 < n → [n.digitChar].head? ≠ some '0' := by decide
      exact tested n small positive
    · have first := ih (n / 10) (by omega) (by omega)
      rw [Nat.toDigits_of_base_le (by decide) (by omega)]
      obtain ⟨c, digits, shape⟩ :=
        List.exists_cons_of_ne_nil (Nat.toDigits_ne_nil (b := 10) (n := n / 10))
      rw [shape] at first ⊢
      exact first

theorem isWhole_toDigits (n : Nat) : isWhole (Nat.toDigits 10 n) = true := by
  unfold isWhole
  rcases Nat.eq_zero_or_pos n with rfl | positive
  · decide
  · simp [head?_toDigits positive]

theorem spells_ofNat (n : Nat) : (ofNat n).Spells (ofNat n).write := by
  have digits : IsDigits (Nat.toDigits 10 n) :=
    ⟨Nat.toDigits_ne_nil, fun _ => isDigit_of_mem_toDigits⟩
  have spells : (ofNat n).Spells ([] ++ (Nat.toDigits 10 n ++ ([] ++ []))) :=
    .parts digits (isWhole_toDigits n) .absent .absent
  simpa [write, ofNat] using spells

end Number

namespace Piece

/-- A written character is spelled as one piece that names it. -/
theorem exists_spells_escape (c : Char) :
    ∃ piece : Piece, piece.Spells (escape c) ∧
      ∀ pieces named, Names pieces named → Names (piece :: pieces) (c :: named) := by
  by_cases special : c ∈ ['"', '\\', '\x08', '\x0c', '\n', '\r', '\t']
  · refine ⟨.character c, ?_, fun _ _ => .character⟩
    simp only [List.mem_cons, List.not_mem_nil, or_false] at special
    rcases special with rfl | rfl | rfl | rfl | rfl | rfl | rfl <;> exact .letter (by decide)
  · simp only [List.mem_cons, List.not_mem_nil, or_false, not_or] at special
    by_cases small : c.toNat < 0x20
    · refine ⟨.unit c.toNat, ?_, fun _ _ => .unit⟩
      have spells : Spells (.unit (((0 * 16 + 0) * 16 + c.toNat / 16) * 16 + c.toNat % 16))
          ['\\', 'u', '0', '0', hexDigit (c.toNat / 16), hexDigit (c.toNat % 16)] :=
        .unit (by decide) (by decide) ⟨by omega, .inl rfl⟩ ⟨by omega, .inl rfl⟩
      rw [show ((0 * 16 + 0) * 16 + c.toNat / 16) * 16 + c.toNat % 16 = c.toNat by omega] at spells
      simpa only [escape, special, small, if_false, if_true] using spells
    · refine ⟨.character c, ?_, fun _ _ => .character⟩
      simp only [escape, special, small, if_false]
      exact .plain special.1 special.2.1 (Nat.le_of_not_lt small)

theorem exists_spellAll_escape (cs : List Char) :
    ∃ pieces, SpellAll pieces (cs.flatMap escape) ∧ Names pieces cs := by
  induction cs with
  | nil => exact ⟨[], .nil, .nil⟩
  | cons c cs ih =>
    obtain ⟨pieces, spelled, names⟩ := ih
    obtain ⟨piece, spells, named⟩ := exists_spells_escape c
    exact ⟨piece :: pieces, .cons spells spelled, named _ _ names⟩

end Piece

namespace Token

theorem spells_number (n : Nat) : (number (.ofNat n)).Spells (number (.ofNat n)).write :=
  .number (Number.spells_ofNat n)

theorem spells_string (text : String) : (string (some text)).Spells (string (some text)).write := by
  obtain ⟨pieces, spelled, names⟩ := Piece.exists_spellAll_escape text.toList
  exact .string spelled names

/-- Tokens are written without any space. -/
theorem spellAll_write {tokens : List Token} (each : ∀ token ∈ tokens, token.Spells token.write) :
    SpellAll tokens (tokens.flatMap write) := by
  induction tokens with
  | nil => exact .nil (List.forall_mem_nil _)
  | cons token rest ih =>
    rw [List.forall_mem_cons] at each
    exact .cons (List.forall_mem_nil _) each.1 (ih each.2)

end Token

namespace Value

/-- Texts have characters throughout, and numbers have only digits. -/
inductive IsWritable : Value → Prop where
  | null : IsWritable null
  | boolean (truth : Bool) : IsWritable (boolean truth)
  | number (n : Nat) : IsWritable (ofNat n)
  | string (text : String) : IsWritable (ofString text)
  | array (items : List Value) (each : ∀ item ∈ items, IsWritable item) : IsWritable (array items)
  | object (members : List (Option String × Value)) (named : ∀ member ∈ members, member.1.isSome)
    (each : ∀ member ∈ members, IsWritable member.2) : IsWritable (object members)

variable {token : Token}

theorem mem_itemTokens {items : List Value} (member : token ∈ itemTokens items) :
    token = .comma ∨ ∃ item ∈ items, token ∈ item.tokens := by
  induction items with
  | nil => simp [itemTokens] at member
  | cons item others ih =>
    cases others with
    | nil => exact .inr ⟨item, by simp, by simpa [itemTokens] using member⟩
    | cons next others =>
      rw [itemTokens, List.mem_append, List.mem_cons] at member
      rcases member with own | rfl | following
      · exact .inr ⟨item, List.mem_cons_self .., own⟩
      · exact .inl rfl
      · rcases ih following with rfl | ⟨other, present, own⟩
        · exact .inl rfl
        · exact .inr ⟨other, List.mem_cons_of_mem _ present, own⟩

theorem mem_memberTokens {members : List (Option String × Value)}
    (member : token ∈ memberTokens members) :
    token = .comma ∨ token = .colon ∨
      ∃ written ∈ members, token = .string written.1 ∨ token ∈ written.2.tokens := by
  induction members with
  | nil => simp [memberTokens] at member
  | cons written others ih =>
    have own (member : token ∈ .string written.1 :: .colon :: written.2.tokens) :
        token = .comma ∨ token = .colon ∨
          ∃ other ∈ written :: others, token = .string other.1 ∨ token ∈ other.2.tokens := by
      rw [List.mem_cons, List.mem_cons] at member
      rcases member with name | rfl | value
      · exact .inr (.inr ⟨written, List.mem_cons_self .., .inl name⟩)
      · exact .inr (.inl rfl)
      · exact .inr (.inr ⟨written, List.mem_cons_self .., .inr value⟩)
    cases others with
    | nil => exact own member
    | cons next others =>
      rw [memberTokens, List.mem_append] at member
      rcases member with first | following
      · exact own first
      · rcases List.mem_cons.mp following with rfl | following
        · exact .inl rfl
        rcases ih following with rfl | rfl | ⟨other, present, found⟩
        · exact .inl rfl
        · exact .inr (.inl rfl)
        · exact .inr (.inr ⟨other, List.mem_cons_of_mem _ present, found⟩)

theorem spells_write {value : Value} (writable : value.IsWritable) :
    ∀ token ∈ value.tokens, token.Spells token.write := by
  induction writable with
  | null =>
    rw [tokens, List.forall_mem_singleton]
    exact .null
  | boolean truth =>
    rw [tokens, List.forall_mem_singleton]
    cases truth
    · exact .false
    · exact .true
  | number n =>
    rw [ofNat, tokens, List.forall_mem_singleton]
    exact Token.spells_number n
  | string text =>
    rw [ofString, tokens, List.forall_mem_singleton]
    exact Token.spells_string text
  | array items each ih =>
    intro token member
    simp only [tokens, List.cons_append, List.mem_cons, List.mem_append, List.not_mem_nil,
      or_false] at member
    rcases member with rfl | member | rfl
    · exact .openArray
    · rcases mem_itemTokens member with rfl | ⟨item, present, own⟩
      · exact .comma
      · exact ih item present token own
    · exact .closeArray
  | object members named each ih =>
    intro token member
    simp only [tokens, List.cons_append, List.mem_cons, List.mem_append, List.not_mem_nil,
      or_false] at member
    rcases member with rfl | member | rfl
    · exact .openObject
    · rcases mem_memberTokens member with rfl | rfl | ⟨written, present, rfl | own⟩
      · exact .comma
      · exact .colon
      · obtain ⟨text, shape⟩ := Option.isSome_iff_exists.mp (named written present)
        rw [shape]
        exact Token.spells_string text
      · exact ih written present token own
    · exact .closeObject

theorem isWrittenAs_text {value : Value} (writable : value.IsWritable) :
    value.IsWrittenAs value.text := by
  unfold IsWrittenAs text
  rw [String.toList_ofList]
  exact Token.spellAll_write (spells_write writable)

/-- A value with texts and natural numbers is read back from its text. -/
theorem ofText?_text {value : Value} (writable : value.IsWritable) :
    ofText? value.text = some value :=
  ofText?_eq_some.mpr (isWrittenAs_text writable)

end Value

end ServiceRecords.Json
