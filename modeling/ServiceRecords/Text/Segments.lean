set_option autoImplicit false

/-!
Texts made of segments between a separator character: `segments` takes a text apart and
`join` puts it together. `join_segments` and `segments_join` say that they are inverse as
long as no segment holds the separator.
-/

namespace ServiceRecords.Text

/-- The segments of a text between the occurrences of `separator`, in order; never none. -/
def segments (separator : Char) (text : String) : List String :=
  (text.toList.splitOn separator).map .ofList

/-- The segments written one after another with `separator` between them. -/
def join (separator : Char) (parts : List String) : String :=
  String.singleton separator |>.intercalate parts

/-- What follows `start` in `text`, when `text` begins with it. -/
def after? (start text : String) : Option String :=
  (start.toList.isPrefixOf? text.toList).map .ofList

/-- Whether `part` stands somewhere in `text` without interruption. -/
def occurs {α : Type} [BEq α] (part : List α) : List α → Bool
  | [] => part.isEmpty
  | item :: rest => part.isPrefixOf (item :: rest) || occurs part rest

theorem occurs_iff {α : Type} [BEq α] [LawfulBEq α] (part text : List α) :
    occurs part text = true ↔ part <:+: text := by
  induction text with
  | nil => simp [occurs]
  | cons item rest ih => simp [occurs, ih, List.infix_cons_iff]

@[simp] theorem toList_join (separator : Char) (parts : List String) :
    (join separator parts).toList = [separator].intercalate (parts.map String.toList) := by
  simp [join, String.toList_intercalate]

theorem segments_ne_nil (separator : Char) (text : String) :
    segments separator text ≠ [] := by
  simp [segments]

theorem join_segments (separator : Char) (text : String) :
    join separator (segments separator text) = text := by
  apply String.toList_inj.mp
  simp [segments, List.intercalate_splitOn, Function.comp_def]

theorem segments_join (separator : Char) (parts : List String) (nonempty : parts ≠ [])
    (clean : ∀ part ∈ parts, separator ∉ part.toList) :
    segments separator (join separator parts) = parts := by
  unfold segments
  rw [toList_join, List.splitOn_intercalate separator (by simpa using clean)
    (by simpa using nonempty)]
  simp [Function.comp_def]

end ServiceRecords.Text
