import Mathlib.Tactic.Common
import ServiceRecords.Record.Layout

set_option autoImplicit false

/-!
# Normal forms of labels and zones

Writing a label in lower case keeps it valid and leaves a label in lower case alone. The normal
form of a zone whose labels are valid is its published part in lower case
(`normalize_eq_toLower`), and the normal form has the same labels again.
-/

namespace ServiceRecords

namespace Dns.Label

theorem lt_of_isCharacter {c : Char} (character : isCharacter c = true) : c.toNat < 128 := by
  unfold isCharacter Char.isAlphanum Char.isAlpha at character
  unfold Char.isUpper Char.isLower Char.isDigit at character
  simp only [Bool.or_eq_true, Bool.and_eq_true, decide_eq_true_eq, beq_iff_eq, ge_iff_le,
    UInt32.le_iff_toNat_le] at character
  change c.val.toNat < 128
  rcases character with ((((⟨_, bound⟩ | ⟨_, bound⟩) | ⟨_, bound⟩) | rfl) | rfl)
  · exact Nat.lt_of_le_of_lt bound (by decide)
  · exact Nat.lt_of_le_of_lt bound (by decide)
  · exact Nat.lt_of_le_of_lt bound (by decide)
  · decide
  · decide

/-- What holds of every character below 128 can be tested on all of them. -/
theorem forall_of_isCharacter (holds : Char → Bool)
    (tested : ∀ code < 128, isCharacter (Char.ofNat code) = true → holds (Char.ofNat code) = true)
    {c : Char} (character : isCharacter c = true) : holds c = true := by
  have result := tested c.toNat (lt_of_isCharacter character)
  rw [Char.ofNat_toNat] at result
  exact result character

theorem isBlank_eq_false {c : Char} (character : isCharacter c = true) :
    Text.isBlank c = false := by
  simpa using forall_of_isCharacter (fun c => !Text.isBlank c) (by decide +kernel) character

theorem ne_dot {c : Char} (character : isCharacter c = true) : c ≠ '.' := by
  rintro rfl
  exact absurd character (by decide)

/-- A character is its own lower case, or it is one of the first 128. -/
theorem toLower_eq_self_or (c : Char) : c.toLower = c ∨ c.toNat < 128 := by
  by_cases upper : c.val ≥ 'A'.val ∧ c.val ≤ 'Z'.val
  · exact .inr (Nat.lt_of_le_of_lt (UInt32.le_iff_toNat_le.mp upper.2) (by decide))
  · exact .inl (dif_neg upper)

/-- Where case makes no difference to the first 128 characters, it makes none to the others. -/
theorem apply_toLower {α : Type} (f : Char → α)
    (tested : ∀ code < 128, f (Char.ofNat code).toLower = f (Char.ofNat code)) (c : Char) :
    f c.toLower = f c := by
  rcases toLower_eq_self_or c with same | small
  · rw [same]
  · have own := tested c.toNat small
    rwa [Char.ofNat_toNat] at own

theorem toLower_toLower (c : Char) : c.toLower.toLower = c.toLower :=
  apply_toLower Char.toLower (by decide +kernel) c

theorem utf8Size_toLower (c : Char) : c.toLower.utf8Size = c.utf8Size :=
  apply_toLower Char.utf8Size (by decide +kernel) c

theorem isCharacter_toLower (c : Char) : isCharacter c.toLower = isCharacter c :=
  apply_toLower isCharacter (by decide +kernel) c

theorem toLower_eq_hyphen {c : Char} : c.toLower = '-' ↔ c = '-' := by
  simpa using apply_toLower (· == '-') (by decide +kernel) c

theorem toLower_eq_dot {c : Char} : c.toLower = '.' ↔ c = '.' := by
  simpa using apply_toLower (· == '.') (by decide +kernel) c

end Dns.Label

namespace Text

theorem toList_toLower (text : String) : text.toLower.toList = text.toList.map Char.toLower :=
  String.toList_map

@[simp] theorem toLower_toLower (text : String) : text.toLower.toLower = text.toLower := by
  apply String.toList_inj.mp
  simp only [toList_toLower, List.map_map]
  exact List.map_congr_left fun c _ => Dns.Label.toLower_toLower c

theorem utf8ByteSize_ofList_map {f : Char → Char} (same : ∀ c, (f c).utf8Size = c.utf8Size)
    (cs : List Char) :
    (String.ofList (cs.map f)).utf8ByteSize = (String.ofList cs).utf8ByteSize := by
  induction cs with
  | nil => rfl
  | cons c rest ih =>
    rw [List.map_cons, String.ofList_cons, String.ofList_cons, String.utf8ByteSize_append,
      String.utf8ByteSize_append, String.utf8ByteSize_singleton, String.utf8ByteSize_singleton,
      same, ih]

theorem utf8ByteSize_toLower (text : String) :
    text.toLower.utf8ByteSize = text.utf8ByteSize := by
  have mapped := utf8ByteSize_ofList_map Dns.Label.utf8Size_toLower text.toList
  rwa [← toList_toLower, String.ofList_toList, String.ofList_toList] at mapped

theorem toLower_join {separator : Char} (fixed : separator.toLower = separator)
    (parts : List String) :
    (join separator parts).toLower = join separator (parts.map String.toLower) := by
  apply String.toList_inj.mp
  simp only [toList_toLower, toList_join, List.map_map]
  induction parts with
  | nil => rfl
  | cons part rest ih =>
    cases rest with
    | nil => simp [toList_toLower]
    | cons next rest =>
      simp only [List.map_cons, List.intercalate_cons_cons, List.map_append, List.map_nil,
        Function.comp_apply, toList_toLower, fixed] at ih ⊢
      rw [ih]

theorem mem_join {separator c : Char} {parts : List String}
    (member : c ∈ (join separator parts).toList) :
    c = separator ∨ ∃ part ∈ parts, c ∈ part.toList := by
  rw [toList_join] at member
  induction parts with
  | nil => simp at member
  | cons part rest ih =>
    cases rest with
    | nil => simpa using Or.inr member
    | cons next rest =>
      simp only [List.map_cons, List.intercalate_cons_cons, List.mem_append,
        List.mem_singleton] at member ih
      rcases member with (member | rfl) | member
      · exact .inr ⟨part, by simp, member⟩
      · exact .inl rfl
      · rcases ih member with rfl | ⟨other, present, member⟩
        · exact .inl rfl
        · exact .inr ⟨other, List.mem_cons_of_mem _ present, member⟩

theorem join_singleton (separator : Char) (part : String) : join separator [part] = part := by
  simp [← String.toList_inj]

theorem join_cons (separator : Char) (part : String) {rest : List String} (nonempty : rest ≠ []) :
    join separator (part :: rest) = part ++ String.singleton separator ++ join separator rest := by
  apply String.toList_inj.mp
  obtain ⟨next, others, rfl⟩ := List.exists_cons_of_ne_nil nonempty
  simp [List.intercalate_cons_cons]

/-- Parts that have been joined already can be joined with more parts. -/
theorem join_join (separator : Char) (first second : String) {rest : List String}
    (nonempty : rest ≠ []) :
    join separator [first, second, join separator rest] =
      join separator (first :: second :: rest) := by
  rw [join_cons _ _ (List.cons_ne_nil _ _), join_cons _ _ (List.cons_ne_nil _ _), join_singleton,
    join_cons _ _ (List.cons_ne_nil _ _), join_cons _ _ nonempty]

theorem join_concat (separator : Char) {parts : List String} (nonempty : parts ≠ [])
    (last : String) :
    join separator (parts ++ [last]) =
      join separator parts ++ String.singleton separator ++ last := by
  apply String.toList_inj.mp
  rw [toList_join, String.toList_append, String.toList_append, toList_join]
  induction parts with
  | nil => exact absurd rfl nonempty
  | cons part rest ih =>
    cases rest with
    | nil => simp [List.intercalate_cons_cons]
    | cons next rest =>
      simp only [List.cons_append, List.map_cons, List.intercalate_cons_cons] at ih ⊢
      rw [ih (List.cons_ne_nil _ _)]
      simp

/-- What is written ends as its last part does, if that is not empty. -/
theorem getLast?_join {separator c : Char} {parts : List String} {part : String}
    (last : parts.getLast? = some part) (nonempty : part.toList ≠ [])
    (ends : (join separator parts).toList.getLast? = some c) : c ∈ part.toList := by
  obtain ⟨before, rfl⟩ := List.getLast?_eq_some_iff.mp last
  have closed : ∃ start, (join separator (before ++ [part])).toList = start ++ part.toList := by
    by_cases single : before = []
    · exact ⟨[], by simp [single]⟩
    · exact ⟨_, by rw [join_concat separator single, String.toList_append]⟩
  obtain ⟨start, closed⟩ := closed
  rw [closed, List.getLast?_append, List.getLast?_eq_some_getLast nonempty, Option.some_or,
    Option.some.injEq] at ends
  exact ends ▸ List.getLast_mem nonempty

theorem dropWhile_eq_self {drop : Char → Bool} {cs : List Char}
    (kept : ∀ c, cs.head? = some c → drop c = false) : cs.dropWhile drop = cs := by
  cases cs with
  | nil => rfl
  | cons c rest => simp [kept c rfl]

theorem dropEnd_eq_self {drop : Char → Bool} {cs : List Char}
    (kept : ∀ c, cs.getLast? = some c → drop c = false) : dropEnd drop cs = cs := by
  unfold dropEnd
  rw [dropWhile_eq_self, List.reverse_reverse]
  intro c first
  exact kept c (by rwa [List.head?_reverse] at first)

theorem dropEnd_prefixed (drop : Char → Bool) (cs : List Char) : dropEnd drop cs <+: cs := by
  unfold dropEnd
  rw [← List.reverse_suffix, List.reverse_reverse]
  exact List.dropWhile_suffix drop

/-- The text begins or ends with a blank. -/
def HasBlankEnd (text : String) : Prop :=
  ∃ c, (text.toList.head? = some c ∨ text.toList.getLast? = some c) ∧ isBlank c = true

theorem trim_eq_self {text : String} (even : ¬HasBlankEnd text) : trim text = text := by
  have unblank : ∀ c, (text.toList.head? = some c ∨ text.toList.getLast? = some c) →
      isBlank c = false :=
    fun c ends => by simpa using fun blank => even ⟨c, ends, blank⟩
  apply String.toList_inj.mp
  rw [toList_trim]
  unfold dropEnds
  rw [dropWhile_eq_self fun c first => unblank c (.inl first),
    dropEnd_eq_self fun c last => unblank c (.inr last)]

theorem getLast?_dropEnd {drop : Char → Bool} {cs : List Char} {c : Char}
    (last : (dropEnd drop cs).getLast? = some c) : drop c = false := by
  unfold dropEnd at last
  rw [List.getLast?_reverse] at last
  have kept := List.head?_dropWhile_not drop cs.reverse
  rwa [last] at kept

theorem head?_dropEnds {drop : Char → Bool} {cs : List Char} {c : Char}
    (first : (dropEnds drop cs).head? = some c) : drop c = false := by
  obtain ⟨dropped, whole⟩ := dropEnd_prefixed drop (cs.dropWhile drop)
  have kept := List.head?_dropWhile_not drop cs
  rw [← whole, List.head?_append, show (dropEnd drop _).head? = some c from first] at kept
  simpa using kept

end Text

namespace Dns.Label

/-- The label breaks no rule. -/
def IsValid (label : String) : Prop := fault? label = none

theorem isValid_iff (label : String) :
    IsValid label ↔ label.toList ≠ [] ∧ label.utf8ByteSize ≤ maxBytes ∧
      (∀ c ∈ label.toList, isCharacter c = true) ∧
      label.toList.head? ≠ some '-' ∧ label.toList.getLast? ≠ some '-' := by
  unfold IsValid fault?
  split
  · simp_all
  · split
    · grind
    · split
      · grind
      · split <;> grind

theorem fault?_toLower (label : String) : fault? label.toLower = fault? label := by
  unfold fault?
  simp only [Text.toList_toLower, Text.utf8ByteSize_toLower, List.map_eq_nil_iff, List.all_map,
    Function.comp_def, isCharacter_toLower, List.head?_map, List.getLast?_map,
    Option.map_eq_some_iff, toLower_eq_hyphen, exists_eq_right]

theorem isValid_toLower {label : String} : IsValid label.toLower ↔ IsValid label := by
  unfold IsValid
  rw [fault?_toLower]

theorem IsValid.toLower {label : String} (valid : IsValid label) : IsValid label.toLower :=
  isValid_toLower.mpr valid

theorem IsValid.ne_empty {label : String} (valid : IsValid label) : label ≠ "" := by
  rintro rfl
  exact ((isValid_iff "").mp valid).1 rfl

theorem IsValid.not_mem {label : String} (valid : IsValid label) {c : Char}
    (foreign : isCharacter c = false) : c ∉ label.toList := by
  intro member
  have character := ((isValid_iff label).mp valid).2.2.1 c member
  simp_all

end Dns.Label

namespace Dns.Zone

/-- Something is left of the zone text, and all its labels are valid. -/
structure IsValid (zone : String) : Prop where
  published_ne : published zone ≠ ""
  valid_labels : ∀ label ∈ labels zone, Label.IsValid label

variable {zone : String}

theorem join_labels (zone : String) : Text.join '.' (labels zone) = published zone :=
  Text.join_segments '.' (published zone)

/-- A valid zone does not begin with a dot, so that only its end is trimmed. -/
theorem IsValid.head_trim (valid : IsValid zone) {c : Char}
    (first : (Text.trim zone).toList.head? = some c) : isDot c = false := by
  by_contra dot
  obtain rfl : c = '.' := by simpa [isDot] using dot
  have nonempty : Text.dropEnd isDot (Text.trim zone).toList ≠ [] := by
    intro empty
    exact valid.published_ne (by rw [published, empty])
  obtain ⟨d, rest, cut⟩ := List.exists_cons_of_ne_nil nonempty
  obtain ⟨dropped, whole⟩ := Text.dropEnd_prefixed isDot (Text.trim zone).toList
  have same : d = '.' := by
    rw [← whole, cut] at first
    simpa using first
  have member : "" ∈ labels zone := by
    unfold labels Text.segments published
    rw [cut, same, String.toList_ofList]
    have taken := List.splitOn_append_cons_self (a := '.') [] rest
    simp only [List.nil_append, List.splitOn_nil] at taken
    simp [taken]
  exact (valid.valid_labels "" member).ne_empty rfl

theorem normalize_eq_toLower (valid : IsValid zone) :
    normalize zone = (published zone).toLower := by
  unfold normalize published Text.dropEnds
  rw [Text.dropWhile_eq_self fun c => valid.head_trim]

theorem normalize_eq_join (valid : IsValid zone) :
    normalize zone = Text.join '.' ((labels zone).map String.toLower) := by
  rw [normalize_eq_toLower valid, ← join_labels, Text.toLower_join (by decide)]

theorem IsValid.toLower_labels (valid : IsValid zone) :
    ∀ label ∈ (labels zone).map String.toLower, Label.IsValid label := by
  intro label member
  rw [List.mem_map] at member
  obtain ⟨written, member, rfl⟩ := member
  exact (valid.valid_labels written member).toLower

theorem isBlank_of_mem_join {labels : List String} (valid : ∀ label ∈ labels, Label.IsValid label)
    {c : Char} (member : c ∈ (Text.join '.' labels).toList) : Text.isBlank c = false := by
  rcases Text.mem_join member with rfl | ⟨label, present, member⟩
  · decide
  · exact Label.isBlank_eq_false
      ((Label.isValid_iff label).mp (valid label present) |>.2.2.1 c member)

/-- What is written from labels has no blanks and no dots at its ends. -/
theorem published_join {labels : List String} (nonempty : labels ≠ [])
    (valid : ∀ label ∈ labels, Label.IsValid label) :
    published (Text.join '.' labels) = Text.join '.' labels := by
  have undotted : ∀ c, (Text.join '.' labels).toList.getLast? = some c → isDot c = false := by
    intro c ends
    have last := List.getLast?_eq_some_getLast nonempty
    have present := valid _ (List.getLast_mem nonempty)
    have filled : (labels.getLast nonempty).toList ≠ [] := by
      simpa [String.toList_eq_nil_iff] using present.ne_empty
    have character := (Label.isValid_iff _).mp present |>.2.2.1 c
      (Text.getLast?_join last filled ends)
    simpa [isDot] using Label.ne_dot character
  unfold published
  apply String.toList_inj.mp
  rw [String.toList_ofList, Text.toList_trim]
  unfold Text.dropEnds
  rw [Text.dropWhile_eq_self fun c first => isBlank_of_mem_join valid (List.mem_of_head? first),
    Text.dropEnd_eq_self fun c last => isBlank_of_mem_join valid (List.mem_of_getLast? last),
    Text.dropEnd_eq_self undotted]

theorem labels_join {labels : List String} (nonempty : labels ≠ [])
    (valid : ∀ label ∈ labels, Label.IsValid label) :
    Zone.labels (Text.join '.' labels) = labels := by
  unfold Zone.labels
  rw [published_join nonempty valid, Text.segments_join _ _ nonempty]
  intro label member
  exact (valid label member).not_mem (by decide)

/-- The label of the empty text is not valid, so something is left of the zone. -/
theorem isValid_of_labels (valid : ∀ label ∈ labels zone, Label.IsValid label) : IsValid zone where
  published_ne := by
    intro empty
    have member : "" ∈ labels zone := by simp [labels, Text.segments, empty]
    exact (valid "" member).ne_empty rfl
  valid_labels := valid

theorem labels_ne_nil (zone : String) : labels zone ≠ [] :=
  Text.segments_ne_nil '.' (published zone)

/-- The normal form is what is published of it: it has no blanks and no dots at its ends. -/
theorem published_normalize (valid : IsValid zone) :
    published (normalize zone) = normalize zone := by
  rw [normalize_eq_join valid, published_join (by simpa using labels_ne_nil zone)
    valid.toLower_labels]

theorem labels_normalize (valid : IsValid zone) :
    labels (normalize zone) = (labels zone).map String.toLower := by
  rw [normalize_eq_join valid, labels_join (by simpa using labels_ne_nil zone)
    valid.toLower_labels]

theorem IsValid.normalize_ne_empty (valid : IsValid zone) : normalize zone ≠ "" := by
  rw [normalize_eq_toLower valid]
  intro empty
  apply valid.published_ne
  apply String.toList_inj.mp
  simpa [Text.toList_toLower] using congrArg String.toList empty

theorem IsValid.normalize (valid : IsValid zone) : IsValid (normalize zone) where
  published_ne := by
    rw [published_normalize valid]
    exact valid.normalize_ne_empty
  valid_labels := by
    rw [labels_normalize valid]
    exact valid.toLower_labels

theorem normalize_normalize (valid : IsValid zone) :
    normalize (normalize zone) = normalize zone := by
  rw [normalize_eq_toLower valid.normalize, published_normalize valid, normalize_eq_toLower valid,
    Text.toLower_toLower]

theorem normalize_eq_toLower_of_bare (even : ¬Text.HasBlankEnd zone)
    (head : ∀ c, zone.toList.head? = some c → isDot c = false)
    (last : ∀ c, zone.toList.getLast? = some c → isDot c = false) :
    normalize zone = zone.toLower := by
  unfold normalize Text.dropEnds
  rw [Text.trim_eq_self even, Text.dropWhile_eq_self head, Text.dropEnd_eq_self last,
    String.ofList_toList]

/-- The normal form is one of itself, too, unless dots were trimmed from the outside of blanks. -/
theorem normalize_normalize_of_trimmed (trimmed : ¬Text.HasBlankEnd (normalize zone)) :
    normalize (normalize zone) = normalize zone := by
  have undotted : ∀ c : Char, isDot c = false → isDot c.toLower = false := by
    intro c other
    rw [isDot, beq_eq_false_iff_ne] at other ⊢
    exact mt Label.toLower_eq_dot.mp other
  have shape : (normalize zone).toList =
      (Text.dropEnds isDot (Text.trim zone).toList).map Char.toLower := by
    rw [normalize, Text.toList_toLower, String.toList_ofList]
  have lowered : (normalize zone).toLower = normalize zone := Text.toLower_toLower _
  rw [normalize_eq_toLower_of_bare trimmed, lowered]
  · intro c first
    rw [shape, List.head?_map] at first
    obtain ⟨d, found, rfl⟩ := Option.map_eq_some_iff.mp first
    exact undotted d (Text.head?_dropEnds found)
  · intro c last
    rw [shape, List.getLast?_map] at last
    obtain ⟨d, found, rfl⟩ := Option.map_eq_some_iff.mp last
    exact undotted d (Text.getLast?_dropEnd found)

end Dns.Zone

end ServiceRecords
