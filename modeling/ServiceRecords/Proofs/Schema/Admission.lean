import ServiceRecords.Proofs.Dns.Respelling
import ServiceRecords.Proofs.Record.Publishable
import ServiceRecords.Schema.Pattern

set_option autoImplicit false

/-!
# Admitted zones can be published in

A zone that the schema admits consists of labels with dots between them, and perhaps a dot at the
end (`Schema.matches_zone`). So nothing is wrong with any label of it, and only the length of the
whole name is left to be checked when a service is published in it
(`Layout.directory_of_admitted`).
-/

namespace ServiceRecords

namespace Schema

namespace Pattern

variable {first second part : Pattern} {ranges : List (Char × Char)} {least : Nat}
  {most : Option Nat} {text : List Char} {c : Char}

theorem matches_oneOf :
    Matches (.oneOf ranges) text ↔
      ∃ c, [c] = text ∧ ∃ range ∈ ranges, range.1 ≤ c ∧ c ≤ range.2 := by
  constructor
  · intro admitted
    cases admitted with
    | oneOf member low_le le_high => exact ⟨_, rfl, _, member, low_le, le_high⟩
  · rintro ⟨c, rfl, ⟨low, high⟩, member, low_le, le_high⟩
    exact .oneOf member low_le le_high

theorem matches_followedBy :
    Matches (.followedBy first second) text ↔
      ∃ before after, before ++ after = text ∧ Matches first before ∧ Matches second after := by
  constructor
  · intro admitted
    cases admitted with
    | followedBy first_matches second_matches => exact ⟨_, _, rfl, first_matches, second_matches⟩
  · rintro ⟨before, after, rfl, first_matches, second_matches⟩
    exact .followedBy first_matches second_matches

theorem matches_repeated :
    Matches (.repeated least most part) text ↔
      ∃ texts : List (List Char), texts.flatten = text ∧ (∀ text ∈ texts, Matches part text) ∧
        least ≤ texts.length ∧ ∀ limit ∈ most, texts.length ≤ limit := by
  constructor
  · intro admitted
    cases admitted with
    | repeated texts all_match least_le le_most =>
      exact ⟨texts, rfl, all_match, least_le, le_most⟩
  · rintro ⟨texts, rfl, all_match, least_le, le_most⟩
    exact .repeated texts all_match least_le le_most

theorem matches_char : Matches (.char c) text ↔ [c] = text := by
  unfold char
  rw [matches_oneOf]
  constructor
  · rintro ⟨d, rfl, range, member, low_le, le_high⟩
    obtain rfl := List.mem_singleton.mp member
    rw [show c = d from Char.le_antisymm low_le le_high]
  · rintro rfl
    exact ⟨c, rfl, (c, c), List.mem_singleton_self _, Char.le_refl c, Char.le_refl c⟩

theorem matches_maybe : Matches (.maybe part) text ↔ [] = text ∨ Matches part text := by
  unfold maybe
  rw [matches_repeated]
  constructor
  · rintro ⟨texts, rfl, all_match, -, le_most⟩
    have short := le_most 1 rfl
    rcases texts with _ | ⟨single, _ | ⟨second, others⟩⟩
    · exact .inl rfl
    · exact .inr (by simpa using all_match)
    · simp at short
  · rintro (rfl | single)
    · exact ⟨[], rfl, by simp, Nat.zero_le _, by simp⟩
    · exact ⟨[text], by simp, by simpa using single, Nat.zero_le _, by simp⟩

/-- A run of single characters. -/
theorem forall_of_matches_repeated
    (admitted : Matches (.repeated least most (.oneOf ranges)) text) :
    (∀ c ∈ text, ∃ range ∈ ranges, range.1 ≤ c ∧ c ≤ range.2) ∧
      ∀ limit ∈ most, text.length ≤ limit := by
  obtain ⟨texts, rfl, all_match, -, le_most⟩ := matches_repeated.mp admitted
  have single : ∀ text ∈ texts, ∃ c, [c] = text ∧ ∃ range ∈ ranges, range.1 ≤ c ∧ c ≤ range.2 :=
    fun text member => matches_oneOf.mp (all_match text member)
  constructor
  · intro c member
    obtain ⟨text, listed, member⟩ := List.mem_flatten.mp member
    obtain ⟨d, rfl, within⟩ := single text listed
    rwa [List.mem_singleton.mp member]
  · intro limit bound
    have lengths : texts.map List.length = List.replicate texts.length 1 := by
      rw [List.map_eq_replicate_iff]
      intro text listed
      obtain ⟨c, rfl, -⟩ := single text listed
      rfl
    rw [List.length_flatten, lengths]
    simpa using le_most limit bound

end Pattern

open Pattern

variable {text : List Char} {zone : String}

theorem isAlphanum_of_range {range : Char × Char} {c : Char}
    (member : range ∈ [('a', 'z'), ('A', 'Z'), ('0', '9')]) (low_le : range.1 ≤ c)
    (le_high : c ≤ range.2) : c.isAlphanum = true := by
  unfold Char.isAlphanum Char.isAlpha
  unfold Char.isUpper Char.isLower Char.isDigit
  simp only [List.mem_cons, List.not_mem_nil, or_false] at member
  rcases member with rfl | rfl | rfl <;> simp_all [Char.le_def]

theorem isCharacter_of_range {range : Char × Char} {c : Char}
    (member : range ∈ [('a', 'z'), ('A', 'Z'), ('0', '9'), ('-', '-')]) (low_le : range.1 ≤ c)
    (le_high : c ≤ range.2) : c.isAlphanum = true ∨ c = '-' := by
  rcases List.mem_append.mp (show range ∈ [_, _, _] ++ [('-', '-')] from member) with
    member | member
  · exact .inl (isAlphanum_of_range member low_le le_high)
  · obtain rfl := List.mem_singleton.mp member
    exact .inr (Char.le_antisymm le_high low_le)

theorem exists_alphanumeric (admitted : letterOrDigit.Matches text) :
    ∃ c, [c] = text ∧ c.isAlphanum = true := by
  obtain ⟨c, rfl, range, member, low_le, le_high⟩ := matches_oneOf.mp admitted
  exact ⟨c, rfl, isAlphanum_of_range member low_le le_high⟩

theorem utf8ByteSize_ofList (characters : ∀ c ∈ text, Dns.Label.isCharacter c = true) :
    (String.ofList text).utf8ByteSize = text.length := by
  induction text with
  | nil => rfl
  | cons c rest ih =>
    rw [List.forall_mem_cons] at characters
    have size : c.utf8Size = 1 := by
      rw [Char.utf8Size_eq_one_iff, UInt32.le_iff_toNat_le]
      exact Nat.le_of_lt_succ (Dns.Label.lt_of_isCharacter characters.1)
    rw [String.ofList_cons, String.utf8ByteSize_append, String.utf8ByteSize_singleton, size,
      ih characters.2, List.length_cons, Nat.add_comm]

/-- What begins and ends with letters or digits, and is not too long. -/
theorem isValid_ofList {c d : Char} (short : text.length ≤ 63)
    (characters : ∀ c ∈ text, c.isAlphanum = true ∨ c = '-') (first : text.head? = some c)
    (starts : c.isAlphanum = true) (last : text.getLast? = some d) (ends : d.isAlphanum = true) :
    Dns.Label.IsValid (.ofList text) := by
  have valid : ∀ c ∈ text, Dns.Label.isCharacter c = true := by
    intro c member
    rcases characters c member with alphanumeric | rfl
    · simp [Dns.Label.isCharacter, alphanumeric]
    · decide
  rw [Dns.Label.isValid_iff, utf8ByteSize_ofList valid, String.toList_ofList, first, last]
  refine ⟨?_, short, valid, ?_, ?_⟩
  · rintro rfl
    cases first
  · rintro ⟨⟩
    exact absurd starts (by decide)
  · rintro ⟨⟩
    exact absurd ends (by decide)

/-- A label of the schema breaks no rule for labels. -/
theorem isValid_of_matches (admitted : label.Matches text) : Dns.Label.IsValid (.ofList text) := by
  obtain ⟨_, inner, rfl, first, inner_matches⟩ := matches_followedBy.mp admitted
  obtain ⟨c, rfl, starts⟩ := exists_alphanumeric first
  rcases matches_maybe.mp inner_matches with rfl | inner_matches
  · exact isValid_ofList (by simp) (by simp [starts]) rfl starts rfl starts
  · obtain ⟨middle, _, rfl, middle_matches, last⟩ := matches_followedBy.mp inner_matches
    obtain ⟨d, rfl, ends⟩ := exists_alphanumeric last
    obtain ⟨within, bounded⟩ := forall_of_matches_repeated middle_matches
    -- With a letter or digit at each end these make the 63 characters of the longest label.
    have short : middle.length ≤ 61 := bounded 61 rfl
    refine isValid_ofList ?_ ?_ rfl starts (by rw [← List.append_assoc, List.getLast?_concat]) ends
    · simp only [List.length_append, List.length_singleton]
      omega
    · simp only [List.forall_mem_append, List.forall_mem_singleton]
      refine ⟨.inl starts, fun x member => ?_, .inl ends⟩
      obtain ⟨range, listed, low_le, le_high⟩ := within x member
      exact isCharacter_of_range listed low_le le_high

theorem matches_dotted :
    Matches (.many (.followedBy label (.char '.'))) text ↔
      ∃ labels : List String, (∀ part ∈ labels, label.Matches part.toList) ∧
        labels.flatMap (fun part => part.toList ++ ['.']) = text := by
  unfold many
  rw [matches_repeated]
  constructor
  · rintro ⟨texts, rfl, all_match, -⟩
    induction texts with
    | nil => exact ⟨[], by simp, rfl⟩
    | cons first rest ih =>
      rw [List.forall_mem_cons] at all_match
      obtain ⟨labels, each, written⟩ := ih all_match.2
      obtain ⟨cs, _, rfl, own, dot⟩ := matches_followedBy.mp all_match.1
      obtain rfl := matches_char.mp dot
      refine ⟨.ofList cs :: labels, ?_, ?_⟩
      · rw [List.forall_mem_cons, String.toList_ofList]
        exact ⟨own, each⟩
      · rw [List.flatMap_cons, written, String.toList_ofList, List.flatten_cons]
  · rintro ⟨labels, each, rfl⟩
    refine ⟨labels.map fun part => part.toList ++ ['.'], List.flatMap_def.symm, ?_, by simp,
      by simp⟩
    rw [List.forall_mem_map]
    exact fun part member => .followedBy (each part member) (matches_char.mpr rfl)

theorem toList_join_concat (labels : List String) (last : String) :
    (Text.join '.' (labels ++ [last])).toList =
      labels.flatMap (fun part => part.toList ++ ['.']) ++ last.toList := by
  induction labels with
  | nil => simp
  | cons part rest ih =>
    rw [List.cons_append, Text.join_cons '.' part (by simp), String.toList_append, ih]
    simp

/-- The zones that are admitted are written from labels, and may have one dot after them. -/
theorem matches_zone :
    Schema.zone.Matches zone.toList ↔
      ∃ labels : List String, labels ≠ [] ∧ (∀ part ∈ labels, label.Matches part.toList) ∧
        (zone = Text.join '.' labels ∨ zone = Text.join '.' labels ++ ".") := by
  have shape : Schema.zone = .followedBy (.many (.followedBy label (.char '.')))
      (.followedBy label (.maybe (.char '.'))) := rfl
  rw [shape]
  constructor
  · intro admitted
    obtain ⟨_, _, written, dotted, rest⟩ := matches_followedBy.mp admitted
    obtain ⟨cs, final, rfl, own, dot⟩ := matches_followedBy.mp rest
    obtain ⟨labels, each, rfl⟩ := matches_dotted.mp dotted
    refine ⟨labels ++ [.ofList cs], by simp, ?_, ?_⟩
    · rw [List.forall_mem_append, List.forall_mem_singleton, String.toList_ofList]
      exact ⟨each, own⟩
    · simp only [← String.toList_inj, String.toList_append, toList_join_concat, ← written,
        String.toList_ofList]
      rcases matches_maybe.mp dot with rfl | dot
      · exact .inl (by simp)
      · obtain rfl := matches_char.mp dot
        exact .inr (by simp)
  · rintro ⟨labels, nonempty, each, written⟩
    obtain ⟨others, last, rfl⟩ := (List.eq_nil_or_concat' labels).resolve_left nonempty
    rw [List.forall_mem_append, List.forall_mem_singleton] at each
    -- Every label but the last has a dot of its own; the one after the last is not among these.
    have dotted := matches_dotted.mpr ⟨others, each.1, rfl⟩
    have whole {final : List Char} (dot : Matches (.maybe (.char '.')) final) :=
      Matches.followedBy dotted (.followedBy each.2 dot)
    simp only [← String.toList_inj, String.toList_append, toList_join_concat,
      List.append_assoc] at written
    rcases written with written | written
    · rw [written]
      simpa using whole (matches_maybe.mpr (.inl rfl))
    · rw [written]
      exact whole (matches_maybe.mpr (.inr (matches_char.mpr rfl)))

/-- All of an admitted zone is published but a final dot. -/
theorem eq_published (admitted : Schema.zone.Matches zone.toList) :
    Dns.Zone.IsValid zone ∧
      (zone = Dns.Zone.published zone ∨ zone = Dns.Zone.published zone ++ ".") := by
  obtain ⟨labels, nonempty, each, written⟩ := matches_zone.mp admitted
  have valid : ∀ part ∈ labels, Dns.Label.IsValid part := fun part member => by
    simpa using isValid_of_matches (each part member)
  have published : Dns.Zone.published zone = Text.join '.' labels := by
    rcases written with rfl | rfl
    · exact Dns.Zone.published_join nonempty valid
    · exact Dns.Zone.published_join_dotted nonempty valid
  refine ⟨Dns.Zone.isValid_of_labels ?_, by rwa [published]⟩
  rwa [Dns.Zone.labels, published, Text.segments_join '.' labels nonempty]
  intro part member
  exact (valid part member).not_mem (by decide)

end Schema

/-- The name of a service in a zone, in lower case. -/
def loweredName (key : Key) (zone : String) : String :=
  (Text.join '.' [key.name, key.ns, Dns.Zone.published zone]).toLower

variable {key : Key} {zone : String}

theorem loweredName_eq (key : Key) (zone : String) :
    loweredName key zone = (Text.join '.' (writtenLabels key zone)).toLower := by
  rw [loweredName, writtenLabels, ← Dns.Zone.join_labels,
    Text.join_join _ _ _ (Dns.Zone.labels_ne_nil zone)]

theorem wellFormed_writtenLabels (valid : Dns.Zone.IsValid zone)
    (name : Dns.Label.IsWellFormed key.name) (ns : Dns.Label.IsWellFormed key.ns) :
    ∀ label ∈ writtenLabels key zone, Dns.Label.IsWellFormed label := by
  simp only [writtenLabels, List.forall_mem_cons]
  exact ⟨name, ns, fun label member =>
    Dns.Label.isValid_iff_isWellFormed.mp (valid.valid_labels label member)⟩

/-- Only the last check of a name does not hold. -/
theorem firstBreaks_nameTooLong (valid : Dns.Zone.IsValid zone)
    (labels : ∀ label ∈ writtenLabels key zone, Dns.Label.IsWellFormed label)
    (long : 253 < (loweredName key zone).utf8ByteSize) :
    Check.FirstBreaks (nameChecks key zone) (.nameTooLong (loweredName key zone)) := by
  rw [loweredName_eq, Text.utf8ByteSize_toLower] at long
  rw [loweredName_eq, Text.toLower_join (by decide)]
  have split : nameChecks key zone = (.zone zone :: .label .name key.name ::
      .label .namespaceName key.ns :: (Dns.Zone.labels zone).map (.label .zone)) ++
        [.length (writtenLabels key zone)] := by
    simp [nameChecks]
  rw [split]
  apply Check.FirstBreaks.of_append
  · simp only [writtenLabels, List.forall_mem_cons] at labels
    simp only [List.forall_mem_cons, List.forall_mem_map, Check.Holds]
    exact ⟨valid.published_ne, labels⟩
  · exact .here (Nat.not_le_of_lt long) .length

namespace Layout

/-- In a zone that the schema admits, nothing but the length of the name can keep a service from
being published. -/
theorem directory_of_admitted (layout : Layout) (admitted : Schema.zone.Matches zone.toList)
    (name : Dns.Label.IsWellFormed key.name) (ns : Dns.Label.IsWellFormed key.ns) :
    (zone = Dns.Zone.published zone ∨ zone = Dns.Zone.published zone ++ ".") ∧
    ((∃ directory, layout.directory key zone = .ok directory) ↔
      (loweredName key zone).utf8ByteSize ≤ 253) ∧
    ∀ error, layout.directory key zone = .error error ↔
      error = .nameTooLong (loweredName key zone) ∧ 253 < (loweredName key zone).utf8ByteSize := by
  obtain ⟨valid, whole⟩ := Schema.eq_published admitted
  have labels := wellFormed_writtenLabels valid name ns
  have judges := layout.judges_directory key zone
  have held : (∀ check ∈ nameChecks key zone, check.Holds) ↔
      (loweredName key zone).utf8ByteSize ≤ 253 := by
    rw [loweredName_eq, Text.utf8ByteSize_toLower, forall_nameChecks]
    exact ⟨fun ⟨_, _, short⟩ => short, fun short => ⟨valid.published_ne, labels, short⟩⟩
  refine ⟨whole, judges.exists_ok_iff.trans held, fun error => ?_⟩
  rw [judges.eq_error_iff]
  constructor
  · intro broken
    have long : 253 < (loweredName key zone).utf8ByteSize := by
      by_contra short
      obtain ⟨check, member, unheld⟩ := broken.exists_broken
      exact unheld (held.mpr (Nat.le_of_not_lt short) check member)
    exact ⟨broken.eq (firstBreaks_nameTooLong valid labels long), long⟩
  · rintro ⟨rfl, long⟩
    exact firstBreaks_nameTooLong valid labels long

/-- A label of `n + 2` letters. -/
def wideLabel (n : Nat) : String := .ofList ('A' :: (List.replicate n 'A' ++ ['A']))

/-- Three labels of the greatest length, another one, and a dot. -/
def wideZone (n : Nat) : String :=
  Text.join '.' [wideLabel 61, wideLabel 61, wideLabel 61, wideLabel n] ++ "."

def wideKey : Key := ⟨"svc", "a"⟩

theorem matches_wideLabel {n : Nat} (small : n ≤ 61) :
    Schema.label.Matches (wideLabel n).toList := by
  have letter : Schema.letterOrDigit.Matches ['A'] :=
    Schema.Pattern.matches_oneOf.mpr ⟨'A', rfl, by decide⟩
  have middle : (Schema.Pattern.repeated 0 (some 61) Schema.labelCharacter).Matches
      (List.replicate n 'A') := by
    refine Schema.Pattern.matches_repeated.mpr ⟨List.replicate n ['A'], by simp, ?_, by simp, ?_⟩
    · intro text member
      obtain rfl := List.eq_of_mem_replicate member
      exact Schema.Pattern.matches_oneOf.mpr ⟨'A', rfl, by decide⟩
    · simpa using small
  rw [wideLabel, String.toList_ofList]
  exact .followedBy letter (Schema.Pattern.matches_maybe.mpr (.inr (.followedBy middle letter)))

theorem matches_wideZone {n : Nat} (small : n ≤ 61) :
    Schema.zone.Matches (wideZone n).toList := by
  refine Schema.matches_zone.mpr ⟨_, by simp, ?_, .inr rfl⟩
  simp only [List.forall_mem_cons]
  have widest := matches_wideLabel (Nat.le_refl 61)
  exact ⟨widest, widest, widest, matches_wideLabel small, by simp⟩

theorem utf8ByteSize_wideLabel (n : Nat) : (wideLabel n).utf8ByteSize = n + 2 := by
  have characters : ∀ c ∈ 'A' :: (List.replicate n 'A' ++ ['A']),
      Dns.Label.isCharacter c = true := by
    simp only [List.forall_mem_cons, List.forall_mem_append]
    refine ⟨by decide, fun c member => ?_, by decide, by simp⟩
    rw [List.eq_of_mem_replicate member]
    decide
  rw [wideLabel, Schema.utf8ByteSize_ofList characters]
  simp

theorem utf8ByteSize_wideName {n : Nat} (small : n ≤ 61) :
    (loweredName wideKey (wideZone n)).utf8ByteSize = n + 200 := by
  have valid {n : Nat} (small : n ≤ 61) : Dns.Label.IsValid (wideLabel n) := by
    simpa using Schema.isValid_of_matches (matches_wideLabel small)
  have widest := valid (Nat.le_refl 61)
  have published : Dns.Zone.published (wideZone n) =
      Text.join '.' [wideLabel 61, wideLabel 61, wideLabel 61, wideLabel n] := by
    apply Dns.Zone.published_join_dotted (by simp)
    simp only [List.forall_mem_cons]
    exact ⟨widest, widest, widest, valid small, by simp⟩
  have sizes : "a.".utf8ByteSize = 2 ∧ "svc.".utf8ByteSize = 4 ∧ ".".utf8ByteSize = 1 := by
    decide +kernel
  rw [loweredName, Text.utf8ByteSize_toLower, published]
  simp [Text.join_cons, Text.join_singleton, utf8ByteSize_wideLabel, wideKey, sizes]
  omega

/-- One more letter makes the name too long. -/
theorem directory_of_admitted_wide :
    (∃ directory, Layout.directory {} wideKey (wideZone 53) = .ok directory) ∧
    Layout.directory {} wideKey (wideZone 54) =
      .error (.nameTooLong (loweredName wideKey (wideZone 54))) ∧
    (loweredName wideKey (wideZone 54)).utf8ByteSize = 254 := by
  have name : Dns.Label.fault? wideKey.name = none := by decide +kernel
  have ns : Dns.Label.fault? wideKey.ns = none := by decide +kernel
  have short := utf8ByteSize_wideName (show 53 ≤ 61 by decide)
  have long := utf8ByteSize_wideName (show 54 ≤ 61 by decide)
  rw [← Dns.Label.IsValid, Dns.Label.isValid_iff_isWellFormed] at name ns
  obtain ⟨-, succeeds, -⟩ := directory_of_admitted {} (matches_wideZone (show 53 ≤ 61 by decide))
    name ns
  obtain ⟨-, -, fails⟩ := directory_of_admitted {} (matches_wideZone (show 54 ≤ 61 by decide))
    name ns
  exact ⟨succeeds.mpr short.le, (fails _).mpr ⟨rfl, by rw [long]; decide⟩, long⟩

end Layout

end ServiceRecords
