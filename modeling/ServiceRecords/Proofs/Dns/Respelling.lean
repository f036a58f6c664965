import Mathlib.Data.List.TakeWhile
import ServiceRecords.Proofs.Dns.Normal

set_option autoImplicit false

/-!
# Other spellings of a zone

What surrounds a zone does not belong to it: blanks at its ends (`published_surrounded`) and dots
after it (`published_dotted`). The case of its letters does, but taking a zone apart and writing it
in lower case can be done in either order (`labels_toLower`).
-/

namespace ServiceRecords

namespace Text

variable {drop : Char → Bool} {cs rest : List Char} {separator : Char}

theorem dropEnd_append_of_pos (dropped : ∀ c ∈ rest, drop c = true) :
    dropEnd drop (cs ++ rest) = dropEnd drop cs := by
  unfold dropEnd
  rw [List.reverse_append, List.dropWhile_append_of_pos (by simpa using dropped)]

theorem dropEnds_append (last : ∀ c, cs.getLast? = some c → drop c = false)
    (kept : ∀ c ∈ rest, drop c = false) :
    dropEnds drop (cs ++ rest) = dropEnds drop cs ++ rest := by
  obtain ⟨dropped, cut⟩ := List.dropWhile_suffix drop (l := cs)
  have remains : ∀ c, (cs.dropWhile drop).getLast? = some c → drop c = false := by
    intro c ends
    apply last c
    rw [← cut, List.getLast?_append, ends, Option.some_or]
  have whole : (cs ++ rest).dropWhile drop = cs.dropWhile drop ++ rest := by
    rw [List.dropWhile_append]
    split
    · rename_i empty
      rw [List.isEmpty_iff.mp empty, List.nil_append,
        dropWhile_eq_self fun c first => kept c (List.mem_of_head? first)]
    · rfl
  unfold dropEnds
  rw [whole, dropEnd_eq_self remains, dropEnd_eq_self]
  intro c ends
  rw [List.getLast?_append, Option.or_eq_some_iff] at ends
  rcases ends with ends | ⟨-, ends⟩
  · exact kept c (List.mem_of_getLast? ends)
  · exact remains c ends

theorem dropEnd_map (f : Char → Char) (drop : Char → Bool) (cs : List Char) :
    dropEnd drop (cs.map f) = (dropEnd (drop ∘ f) cs).map f := by
  unfold dropEnd
  rw [← List.map_reverse, List.dropWhile_map, List.map_reverse]

theorem dropEnds_map (f : Char → Char) (drop : Char → Bool) (cs : List Char) :
    dropEnds drop (cs.map f) = (dropEnds (drop ∘ f) cs).map f := by
  unfold dropEnds
  rw [List.dropWhile_map, dropEnd_map]

theorem trim_surrounded {before after : String} (text : String)
    (blank : ∀ c ∈ before.toList ++ after.toList, isBlank c = true) :
    trim (before ++ text ++ after) = trim text := by
  rw [List.forall_mem_append] at blank
  apply String.toList_inj.mp
  simp only [toList_trim, String.toList_append, List.append_assoc, dropEnds]
  rw [List.dropWhile_append_of_pos blank.1, List.dropWhile_append]
  split
  · rename_i empty
    rw [List.isEmpty_iff.mp empty, List.dropWhile_eq_nil_iff.mpr blank.2]
  · rw [dropEnd_append_of_pos blank.2]

theorem trim_toLower (text : String) : trim text.toLower = (trim text).toLower := by
  apply String.toList_inj.mp
  have same : isBlank ∘ Char.toLower = isBlank :=
    funext (Dns.Label.apply_toLower isBlank (by decide +kernel))
  simp only [toList_trim, toList_toLower, dropEnds_map, same]

theorem splitOn_map {f : Char → Char} (alone : ∀ c, f c = separator ↔ c = separator)
    (cs : List Char) : (cs.map f).splitOn separator = (cs.splitOn separator).map (·.map f) := by
  induction cs with
  | nil => rfl
  | cons c rest ih =>
    rw [List.map_cons, List.splitOn_cons_eq_if_modifyHead, List.splitOn_cons_eq_if_modifyHead, ih]
    simp only [beq_iff_eq, alone]
    split
    · rfl
    · cases rest.splitOn separator <;> rfl

theorem segments_toLower (alone : ∀ c : Char, c.toLower = separator ↔ c = separator)
    (text : String) :
    segments separator text.toLower = (segments separator text).map String.toLower := by
  unfold segments
  rw [toList_toLower, splitOn_map alone, List.map_map, List.map_map]
  refine List.map_congr_left fun cs _ => String.toList_inj.mp ?_
  simp [toList_toLower]

end Text

namespace Dns.Zone

variable {zone zone' : String}

theorem published_surrounded {before after : String} (zone : String)
    (blank : ∀ c ∈ before.toList ++ after.toList, Text.isBlank c = true) :
    published (before ++ zone ++ after) = published zone := by
  unfold published
  rw [Text.trim_surrounded zone blank]

/-- Dots after a zone are not published. They do not bare a blank, as the zone ends in none. -/
theorem published_dotted {dots : String} (dot : ∀ c ∈ dots.toList, c = '.')
    (last : ∀ c, zone.toList.getLast? = some c → Text.isBlank c = false) :
    published (zone ++ dots) = published zone := by
  have unblank : ∀ c ∈ dots.toList, Text.isBlank c = false := by
    intro c member
    rw [dot c member]
    decide
  have trimmed : (Text.trim (zone ++ dots)).toList = (Text.trim zone).toList ++ dots.toList := by
    rw [Text.toList_trim, Text.toList_trim, String.toList_append, Text.dropEnds_append last unblank]
  apply String.toList_inj.mp
  rw [published, published, String.toList_ofList, String.toList_ofList, trimmed,
    Text.dropEnd_append_of_pos fun c member => by simp [isDot, dot c member]]

theorem published_join_dotted {labels : List String} (nonempty : labels ≠ [])
    (valid : ∀ label ∈ labels, Label.IsValid label) :
    published (Text.join '.' labels ++ ".") = Text.join '.' labels := by
  rw [published_dotted (by simp), published_join nonempty valid]
  exact fun c ends => isBlank_of_mem_join valid (List.mem_of_getLast? ends)

theorem published_toLower (zone : String) : published zone.toLower = (published zone).toLower := by
  have same : isDot ∘ Char.toLower = isDot :=
    funext (Label.apply_toLower isDot (by decide +kernel))
  apply String.toList_inj.mp
  simp only [published, Text.trim_toLower, Text.toList_toLower, String.toList_ofList,
    Text.dropEnd_map, same]

theorem labels_toLower (zone : String) :
    labels zone.toLower = (labels zone).map String.toLower := by
  unfold labels
  rw [published_toLower, Text.segments_toLower fun _ => Label.toLower_eq_dot]

theorem isValid_toLower : IsValid zone.toLower ↔ IsValid zone := by
  have same : (∀ label ∈ labels zone.toLower, Label.IsValid label) ↔
      ∀ label ∈ labels zone, Label.IsValid label := by
    simp only [labels_toLower, List.forall_mem_map, Label.isValid_toLower]
  exact ⟨fun valid => isValid_of_labels (same.mp valid.valid_labels),
    fun valid => isValid_of_labels (same.mpr valid.valid_labels)⟩

end Dns.Zone

end ServiceRecords
