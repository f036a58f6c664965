import ServiceRecords.Proofs.Dns.Respelling
import ServiceRecords.Proofs.Record.Publishable

set_option autoImplicit false

/-!
# Names and directories mirror each other

A service that can be named has its name and its directory from the same labels, and the one can be
told from the other (`Layout.mirrors_directory`). Both stay what they are when the name or the zone
is spelled in another way that the labels do not show (`Respells`).
-/

namespace ServiceRecords

/-- Another spelling of a key and a zone: letters have another case, there are blanks around the
zone, or more dots after one that does not end in a blank. -/
inductive Respells (key : Key) (zone : String) : Key → String → Prop
  | same : Respells key zone key zone
  | recased {key' other : Key} {zone' otherZone : String} (respells : Respells key zone key' zone')
      (name : other.name.toLower = key'.name.toLower) (ns : other.ns.toLower = key'.ns.toLower)
      (letters : otherZone.toLower = zone'.toLower) : Respells key zone other otherZone
  | surrounded {key' : Key} {zone' before after : String} (respells : Respells key zone key' zone')
      (blank : ∀ c ∈ before.toList ++ after.toList, Text.isBlank c = true) :
      Respells key zone key' (before ++ zone' ++ after)
  | dotted {key' : Key} {zone' dots : String} (respells : Respells key zone key' zone')
      (dot : ∀ c ∈ dots.toList, c = '.')
      (last : ∀ c, zone'.toList.getLast? = some c → Text.isBlank c = false) :
      Respells key zone key' (zone' ++ dots)

/-- A segment of a directory, as the resolver looks for it. -/
structure Dns.Label.IsPublished (label : String) : Prop where
  nonempty : 1 ≤ label.utf8ByteSize
  short : label.utf8ByteSize ≤ 63
  characters : ∀ c ∈ label.toList, c.isLower = true ∨ c.isDigit = true ∨ c = '-' ∨ c = '_'

theorem Dns.Label.IsValid.isPublished {label : String} (valid : IsValid label) :
    IsPublished label.toLower := by
  have wellFormed := isValid_iff_isWellFormed.mp valid.toLower
  refine ⟨wellFormed.nonempty, wellFormed.short, ?_⟩
  intro c member
  rw [Text.toList_toLower, List.mem_map] at member
  obtain ⟨d, member, rfl⟩ := member
  have character := ((isValid_iff label).mp valid).2.2.1 d member
  have lowered := forall_of_isCharacter (fun c => decide (c.toLower.isLower = true ∨
    c.toLower.isDigit = true ∨ c.toLower = '-' ∨ c.toLower = '_')) (by decide +kernel) character
  exact of_decide_eq_true lowered

variable {key key' : Key} {zone zone' full : String} {labels : List String}

theorem nameLabels_congr (key : Key)
    (same : Dns.Zone.published zone = Dns.Zone.published zone') :
    nameLabels key zone = nameLabels key zone' := by
  unfold nameLabels Dns.Zone.labels
  rw [same]

theorem nameLabels_recased (named : nameLabels key zone = .ok labels)
    (name : key'.name.toLower = key.name.toLower) (ns : key'.ns.toLower = key.ns.toLower)
    (letters : zone'.toLower = zone.toLower) : nameLabels key' zone' = .ok labels := by
  rw [nameLabels_eq_ok] at named ⊢
  obtain ⟨valid, validName, validNs, rfl, short⟩ := named
  refine ⟨?_, ?_, ?_, ?_, short⟩
  · rw [← Dns.Zone.isValid_toLower, letters]
    exact Dns.Zone.isValid_toLower.mpr valid
  · rw [← Dns.Label.isValid_toLower, name]
    exact validName.toLower
  · rw [← Dns.Label.isValid_toLower, ns]
    exact validNs.toLower
  · simp only [writtenLabels, List.map_cons, name, ns, ← Dns.Zone.labels_toLower, letters]

/-- The labels of a name are the same in each of its spellings. -/
theorem nameLabels_of_respells (named : nameLabels key zone = .ok labels)
    (respells : Respells key zone key' zone') : nameLabels key' zone' = .ok labels := by
  induction respells with
  | same => exact named
  | recased _ name ns letters ih => exact nameLabels_recased ih name ns letters
  | surrounded _ blank ih => rwa [nameLabels_congr _ (Dns.Zone.published_surrounded _ blank)]
  | dotted _ dot last ih => rwa [nameLabels_congr _ (Dns.Zone.published_dotted dot last)]

theorem fullName_eq_ok :
    fullName key zone = .ok full ↔
      ∃ labels, nameLabels key zone = .ok labels ∧ Text.join '.' labels ++ "." = full := by
  unfold fullName
  simp [exceptBind_eq_ok, pure, Except.pure]

namespace Layout

/-- The name has the segments of the directory below the root, the other way round. -/
structure Mirrors (layout : Layout) (full directory : String) (segments : List String) : Prop where
  below : (Text.after? (layout.root ++ "/") directory).map (Text.segments '/') = some segments
  name : Text.join '.' segments.reverse ++ "." = full
  published : ∀ segment ∈ segments, Dns.Label.IsPublished segment
  short : (Text.join '.' segments.reverse).utf8ByteSize ≤ 253

theorem mirrors_of_nameLabels (layout : Layout) (named : nameLabels key zone = .ok labels) :
    layout.Mirrors (Text.join '.' labels ++ ".")
      (layout.root ++ "/" ++ Text.join '/' labels.reverse) labels.reverse := by
  have written := isValid_of_nameLabels named
  obtain ⟨-, -, -, rfl, short⟩ := nameLabels_eq_ok.mp named
  refine ⟨?below, by rw [List.reverse_reverse], ?published, by rwa [List.reverse_reverse]⟩
  case below =>
    rw [Text.after?_eq_some.mpr rfl, Option.map_some,
      Text.segments_join _ _ (by simp [writtenLabels])]
    intro segment member
    obtain ⟨label, listed, rfl⟩ := List.mem_map.mp (List.mem_reverse.mp member)
    exact (written label listed).toLower.not_mem (by decide)
  case published =>
    intro segment member
    obtain ⟨label, listed, rfl⟩ := List.mem_map.mp (List.mem_reverse.mp member)
    exact (written label listed).isPublished

/-- A service has either no name and no directory, for the same reason, or both: then they mirror
each other, and every other spelling of its name and zone leads to the same two. -/
theorem mirrors_directory (layout : Layout) (key : Key) (zone : String) :
    (∃ error, fullName key zone = .error error ∧ layout.directory key zone = .error error) ∨
    ∃ full directory segments, fullName key zone = .ok full ∧
      layout.directory key zone = .ok directory ∧ layout.Mirrors full directory segments ∧
      ∀ key' zone', Respells key zone key' zone' →
        fullName key' zone' = .ok full ∧ layout.directory key' zone' = .ok directory := by
  cases named : nameLabels key zone with
  | error error =>
    refine .inl ⟨error, ?_, ?_⟩
    · rw [fullName, named]
      rfl
    · rw [directory, named]
      rfl
  | ok labels =>
    refine .inr ⟨_, _, labels.reverse, fullName_eq_ok.mpr ⟨labels, named, rfl⟩,
      directory_eq_ok.mpr ⟨labels, named, rfl⟩, mirrors_of_nameLabels layout named, ?_⟩
    intro key' zone' respells
    have again := nameLabels_of_respells named respells
    exact ⟨fullName_eq_ok.mpr ⟨labels, again, rfl⟩, directory_eq_ok.mpr ⟨labels, again, rfl⟩⟩

/-- A zone in other case and with what may surround it. -/
theorem mirrors_directory_surrounded :
    fullName ⟨"SVC", "a"⟩ "\t x.Y.. " = .ok "a.svc.x.y." ∧
    directory {} ⟨"SVC", "a"⟩ "\t x.Y.. " = .ok "/skydns/y/x/svc/a" ∧
    Mirrors {} "a.svc.x.y." "/skydns/y/x/svc/a" ["y", "x", "svc", "a"] := by
  have own : fullName ⟨"svc", "A"⟩ "X.y" = .ok "a.svc.x.y." ∧
      directory {} ⟨"svc", "A"⟩ "X.y" = .ok "/skydns/y/x/svc/a" := by
    decide +kernel
  have recased : Respells ⟨"svc", "A"⟩ "X.y" ⟨"SVC", "a"⟩ "x.Y" := by
    apply Respells.recased .same
    all_goals
      rw [← String.toList_inj, Text.toList_toLower, Text.toList_toLower]
      decide
  have dotted : Respells ⟨"svc", "A"⟩ "X.y" ⟨"SVC", "a"⟩ ("x.Y" ++ "..") := by
    apply Respells.dotted recased
    · simp
    · rintro _ ⟨⟩
      decide
  have respells : Respells ⟨"svc", "A"⟩ "X.y" ⟨"SVC", "a"⟩ ("\t " ++ ("x.Y" ++ "..") ++ " ") := by
    apply Respells.surrounded dotted
    simp [Text.isBlank, Text.blankRanges]
  rcases mirrors_directory {} ⟨"svc", "A"⟩ "X.y" with ⟨error, failed, -⟩ | ⟨_, _, segments, named,
    placed, mirrors, again⟩
  · rw [own.1] at failed
    cases failed
  · obtain rfl := Except.ok.inj (named.symm.trans own.1)
    obtain rfl := Except.ok.inj (placed.symm.trans own.2)
    have same := again _ _ respells
    refine ⟨same.1, same.2, ?_⟩
    have taken : (Text.after? "/skydns/" "/skydns/y/x/svc/a").map (Text.segments '/') =
        some ["y", "x", "svc", "a"] := by
      decide +kernel
    obtain rfl := Option.some.inj (mirrors.below.symm.trans taken)
    exact mirrors

end Layout

end ServiceRecords
