import Mathlib.Data.List.Basic
import ServiceRecords.Proofs.Dns.Normal
import ServiceRecords.Reconcile.Reconcile

set_option autoImplicit false

/-!
# Where entries of a key reside

An entry of a key in a zone lies directly in the directory of the two (`Layout.Resides`). Keys in
lower case and zones in normal form are determined by the entries' places (`Resides.lower_eq`), and
locating a place gives them back (`locate?_entryKey`). A zone and its normal form have the same
directory, so that two zones with one normal form share their places.
-/

namespace ServiceRecords

theorem checkedLabel_eq_ok {place : LabelPlace} {label checked : String} :
    checkedLabel place label = .ok checked ↔
      Dns.Label.IsValid label ∧ label.toLower = checked := by
  unfold checkedLabel Dns.Label.IsValid
  cases Dns.Label.fault? label with
  | none => simp
  | some fault => simp

theorem exceptBind_eq_ok {ε α β : Type} {first : Except ε α} {next : α → Except ε β} {b : β} :
    (first >>= next) = .ok b ↔ ∃ a, first = .ok a ∧ next a = .ok b := by
  cases first <;> simp [bind, Except.bind]

theorem mapM_checkedLabel_eq_ok {place : LabelPlace} {labels checked : List String} :
    labels.mapM (checkedLabel place) = .ok checked ↔
      (∀ label ∈ labels, Dns.Label.IsValid label) ∧ labels.map String.toLower = checked := by
  induction labels generalizing checked with
  | nil => simp [pure, Except.pure]
  | cons label rest ih =>
    simp only [List.mapM_cons, exceptBind_eq_ok, checkedLabel_eq_ok, ih, pure, Except.pure,
      Except.ok.injEq, List.forall_mem_cons, List.map_cons]
    constructor
    · rintro ⟨lowered, ⟨valid, rfl⟩, others, ⟨validRest, rfl⟩, rfl⟩
      exact ⟨⟨valid, validRest⟩, rfl⟩
    · rintro ⟨⟨valid, validRest⟩, rfl⟩
      exact ⟨_, ⟨valid, rfl⟩, _, ⟨validRest, rfl⟩, rfl⟩

/-- Name, namespace and zone labels of a key in a zone, as they are written. -/
def writtenLabels (key : Key) (zone : String) : List String :=
  key.name :: key.ns :: Dns.Zone.labels zone

theorem nameLabels_eq_ok {key : Key} {zone : String} {labels : List String} :
    nameLabels key zone = .ok labels ↔
      Dns.Zone.IsValid zone ∧ Dns.Label.IsValid key.name ∧ Dns.Label.IsValid key.ns ∧
        (writtenLabels key zone).map String.toLower = labels ∧
        (Text.join '.' labels).utf8ByteSize ≤ RecordError.maxNameBytes := by
  unfold nameLabels
  by_cases empty : Dns.Zone.published zone = ""
  · have invalid : ¬Dns.Zone.IsValid zone := fun valid => valid.published_ne empty
    simp [empty, invalid, throw, throwThe, MonadExceptOf.throw, bind, Except.bind]
  · simp only [if_neg empty, exceptBind_eq_ok, checkedLabel_eq_ok, mapM_checkedLabel_eq_ok, pure,
      Except.pure, writtenLabels, List.map_cons]
    constructor
    · rintro ⟨name, ⟨validName, rfl⟩, ns, ⟨validNs, rfl⟩, zones, ⟨validZone, rfl⟩, fits⟩
      split at fits
      · cases fits
      · cases fits
        exact ⟨⟨empty, validZone⟩, validName, validNs, rfl, by omega⟩
    · rintro ⟨valid, validName, validNs, rfl, short⟩
      refine ⟨_, ⟨validName, rfl⟩, _, ⟨validNs, rfl⟩, _, ⟨valid.valid_labels, rfl⟩, ?_⟩
      rw [if_neg (by omega)]

theorem isValid_of_nameLabels {key : Key} {zone : String} {labels : List String}
    (named : nameLabels key zone = .ok labels) :
    ∀ label ∈ writtenLabels key zone, Dns.Label.IsValid label := by
  obtain ⟨valid, name, ns, -, -⟩ := nameLabels_eq_ok.mp named
  simp only [writtenLabels, List.forall_mem_cons]
  exact ⟨name, ns, valid.valid_labels⟩

theorem nameLabels_normalize {key : Key} {zone : String} {labels : List String}
    (named : nameLabels key zone = .ok labels) :
    nameLabels key (Dns.Zone.normalize zone) = .ok labels := by
  rw [nameLabels_eq_ok] at named ⊢
  obtain ⟨valid, validName, validNs, rfl, short⟩ := named
  refine ⟨valid.normalize, validName, validNs, ?_, short⟩
  unfold writtenLabels
  rw [Dns.Zone.labels_normalize valid]
  simp

namespace Text

theorem after?_eq_some {start text rest : String} :
    after? start text = some rest ↔ start ++ rest = text := by
  unfold after?
  constructor
  · intro found
    rw [Option.map_eq_some_iff] at found
    obtain ⟨tail, found, rfl⟩ := found
    rw [List.isPrefixOf?_eq_some_iff_append_eq] at found
    apply String.toList_inj.mp
    simpa using found
  · rintro rfl
    rw [String.toList_append, List.isPrefixOf?_eq_some_iff_append_eq.mpr rfl]
    simp

end Text

theorem isDirectlyBelow_iff {directory entryKey : String} :
    isDirectlyBelow directory entryKey = true ↔
      ∃ leaf, Layout.entryKey directory leaf = entryKey ∧ leaf ≠ "" ∧ '/' ∉ leaf.toList := by
  unfold isDirectlyBelow Layout.entryKey
  constructor
  · intro below
    cases found : Text.after? (directory ++ "/") entryKey with
    | none => simp [found] at below
    | some leaf =>
      refine ⟨leaf, Text.after?_eq_some.mp found, ?_⟩
      simpa [found] using below
  · rintro ⟨leaf, rfl, nonempty, whole⟩
    rw [Text.after?_eq_some.mpr rfl]
    simpa using ⟨nonempty, whole⟩

/-- Name and namespace hold no upper case letters, as the cluster sees to. -/
structure Key.IsLower (key : Key) : Prop where
  name : key.name.toLower = key.name
  ns : key.ns.toLower = key.ns

instance (key : Key) : Decidable key.IsLower :=
  decidable_of_iff (key.name.toLower = key.name ∧ key.ns.toLower = key.ns)
    ⟨fun ⟨name, ns⟩ => ⟨name, ns⟩, fun lower => ⟨lower.name, lower.ns⟩⟩

namespace Layout

variable {layout : Layout} {key other : Key} {zone zone' directory entryKey : String}

theorem directory_eq_ok :
    layout.directory key zone = .ok directory ↔
      ∃ labels, nameLabels key zone = .ok labels ∧
        layout.root ++ "/" ++ Text.join '/' labels.reverse = directory := by
  unfold Layout.directory
  simp [exceptBind_eq_ok, pure, Except.pure]

theorem isValid_of_directory (found : layout.directory key zone = .ok directory) :
    Dns.Zone.IsValid zone := by
  obtain ⟨labels, named, -⟩ := directory_eq_ok.mp found
  exact (nameLabels_eq_ok.mp named).1

theorem directory_normalize (found : layout.directory key zone = .ok directory) :
    layout.directory key (Dns.Zone.normalize zone) = .ok directory := by
  obtain ⟨labels, named, rfl⟩ := directory_eq_ok.mp found
  exact directory_eq_ok.mpr ⟨labels, nameLabels_normalize named, rfl⟩

/-- The key of an entry lies directly in the directory of a service. -/
def Resides (layout : Layout) (key : Key) (zone entryKey : String) : Prop :=
  ∃ directory, layout.directory key zone = .ok directory ∧
    isDirectlyBelow directory entryKey = true

theorem Resides.isValid (resides : layout.Resides key zone entryKey) : Dns.Zone.IsValid zone := by
  obtain ⟨directory, found, -⟩ := resides
  exact isValid_of_directory found

theorem Resides.normalize (resides : layout.Resides key zone entryKey) :
    layout.Resides key (Dns.Zone.normalize zone) entryKey := by
  obtain ⟨directory, found, below⟩ := resides
  exact ⟨directory, directory_normalize found, below⟩

theorem isValid_of_mem_writtenLabels (found : layout.directory key zone = .ok directory) :
    ∀ label ∈ writtenLabels key zone, Dns.Label.IsValid label := by
  obtain ⟨labels, named, -⟩ := directory_eq_ok.mp found
  exact isValid_of_nameLabels named

/-- The segments of the key of an entry, below the root. -/
theorem join_writtenLabels (found : layout.directory key zone = .ok directory) (leaf : String) :
    layout.root ++ "/" ++
      Text.join '/' (((writtenLabels key zone).map String.toLower).reverse ++ [leaf]) =
        Layout.entryKey directory leaf := by
  obtain ⟨labels, named, rfl⟩ := directory_eq_ok.mp found
  obtain ⟨-, -, -, rfl, -⟩ := nameLabels_eq_ok.mp named
  rw [Text.join_concat '/' (by simp [writtenLabels]), Layout.entryKey]
  simp only [String.append_assoc]
  rfl

theorem Resides.exists_root (resides : layout.Resides key zone entryKey) :
    ∃ rest, layout.root ++ "/" ++ rest = entryKey := by
  obtain ⟨directory, found, below⟩ := resides
  obtain ⟨leaf, rfl, -⟩ := isDirectlyBelow_iff.mp below
  exact ⟨_, join_writtenLabels found leaf⟩

/-- Locating the key of an entry gives back the key in lower case and the zone in normal form. -/
theorem locate?_entryKey (found : layout.directory key zone = .ok directory) {leaf : String}
    (nonempty : leaf ≠ "") (whole : '/' ∉ leaf.toList) :
    layout.locate? (Layout.entryKey directory leaf) =
      some ⟨⟨key.ns.toLower, key.name.toLower⟩, Dns.Zone.normalize zone, leaf⟩ := by
  have valid := isValid_of_directory found
  have lowered : ∀ label ∈ (writtenLabels key zone).map String.toLower,
      Dns.Label.IsValid label := by
    intro label member
    rw [List.mem_map] at member
    obtain ⟨written, member, rfl⟩ := member
    exact (isValid_of_mem_writtenLabels found written member).toLower
  have segmented : Text.segments '/' (Text.join '/'
      (((writtenLabels key zone).map String.toLower).reverse ++ [leaf])) =
      ((writtenLabels key zone).map String.toLower).reverse ++ [leaf] := by
    apply Text.segments_join
    · simp
    · intro part member
      rcases List.mem_append.mp member with member | member
      · exact (lowered part (List.mem_reverse.mp member)).not_mem (by decide)
      · rwa [List.mem_singleton.mp member]
  have filled : (((writtenLabels key zone).map String.toLower).reverse ++ [leaf]).any
      (· == "") = false := by
    simp only [List.any_eq_false, List.mem_append, List.mem_reverse, List.mem_singleton, beq_iff_eq]
    rintro part (member | rfl)
    · exact (lowered part member).ne_empty
    · exact nonempty
  obtain ⟨first, rest, split⟩ :=
    List.exists_cons_of_ne_nil (Text.segments_ne_nil '.' (Dns.Zone.published zone))
  rw [← join_writtenLabels found leaf]
  unfold Layout.locate?
  rw [Text.after?_eq_some.mpr rfl]
  simp only [segmented, filled, Option.bind_some, bind]
  rw [Dns.Zone.normalize_eq_join valid]
  simp [writtenLabels, Dns.Zone.labels, split]

theorem locate?_of_resides (resides : layout.Resides key zone entryKey) :
    ∃ leaf, layout.locate? entryKey =
      some ⟨⟨key.ns.toLower, key.name.toLower⟩, Dns.Zone.normalize zone, leaf⟩ := by
  obtain ⟨directory, found, below⟩ := resides
  obtain ⟨leaf, rfl, nonempty, whole⟩ := isDirectlyBelow_iff.mp below
  exact ⟨leaf, locate?_entryKey found nonempty whole⟩

theorem locate?_of_isLower (lower : key.IsLower) (resides : layout.Resides key zone entryKey) :
    ∃ leaf, layout.locate? entryKey = some ⟨key, Dns.Zone.normalize zone, leaf⟩ := by
  obtain ⟨leaf, located⟩ := locate?_of_resides resides
  rw [lower.name, lower.ns] at located
  exact ⟨leaf, located⟩

theorem Resides.lower_eq (resides : layout.Resides key zone entryKey)
    (again : layout.Resides other zone' entryKey) :
    key.ns.toLower = other.ns.toLower ∧ key.name.toLower = other.name.toLower ∧
      Dns.Zone.normalize zone = Dns.Zone.normalize zone' := by
  obtain ⟨leaf, located⟩ := locate?_of_resides resides
  obtain ⟨leaf', located'⟩ := locate?_of_resides again
  rw [located] at located'
  simp only [Option.some.injEq, Location.mk.injEq, Key.mk.injEq] at located'
  exact ⟨located'.1.1, located'.1.2, located'.2.1⟩

/-- Keys in lower case do not share their places. -/
theorem Resides.eq_of_isLower (lower : key.IsLower) (lower' : other.IsLower)
    (resides : layout.Resides key zone entryKey)
    (again : layout.Resides other zone' entryKey) : key = other := by
  obtain ⟨ns, name, -⟩ := resides.lower_eq again
  rw [lower.ns, lower'.ns] at ns
  rw [lower.name, lower'.name] at name
  exact congrArg₂ Key.mk ns name

end Layout

end ServiceRecords
