import ServiceRecords.Proofs.Reconcile.Inventory

set_option autoImplicit false

/-!
# What a reconciliation is for, place by place

`Layout.target` tells what is to be stored at a place after a reconciliation in view of what is
stored there before: an owned entry of an unwanted zone is to go, and an entry that a live service
asks for is to be written unless it can be read there already.
-/

namespace ServiceRecords

/-- What is written at a place where the entry is wanted: nothing if it can be read there. -/
def Entry.ensure (entry : Entry) (value? : Option String) : Option String :=
  if value?.bind Entry.ofText? = some entry then value? else some entry.text

theorem Entry.ensure_text (entry : Entry) : entry.ensure (some entry.text) = some entry.text := by
  simp [Entry.ensure]

namespace Layout

variable {layout : Layout} {key : Key} {zone x value directory : String} {value? : Option String}
  {zones : List String} {contents : Store.Contents} {copy : Option Service} {service : Service}
  {record : Record}

instance : Decidable (layout.Resides key zone x) :=
  match found : layout.directory key zone with
  | .ok directory => decidable_of_iff (isDirectlyBelow directory x = true) (by
      simp [Resides, found])
  | .error error => .isFalse (by simp [Resides, found])

/-- A stored value, unless it is owned. -/
def disown (layout : Layout) (value? : Option String) : Option String :=
  value?.filter fun value => !layout.owns value

/-- What is to be stored at a place once the zones have been cleaned. -/
def cleaned (layout : Layout) (key : Key) (zones : List String) (x : String)
    (value? : Option String) : Option String :=
  if ∃ zone ∈ zones, layout.Resides key zone x then layout.disown value? else value?

/-- What is to be stored at a place once the record has been published. -/
def published (layout : Layout) (record : Record) (x : String) (value? : Option String) :
    Option String :=
  match record.entries[x]? with
  | some entry => entry.ensure value?
  | none => if isDirectlyBelow record.directory x then layout.disown value? else value?

/-- What is to be stored at a place by what is left to do once the stale zones are clean. -/
def concluded (layout : Layout) (key : Key) (copy : Option Service) (x : String)
    (value? : Option String) : Option String :=
  match copy with
  | none => value?
  | some service =>
    if service.isDeleting then layout.cleaned key [service.spec.zone] x value?
    else
      match layout.record service with
      | .error _ => value?
      | .ok record => layout.published record x value?

/-- What is to be stored at a place in the end. -/
def target (layout : Layout) (key : Key) (copy : Option Service) (unwanted : List String)
    (x : String) (value? : Option String) : Option String :=
  layout.concluded key copy x (layout.cleaned key unwanted x value?)

/-- What is left to do once the stale zones are clean can be done. -/
def Admits (layout : Layout) (key : Key) (copy : Option Service) : Prop :=
  ∀ service, copy = some service →
    if service.isDeleting then ∃ directory, layout.directory key service.spec.zone = .ok directory
    else ∃ record, layout.record service = .ok record

/-- The text is that of an entry that a live service asks for. -/
def Wants (layout : Layout) (copy : Option Service) (x value : String) : Prop :=
  ∃ service entry, copy = some service ∧ service.isDeleting = false ∧
    layout.Names service x entry ∧ entry.text = value

/-- No owned entry of the key is left in the zone. -/
def IsClean (layout : Layout) (contents : Store.Contents) (key : Key) (zone : String) : Prop :=
  ∀ x value, layout.Resides key zone x → contents[x]? = some value → layout.owns value = false

@[simp]
theorem disown_none : layout.disown none = none := rfl

theorem disown_of_owned (owned : layout.owns value = true) : layout.disown (some value) = none := by
  simp [disown, owned]

theorem disown_eq_self (disowned : ∀ value, value? = some value → layout.owns value = false) :
    layout.disown value? = value? := by
  cases value? with
  | none => rfl
  | some value => simp [disown, disowned value rfl]

@[simp]
theorem cleaned_nil : layout.cleaned key [] x value? = value? := by
  simp [cleaned]

theorem cleaned_none : layout.cleaned key zones x none = none := by
  simp [cleaned]

theorem cleaned_of_owned (member : zone ∈ zones) (resides : layout.Resides key zone x)
    (owned : layout.owns value = true) : layout.cleaned key zones x (some value) = none := by
  unfold cleaned
  rw [if_pos ⟨zone, member, resides⟩, disown_of_owned owned]

theorem cleaned_eq_self (clean : ∀ zone ∈ zones, layout.IsClean contents key zone) (x : String) :
    layout.cleaned key zones x contents[x]? = contents[x]? := by
  unfold cleaned
  split
  · rename_i found
    obtain ⟨zone, member, resides⟩ := found
    exact disown_eq_self fun value stored => clean zone member x value resides stored
  · rfl

theorem concluded_live (alive : service.isDeleting = false)
    (made : layout.record service = .ok record) :
    layout.concluded key (some service) x value? = layout.published record x value? := by
  simp [concluded, alive, made]

theorem target_live (alive : service.isDeleting = false)
    (made : layout.record service = .ok record) :
    layout.target key (some service) [] x value? = layout.published record x value? := by
  rw [target, cleaned_nil, concluded_live alive made]

/-- Putting what is missing makes no difference to what is to be stored. -/
theorem published_put (made : layout.record service = .ok record)
    (member : (x, value) ∈ (Changes.between layout record.entries
      (Store.listingIn contents record.directory)).puts) :
    layout.published record x (some value) = layout.published record x contents[x]? := by
  obtain ⟨entry, wanted, missing, rfl⟩ := Changes.mem_puts.mp member
  simp only [published, wanted]
  rw [Entry.ensure_text, Entry.ensure, if_neg]
  intro held
  obtain ⟨value, stored, read⟩ := Option.bind_eq_some_iff.mp held
  rw [Changes.holds_of_stored stored (spec_of_record made wanted).1 read] at missing
  cases missing

/-- Neither does deleting what is not desired, after that. -/
theorem published_delete (member : x ∈ (Changes.between layout record.entries
      (Store.listingIn contents record.directory)).deletes) :
    layout.published record x none = layout.published record x (Store.putAll contents
      (Changes.between layout record.entries
        (Store.listingIn contents record.directory)).puts)[x]? := by
  obtain ⟨undesired, value, listed, owned⟩ := Changes.mem_deletes.mp member
  obtain ⟨stored, below⟩ := Store.mem_listingIn.mp listed
  have unwritten : (Store.putAll contents (Changes.between layout record.entries
      (Store.listingIn contents record.directory)).puts)[x]? = some value := by
    rcases Store.getElem?_putAll (Changes.between layout record.entries
      (Store.listingIn contents record.directory)).puts contents x with ⟨_, put, -⟩ | ⟨-, same⟩
    · obtain ⟨entry, wanted, -⟩ := Changes.mem_puts.mp put
      rw [undesired] at wanted
      cases wanted
    · rw [same, stored]
  rw [unwritten]
  simp [published, undesired, below, disown_of_owned owned]

/-- What the changes of a publication leave is what is to be stored. -/
theorem published_applied (layout : Layout) (record : Record) (contents : Store.Contents)
    (x : String) :
    layout.published record x ((Changes.between layout record.entries
      (Store.listingIn contents record.directory)).applyTo contents)[x]? =
    ((Changes.between layout record.entries
      (Store.listingIn contents record.directory)).applyTo contents)[x]? := by
  unfold published
  split
  · rename_i entry desired
    obtain ⟨value, stored, read⟩ : ∃ value, ((Changes.between layout record.entries
        (Store.listingIn contents record.directory)).applyTo contents)[x]? = some value ∧
        Entry.ofText? value = some entry := Changes.between_stored desired
    simp [Entry.ensure, stored, read]
  · rename_i undesired
    split
    · rename_i below
      apply disown_eq_self
      intro value stored
      by_contra owned
      obtain ⟨entry, wanted⟩ := Changes.between_desired below stored (by simpa using owned)
      rw [undesired] at wanted
      cases wanted
    · rfl

theorem IsClean.deleteAll (clean : layout.IsClean contents key zone) (keys : List String) :
    layout.IsClean (Store.deleteAll contents keys) key zone := by
  intro y value resides stored
  rw [Store.getElem?_deleteAll] at stored
  split at stored
  · cases stored
  · exact clean y value resides stored

theorem isClean_withoutOwned (found : layout.directory key zone = .ok directory) :
    layout.IsClean (Store.withoutOwned layout directory contents) key zone := by
  rintro x value ⟨directory', found', below⟩ stored
  rw [found] at found'
  cases found'
  exact Store.not_owned_of_withoutOwned below stored

theorem isClean_of_error {error : RecordError} (failed : layout.directory key zone = .error error) :
    layout.IsClean contents key zone := by
  rintro x value ⟨directory, found, -⟩ -
  rw [failed] at found
  cases found

end Layout

end ServiceRecords
