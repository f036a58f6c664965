import ServiceRecords.Proofs.Record.Ownership
import ServiceRecords.Store.Memory

set_option autoImplicit false

/-!
# What writes leave in the store

`Changes.between` is right about the store: once all its writes are made, every desired entry is
stored as it is desired (`applyTo_stored`), and every owned entry of the directory is a desired
one (`between_desired`). `deleteOwned` leaves no owned entry in its directory
(`not_owned_of_withoutOwned`). Nothing outside of the directory changes.
-/

namespace ServiceRecords

namespace Store

variable {contents : Contents} {start key value : String}

theorem mem_listing :
    (key, value) ∈ listing contents start ↔
      contents[key]? = some value ∧ ∃ rest, start ++ rest = key := by
  unfold listing
  simp only [List.mem_filter, Std.ExtTreeMap.mem_toList_iff_getElem?_eq_some,
    Option.isSome_iff_exists, Text.after?_eq_some]

/-- The entries that lie directly in a directory. -/
def listingIn (contents : Contents) (directory : String) : List (String × String) :=
  (listing contents (directory ++ "/")).filter fun (key, _) => isDirectlyBelow directory key

theorem mem_listingIn {directory : String} :
    (key, value) ∈ listingIn contents directory ↔
      contents[key]? = some value ∧ isDirectlyBelow directory key = true := by
  unfold listingIn
  rw [List.mem_filter, mem_listing]
  constructor
  · rintro ⟨⟨found, -⟩, below⟩
    exact ⟨found, below⟩
  · rintro ⟨found, below⟩
    obtain ⟨leaf, rfl, -⟩ := isDirectlyBelow_iff.mp below
    exact ⟨⟨found, leaf, rfl⟩, below⟩

def putAll (contents : Contents) (puts : List (String × String)) : Contents :=
  puts.foldl (fun contents put => contents.insert put.1 put.2) contents

def deleteAll (contents : Contents) (keys : List String) : Contents :=
  keys.foldl (fun contents key => contents.erase key) contents

theorem getElem?_insert (contents : Contents) (key value other : String) :
    (contents.insert key value)[other]? = if key = other then some value else contents[other]? := by
  simp only [Std.ExtTreeMap.getElem?_insert, Std.LawfulEqCmp.compare_eq_iff_eq]

theorem getElem?_erase (contents : Contents) (key other : String) :
    (contents.erase key)[other]? = if key = other then none else contents[other]? := by
  simp only [Std.ExtTreeMap.getElem?_erase, Std.LawfulEqCmp.compare_eq_iff_eq]

theorem getElem?_putAll (puts : List (String × String)) (contents : Contents) (key : String) :
    (∃ value, (key, value) ∈ puts ∧ (putAll contents puts)[key]? = some value) ∨
      (∀ value, (key, value) ∉ puts) ∧ (putAll contents puts)[key]? = contents[key]? := by
  induction puts generalizing contents with
  | nil => exact .inr ⟨by simp, rfl⟩
  | cons put rest ih =>
    rcases ih (contents.insert put.1 put.2) with ⟨value, member, found⟩ | ⟨absent, same⟩
    · exact .inl ⟨value, List.mem_cons_of_mem _ member, found⟩
    · rw [getElem?_insert] at same
      by_cases same_key : put.1 = key
      · refine .inl ⟨put.2, by simp [← same_key], ?_⟩
        rwa [if_pos same_key] at same
      · refine .inr ⟨?_, by rwa [if_neg same_key] at same⟩
        rintro value (- | ⟨-, member⟩)
        · exact same_key rfl
        · exact absent value member

theorem getElem?_deleteAll (keys : List String) (contents : Contents) (key : String) :
    (deleteAll contents keys)[key]? = if key ∈ keys then none else contents[key]? := by
  induction keys generalizing contents with
  | nil => simp [deleteAll]
  | cons first rest ih =>
    have shape : deleteAll contents (first :: rest) = deleteAll (contents.erase first) rest := rfl
    rw [shape, ih, getElem?_erase]
    by_cases same : first = key
    · simp [same]
    · simp [same, Ne.symm same]

/-- The contents without the owned entries directly in a directory. -/
def withoutOwned (layout : Layout) (directory : String) (contents : Contents) : Contents :=
  deleteAll contents
    (((listingIn contents directory).filter fun (_, value) => layout.owns value).map (·.1))

variable {layout : Layout} {directory : String}

theorem mem_ownedKeys :
    key ∈ (((listingIn contents directory).filter fun (_, value) => layout.owns value).map (·.1)) ↔
      isDirectlyBelow directory key = true ∧
        ∃ value, contents[key]? = some value ∧ layout.owns value = true := by
  simp only [List.mem_map, List.mem_filter, Prod.exists, exists_and_right, exists_eq_right,
    mem_listingIn]
  constructor
  · rintro ⟨value, ⟨found, below⟩, owned⟩
    exact ⟨below, value, found, owned⟩
  · rintro ⟨below, value, found, owned⟩
    exact ⟨value, ⟨found, below⟩, owned⟩

theorem not_owned_of_withoutOwned (below : isDirectlyBelow directory key = true)
    (found : (withoutOwned layout directory contents)[key]? = some value) :
    layout.owns value = false := by
  unfold withoutOwned at found
  rw [getElem?_deleteAll] at found
  split at found
  · cases found
  · rename_i spared
    rw [mem_ownedKeys] at spared
    simpa using fun owned => spared ⟨below, value, found, owned⟩

end Store

namespace Changes

open Store

def applyTo (changes : Changes) (contents : Contents) : Contents :=
  deleteAll (putAll contents changes.puts) changes.deletes

variable {layout : Layout} {contents : Contents} {desired : Std.ExtTreeMap String Entry}
  {current : List (String × String)} {directory key value : String} {entry : Entry}

theorem exists_of_holds (held : holds current key entry = true) :
    ∃ value, (key, value) ∈ current ∧ Entry.ofText? value = some entry := by
  unfold holds valueOf? at held
  split at held
  · rename_i value found
    have member : (key, value) ∈ current.reverse := by
      obtain ⟨before, after, shape, -⟩ := List.lookup_eq_some_iff.mp found
      rw [shape]
      simp
    exact ⟨value, List.mem_reverse.mp member, by simpa using held⟩
  · cases held

/-- A value that is the only one listed for its key decides what the listing holds there. -/
theorem holds_of_mem (member : (key, value) ∈ current)
    (unique : ∀ other, (key, other) ∈ current → other = value)
    (read : Entry.ofText? value = some entry) : holds current key entry = true := by
  have listed : (key, value) ∈ current.reverse := List.mem_reverse.mpr member
  unfold holds valueOf?
  cases found : current.reverse.lookup key with
  | none =>
    rw [List.lookup_eq_none_iff] at found
    simpa using found _ listed
  | some other =>
    obtain ⟨before, rest, shape, -⟩ := List.lookup_eq_some_iff.mp found
    have present : (key, other) ∈ current.reverse := by simp [shape]
    obtain rfl := unique other (List.mem_reverse.mp present)
    simp [read]

theorem mem_puts :
    (key, value) ∈ (between layout desired current).puts ↔
      ∃ entry, desired[key]? = some entry ∧ holds current key entry = false ∧
        entry.text = value := by
  simp only [between, List.mem_map, List.mem_filter, Prod.exists,
    Std.ExtTreeMap.mem_toList_iff_getElem?_eq_some, Prod.mk.injEq, Bool.not_eq_true']
  constructor
  · rintro ⟨_, entry, ⟨member, missing⟩, rfl, rfl⟩
    exact ⟨entry, member, missing, rfl⟩
  · rintro ⟨entry, member, missing, rfl⟩
    exact ⟨key, entry, ⟨member, missing⟩, rfl, rfl⟩

theorem mem_deletes :
    key ∈ (between layout desired current).deletes ↔
      desired[key]? = none ∧ ∃ value, (key, value) ∈ current ∧ layout.owns value = true := by
  simp only [between, List.mem_map, List.mem_filter, Prod.exists, exists_and_right,
    exists_eq_right, Bool.and_eq_true, Bool.not_eq_true',
    Std.ExtTreeMap.contains_eq_isSome_getElem?, Option.isSome_eq_false_iff,
    Option.isNone_iff_eq_none]
  constructor
  · rintro ⟨value, member, undesired, owned⟩
    exact ⟨undesired, value, member, owned⟩
  · rintro ⟨undesired, value, member, owned⟩
    exact ⟨value, member, undesired, owned⟩

theorem getElem?_applyTo (changes : Changes) (contents : Contents) (key : String) :
    (changes.applyTo contents)[key]? =
      if key ∈ changes.deletes then none else (putAll contents changes.puts)[key]? :=
  getElem?_deleteAll changes.deletes _ key

/-- There is nothing to change where every desired entry is held, and only those are owned. -/
theorem between_eq_nil_of_holds
    (held : ∀ x entry, desired[x]? = some entry → holds current x entry = true)
    (owned : ∀ x value, (x, value) ∈ current → layout.owns value = true → desired[x]? ≠ none) :
    between layout desired current = ⟨[], []⟩ := by
  have puts : (between layout desired current).puts = [] := by
    rw [List.eq_nil_iff_forall_not_mem]
    rintro ⟨x, value⟩ member
    obtain ⟨entry, wanted, missing, rfl⟩ := mem_puts.mp member
    rw [held x entry wanted] at missing
    cases missing
  have deletes : (between layout desired current).deletes = [] := by
    rw [List.eq_nil_iff_forall_not_mem]
    intro x member
    obtain ⟨undesired, value, listed, own⟩ := mem_deletes.mp member
    exact owned x value listed own undesired
  exact congrArg₂ Changes.mk puts deletes

/-- Every desired entry is stored after the writes. -/
theorem applyTo_stored (listed : ∀ x value, (x, value) ∈ current → contents[x]? = some value)
    (member : desired[key]? = some entry) :
    ∃ value, ((between layout desired current).applyTo contents)[key]? = some value ∧
      Entry.ofText? value = some entry := by
  rw [getElem?_applyTo, if_neg (by simp [mem_deletes, member])]
  rcases getElem?_putAll (between layout desired current).puts contents key
    with ⟨value, put, found⟩ | ⟨spared, same⟩
  · obtain ⟨written, written_member, -, rfl⟩ := mem_puts.mp put
    rw [member] at written_member
    cases written_member
    exact ⟨entry.text, found, Entry.ofText?_text entry⟩
  · have held : holds current key entry = true := by
      by_contra missing
      exact spared entry.text (mem_puts.mpr ⟨entry, member, by simpa using missing, rfl⟩)
    obtain ⟨value, present, read⟩ := exists_of_holds held
    exact ⟨value, by rw [same, listed key value present], read⟩

theorem between_stored (member : desired[key]? = some entry) :
    ∃ value, ((between layout desired (listingIn contents directory)).applyTo contents)[key]? =
      some value ∧ Entry.ofText? value = some entry :=
  applyTo_stored (fun _ _ listed => (mem_listingIn.mp listed).1) member

/-- Where nothing is desired nothing is put. -/
theorem getElem?_applyTo_of_undesired (undesired : desired[key]? = none) (contents : Contents) :
    ((between layout desired current).applyTo contents)[key]? =
      if key ∈ (between layout desired current).deletes then none else contents[key]? := by
  rw [getElem?_applyTo]
  split
  · rfl
  · rcases getElem?_putAll (between layout desired current).puts contents key
      with ⟨_, put, -⟩ | ⟨-, same⟩
    · obtain ⟨entry, member, -⟩ := mem_puts.mp put
      rw [undesired] at member
      cases member
    · exact same

/-- After the writes no owned entry of the directory is left that is not desired. -/
theorem between_desired (below : isDirectlyBelow directory key = true)
    (found : ((between layout desired (listingIn contents directory)).applyTo contents)[key]? =
      some value)
    (owned : layout.owns value = true) : ∃ entry, desired[key]? = some entry := by
  rw [← Option.ne_none_iff_exists']
  intro undesired
  rw [getElem?_applyTo_of_undesired undesired] at found
  split at found
  · cases found
  · rename_i spared
    exact spared (mem_deletes.mpr ⟨undesired, value, mem_listingIn.mpr ⟨found, below⟩, owned⟩)

end Changes

end ServiceRecords
