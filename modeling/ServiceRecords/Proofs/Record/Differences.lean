import ServiceRecords.Proofs.Store.Writes

set_option autoImplicit false

/-!
# What separates a listing from the desired entries

The changes between a listing and the desired entries are just those that are due
(`Changes.isExact_between`): nothing is put that can be read already, and nothing is deleted but
what is owned and not desired. Made in order they leave what is desired next to what belongs to
others (`Changes.fulfil_applyTo`), and from there no change is left to be made
(`Changes.Fulfil.between_eq_nil`).
-/

namespace ServiceRecords

namespace Store

variable {current : List (String × String)} {contents : Contents} {key value : String}

/-- The listing shows all that is stored and nothing else. -/
def IsListing (contents : Contents) (listing : List (String × String)) : Prop :=
  ∀ key value, (key, value) ∈ listing ↔ contents[key]? = some value

/-- A store that holds what is listed. -/
def ofListing (current : List (String × String)) : Contents := .ofList current

theorem isListing_ofListing (distinct : (current.map Prod.fst).Nodup) :
    IsListing (ofListing current) current :=
  fun _ _ => (getElem?_ofList_iff distinct).symm

theorem isListing_toList (contents : Contents) : IsListing contents contents.toList :=
  fun _ _ => Std.ExtTreeMap.mem_toList_iff_getElem?_eq_some

theorem IsListing.unique (listed : IsListing contents current) (member : (key, value) ∈ current)
    (other : String) (present : (key, other) ∈ current) : other = value := by
  rw [listed] at member present
  exact Option.some.inj (present.symm.trans member)

end Store

namespace Changes

open Store (IsListing)

variable {layout : Layout} {desired : Std.ExtTreeMap String Entry}
  {current listing : List (String × String)} {contents : Store.Contents} {x value : String}
  {entry : Entry}

theorem holds_iff (listed : IsListing contents current) :
    holds current x entry = true ↔
      ∃ value, (x, value) ∈ current ∧ Layout.decode x value = .ok entry := by
  constructor
  · intro held
    obtain ⟨value, member, read⟩ := exists_of_holds held
    exact ⟨value, member, Layout.decode_eq_ok.mpr read⟩
  · rintro ⟨value, member, read⟩
    exact holds_of_mem member (listed.unique member) (Layout.decode_eq_ok.mp read)

/-- Just what is missing from the listing is put, and just what has no place in it is deleted, each
in its order and no key twice. -/
structure IsExact (layout : Layout) (desired : Std.ExtTreeMap String Entry)
    (current : List (String × String)) (changes : Changes) : Prop where
  puts : ∀ x value, (x, value) ∈ changes.puts ↔ ∃ entry, desired[x]? = some entry ∧
    entry.text = value ∧ ¬∃ stored, (x, stored) ∈ current ∧ Layout.decode x stored = .ok entry
  reads : ∀ x value, (x, value) ∈ changes.puts →
    ∃ entry, desired[x]? = some entry ∧ Layout.decode x value = .ok entry
  deletes : ∀ x, x ∈ changes.deletes ↔
    desired[x]? = none ∧ ∃ value, (x, value) ∈ current ∧ layout.owns value = true
  inKeyOrder : (changes.puts.map Prod.fst).Pairwise (compare · · = .lt)
  inListingOrder : changes.deletes.Sublist (current.map Prod.fst)
  once : (changes.puts.map Prod.fst ++ changes.deletes).Nodup

/-- What is desired can be read, and of the rest only what is not owned is left, as it was. -/
structure Fulfil (layout : Layout) (desired : Std.ExtTreeMap String Entry)
    (current : List (String × String)) (after : Store.Contents) : Prop where
  read : ∀ (x : String) entry, desired[x]? = some entry →
    ∃ value, after[x]? = some value ∧ Layout.decode x value = .ok entry
  left : ∀ (x : String) value, desired[x]? = none →
    (after[x]? = some value ↔ (x, value) ∈ current ∧ layout.owns value = false)

theorem ordered_puts : ((between layout desired current).puts.map Prod.fst).Pairwise
    (compare · · = .lt) := by
  have ordered : desired.toList.Pairwise fun a b => compare a.1 b.1 = .lt :=
    Std.ExtTreeMap.ordered_keys_toList
  unfold between
  rw [List.map_map, List.pairwise_map]
  exact ordered.filter _

theorem sublist_deletes :
    (between layout desired current).deletes.Sublist (current.map Prod.fst) :=
  List.filter_sublist.map Prod.fst

theorem isExact_between (listed : IsListing contents current)
    (distinct : (current.map Prod.fst).Nodup) :
    (between layout desired current).IsExact layout desired current := by
  refine ⟨?puts, ?reads, fun x => mem_deletes, ordered_puts, sublist_deletes, ?once⟩
  case puts =>
    intro x value
    rw [mem_puts]
    refine exists_congr fun entry => and_congr_right fun wanted => ?_
    rw [← Bool.not_eq_true, holds_iff listed, and_comm]
  case reads =>
    intro x value put
    obtain ⟨entry, wanted, -, rfl⟩ := mem_puts.mp put
    exact ⟨entry, wanted, Layout.decode_eq_ok.mpr (Entry.ofText?_text entry)⟩
  case once =>
    refine List.nodup_append.mpr ⟨?_, sublist_deletes.nodup distinct, ?_⟩
    · refine ordered_puts.imp ?_
      rintro x _ less rfl
      simp at less
    · rintro x put _ deleted rfl
      obtain ⟨⟨x, value⟩, isPut, rfl⟩ := List.mem_map.mp put
      obtain ⟨entry, wanted, -⟩ := mem_puts.mp isPut
      rw [(mem_deletes.mp deleted).1] at wanted
      cases wanted

theorem fulfil_applyTo (listed : IsListing contents current) :
    Fulfil layout desired current ((between layout desired current).applyTo contents) := by
  constructor
  · intro x entry wanted
    obtain ⟨value, stored, read⟩ :=
      applyTo_stored (fun x value member => (listed x value).mp member) wanted
    exact ⟨value, stored, Layout.decode_eq_ok.mpr read⟩
  · intro x value undesired
    rw [getElem?_applyTo_of_undesired undesired]
    constructor
    · intro stored
      split at stored
      · cases stored
      · rename_i spared
        have member := (listed x value).mpr stored
        refine ⟨member, ?_⟩
        by_contra owned
        exact spared (mem_deletes.mpr ⟨undesired, value, member, by simpa using owned⟩)
    · rintro ⟨member, foreign⟩
      rw [if_neg, ← listed]
      · exact member
      · intro deleted
        obtain ⟨-, other, present, owned⟩ := mem_deletes.mp deleted
        rw [listed.unique member other present, foreign] at owned
        cases owned

/-- Where this has been achieved nothing is left to be done. -/
theorem Fulfil.between_eq_nil (fulfilled : Fulfil layout desired current contents)
    (listed : IsListing contents listing) : between layout desired listing = ⟨[], []⟩ := by
  apply between_eq_nil_of_holds
  · intro x entry wanted
    obtain ⟨value, stored, read⟩ := fulfilled.read x entry wanted
    exact (holds_iff listed).mpr ⟨value, (listed x value).mpr stored, read⟩
  · intro x value member owned undesired
    have foreign := ((fulfilled.left x value undesired).mp ((listed x value).mp member)).2
    rw [owned] at foreign
    cases foreign

/-- What the changes leave of a store that holds just what is listed. -/
def settled (layout : Layout) (desired : Std.ExtTreeMap String Entry)
    (current : List (String × String)) : Store.Contents :=
  (between layout desired current).applyTo (Store.ofListing current)

/-- From every listing there are changes to the desired entries, as every entry has a text. They are
exact, and they leave what is desired: whoever lists what they have left, in the order of its keys
or in any other, finds nothing more to change. -/
theorem settles_between (layout : Layout) (desired : Std.ExtTreeMap String Entry)
    (current : List (String × String)) (distinct : (current.map Prod.fst).Nodup) :
    (between layout desired current).IsExact layout desired current ∧
    Fulfil layout desired current (settled layout desired current) ∧
    between layout desired (settled layout desired current).toList = ⟨[], []⟩ ∧
    ∀ listing, IsListing (settled layout desired current) listing →
      between layout desired listing = ⟨[], []⟩ := by
  have listed := Store.isListing_ofListing distinct
  have fulfilled : Fulfil layout desired current (settled layout desired current) :=
    fulfil_applyTo listed
  have nothing : ∀ listing, IsListing (settled layout desired current) listing →
      between layout desired listing = ⟨[], []⟩ := fun _ => fulfilled.between_eq_nil
  exact ⟨isExact_between listed distinct, fulfilled, nothing _ (Store.isListing_toList _), nothing⟩

/-- An entry of the default owner under three keys. -/
def wantedThrice : Std.ExtTreeMap String Entry :=
  let entry : Entry := { host := "h", port := 1, owner := some "rpc-controller" }
  .ofList [("/d/n", entry), ("/d/m", entry), ("/d/k", entry)]

/-- The entry stands in other words under one of the keys, under another there is no entry, and the
third is not there. Of the rest only the first is owned. -/
def partlyStored : List (String × String) :=
  [("/d/z", "[\"g\",2,null,null,\"rpc-controller\"]"), ("/d/y", "[\"g\",2,null,null,\"other\"]"),
    ("/d/m", "h:1"), ("/d/k", " [\"h\", 1, null, null, \"rpc-controller\"]"), ("/d/a", "g:2")]

theorem settles_between_partlyStored :
    (partlyStored.map Prod.fst).Nodup ∧
    (∃ text, between {} wantedThrice partlyStored =
      ⟨[("/d/m", text), ("/d/n", text)], ["/d/z"]⟩) ∧
    (settled {} wantedThrice partlyStored)["/d/y"]? =
      some "[\"g\",2,null,null,\"other\"]" ∧
    between {} wantedThrice (settled {} wantedThrice partlyStored).toList = ⟨[], []⟩ := by
  have distinct : (partlyStored.map Prod.fst).Nodup := by decide
  obtain ⟨-, fulfilled, nothing, -⟩ := settles_between {} wantedThrice partlyStored distinct
  refine ⟨distinct, ⟨({ host := "h", port := 1, owner := some "rpc-controller" } : Entry).text, ?_⟩,
    ?_, nothing⟩
  · decide +kernel
  · rw [fulfilled.left "/d/y" _ (by decide +kernel)]
    decide +kernel

end Changes

end ServiceRecords
