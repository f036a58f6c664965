import ServiceRecords.Proofs.Reconcile.Caution
import ServiceRecords.Proofs.Reconcile.Terms

set_option autoImplicit false

/-!
# The reasons for a request

A reconciliation deletes an entry because it was listed and is owned, and writes one because a
service that was read asks for it. A sweep marks a zone, and has a key reconciled, because of an
owned entry that it has listed. Terms that allow what there is such a reason for are kept by both
(`Warrants.achieves_reconcile`, `Warrants.achieves_sweep`).
-/

namespace ServiceRecords

/-- Reading is permitted, and so is whatever there is a reason for in what was read. -/
structure Warrants (terms : Terms) (layout : Layout) : Prop where
  readService : ∀ key, terms.permits (.readService key)
  readStale : ∀ key, terms.permits (.readStale key)
  clearStale : ∀ key zones, terms.permits (.clearStale key zones)
  list : ∀ start, terms.permits (.list start)
  delete : ∀ {start listed x value}, terms.tells (.list start) (.ok listed) →
    (x, value) ∈ listed → layout.owns value = true → terms.permits (.delete x)
  put : ∀ {key service x entry}, terms.tells (.readService key) (some service) →
    layout.Names service x entry → terms.permits (.put x entry.text)
  markStale : ∀ {start listed x value location}, terms.tells (.list start) (.ok listed) →
    (x, value) ∈ listed → layout.owns value = true → layout.locate? x = some location →
      terms.permits (.markStale location.key location.zone)
  enqueue : ∀ {start listed x value location}, terms.tells (.list start) (.ok listed) →
    (x, value) ∈ listed → layout.owns value = true → layout.locate? x = some location →
      terms.permits (.enqueue location.key)

namespace Warrants

variable {terms : Terms} {layout : Layout}

theorem clears (warrants : Warrants terms layout) (directory : String) :
    terms.Clears layout directory :=
  ⟨warrants.list _, fun told member _ owned => warrants.delete told member owned⟩

theorem grants (warrants : Warrants terms layout) (key : Key) : terms.Grants layout key where
  readService := warrants.readService key
  readStale := warrants.readStale key
  clearStale _ _ _ := warrants.clearStale key _
  clean _ _ _ _ _ := warrants.clears _
  withdraw _ _ _ := warrants.clears _
  publish told _ made := {
    list := warrants.list _
    put := fun _ wanted _ => warrants.put told ⟨_, made, wanted⟩
    delete := fun told member _ owned _ => warrants.delete told member owned }

theorem achieves_reconcile (warrants : Warrants terms layout) (key : Key) :
    terms.agreement.Achieves (fun _ => True) (reconcile layout key) fun _ _ => True :=
  Terms.achieves_reconcile (warrants.grants key)

/-- The keys of the orphans may be announced, as their entries have been listed. -/
theorem honours_markOrphans (warrants : Warrants terms layout) {start : String}
    {listed : List (String × String)} (told : terms.tells (.list start) (.ok listed))
    (entries : List (String × String)) (known : entries ⊆ listed) :
    terms.agreement.Honours (fun orphans _ => ∀ key ∈ orphans, terms.permits (.enqueue key))
      (markOrphans layout entries) () := by
  induction entries with
  | nil => exact fun _ _ => by simp
  | cons entry rest ih =>
    obtain ⟨x, value⟩ := entry
    rw [List.cons_subset] at known
    have others := ih known.2
    unfold markOrphans
    cases found : (if layout.owns value then layout.locate? x else none) with
    | none => exact others
    | some location =>
      obtain ⟨owned, found⟩ := Option.ite_none_right_eq_some.mp found
      have reading : terms.agreement.Honours (fun _ _ => True)
          (Procedure.request (.readService location.key)) () :=
        (Terms.honours_request (warrants.readService location.key)).mono fun _ _ _ => trivial
      refine reading.bind ?_
      rintro cached _ -
      by_cases wanted : wantedZone? cached = some location.zone
      · rw [if_pos wanted]
        exact others
      · rw [if_neg wanted]
        have marking : terms.agreement.Honours (fun _ _ => True)
            (Procedure.request (.markStale location.key location.zone)) () :=
          (Terms.honours_request (warrants.markStale told known.1 owned found)).mono
            fun _ _ _ => trivial
        refine marking.bind ?_
        rintro - _ -
        refine others.bind ?_
        rintro orphans _ permitted _ - key member
        rw [Std.ExtTreeSet.mem_insert, Std.LawfulEqCmp.compare_eq_iff_eq] at member
        rcases member with rfl | member
        · exact warrants.enqueue told known.1 owned found
        · exact permitted key member

theorem achieves_sweep (warrants : Warrants terms layout) :
    terms.agreement.Achieves (fun _ => True) (sweep layout) fun _ _ => True := by
  unfold sweep
  refine (Terms.achieves_list (warrants.list _)).bind fun entries => ⟨?_⟩
  intro _ told
  have marking : terms.agreement.Achieves (ε := StoreError) (fun _ => True)
      (ExceptT.lift (markOrphans layout entries))
      fun orphans _ => ∀ key ∈ orphans, terms.permits (.enqueue key) :=
    .lift (fun _ => Terms.stable _) fun _ _ =>
      warrants.honours_markOrphans told entries fun _ member => member
  refine (marking.bind fun orphans => ⟨?_⟩).honours () trivial
  intro _ permitted
  refine ((Agreement.Achieves.forM _ _ (Terms.stable fun _ => True) fun key member => ?_).bind
    fun _ => .pure (Terms.stable _) fun _ _ => trivial).honours () trivial
  have announced := permitted key (by simpa using member)
  exact .lift (fun _ => Terms.stable _) fun _ _ =>
    (Terms.honours_request announced).mono fun _ _ _ => trivial

end Warrants

end ServiceRecords
