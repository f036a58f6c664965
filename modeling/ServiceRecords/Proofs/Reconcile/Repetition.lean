import ServiceRecords.Proofs.Reconcile.Success

set_option autoImplicit false

/-!
# Reconciling once more

A successful reconciliation leaves nothing to be done: what is stored is its own target, and no
stale zone is left but the wanted one. Where this is so (`Surroundings.IsDone`) a reconciliation
only reads (`achieves_unchanged`), so that it can be repeated without end (`isIdle_of_repeats`).
-/

namespace ServiceRecords

open Layout.IsInventory (Inquires)

namespace Layout

variable {layout : Layout} {key : Key} {zone directory : String} {contents : Store.Contents}
  {service : Service} {record : Record}

/-- What has been published reads as it is desired. -/
theorem between_eq_nil_of_published (made : layout.record service = .ok record)
    (same : ∀ x : String, layout.published record x contents[x]? = contents[x]?) :
    Changes.between layout record.entries (Store.listingIn contents record.directory) =
      ⟨[], []⟩ := by
  apply Changes.between_eq_nil
  · intro x entry wanted
    refine ⟨(spec_of_record made wanted).1, ?_⟩
    have ensured : entry.ensure contents[x]? = contents[x]? := by
      simpa only [published, wanted] using same x
    unfold Entry.ensure at ensured
    split at ensured
    · rename_i held
      exact Option.bind_eq_some_iff.mp held
    · exact ⟨entry.text, ensured.symm, Entry.ofText?_text entry⟩
  · intro x value stored below owned undesired
    have disowned := same x
    simp [published, undesired, below, stored, disown_of_owned owned] at disowned

theorem filter_owned_eq_nil (found : layout.directory key zone = .ok directory)
    (clean : layout.IsClean contents key zone) :
    ((Store.listingIn contents directory).filter fun (_, value) => layout.owns value) = [] := by
  rw [List.filter_eq_nil_iff]
  rintro ⟨x, value⟩ listed
  obtain ⟨stored, below⟩ := Store.mem_listingIn.mp listed
  simpa using clean x value ⟨directory, found, below⟩ stored

theorem isClean_of_cleaned (same : ∀ x : String, layout.cleaned key [zone] x contents[x]? =
    contents[x]?) : layout.IsClean contents key zone := by
  intro x value resides stored
  by_contra owned
  have disowned := same x
  rw [stored, cleaned_of_owned (List.mem_singleton_self _) resides (by simpa using owned)]
    at disowned
  cases disowned

end Layout

namespace Surroundings

variable {layout : Layout} {key : Key} {copy : Option Service} {known : Store.Contents}
  {unwanted : List String} {service : Service} {zone directory : String}
  {start settled again before after : Surroundings} {outcome : Outcome}

/-- What the observer knows and what is stored are still the same. -/
structure Unmoved (before after : Surroundings) : Prop where
  observer : after.observer = before.observer
  contents : after.memory.contents = before.memory.contents

theorem Unmoved.trans {between : Surroundings} (first : Unmoved before between)
    (second : Unmoved between after) : Unmoved before after where
  observer := second.observer.trans first.observer
  contents := second.contents.trans first.contents

theorem unmoved_of_serves {r : Request} {reply : r.Reply} (inquires : Inquires r)
    (served : Serves r before reply after) : Unmoved before after := by
  cases r with
  | readService key =>
    obtain ⟨-, rfl⟩ := served
    exact ⟨rfl, rfl⟩
  | readStale key =>
    obtain ⟨-, rfl⟩ := served
    exact ⟨rfl, rfl⟩
  | list start => exact ⟨served.1.observer, served.1.contents.elim id And.right⟩
  | _ => cases inquires

/-- What a procedure may ask for that is to change nothing. -/
abbrev reading : Agreement Surroundings := alone fun r _ => Inquires r

theorem achieves_deleteOwned_of_isClean (found : layout.directory key zone = .ok directory)
    (clean : layout.IsClean known key zone) :
    reading.Achieves (Sees key copy unwanted known) (deleteOwned layout directory)
      fun count _ => count = 0 := by
  refine (achieves_listEntries fun _ _ => trivial).bind fun entries => ⟨?_⟩
  rintro state ⟨rfl, -⟩
  rw [Layout.filter_owned_eq_nil found clean]
  rintro _ - _ ⟨⟩
  rfl

theorem achieves_withdraw_of_same (deleting : service.isDeleting = true)
    (same : ∀ x : String, layout.concluded key (some service) x known[x]? = known[x]?) :
    reading.Achieves (Sees key copy unwanted known) (withdraw layout key service 0)
      fun outcome _ => outcome = .unchanged := by
  simp only [Layout.concluded, deleting, if_true] at same
  unfold withdraw
  refine (Agreement.Achieves.ofRecord (stable_alone _)).bind fun directory => ⟨?_⟩
  rintro state ⟨found, sees⟩
  have clean := Layout.isClean_of_cleaned same
  refine ((achieves_deleteOwned_of_isClean found clean).bind fun count =>
    .pure (stable_alone _) ?_).honours state sees
  rintro _ rfl
  rfl

theorem achieves_publish_of_same (alive : service.isDeleting = false)
    (same : ∀ x : String, layout.concluded key (some service) x known[x]? = known[x]?) :
    reading.Achieves (Sees key copy unwanted known) (publish layout service 0)
      fun outcome _ => outcome = .unchanged := by
  unfold publish
  refine (Agreement.Achieves.ofRecord (stable_alone _)).bind fun record => ⟨?_⟩
  rintro state ⟨made, sees⟩
  simp only [Layout.concluded_live alive made] at same
  refine ((achieves_listEntries fun _ _ => trivial).bind fun current => ⟨?_⟩).honours state sees
  rintro state ⟨rfl, -⟩
  rw [Layout.between_eq_nil_of_published made same]
  rintro _ - _ ⟨⟩
  rfl

theorem achieves_conclude_of_same
    (same : ∀ x : String, layout.concluded key copy x known[x]? = known[x]?) :
    reading.Achieves (Sees key copy unwanted known) (conclude layout key 0 copy)
      fun outcome _ => outcome = .unchanged := by
  cases copy with
  | none =>
    apply Agreement.Achieves.pure (stable_alone _)
    rintro state -
    rfl
  | some service =>
    cases deleting : service.isDeleting with
    | true =>
      simp only [conclude, deleting, if_true]
      exact achieves_withdraw_of_same deleting same
    | false =>
      simp only [conclude, deleting, Bool.false_eq_true, if_false]
      exact achieves_publish_of_same deleting same

/-- Where nothing is left to be done, a reconciliation only reads. -/
theorem achieves_unchanged
    (same : ∀ x : String, layout.concluded key copy x known[x]? = known[x]?) :
    reading.Achieves (Sees key copy [] known) (ServiceRecords.reconcile layout key)
      fun outcome _ => outcome = .unchanged := by
  rw [reconcile_eq]
  have copying : reading.Achieves (Sees key copy [] known) (Attempt.ask (.readService key))
      fun found state => found = copy ∧ Sees key copy [] known state := by
    refine .request Except.ok (stable_alone _) (fun _ => stable_alone _) (fun _ _ => trivial) ?_
    rintro state reply after found sees ⟨rfl, rfl⟩ ⟨⟩
    exact ⟨sees.copied, sees⟩
  have recalling : reading.Achieves (Sees key copy [] known) (Attempt.ask (.readStale key))
      fun stale state => (stale.filter fun zone => wantedZone? copy != some zone) = [] ∧
        Sees key copy [] known state := by
    refine .request Except.ok (stable_alone _) (fun _ => stable_alone _) (fun _ _ => trivial) ?_
    rintro state reply after stale sees ⟨rfl, rfl⟩ ⟨⟩
    exact ⟨sees.copied ▸ sees.unwanted, sees⟩
  refine copying.bind fun found => ⟨?_⟩
  rintro state ⟨rfl, sees⟩
  refine (recalling.bind fun stale => ⟨?_⟩).honours state sees
  rintro state ⟨nothing, sees⟩
  rw [nothing]
  exact (achieves_conclude_of_same same).honours state sees

theorem IsDone.same (isDone : before.IsDone layout key) (x : String) :
    layout.concluded key (before.observer.cache.find? key) x before.memory.contents[x]? =
      before.memory.contents[x]? := by
  have reached := congrFun (Aim.mk.inj isDone.aim).2 x
  rwa [isDone.unwanted, Layout.target, Layout.cleaned_nil] at reached

theorem IsDone.honours (isDone : before.IsDone layout key) :
    reading.Honours (fun result _ => ∀ outcome, result = .ok outcome → outcome = .unchanged)
      (ServiceRecords.reconcile layout key).run before :=
  (achieves_unchanged isDone.same).honours before ⟨rfl, isDone.unwanted, rfl⟩

theorem IsDone.unmoved_of_proceeds {procedure : Procedure (Except ReconcileError Outcome)}
    (isDone : before.IsDone layout key)
    (proceeds : Relation.ReflTransGen Proceeds ((ServiceRecords.reconcile layout key).run, before)
      (procedure, after)) : Unmoved before after where
  observer := eq_of_proceeds (·.observer) isDone.honours
    (fun _ _ _ _ inquires served => (unmoved_of_serves inquires served).observer) proceeds
  contents := eq_of_proceeds (·.memory.contents) isDone.honours
    (fun _ _ _ _ inquires served => (unmoved_of_serves inquires served).contents) proceeds

theorem IsDone.of_unmoved (isDone : before.IsDone layout key) (unmoved : Unmoved before after) :
    after.IsDone layout key := by
  obtain ⟨observer, contents⟩ := unmoved
  have sees : Sees key _ _ _ before := ⟨rfl, rfl, rfl⟩
  refine ⟨?_, ?_, ?_⟩
  · rw [observer]
    exact isDone.admits
  · rw [unwanted_congr observer, isDone.unwanted]
  · rw [sees.aim_eq observer fun _ => by rw [contents], isDone.aim, observer, contents]

/-- One more reconciliation, however it ends. What is going to fail the next time is left open. -/
def Repeats (layout : Layout) (key : Key) (before after : Surroundings) : Prop :=
  ∃ result later fault, Ends (ServiceRecords.reconcile layout key).run before result later ∧
    after = later.planning fault

theorem repeats_reconcile (layout : Layout) (key : Key) (before : Surroundings)
    (fault : Option Store.Fault) :
    Repeats layout key before ((before.reconcile layout key).2.planning fault) :=
  ⟨_, _, fault, ends_reconcile layout key before, rfl⟩

theorem IsDone.unmoved_of_repeats (isDone : before.IsDone layout key)
    (repeats : Relation.ReflTransGen (Repeats layout key) before after) : Unmoved before after := by
  induction repeats with
  | refl => exact ⟨rfl, rfl⟩
  | tail _ repeated ih =>
    obtain ⟨result, later, fault, ends, rfl⟩ := repeated
    have unmoved := (isDone.of_unmoved ih).unmoved_of_proceeds ends
    exact ih.trans ⟨unmoved.observer, unmoved.contents⟩

/-- A reconciliation that starts here asks for nothing but to read, changes nothing, and has nothing
to report. Where no call fails it comes to its end. -/
structure IsIdle (layout : Layout) (key : Key) (before : Surroundings) : Prop where
  asks : ∀ (r : Request) (resume : r.Reply → Procedure (Except ReconcileError Outcome)) during,
    Relation.ReflTransGen Proceeds ((ServiceRecords.reconcile layout key).run, before)
      (.ask r resume, during) → Inquires r
  leaves : ∀ result after, Ends (ServiceRecords.reconcile layout key).run before result after →
    Unmoved before after
  reports : ∀ outcome after,
    Ends (ServiceRecords.reconcile layout key).run before (.ok outcome) after →
      outcome = .unchanged
  succeeds : before.memory.fault = none →
    ∃ after, before.reconcile layout key = (.ok .unchanged, after)

theorem IsDone.isIdle (isDone : before.IsDone layout key) : before.IsIdle layout key := by
  have reports : ∀ outcome after,
      Ends (ServiceRecords.reconcile layout key).run before (.ok outcome) after →
        outcome = .unchanged :=
    fun outcome after ends => post_of_ends isDone.honours ends outcome rfl
  refine ⟨?_, fun _ _ ends => isDone.unmoved_of_proceeds ends, reports, ?_⟩
  · intro r resume during proceeds
    exact permits_of_proceeds isDone.honours proceeds
  · intro flawless
    obtain ⟨outcome, after, ran⟩ := exists_reconcile flawless isDone.admits
    have ends := ends_reconcile layout key before
    rw [ran] at ends
    rw [ran, reports outcome after ends]
    exact ⟨after, rfl⟩

/-- Once a reconciliation has been successful, nobody finds anything to do by reconciling again, how
often and with whatever failures this is done. -/
theorem isIdle_of_repeats
    (success : Ends (ServiceRecords.reconcile layout key).run start (.ok outcome) settled)
    {fault : Option Store.Fault}
    (repeats : Relation.ReflTransGen (Repeats layout key) (settled.planning fault) again) :
    Unmoved settled again ∧ again.IsIdle layout key := by
  have isDone : (settled.planning fault).IsDone layout key :=
    (isDone_of_ends success).of_unmoved ⟨rfl, rfl⟩
  have unmoved := isDone.unmoved_of_repeats repeats
  exact ⟨⟨unmoved.observer, unmoved.contents⟩, (isDone.of_unmoved unmoved).isIdle⟩

/-- Of the service that has moved, the zone to which it has moved is marked, too. -/
def overmarked : Surroundings := crowded.updateStale (·.mark ⟨"svc", "a"⟩ "z2")

/-- The mark of that zone stays. In the second attempt the listing fails, and the third one has
nothing to do. -/
theorem isIdle_of_repeats_overmarked : ∃ settled failed,
    Ends (ServiceRecords.reconcile {} ⟨"svc", "a"⟩).run overmarked (.ok .updated) settled ∧
    settled.observer.stale.zones ⟨"svc", "a"⟩ = ["z2"] ∧
    settled.memory.contents.toList.map Prod.fst =
      ["/skydns/z1/svc/a/note", "/skydns/z2/svc/a/e"] ∧
    ((settled.planning (some ⟨.unavailable, [], 0⟩)).reconcile {} ⟨"svc", "a"⟩).1.toOption = none ∧
    Repeats {} ⟨"svc", "a"⟩ (settled.planning (some ⟨.unavailable, [], 0⟩)) failed ∧
    Unmoved settled failed ∧
    ∃ after, failed.reconcile {} ⟨"svc", "a"⟩ = (.ok .unchanged, after) := by
  have succeeded : (overmarked.reconcile {} ⟨"svc", "a"⟩).1.toOption = some .updated := by
    decide +kernel
  have ends := ends_of_toOption succeeded
  have repeated := repeats_reconcile {} ⟨"svc", "a"⟩
    ((overmarked.reconcile {} ⟨"svc", "a"⟩).2.planning (some ⟨.unavailable, [], 0⟩)) none
  obtain ⟨unmoved, idle⟩ := isIdle_of_repeats ends (.single repeated)
  exact ⟨_, _, ends, by decide +kernel, by decide +kernel, by decide +kernel, repeated, unmoved,
    idle.succeeds rfl⟩

end Surroundings

end ServiceRecords
