import ServiceRecords.Proofs.Reconcile.Site

set_option autoImplicit false

/-!
# The conduct of a reconciliation

`achieves_reconcile`: a reconciliation keeps to the agreement on the site of its key, and if it
succeeds while nothing has been announced meanwhile, the site is settled. The invariant is
`Site.Knows`: what is known of the site from the copy of the service and the list of stale zones
that were read, although both may be outdated. Only the reconciliation itself writes entries of
its key, so that `Site.Mirrors` can follow them from one call to the next.
-/

namespace ServiceRecords

namespace Site

/-- The copy of the service is the cached one unless the key has been announced again. -/
structure Copied (layout : Layout) (key : Key) (copy : Option Service) (site : Site) : Prop where
  own_key : ∀ service, copy = some service → service.key = key
  remembers : ∀ zone, wantedZone? copy = some zone → site.Remembers zone
  fresh : ¬site.announced → site.cached = copy

/-- What a reconciliation knows of its site while the zones `left` are still to be cleaned. -/
structure Knows (layout : Layout) (key : Key) (copy : Option Service)
    (unwanted left : List String) (site : Site) : Prop extends Copied layout key copy site where
  apart : ∀ zone ∈ unwanted, wantedZone? copy ≠ some zone
  accounted : ∀ zone x, layout.HoldsOwned site.contents key zone x →
    zone ∈ left ∨ zone ∉ unwanted ∧
      (¬site.announced → homeZone? copy = some zone ∨ site.unannounced zone)

/-- The entries of the key are those of `known`. -/
def Mirrors (layout : Layout) (key : Key) (known : Store.Contents) (site : Site) : Prop :=
  ∀ zone x, layout.Resides key zone x → site.contents[x]? = known[x]?

variable {layout : Layout} {key : Key} {copy : Option Service} {unwanted left : List String}
  {known : Store.Contents} {directory zone : String}

theorem stable_coherent : (agreement layout key).Stable (Coherent layout key) :=
  fun _ _ _ step => step.coherent

theorem stable_copied : (agreement layout key).Stable (Copied layout key copy) := by
  intro site later copied step
  refine ⟨copied.own_key, ?_, ?_⟩
  · intro zone wanted
    exact step.remembers zone (copied.remembers zone wanted)
  · intro quiet
    rw [step.cached quiet]
    exact copied.fresh (step.unannounced_before quiet)

theorem stable_knows : (agreement layout key).Stable (Knows layout key copy unwanted left) := by
  intro site later knows step
  have copied := stable_copied knows.toCopied step
  refine ⟨copied, knows.apart, ?_⟩
  intro zone x holds
  have holds_before := step.holdsOwned_before holds
  rcases knows.accounted zone x holds_before with waiting | ⟨spared, known⟩
  · exact .inl waiting
  · refine .inr ⟨spared, fun quiet => ?_⟩
    rcases known (step.unannounced_before quiet) with home | awaited
    · exact .inl home
    · rcases step.unannounced quiet zone x holds_before awaited with awaited | wanted
      · exact .inr awaited
      · rw [copied.fresh quiet] at wanted
        exact .inl (homeZone?_of_wantedZone? wanted)

theorem stable_mirrors : (agreement layout key).Stable (Mirrors layout key known) := by
  intro site later mirrors step zone x resides
  rw [step.stored zone x resides]
  exact mirrors zone x resides

/-- Both conditions, of which a call to the store changes the second. -/
def Follows (layout : Layout) (key : Key) (copy : Option Service) (unwanted left : List String)
    (known : Store.Contents) (site : Site) : Prop :=
  Knows layout key copy unwanted left site ∧ Mirrors layout key known site

theorem stable_follows :
    (agreement layout key).Stable (Follows layout key copy unwanted left known) := by
  intro site later follows step
  exact ⟨stable_knows follows.1 step, stable_mirrors follows.2 step⟩

theorem achieves_listEntries :
    (agreement layout key).Achieves (Knows layout key copy unwanted left) (listEntries directory)
      fun entries site => ∃ known, entries = Store.listingIn known directory ∧
        Follows layout key copy unwanted left known site := by
  have listing : (agreement layout key).Achieves (Knows layout key copy unwanted left)
      (Attempt.list (directory ++ "/")) fun entries site => ∃ known,
        entries = Store.listing known (directory ++ "/") ∧
        Follows layout key copy unwanted left known site := by
    refine Agreement.Achieves.request _ stable_knows ?_ (fun _ _ => trivial) ?_
    · rintro entries site later ⟨known, listed, follows⟩ step
      exact ⟨known, listed, stable_follows follows step⟩
    · rintro site reply after entries knows ⟨rfl, listed⟩ succeeded
      cases reply with
      | error error => cases succeeded
      | ok found =>
        cases succeeded
        exact ⟨_, listed _ rfl, knows, fun _ _ _ => rfl⟩
  refine listing.bind fun entries => Agreement.Achieves.pure ?_ ?_
  · rintro site later ⟨known, listed, follows⟩ step
    exact ⟨known, listed, stable_follows follows step⟩
  · rintro site ⟨known, rfl, follows⟩
    exact ⟨known, rfl, follows⟩

theorem achieves_delete {x : String} (resides : layout.Resides key zone x) :
    (agreement layout key).Achieves (Follows layout key copy unwanted left known)
      (Attempt.delete x) fun _ => Follows layout key copy unwanted left (known.erase x) := by
  refine Agreement.Achieves.request _ stable_follows (fun _ => stable_follows)
    (fun _ _ => ⟨zone, resides⟩) ?_
  rintro site reply after a ⟨knows, mirrors⟩ (rfl | ⟨-, failed⟩) succeeded
  · refine ⟨⟨⟨knows.own_key, knows.remembers, knows.fresh⟩, knows.apart, ?_⟩, ?_⟩
    · intro zone y holds
      apply knows.accounted zone y
      obtain ⟨value, found, owned⟩ := holds.stored
      change (site.contents.erase x)[y]? = some value at found
      rw [Store.getElem?_erase] at found
      split at found
      · cases found
      · exact ⟨holds.resides, holds.normal, value, found, owned⟩
    · intro zone y resides
      change (site.contents.erase x)[y]? = _
      rw [Store.getElem?_erase, Store.getElem?_erase, mirrors zone y resides]
  · cases reply with
    | error error => cases succeeded
    | ok => exact absurd rfl failed

theorem achieves_put {x value : String} (wanted : wantedZone? copy = some zone)
    (resides : layout.Resides key zone x) (normal : Dns.Zone.normalize zone = zone) :
    (agreement layout key).Achieves (Follows layout key copy unwanted left known)
      (Attempt.put x value)
      fun _ => Follows layout key copy unwanted left (known.insert x value) := by
  refine Agreement.Achieves.request _ stable_follows (fun _ => stable_follows) ?_ ?_
  · intro site follows
    refine ⟨zone, resides, ?_⟩
    rw [normal]
    exact follows.1.remembers zone wanted
  · rintro site reply after a ⟨knows, mirrors⟩ (rfl | ⟨-, failed⟩) succeeded
    · refine ⟨⟨⟨knows.own_key, knows.remembers, knows.fresh⟩, knows.apart, ?_⟩, ?_⟩
      · intro zone' y holds
        obtain ⟨stored, found, owned⟩ := holds.stored
        change (site.contents.insert x value)[y]? = some stored at found
        rw [Store.getElem?_insert] at found
        split at found
        · rename_i same
          rw [← same] at holds
          rw [holds.zone_eq resides, normal]
          exact .inr ⟨fun member => knows.apart zone member wanted,
            fun _ => .inl (homeZone?_of_wantedZone? wanted)⟩
        · exact knows.accounted zone' y ⟨holds.resides, holds.normal, stored, found, owned⟩
      · intro zone y resides
        change (site.contents.insert x value)[y]? = _
        rw [Store.getElem?_insert, Store.getElem?_insert, mirrors zone y resides]
    · cases reply with
      | error error => cases succeeded
      | ok => exact absurd rfl failed

theorem achieves_deletes {β : Type} (items : List β) (x : β → String)
    (resides : ∀ item ∈ items, ∃ zone, layout.Resides key zone (x item))
    (known : Store.Contents) :
    (agreement layout key).Achieves (Follows layout key copy unwanted left known)
      (items.forM fun item => Attempt.delete (x item))
      fun _ => Follows layout key copy unwanted left (Store.deleteAll known (items.map x)) := by
  induction items generalizing known with
  | nil => exact Agreement.Achieves.pure stable_follows fun _ holds => holds
  | cons item rest ih =>
    obtain ⟨zone, first⟩ := resides item (List.mem_cons_self ..)
    exact (achieves_delete first).bind fun _ =>
      ih (fun item member => resides item (List.mem_cons_of_mem _ member)) _

theorem achieves_puts (puts : List (String × String)) (wanted : wantedZone? copy = some zone)
    (resides : ∀ put ∈ puts, layout.Resides key zone put.1)
    (normal : Dns.Zone.normalize zone = zone) (known : Store.Contents) :
    (agreement layout key).Achieves (Follows layout key copy unwanted left known)
      (puts.forM fun (x, value) => Attempt.put x value)
      fun _ => Follows layout key copy unwanted left (Store.putAll known puts) := by
  induction puts generalizing known with
  | nil => exact Agreement.Achieves.pure stable_follows fun _ holds => holds
  | cons put rest ih =>
    exact (achieves_put wanted (resides put (List.mem_cons_self ..)) normal).bind fun _ =>
      ih (fun put member => resides put (List.mem_cons_of_mem _ member)) _

/-- Deleting the owned entries of a directory of the key. -/
theorem achieves_deleteOwned (found : layout.directory key zone = .ok directory) :
    (agreement layout key).Achieves (Knows layout key copy unwanted left)
      (deleteOwned layout directory)
      fun _ site => ∃ known, Follows layout key copy unwanted left
        (Store.withoutOwned layout directory known) site := by
  refine achieves_listEntries.bind fun entries => ⟨?_⟩
  rintro site ⟨known, rfl, follows⟩
  refine (Agreement.Achieves.bind (achieves_deletes _ Prod.fst ?_ known)
    fun _ => Agreement.Achieves.pure stable_follows fun _ follows => ⟨known, follows⟩).honours
      site follows
  intro item member
  obtain ⟨listed, -⟩ := List.mem_filter.mp member
  exact ⟨zone, directory, found, (Store.mem_listingIn.mp listed).2⟩

/-- A zone is clean once no owned entry is left in its directory, or if it has none. -/
theorem Knows.cleaned {site : Site} (knows : Knows layout key copy unwanted (zone :: left) site)
    (clean : ∀ x, ¬layout.HoldsOwned site.contents key zone x) :
    Knows layout key copy unwanted left site := by
  refine ⟨knows.toCopied, knows.apart, ?_⟩
  intro other x holds
  rcases knows.accounted other x holds with waiting | accounted
  · rcases List.mem_cons.mp waiting with rfl | waiting
    · exact absurd holds (clean x)
    · exact .inl waiting
  · exact .inr accounted

theorem not_holdsOwned {site : Site} (found : layout.directory key zone = .ok directory)
    (mirrors : Mirrors layout key (Store.withoutOwned layout directory known) site) (x : String) :
    ¬layout.HoldsOwned site.contents key zone x := by
  intro holds
  obtain ⟨value, stored, owned⟩ := holds.stored
  obtain ⟨directory', found', below⟩ := holds.resides
  rw [found] at found'
  cases found'
  rw [mirrors zone x holds.resides] at stored
  have disowned := Store.not_owned_of_withoutOwned below stored
  simp [owned] at disowned

theorem achieves_cleanZones (zones : List String) :
    (agreement layout key).Achieves (Knows layout key copy unwanted zones)
      (cleanZones layout key zones) fun _ => Knows layout key copy unwanted [] := by
  induction zones with
  | nil => exact Agreement.Achieves.pure stable_knows fun _ knows => knows
  | cons zone rest ih =>
    unfold cleanZones
    cases found : layout.directory key zone with
    | error error =>
      refine ih.mono ?_ fun _ _ knows => knows
      intro site knows
      apply knows.cleaned
      rintro x ⟨⟨directory, found', -⟩, -, -⟩
      rw [found] at found'
      cases found'
    | ok directory =>
      refine Agreement.Achieves.bind ((achieves_deleteOwned found).mono (fun _ knows => knows) ?_)
        fun deleted => ih.bind fun others =>
          Agreement.Achieves.pure stable_knows fun _ knows => knows
      rintro - site ⟨known, knows, mirrors⟩
      exact knows.cleaned (not_holdsOwned found mirrors)

/-- With nothing left to be cleaned, an owned entry outside of the home zone is awaited. -/
theorem Knows.awaited {site : Site} (knows : Knows layout key copy unwanted [] site)
    (quiet : ¬site.announced) {x : String} (holds : layout.HoldsOwned site.contents key zone x)
    (abroad : homeZone? copy ≠ some zone) :
    wantedZone? site.cached ≠ some zone ∧ site.unannounced zone := by
  rw [knows.fresh quiet]
  refine ⟨fun wanted => abroad (homeZone?_of_wantedZone? wanted), ?_⟩
  rcases knows.accounted zone x holds with waiting | ⟨-, accounted⟩
  · cases waiting
  · exact (accounted quiet).resolve_left abroad

variable {service : Service} {record : Record}

theorem concluded_of_published {site : Site} (live : service.isDeleting = false)
    (made : layout.record service = .ok record)
    (knows : Knows layout key (some service) unwanted [] site)
    (mirrors : Mirrors layout key ((Changes.between layout record.entries
      (Store.listingIn known record.directory)).applyTo known) site) :
    site.Concluded layout key := by
  intro quiet
  have fresh := knows.fresh quiet
  have own_key := knows.own_key service rfl
  refine ⟨by rw [fresh]; exact knows.own_key, ?_, ?_⟩
  · intro cached found _
    rw [fresh] at found
    cases found
    refine ⟨record, made, ?_⟩
    intro x entry member
    have resides := Layout.resides_of_record made member
    rw [own_key] at resides
    rw [mirrors _ x resides]
    exact Changes.between_stored member
  · intro zone x holds
    by_cases home : homeZone? (some service) = some zone
    · have same : Dns.Zone.normalize service.spec.zone = zone := Option.some.inj home
      obtain ⟨value, stored, owned⟩ := holds.stored
      obtain ⟨directory, found, below⟩ := holds.resides
      have recorded := Layout.directory_normalize (Layout.directory_of_record made)
      rw [same, own_key, found] at recorded
      cases recorded
      rw [mirrors zone x holds.resides] at stored
      obtain ⟨entry, member⟩ := Changes.between_desired below stored owned
      exact .inl ⟨service, record, entry, fresh, live, made, member⟩
    · exact .inr (knows.awaited quiet holds home)

theorem achieves_publish (live : service.isDeleting = false) (cleaned : Nat) :
    (agreement layout key).Achieves (Knows layout key (some service) unwanted [])
      (publish layout service cleaned) fun _ => Concluded layout key := by
  unfold publish
  refine Agreement.Achieves.bind (Agreement.Achieves.ofRecord stable_knows) fun record => ⟨?_⟩
  rintro site ⟨made, knows⟩
  refine (achieves_listEntries.bind fun current => ⟨?_⟩).honours site knows
  rintro site ⟨known, rfl, follows⟩
  have own_key := follows.1.own_key service rfl
  have wanted : wantedZone? (some service) = some (Dns.Zone.normalize service.spec.zone) := by
    simp [wantedZone?, live]
  have normal := Dns.Zone.normalize_normalize
    (Layout.isValid_of_directory (Layout.directory_of_record made))
  refine (achieves_puts _ wanted ?_ normal known |>.bind fun _ =>
    (achieves_deletes _ id ?_ _).bind fun _ =>
      Agreement.Achieves.pure stable_follows ?_).honours site follows
  · intro put member
    obtain ⟨entry, member, -⟩ := Changes.mem_puts.mp member
    have resides := Layout.resides_of_record made member
    rw [own_key] at resides
    exact resides.normalize
  · intro x member
    obtain ⟨-, value, listed, -⟩ := Changes.mem_deletes.mp member
    refine ⟨service.spec.zone, record.directory, ?_, (Store.mem_listingIn.mp listed).2⟩
    rw [← own_key]
    exact Layout.directory_of_record made
  · rintro site ⟨knows, mirrors⟩
    rw [List.map_id] at mirrors
    exact concluded_of_published live made knows mirrors

theorem achieves_withdraw (deleting : service.isDeleting = true) (cleaned : Nat) :
    (agreement layout key).Achieves (Knows layout key (some service) unwanted [])
      (withdraw layout key service cleaned) fun _ => Concluded layout key := by
  unfold withdraw
  refine Agreement.Achieves.bind (Agreement.Achieves.ofRecord stable_knows) fun directory => ⟨?_⟩
  rintro site ⟨found, knows⟩
  refine ((achieves_deleteOwned found).bind fun deleted =>
    Agreement.Achieves.pure ?_ ?_).honours site knows
  · rintro site later ⟨known, follows⟩ step
    exact ⟨known, stable_follows follows step⟩
  · rintro site ⟨known, knows, mirrors⟩ quiet
    have fresh := knows.fresh quiet
    refine ⟨by rw [fresh]; exact knows.own_key, ?_, ?_⟩
    · intro cached copied live
      rw [fresh] at copied
      cases copied
      rw [deleting] at live
      cases live
    · intro zone x holds
      refine .inr (knows.awaited quiet holds ?_)
      intro home
      have same : Dns.Zone.normalize service.spec.zone = zone := Option.some.inj home
      have found := Layout.directory_normalize found
      rw [same] at found
      exact not_holdsOwned found mirrors x holds

/-- A reconciliation that ends without a service leaves no entry but those of a sweep. -/
theorem concluded_of_missing {site : Site} (knows : Knows layout key none unwanted [] site) :
    site.Concluded layout key := by
  intro quiet
  have fresh := knows.fresh quiet
  refine ⟨by rw [fresh]; exact knows.own_key, ?_, ?_⟩
  · intro service cached
    rw [fresh] at cached
    cases cached
  · intro zone x holds
    exact .inr (knows.awaited quiet holds nofun)

/-- What the two readings at the beginning tell. -/
theorem knows_of_read {site : Site} (copied : Copied layout key copy site)
    (coherent : site.Coherent layout key) :
    Knows layout key copy (site.stale.filter fun zone => wantedZone? copy != some zone)
      (site.stale.filter fun zone => wantedZone? copy != some zone) site := by
  refine ⟨copied, ?_, ?_⟩
  · intro zone member
    simpa using (List.mem_filter.mp member).2
  · intro zone x holds
    by_cases waiting : zone ∈ site.stale.filter fun zone => wantedZone? copy != some zone
    · exact .inl waiting
    · refine .inr ⟨waiting, fun quiet => ?_⟩
      rw [← copied.fresh quiet]
      rcases coherent.accounted zone x holds with (empty | home | stale | forgotten) | unmarked
      · exact absurd empty holds.zone_ne_empty
      · exact .inl home
      · left
        apply homeZone?_of_wantedZone?
        rw [copied.fresh quiet]
        simpa [stale] using waiting
      · exact .inr (coherent.unannounced_of_forgotten zone forgotten)
      · exact .inr (coherent.unannounced_of_unmarked zone unmarked)

theorem achieves_readService :
    (agreement layout key).Achieves (Coherent layout key) (Attempt.ask (.readService key))
      fun copy site => Copied layout key copy site ∧ site.Coherent layout key := by
  refine Agreement.Achieves.request Except.ok stable_coherent ?_ (fun _ _ => rfl) ?_
  · intro copy site later holds step
    exact ⟨stable_copied holds.1 step, step.coherent⟩
  · rintro site reply after copy coherent ⟨rfl, rfl⟩ ⟨⟩
    refine ⟨⟨coherent.own_key, ?_, fun _ => rfl⟩, coherent⟩
    intro zone wanted
    exact .inr (.inl (homeZone?_of_wantedZone? wanted))

theorem achieves_readStale :
    (agreement layout key).Achieves
      (fun site => Copied layout key copy site ∧ site.Coherent layout key)
      (Attempt.ask (.readStale key))
      fun stale => Knows layout key copy (stale.filter fun zone => wantedZone? copy != some zone)
        (stale.filter fun zone => wantedZone? copy != some zone) := by
  refine Agreement.Achieves.request Except.ok ?_ (fun _ => stable_knows)
    (fun _ _ => rfl) ?_
  · intro site later holds step
    exact ⟨stable_copied holds.1 step, step.coherent⟩
  · rintro site reply after stale ⟨copied, coherent⟩ ⟨rfl, rfl⟩ ⟨⟩
    exact knows_of_read copied coherent

/-- Clearing does not hit the wanted zone, whose mark may be needed by now. -/
theorem achieves_clearStale :
    (agreement layout key).Achieves (Knows layout key copy unwanted [])
      (Attempt.ask (.clearStale key unwanted)) fun _ => Knows layout key copy unwanted [] := by
  refine Agreement.Achieves.request Except.ok stable_knows (fun _ => stable_knows) ?_ ?_
  · intro site knows
    refine ⟨rfl, fun zone member x holds => ?_⟩
    rcases knows.accounted zone x holds with waiting | ⟨spared, -⟩
    · cases waiting
    · exact spared member
  · rintro site reply after a knows rfl -
    refine ⟨⟨knows.own_key, ?_, knows.fresh⟩, knows.apart, ?_⟩
    · intro zone wanted
      rcases knows.remembers zone wanted with empty | home | stale | lost
      · exact .inl empty
      · exact .inr (.inl home)
      · refine .inr (.inr (.inl (List.mem_filter.mpr ⟨stale, ?_⟩)))
        simpa using fun member => knows.apart zone member wanted
      · exact .inr (.inr (.inr lost))
    · exact knows.accounted

theorem achieves_conclude (cleaned : Nat) :
    (agreement layout key).Achieves (Knows layout key copy unwanted [])
      (conclude layout key cleaned copy) fun _ => Concluded layout key := by
  cases copy with
  | none => exact Agreement.Achieves.pure stable_knows fun _ knows => concluded_of_missing knows
  | some service =>
    cases deleting : service.isDeleting with
    | true =>
      simp only [conclude, deleting, if_true]
      exact achieves_withdraw deleting cleaned
    | false =>
      simp only [conclude, deleting, Bool.false_eq_true, if_false]
      exact achieves_publish deleting cleaned

theorem achieves_reconcile :
    (agreement layout key).Achieves (Coherent layout key) (reconcile layout key)
      fun _ => Concluded layout key := by
  refine Agreement.Achieves.reconcile (fun copy unwanted => Knows layout key copy unwanted unwanted)
    (fun copy unwanted => Knows layout key copy unwanted []) achieves_readService ?_ ?_ ?_ ?_
  · intro copy
    exact achieves_readStale
  · intro copy unwanted
    exact achieves_cleanZones unwanted
  · intro copy unwanted _
    exact achieves_clearStale
  · intro copy unwanted cleaned
    exact achieves_conclude cleaned

end Site

end ServiceRecords
