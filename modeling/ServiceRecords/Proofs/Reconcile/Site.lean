import ServiceRecords.Proofs.Reconcile.Agreement
import ServiceRecords.Proofs.Store.Writes

set_option autoImplicit false

/-!
# The site of a key

All that a reconciliation has to do with is the `Site` of its key: the cached service, the stale
zones, and the entries of the key. `Site.agreement` is what the rest of the controller keeps to
while a key is checked out, and `Settled` is what a reconciliation is for. A site also carries
what its surroundings owe to it: whether the key is to be looked at again, which zones a sweep
still has to account for, and which ones have lost their mark.
-/

namespace ServiceRecords

structure Site where
  cached : Option Service
  stale : List String
  contents : Store.Contents
  /-- Whether the key is on its way to a worker -/
  announced : Prop
  /-- The zones that have lost their mark too early -/
  forgotten : String → Prop
  /-- The zones that a sweep may still have to mark -/
  unmarked : String → Prop
  /-- The zones for which the key may still have to be announced -/
  unannounced : String → Prop

/-- The zone of a service in normal form. -/
def homeZone? (service : Option Service) : Option String :=
  service.map fun service => Dns.Zone.normalize service.spec.zone

theorem homeZone?_of_wantedZone? {service : Option Service} {zone : String}
    (wanted : wantedZone? service = some zone) : homeZone? service = some zone := by
  unfold wantedZone? at wanted
  obtain ⟨found, live, rfl⟩ := Option.map_eq_some_iff.mp wanted
  rw [Option.filter_eq_some_iff] at live
  rw [live.1]
  rfl

/-- An owned entry of a key in a zone in normal form. -/
structure Layout.HoldsOwned (layout : Layout) (contents : Store.Contents) (key : Key)
    (zone x : String) : Prop where
  resides : layout.Resides key zone x
  normal : Dns.Zone.normalize zone = zone
  stored : ∃ value, contents[x]? = some value ∧ layout.owns value = true

namespace Layout.HoldsOwned

variable {layout : Layout} {contents contents' : Store.Contents} {key : Key} {zone x : String}

theorem zone_ne_empty (holds : layout.HoldsOwned contents key zone x) : zone ≠ "" := by
  rw [← holds.normal]
  exact holds.resides.isValid.normalize_ne_empty

theorem congr (holds : layout.HoldsOwned contents key zone x)
    (same : contents'[x]? = contents[x]?) : layout.HoldsOwned contents' key zone x where
  resides := holds.resides
  normal := holds.normal
  stored := by
    rw [same]
    exact holds.stored

theorem zone_eq {key' : Key} {zone' : String} (holds : layout.HoldsOwned contents key zone x)
    (again : layout.Resides key' zone' x) : zone = Dns.Zone.normalize zone' := by
  rw [← holds.normal]
  exact (holds.resides.lower_eq again).2.2

end Layout.HoldsOwned

namespace Site

variable {layout : Layout} {key : Key} {site before after : Site}

/-- The entries of the key in the zone will not be lost sight of. -/
def Remembers (site : Site) (zone : String) : Prop :=
  zone = "" ∨ homeZone? site.cached = some zone ∨ zone ∈ site.stale ∨ site.forgotten zone

/-- Every owned entry of the key is accounted for. -/
structure Coherent (layout : Layout) (key : Key) (site : Site) : Prop where
  own_key : ∀ service, site.cached = some service → service.key = key
  accounted : ∀ zone x, layout.HoldsOwned site.contents key zone x →
    site.Remembers zone ∨ site.unmarked zone
  unannounced_of_unmarked : ∀ zone, site.unmarked zone → site.unannounced zone
  unannounced_of_forgotten : ∀ zone, site.forgotten zone → site.unannounced zone

/-- What others may do to a site while the key is checked out. -/
structure Yields (layout : Layout) (key : Key) (before after : Site) : Prop where
  coherent : after.Coherent layout key
  remembers : ∀ zone, before.Remembers zone → after.Remembers zone
  stored : ∀ zone x, layout.Resides key zone x → after.contents[x]? = before.contents[x]?
  announced : before.announced → after.announced
  cached : ¬after.announced → after.cached = before.cached
  unannounced : ¬after.announced → ∀ zone x, layout.HoldsOwned before.contents key zone x →
    before.unannounced zone → after.unannounced zone ∨ wantedZone? after.cached = some zone

theorem Yields.refl (coherent : site.Coherent layout key) : Yields layout key site site where
  coherent := coherent
  remembers _ remembered := remembered
  stored _ _ _ := rfl
  announced known := known
  cached _ := rfl
  unannounced _ _ _ _ awaited := .inl awaited

/-- Whatever keeps the entries of the key and what is remembered is a step that others may take. -/
theorem Coherent.yields (coherent : before.Coherent layout key)
    (own_key : ∀ service, after.cached = some service → service.key = key)
    (remembers : ∀ zone, before.Remembers zone → after.Remembers zone)
    (stored : ∀ zone x, layout.Resides key zone x → after.contents[x]? = before.contents[x]?)
    (announced : before.announced → after.announced)
    (cached : ¬after.announced → after.cached = before.cached)
    (unmarked : after.unmarked = before.unmarked)
    (unannounced : after.unannounced = before.unannounced)
    (forgotten : after.forgotten = before.forgotten) : Yields layout key before after where
  coherent := by
    refine ⟨own_key, ?_, ?_, ?_⟩
    · intro zone x holds
      rw [unmarked]
      have holds_before := holds.congr (stored zone x holds.resides).symm
      exact (coherent.accounted zone x holds_before).imp_left (remembers zone)
    · rw [unmarked, unannounced]
      exact coherent.unannounced_of_unmarked
    · rw [forgotten, unannounced]
      exact coherent.unannounced_of_forgotten
  remembers := remembers
  stored := stored
  announced := announced
  cached := cached
  unannounced _ _ _ _ awaited := .inl (by rwa [unannounced])

theorem Yields.holdsOwned (yields : Yields layout key before after) {zone x : String}
    (holds : layout.HoldsOwned before.contents key zone x) :
    layout.HoldsOwned after.contents key zone x :=
  holds.congr (yields.stored zone x holds.resides)

theorem Yields.holdsOwned_before (yields : Yields layout key before after) {zone x : String}
    (holds : layout.HoldsOwned after.contents key zone x) :
    layout.HoldsOwned before.contents key zone x :=
  holds.congr (yields.stored zone x holds.resides).symm

theorem Yields.unannounced_before (yields : Yields layout key before after)
    (quiet : ¬after.announced) : ¬before.announced :=
  fun announced => quiet (yields.announced announced)

theorem Yields.trans {between : Site} (first : Yields layout key before between)
    (second : Yields layout key between after) : Yields layout key before after where
  coherent := second.coherent
  remembers zone remembered := second.remembers zone (first.remembers zone remembered)
  stored zone x resides := by
    rw [second.stored zone x resides, first.stored zone x resides]
  announced known := second.announced (first.announced known)
  cached quiet := by
    rw [second.cached quiet, first.cached (second.unannounced_before quiet)]
  unannounced := by
    intro quiet zone x holds awaited
    rcases first.unannounced (second.unannounced_before quiet) zone x holds awaited with
      awaited | wanted
    · exact second.unannounced quiet zone x (first.holdsOwned holds) awaited
    · exact .inr (by rwa [second.cached quiet])

/-- A reconciliation writes only its own entries, and only where they are remembered. It clears
a mark only when no owned entry is left in its zone. -/
def Permits (layout : Layout) (key : Key) : Request → Site → Prop
  | .readService key', _ => key' = key
  | .readStale key', _ => key' = key
  | .clearStale key' zones, site =>
    key' = key ∧ ∀ zone ∈ zones, ∀ x, ¬layout.HoldsOwned site.contents key zone x
  | .markStale .., _ => False
  | .enqueue _, _ => False
  | .list _, _ => True
  | .put x _, site =>
    ∃ zone, layout.Resides key zone x ∧ site.Remembers (Dns.Zone.normalize zone)
  | .delete x, _ => ∃ zone, layout.Resides key zone x

/-- A failed call to the store may still have taken effect. -/
def Answers : (r : Request) → Site → r.Reply → Site → Prop
  | .readService _, before, reply, after => reply = before.cached ∧ after = before
  | .readStale _, before, reply, after => reply = before.stale ∧ after = before
  | .clearStale _ zones, before, _, after =>
    after = { before with stale := before.stale.filter fun zone => !zones.contains zone }
  | .markStale .., _, _, _ => True
  | .enqueue _, _, _, _ => True
  | .list start, before, reply, after =>
    after = before ∧ ∀ entries, reply = .ok entries → entries = Store.listing before.contents start
  | .put x value, before, reply, after =>
    after = { before with contents := before.contents.insert x value } ∨
      after = before ∧ reply ≠ .ok ()
  | .delete x, before, reply, after =>
    after = { before with contents := before.contents.erase x } ∨ after = before ∧ reply ≠ .ok ()

/-- What is permitted leaves every entry accounted for. -/
theorem Coherent.answered (coherent : before.Coherent layout key) {r : Request} {reply : r.Reply}
    (permitted : Permits layout key r before) (answers : Answers r before reply after) :
    after.Coherent layout key := by
  cases r with
  | readService key' =>
    obtain ⟨-, rfl⟩ := answers
    exact coherent
  | readStale key' =>
    obtain ⟨-, rfl⟩ := answers
    exact coherent
  | markStale key' zone => cases permitted
  | enqueue key' => cases permitted
  | list start =>
    obtain ⟨rfl, -⟩ := answers
    exact coherent
  | clearStale key' zones =>
    obtain rfl := answers
    refine ⟨coherent.own_key, ?_, coherent.unannounced_of_unmarked,
      coherent.unannounced_of_forgotten⟩
    intro zone x holds
    rcases coherent.accounted zone x holds with (empty | home | stale | lost) | unmarked
    · exact .inl (.inl empty)
    · exact .inl (.inr (.inl home))
    · refine .inl (.inr (.inr (.inl (List.mem_filter.mpr ⟨stale, ?_⟩))))
      simpa using fun member => permitted.2 zone member x holds
    · exact .inl (.inr (.inr (.inr lost)))
    · exact .inr unmarked
  | put x value =>
    rcases answers with rfl | ⟨rfl, -⟩
    · obtain ⟨written, resides, remembered⟩ := permitted
      refine ⟨coherent.own_key, ?_, coherent.unannounced_of_unmarked,
        coherent.unannounced_of_forgotten⟩
      intro zone y holds
      by_cases same : x = y
      · subst same
        rw [holds.zone_eq resides]
        exact .inl remembered
      · apply coherent.accounted zone y (holds.congr _)
        exact (Store.getElem?_insert before.contents x value y).trans (if_neg same) |>.symm
    · exact coherent
  | delete x =>
    rcases answers with rfl | ⟨rfl, -⟩
    · refine ⟨coherent.own_key, ?_, coherent.unannounced_of_unmarked,
        coherent.unannounced_of_forgotten⟩
      intro zone y holds
      have same : (before.contents.erase x)[y]? = before.contents[y]? := by
        obtain ⟨value, found, -⟩ := holds.stored
        change (before.contents.erase x)[y]? = some value at found
        rw [Store.getElem?_erase] at found ⊢
        split at found
        · cases found
        · rename_i other
          rw [if_neg other]
      exact coherent.accounted zone y (holds.congr same.symm)
    · exact coherent

/-- The entries of the key are those of its cached service. An owned entry elsewhere is one that a
sweep is going to announce. -/
structure Settled (layout : Layout) (key : Key) (site : Site) : Prop where
  own_key : ∀ service, site.cached = some service → service.key = key
  published : ∀ service, site.cached = some service → service.isDeleting = false →
    ∃ record, layout.record service = .ok record ∧
      ∀ (x : String) entry, record.entries[x]? = some entry →
        ∃ value, site.contents[x]? = some value ∧ Entry.ofText? value = some entry
  wanted : ∀ zone x, layout.HoldsOwned site.contents key zone x →
    (∃ service record entry, site.cached = some service ∧ service.isDeleting = false ∧
      layout.record service = .ok record ∧ record.entries[x]? = some entry) ∨
    wantedZone? site.cached ≠ some zone ∧ site.unannounced zone

theorem Settled.yields (settled : before.Settled layout key)
    (yields : Yields layout key before after) (quiet : ¬after.announced) :
    after.Settled layout key where
  own_key := yields.coherent.own_key
  published := by
    intro service cached live
    rw [yields.cached quiet] at cached
    obtain ⟨record, made, stored⟩ := settled.published service cached live
    refine ⟨record, made, ?_⟩
    intro x entry member
    have resides := Layout.resides_of_record made member
    rw [settled.own_key service cached] at resides
    rw [yields.stored _ x resides]
    exact stored x entry member
  wanted := by
    intro zone x holds
    have holds_before := yields.holdsOwned_before holds
    rw [yields.cached quiet]
    rcases settled.wanted zone x holds_before with desired | ⟨unwanted, awaited⟩
    · exact .inl desired
    · rcases yields.unannounced quiet zone x holds_before awaited with awaited | wanted
      · exact .inr ⟨unwanted, awaited⟩
      · rw [yields.cached quiet] at wanted
        exact absurd wanted unwanted

/-- What holds between the reconciliation of a key and the rest of the controller. -/
def agreement (layout : Layout) (key : Key) : Agreement Site where
  yields := Yields layout key
  yields_refl step := .refl step.coherent
  yields_trans := .trans
  permits := Permits layout key
  answers := Answers

/-- What a successful reconciliation ends with. -/
def Concluded (layout : Layout) (key : Key) (site : Site) : Prop :=
  ¬site.announced → site.Settled layout key

end Site

end ServiceRecords
