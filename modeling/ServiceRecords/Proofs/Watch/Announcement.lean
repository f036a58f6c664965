import ServiceRecords.Proofs.Watch.Observation

set_option autoImplicit false

/-!
# Every change is announced

Whatever services an observer is told of, and in whatever order, it caches for a key what it cached
right after the latest event that the key had notice of (`isAnnounced_of_isNamed`). A complete list
gives one notice of each key that was cached or has been listed. The keys are listed anew after
every event that empties the list, and completing it is one: a list that is complete twice without
being begun again makes all the keys of the first time vanish (`exists_not_isAnnounced`).
-/

namespace ServiceRecords

namespace Key

theorem nodup_of_ordered {keys : List Key} (ordered : keys.Pairwise (compare · · = .lt)) :
    keys.Nodup := by
  refine ordered.imp ?_
  rintro key _ less rfl
  simp at less

end Key

namespace WatchEvent

def IsNamed : WatchEvent → Prop
  | .applied service | .deleted service | .listed service => service.IsNamed
  | .listStarted | .listComplete => True

def isStart : WatchEvent → Bool
  | .listStarted => true
  | _ => false

/-- No key is listed any more after the event. -/
def emptiesList : WatchEvent → Bool
  | .listStarted | .listComplete => true
  | _ => false

/-- The key was listed since the latest event that `resets` the list. The latest event is the first
one. -/
def IsListed (resets : WatchEvent → Bool) (events : List WatchEvent) (key : Key) : Prop :=
  ∃ service, .listed service ∈ events.takeWhile (!resets ·) ∧ service.key = key

variable {resets : WatchEvent → Bool} {event : WatchEvent} {events : List WatchEvent} {key : Key}

theorem not_isListed_cons (reset : resets event = true) :
    ¬IsListed resets (event :: events) key := by
  simp [IsListed, reset]

theorem isListed_cons (unreset : resets event = false) :
    IsListed resets (event :: events) key ↔
      (∃ service, event = .listed service ∧ service.key = key) ∨ IsListed resets events key := by
  simp only [IsListed, unreset, Bool.not_false, List.takeWhile_cons_of_pos, List.mem_cons]
  constructor
  · rintro ⟨service, latest | earlier, own⟩
    · exact .inl ⟨service, latest.symm, own⟩
    · exact .inr ⟨service, earlier, own⟩
  · rintro (⟨service, latest, own⟩ | ⟨service, earlier, own⟩)
    · exact ⟨service, .inl latest.symm, own⟩
    · exact ⟨service, .inr earlier, own⟩

end WatchEvent

/-- An event as an observer has taken it. -/
structure Observation where
  before : Observer
  event : WatchEvent
  notices : List Notice
  after : Observer

namespace Observation

/-- The key had notice of the event. -/
def Mentions (observation : Observation) (key : Key) : Prop :=
  key ∈ observation.notices.map (·.key)

instance (observation : Observation) (key : Key) : Decidable (observation.Mentions key) :=
  inferInstanceAs (Decidable (_ ∈ _))

/-- The notices tell what has happened to the cache. -/
structure IsTruthful (resets : WatchEvent → Bool) (events : List WatchEvent)
    (observation : Observation) : Prop where
  once : (observation.notices.map (·.key)).Nodup
  added : ∀ key, ⟨.added, key⟩ ∈ observation.notices ↔
    ∃ service, observation.event = .applied service ∧ service.key = key ∧
      observation.before.cache.find? key = none
  updated : ∀ key, ⟨.updated, key⟩ ∈ observation.notices ↔
    ∃ service, observation.event = .applied service ∧ service.key = key ∧
      ∃ previous, observation.before.cache.find? key = some previous
  deleted : ∀ key, ⟨.deleted, key⟩ ∈ observation.notices →
    observation.after.cache.find? key = none
  relisted : observation.event = .listComplete → ∃ vanished listed : List Key,
    observation.notices = vanished.map (⟨.deleted, ·⟩) ++ listed.map (⟨.resync, ·⟩) ∧
    vanished.Pairwise (compare · · = .lt) ∧ listed.Pairwise (compare · · = .lt) ∧
    (∀ key, key ∈ vanished ↔ (∃ service, observation.before.cache.find? key = some service) ∧
      ¬WatchEvent.IsListed resets events key) ∧
    ∀ key, key ∈ listed ↔ WatchEvent.IsListed resets events key

variable {observation : Observation} {resets : WatchEvent → Bool} {events : List WatchEvent}

theorem ne_of_unmentioned {notice : Notice} {key : Key} (told : observation.notices = [notice])
    (unmentioned : ¬observation.Mentions key) : notice.key ≠ key := by
  rintro rfl
  exact unmentioned (by simp [Mentions, told])

/-- There need not be a notice of an event that changes nothing yet. -/
theorem isTruthful_of_silent (silent : observation.notices = [])
    (unapplied : ∀ service, observation.event ≠ .applied service)
    (incomplete : observation.event ≠ .listComplete) : observation.IsTruthful resets events where
  once := by simp [silent]
  added := by simp [silent, unapplied]
  updated := by simp [silent, unapplied]
  deleted := by simp [silent]
  relisted complete := absurd complete incomplete

end Observation

/-- What was cached for the key right after the latest event that it had notice of. -/
def announced? (history : List Observation) (key : Key) : Option Service :=
  (history.find? fun observation => observation.Mentions key).bind (·.after.cache.find? key)

namespace Observer

/-- What a new observer makes of the events, the latest first. -/
def history? : List WatchEvent → Option (List Observation × Observer)
  | [] => some ([], {})
  | event :: events =>
    match history? events with
    | some (history, before) =>
      match before.apply event with
      | (some notices, after) => some (⟨before, event, notices, after⟩ :: history, after)
      | (none, _) => none
    | none => none

structure IsAnnounced (resets : WatchEvent → Bool) (history : List Observation)
    (observer : Observer) : Prop where
  current : ∀ key, observer.cache.find? key = announced? history key
  truthful : ∀ observation earlier, observation :: earlier <:+ history →
    observation.IsTruthful resets (earlier.map (·.event))
  resynced : ∃ keys : List Key, observer.resync = keys.map (⟨.resync, ·⟩) ∧
    keys.Pairwise (compare · · = .lt) ∧
    ∀ key, key ∈ keys ↔ ∃ service, observer.cache.find? key = some service

/-- What the observer has of the list in progress. -/
structure Follows (events : List WatchEvent) (observer : Observer) : Prop where
  cache : observer.cache.IsNamespaced
  buffer : observer.buffer.IsNamespaced
  buffered : ∀ key, (∃ service, observer.buffer.find? key = some service) ↔
    key ∈ observer.listing.getD ∅
  listed : ∀ key, key ∈ observer.listing.getD ∅ ↔
    WatchEvent.IsListed WatchEvent.emptiesList events key

variable {events : List WatchEvent} {observer : Observer} {service : Service}

theorem follows_start : Follows [] {} where
  cache := Cache.isNamespaced_empty
  buffer := Cache.isNamespaced_empty
  buffered key := by simp [Cache.find?, Cache.empty]
  listed key := by simp [WatchEvent.IsListed]

/-- What the observer makes of one more event. -/
structure Announces (events : List WatchEvent) (observation : Observation) : Prop where
  truthful : observation.IsTruthful WatchEvent.emptiesList events
  unmentioned : ∀ key, ¬observation.Mentions key →
    observation.after.cache.find? key = observation.before.cache.find? key
  follows : observation.after.Follows (observation.event :: events)

/-- An event that leaves the list in progress alone. -/
theorem Follows.keep {after : Observer} {event : WatchEvent} (follows : observer.Follows events)
    (cache : after.cache.IsNamespaced) (buffer : after.buffer = observer.buffer)
    (listing : after.listing = observer.listing) (unreset : event.emptiesList = false)
    (unlisted : ∀ service, event ≠ .listed service) : after.Follows (event :: events) where
  cache := cache
  buffer := buffer ▸ follows.buffer
  buffered := by
    rw [buffer, listing]
    exact follows.buffered
  listed key := by
    rw [listing, follows.listed, WatchEvent.isListed_cons unreset]
    simp [unlisted]

/-- An event that empties the list. -/
theorem Follows.empty {after : Observer} {event : WatchEvent} (cache : after.cache.IsNamespaced)
    (buffer : after.buffer = .empty) (listing : after.listing.getD ∅ = ∅)
    (reset : event.emptiesList = true) : after.Follows (event :: events) where
  cache := cache
  buffer := buffer ▸ Cache.isNamespaced_empty
  buffered key := by simp [buffer, listing, Cache.find?, Cache.empty]
  listed key := by
    rw [listing]
    exact iff_of_false Std.ExtTreeSet.not_mem_empty (WatchEvent.not_isListed_cons reset)

theorem announces_applied (follows : observer.Follows events) (named : service.IsNamed) :
    ∃ notices after, observer.apply (.applied service) = (some notices, after) ∧
      Announces events ⟨observer, .applied service, notices, after⟩ := by
  have recalls := recalls_rememberMove observer service
  obtain ⟨cache, inserted, found⟩ := Cache.exists_insert? observer.cache named
  have all := follows.cache.insert? named inserted
  rw [← recalls.cache] at inserted
  refine ⟨_, { observer.rememberMove service with cache },
    by simp only [apply, inserted]; rfl, ⟨?_, ?_, ?_⟩⟩
  · cases cached : observer.cache.find? service.key with
    | none =>
      refine ⟨by simp, fun key => ⟨fun told => ?_, ?_⟩, fun key => iff_of_false (by simp) ?_,
        by simp, by simp⟩
      · obtain ⟨-, rfl⟩ := Notice.mk.inj (List.mem_singleton.mp told)
        exact ⟨service, rfl, rfl, cached⟩
      · rintro ⟨_, ⟨⟩, rfl, -⟩
        exact List.mem_singleton_self _
      · rintro ⟨_, ⟨⟩, rfl, previous, found⟩
        simp [cached] at found
    | some previous =>
      refine ⟨by simp, fun key => iff_of_false (by simp) ?_, fun key => ⟨fun told => ?_, ?_⟩,
        by simp, by simp⟩
      · rintro ⟨_, ⟨⟩, rfl, missing⟩
        simp [cached] at missing
      · obtain ⟨-, rfl⟩ := Notice.mk.inj (List.mem_singleton.mp told)
        exact ⟨service, rfl, rfl, previous, cached⟩
      · rintro ⟨_, ⟨⟩, rfl, -⟩
        exact List.mem_singleton_self _
  · intro key unmentioned
    exact (found key).trans (if_neg (Observation.ne_of_unmentioned rfl unmentioned))
  · exact follows.keep all recalls.buffer recalls.listing rfl (by simp)

theorem announces_deleted (follows : observer.Follows events) (named : service.IsNamed) :
    ∃ notices after, observer.apply (.deleted service) = (some notices, after) ∧
      Announces events ⟨observer, .deleted service, notices, after⟩ := by
  have recalls := (recalls_rememberCached observer service.key).trans
    (recalls_mark (observer.rememberCached service.key) service.key service.spec.zone)
  obtain ⟨cache, erased, found⟩ := Cache.exists_erase? follows.cache named
  have all := follows.cache.erase? named erased
  rw [← recalls.cache] at erased
  refine ⟨_,
    { (observer.rememberCached service.key).mark service.key service.spec.zone with cache },
    by simp only [apply, erased]; rfl, ⟨⟨by simp, by simp, by simp, ?_, by simp⟩, ?_, ?_⟩⟩
  · intro key deleted
    obtain ⟨-, rfl⟩ := Notice.mk.inj (List.mem_singleton.mp deleted)
    exact (found _).trans (if_pos rfl)
  · intro key unmentioned
    exact (found key).trans (if_neg (Observation.ne_of_unmentioned rfl unmentioned))
  · exact follows.keep all recalls.buffer recalls.listing rfl (by simp)

theorem announces_listStarted (follows : observer.Follows events) :
    ∃ notices after, observer.apply .listStarted = (some notices, after) ∧
      Announces events ⟨observer, .listStarted, notices, after⟩ := by
  refine ⟨_, _, rfl, Observation.isTruthful_of_silent rfl (by simp) (by simp), fun key _ => rfl, ?_⟩
  exact .empty follows.cache rfl rfl rfl

theorem announces_listed (follows : observer.Follows events) (named : service.IsNamed) :
    ∃ notices after, observer.apply (.listed service) = (some notices, after) ∧
      Announces events ⟨observer, .listed service, notices, after⟩ := by
  have recalls := recalls_rememberMove observer service
  obtain ⟨buffer, inserted, found⟩ := Cache.exists_insert? observer.buffer named
  have all := follows.buffer.insert? named inserted
  rw [← recalls.buffer] at inserted
  refine ⟨_, { observer.rememberMove service with
      buffer, listing := some ((observer.listing.getD ∅).insert service.key) },
    by simp only [apply, inserted, recalls.listing],
    Observation.isTruthful_of_silent rfl (by simp) (by simp), ?_, ?_, all, ?_, ?_⟩
  · intro key _
    rw [recalls.cache]
  · rw [recalls.cache]
    exact follows.cache
  · intro key
    simp only [found, Option.getD_some, Std.ExtTreeSet.mem_insert,
      Std.LawfulEqCmp.compare_eq_iff_eq, ← follows.buffered]
    by_cases own : service.key = key <;> simp [own]
  · intro key
    rw [Option.getD_some, Std.ExtTreeSet.mem_insert, Std.LawfulEqCmp.compare_eq_iff_eq,
      follows.listed, WatchEvent.isListed_cons rfl]
    simp

theorem announces_listComplete (follows : observer.Follows events) :
    ∃ notices after, observer.apply .listComplete = (some notices, after) ∧
      Announces events ⟨observer, .listComplete, notices, after⟩ := by
  have vanished (key : Key) : key ∈ observer.vanished ↔ _ := mem_vanished follows.cache
  have ordered : observer.vanished.Pairwise (compare · · = .lt) := Std.ExtTreeSet.ordered_toList
  have listed (key : Key) : key ∈ (observer.listing.getD ∅).toList ↔
      key ∈ observer.listing.getD ∅ := Std.ExtTreeSet.mem_toList
  have in_order : (observer.listing.getD ∅).toList.Pairwise (compare · · = .lt) :=
    Std.ExtTreeSet.ordered_toList
  have keys : (observer.vanished.map (Notice.mk .deleted) ++
      (observer.listing.getD ∅).toList.map (Notice.mk .resync)).map (·.key) =
        observer.vanished ++ (observer.listing.getD ∅).toList := by
    simp [Function.comp_def]
  refine ⟨_, _, rfl, ⟨?_, by simp, by simp, ?_, fun _ => ?_⟩, ?_, ?_⟩
  -- A listed key has not vanished, so that no key has two notices.
  · refine keys ▸ List.nodup_append.mpr
      ⟨Key.nodup_of_ordered ordered, Key.nodup_of_ordered in_order, ?_⟩
    rintro key gone _ present rfl
    exact ((vanished key).mp gone).2 ((listed key).mp present)
  · intro key deleted
    have gone : key ∈ observer.vanished := by simpa using deleted
    rw [Option.eq_none_iff_forall_ne_some]
    intro service found
    exact ((vanished key).mp gone).2 ((follows.buffered key).mp ⟨service, found⟩)
  · refine ⟨_, _, rfl, ordered, in_order, fun key => ?_, fun key => ?_⟩
    · rw [vanished, follows.listed]
    · rw [listed, follows.listed]
  · intro key unmentioned
    have unmentioned : key ∉ observer.vanished ∧ key ∉ observer.listing.getD ∅ := by
      rw [← listed, ← not_or, ← List.mem_append, ← keys]
      exact unmentioned
    have uncached : observer.cache.find? key = none := by
      rw [Option.eq_none_iff_forall_ne_some]
      intro service found
      exact unmentioned.1 ((vanished key).mpr ⟨⟨service, found⟩, unmentioned.2⟩)
    have unbuffered : observer.buffer.find? key = none := by
      rw [Option.eq_none_iff_forall_ne_some]
      intro service found
      exact unmentioned.2 ((follows.buffered key).mp ⟨service, found⟩)
    exact unbuffered.trans uncached.symm
  · exact .empty follows.buffer rfl rfl rfl

theorem exists_announces (follows : observer.Follows events) {event : WatchEvent}
    (named : event.IsNamed) :
    ∃ notices after, observer.apply event = (some notices, after) ∧
      Announces events ⟨observer, event, notices, after⟩ := by
  cases event with
  | applied service => exact announces_applied follows named
  | deleted service => exact announces_deleted follows named
  | listStarted => exact announces_listStarted follows
  | listed service => exact announces_listed follows named
  | listComplete => exact announces_listComplete follows

theorem announced?_cons (observation : Observation) (history : List Observation) (key : Key) :
    announced? (observation :: history) key =
      if observation.Mentions key then observation.after.cache.find? key
      else announced? history key := by
  unfold announced?
  rw [List.find?_cons]
  by_cases mentions : observation.Mentions key <;> simp [mentions]

theorem Follows.resynced (follows : observer.Follows events) :
    ∃ keys : List Key, observer.resync = keys.map (⟨.resync, ·⟩) ∧
      keys.Pairwise (compare · · = .lt) ∧
      ∀ key, key ∈ keys ↔ ∃ service, observer.cache.find? key = some service := by
  refine ⟨_, rfl, ?_, fun key => Cache.mem_keys follows.cache⟩
  rw [follows.cache.keys_eq]
  exact Std.ExtTreeMap.ordered_keys

/-- Every event is taken, and the observer still follows. -/
theorem exists_history? (named : ∀ event ∈ events, event.IsNamed) :
    ∃ history observer, history? events = some (history, observer) ∧
      history.map (·.event) = events ∧ observer.Follows events ∧
      IsAnnounced WatchEvent.emptiesList history observer := by
  induction events with
  | nil =>
    refine ⟨[], {}, rfl, rfl, follows_start, ?_, ?_, follows_start.resynced⟩
    · intro key
      simp [announced?, Cache.find?, Cache.empty]
    · intro observation earlier suffix
      simp at suffix
  | cons event events ih =>
    rw [List.forall_mem_cons] at named
    obtain ⟨history, before, observed, rfl, follows, announced⟩ := ih named.2
    obtain ⟨notices, after, applied, announces⟩ := exists_announces follows named.1
    refine ⟨_, after, by simp only [history?, observed, applied]; rfl, rfl, announces.follows,
      ?_, ?_, announces.follows.resynced⟩
    · intro key
      rw [announced?_cons]
      split
      · rfl
      · rename_i unmentioned
        exact (announces.unmentioned key unmentioned).trans (announced.current key)
    · intro observation earlier suffix
      rcases List.suffix_cons_iff.mp suffix with same | suffix
      · cases same
        exact announces.truthful
      · exact announced.truthful observation earlier suffix

theorem isAnnounced_of_isNamed (named : ∀ event ∈ events, event.IsNamed) :
    ∃ history observer, history? events = some (history, observer) ∧
      IsAnnounced WatchEvent.emptiesList history observer := by
  obtain ⟨history, observer, observed, -, -, announced⟩ := exists_history? named
  exact ⟨history, observer, observed, announced⟩

def bare (name : String) : Service := ⟨{ name := some name, ns := some "svc" }, { zone := "z1" }⟩

theorem isNamed_bare (name : String) : (bare name).IsNamed := ⟨name, "svc", rfl, rfl⟩

/-- A list is given up for another one, which does not hold the first key. -/
def listedAnew : List WatchEvent :=
  [.listComplete, .listed (bare "b"), .listStarted, .listed (bare "a"), .listStarted,
    .applied (bare "a"), .applied (bare "a")]

theorem isAnnounced_of_isNamed_listedAnew :
    (∀ event ∈ listedAnew, event.IsNamed) ∧
      ∃ history observer, history? listedAnew = some (history, observer) ∧
        IsAnnounced WatchEvent.emptiesList history observer ∧
        history.map (·.notices) =
          [[⟨.deleted, ⟨"svc", "a"⟩⟩, ⟨.resync, ⟨"svc", "b"⟩⟩], [], [], [], [],
            [⟨.updated, ⟨"svc", "a"⟩⟩], [⟨.added, ⟨"svc", "a"⟩⟩]] := by
  have named : ∀ event ∈ listedAnew, event.IsNamed := by
    simp [listedAnew, WatchEvent.IsNamed, isNamed_bare]
  obtain ⟨history, observer, observed, announced⟩ := isAnnounced_of_isNamed named
  have noticed : ∀ outcome ∈ history? listedAnew, outcome.1.map (·.notices) =
      [[⟨.deleted, ⟨"svc", "a"⟩⟩, ⟨.resync, ⟨"svc", "b"⟩⟩], [], [], [], [],
        [⟨.updated, ⟨"svc", "a"⟩⟩], [⟨.added, ⟨"svc", "a"⟩⟩]] := by
    decide +kernel
  exact ⟨named, history, observer, observed, announced, noticed _ observed⟩

/-- The list is complete twice, but it was begun once. -/
def completedTwice : List WatchEvent :=
  [.listComplete, .listComplete, .listed (bare "a"), .listStarted]

/-- The key was listed since a list was last begun, and still it is said to be deleted. -/
theorem exists_not_isAnnounced :
    ∃ events, (∀ event ∈ events, event.IsNamed) ∧
      ∃ history observer, history? events = some (history, observer) ∧
        ¬IsAnnounced WatchEvent.isStart history observer := by
  have named : ∀ event ∈ completedTwice, event.IsNamed := by
    simp [completedTwice, WatchEvent.IsNamed, isNamed_bare]
  obtain ⟨history, observer, observed, told, -⟩ := exists_history? named
  refine ⟨completedTwice, named, history, observer, observed, fun announced => ?_⟩
  have noticed : ∀ outcome ∈ history? completedTwice, ∀ latest ∈ outcome.1.head?,
      latest.notices = [⟨.deleted, ⟨"svc", "a"⟩⟩] := by
    decide +kernel
  cases history with
  | nil => cases told
  | cons latest earlier =>
    obtain ⟨event, told⟩ := List.cons.inj told
    obtain ⟨vanished, listed, notices, -, -, -, all_listed⟩ :=
      (announced.truthful latest earlier List.suffix_rfl).relisted event
    have present : ⟨"svc", "a"⟩ ∈ listed :=
      (all_listed _).mpr (by rw [told]; exact ⟨bare "a", by simp [WatchEvent.isStart], rfl⟩)
    have resynced : ⟨.resync, ⟨"svc", "a"⟩⟩ ∈ latest.notices := by
      rw [notices]
      exact List.mem_append_right _ (List.mem_map_of_mem present)
    rw [noticed _ observed latest rfl] at resynced
    simp at resynced

end Observer

end ServiceRecords
