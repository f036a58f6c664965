import ServiceRecords.Proofs.Reconcile.Agreement
import ServiceRecords.Proofs.Store.Writes
import ServiceRecords.Reconcile.Sweep

set_option autoImplicit false

/-!
# The conduct of a sweep

A sweep takes on every owned entry that it has listed: it either finds it wanted, or marks its
zone, and in the end has its key announced. A `Survey` holds what it still has to do.
`achieves_sweep`: a sweep that succeeds has nothing left to do, and all it ever asks for is to
read, to mark and to announce.
-/

namespace ServiceRecords

/-- What a sweep has taken on. -/
structure Survey where
  /-- The zones of keys that are neither known to be wanted nor marked -/
  unmarked : Key → String → Prop
  /-- The zones of keys that are not known to be wanted, until the key is announced -/
  unannounced : Key → String → Prop

namespace Survey

variable {layout : Layout} {key : Key} {zone : String} {entries : List (String × String)}

/-- A listing holds an owned entry of the key in the zone. -/
def Finds (layout : Layout) (entries : List (String × String)) (key : Key) (zone : String) : Prop :=
  key.IsLower ∧ ∃ x value, (x, value) ∈ entries ∧ layout.owns value = true ∧
    layout.Resides key zone x ∧ Dns.Zone.normalize zone = zone

/-- Every owned entry of a listing has a place. -/
def Placed (layout : Layout) (entries : List (String × String)) : Prop :=
  ∀ x value, (x, value) ∈ entries → layout.owns value = true →
    ∃ key zone, key.IsLower ∧ layout.Resides key zone x

/-- A key is announced when all its zones have been seen to. -/
def Permits (layout : Layout) : Request → Survey → Prop
  | .readService _, _ => True
  | .markStale .., _ => True
  | .enqueue key, survey => key.IsLower ∧ ∀ zone, ¬survey.unmarked key zone
  | .list start, _ => start = layout.root ++ "/"
  | _, _ => False

def Answers (layout : Layout) : (r : Request) → Survey → r.Reply → Survey → Prop
  | .readService key, before, reply, after =>
    after = {
      unmarked := fun other zone =>
        before.unmarked other zone ∧ ¬(other = key ∧ wantedZone? reply = some zone)
      unannounced := fun other zone =>
        before.unannounced other zone ∧ ¬(other = key ∧ wantedZone? reply = some zone) }
  | .markStale key marked, before, _, after =>
    after = { before with
      unmarked := fun other zone =>
        before.unmarked other zone ∧ ¬(other = key ∧ zone = Dns.Zone.normalize marked) }
  | .enqueue key, before, _, after =>
    after = { before with
      unannounced := fun other zone => before.unannounced other zone ∧ other ≠ key }
  | .list _, _, .ok entries, after =>
    Placed layout entries ∧ after = ⟨Finds layout entries, Finds layout entries⟩
  | .list _, before, .error _, after => after = before
  | _, _, _, _ => True

/-- What holds between a sweep and the rest of the controller. -/
def agreement (layout : Layout) : Agreement Survey where
  yields before after := after = before
  yields_refl _ := rfl
  yields_trans first second := second.trans first
  permits := Permits layout
  answers := Answers layout

theorem stable (condition : Survey → Prop) : (agreement layout).Stable condition := by
  rintro survey _ holds rfl
  exact holds

/-- What is left to do among the given entries, when the keys of `ahead` will be announced. -/
structure Within (layout : Layout) (entries : List (String × String)) (ahead : Key → Prop)
    (survey : Survey) : Prop where
  unmarked : ∀ key zone, survey.unmarked key zone → Finds layout entries key zone
  unannounced : ∀ key zone, survey.unannounced key zone → Finds layout entries key zone ∨ ahead key

theorem not_finds_nil : ¬Finds layout [] key zone := by
  rintro ⟨-, x, value, member, -⟩
  cases member

theorem finds_cons {x value : String} (finds : Finds layout ((x, value) :: entries) key zone) :
    (layout.owns value = true ∧ Dns.Zone.normalize zone = zone ∧
      ∃ leaf, layout.locate? x = some ⟨key, zone, leaf⟩) ∨
    Finds layout entries key zone := by
  obtain ⟨lower, y, stored, member, owned, resides, normal⟩ := finds
  rcases List.mem_cons.mp member with same | member
  · cases same
    obtain ⟨leaf, located⟩ := Layout.locate?_of_isLower lower resides
    rw [normal] at located
    exact .inl ⟨owned, normal, leaf, located⟩
  · exact .inr ⟨lower, y, stored, member, owned, resides, normal⟩

theorem Placed.tail {entry : String × String} (placed : Placed layout (entry :: entries)) :
    Placed layout entries :=
  fun x value member => placed x value (List.mem_cons_of_mem _ member)

theorem Placed.isLower {x value : String} {location : Location}
    (placed : Placed layout ((x, value) :: entries)) (owned : layout.owns value = true)
    (located : layout.locate? x = some location) : location.key.IsLower := by
  obtain ⟨key, zone, lower, resides⟩ := placed x value (List.mem_cons_self ..) owned
  obtain ⟨leaf, located'⟩ := Layout.locate?_of_isLower lower resides
  rw [located] at located'
  cases located'
  exact lower

/-- Nothing is left to be marked, and the keys to be announced are the orphans and those ahead. -/
structure Marked (ahead : Key → Prop) (orphans : Std.ExtTreeSet Key) (survey : Survey) : Prop where
  unmarked : ∀ key zone, ¬survey.unmarked key zone
  unannounced : ∀ key zone, survey.unannounced key zone → key ∈ orphans ∨ ahead key
  isLower : ∀ key ∈ orphans, key.IsLower

theorem honours_readService (key : Key) (survey : Survey) :
    (agreement layout).Honours
      (fun (cached : Option Service) after => after = {
        unmarked := fun other zone =>
          survey.unmarked other zone ∧ ¬(other = key ∧ wantedZone? cached = some zone)
        unannounced := fun other zone =>
          survey.unannounced other zone ∧ ¬(other = key ∧ wantedZone? cached = some zone) })
      (Procedure.request (.readService key)) survey := by
  rintro _ rfl
  refine ⟨trivial, ?_⟩
  rintro cached after rfl _ rfl
  rfl

theorem honours_markStale (key : Key) (marked : String) (survey : Survey) :
    (agreement layout).Honours
      (fun (_ : Unit) after => after = { survey with
        unmarked := fun other zone =>
          survey.unmarked other zone ∧ ¬(other = key ∧ zone = Dns.Zone.normalize marked) })
      (Procedure.request (.markStale key marked)) survey := by
  rintro _ rfl
  refine ⟨trivial, ?_⟩
  rintro - after rfl _ rfl
  rfl

theorem honours_markOrphans (entries : List (String × String)) (placed : Placed layout entries)
    (ahead : Key → Prop) (survey : Survey) (within : Within layout entries ahead survey) :
    (agreement layout).Honours (Marked ahead) (markOrphans layout entries) survey := by
  induction entries generalizing ahead survey with
  | nil =>
    rintro _ rfl
    refine ⟨?_, ?_, by simp⟩
    · intro key zone left
      exact not_finds_nil (within.unmarked key zone left)
    · intro key zone left
      exact .inr ((within.unannounced key zone left).resolve_left not_finds_nil)
  | cons entry rest ih =>
    obtain ⟨x, value⟩ := entry
    unfold markOrphans
    cases found : (if layout.owns value then layout.locate? x else none) with
    | none =>
      apply ih placed.tail
      have elsewhere : ∀ key zone, Finds layout ((x, value) :: rest) key zone →
          Finds layout rest key zone := by
        intro key zone finds
        rcases finds_cons finds with ⟨owned, -, leaf, located⟩ | finds
        · simp [owned, located] at found
        · exact finds
      refine ⟨?_, ?_⟩
      · intro key zone left
        exact elsewhere key zone (within.unmarked key zone left)
      · intro key zone left
        exact (within.unannounced key zone left).imp_left (elsewhere key zone)
    | some location =>
      obtain ⟨owned, found⟩ := Option.ite_none_right_eq_some.mp found
      have lower := placed.isLower owned found
      have here : ∀ key zone, Finds layout ((x, value) :: rest) key zone →
          key = location.key ∧ zone = location.zone ∧ zone = Dns.Zone.normalize location.zone ∨
            Finds layout rest key zone := by
        intro key zone finds
        rcases finds_cons finds with ⟨-, normal, leaf, located⟩ | finds
        · rw [found] at located
          cases located
          exact .inl ⟨rfl, rfl, normal.symm⟩
        · exact .inr finds
      refine (honours_readService location.key survey).bind ?_
      rintro cached _ rfl
      by_cases wanted : wantedZone? cached = some location.zone
      · rw [if_pos wanted]
        apply ih placed.tail
        refine ⟨?_, ?_⟩
        · rintro key zone ⟨left, other⟩
          rcases here key zone (within.unmarked key zone left) with ⟨rfl, rfl, -⟩ | finds
          · exact absurd ⟨rfl, wanted⟩ other
          · exact finds
        · rintro key zone ⟨left, other⟩
          rcases within.unannounced key zone left with finds | ahead
          · rcases here key zone finds with ⟨rfl, rfl, -⟩ | finds
            · exact absurd ⟨rfl, wanted⟩ other
            · exact .inl finds
          · exact .inr ahead
      · rw [if_neg wanted]
        refine (honours_markStale location.key location.zone _).bind ?_
        rintro - _ rfl
        refine (ih placed.tail (fun key => ahead key ∨ key = location.key) _ ⟨?_, ?_⟩).bind ?_
        · rintro key zone ⟨⟨left, -⟩, other⟩
          rcases here key zone (within.unmarked key zone left) with ⟨rfl, -, normal⟩ | finds
          · exact absurd ⟨rfl, normal⟩ other
          · exact finds
        · rintro key zone ⟨left, -⟩
          rcases within.unannounced key zone left with finds | ahead
          · rcases here key zone finds with ⟨rfl, -⟩ | finds
            · exact .inr (.inr rfl)
            · exact .inl finds
          · exact .inr (.inl ahead)
        · rintro orphans after marked _ rfl
          refine ⟨marked.unmarked, ?_, ?_⟩
          · intro key zone left
            rw [Std.ExtTreeSet.mem_insert, Std.LawfulEqCmp.compare_eq_iff_eq]
            rcases marked.unannounced key zone left with orphan | ahead | rfl
            · exact .inl (.inr orphan)
            · exact .inr ahead
            · exact .inl (.inl rfl)
          · intro key member
            rw [Std.ExtTreeSet.mem_insert, Std.LawfulEqCmp.compare_eq_iff_eq] at member
            rcases member with rfl | member
            · exact lower
            · exact marked.isLower key member

theorem achieves_enqueue (keys : List Key) (lower : ∀ key ∈ keys, key.IsLower) :
    (agreement layout).Achieves (ε := StoreError)
      (fun survey => (∀ key zone, ¬survey.unmarked key zone) ∧
        ∀ key zone, survey.unannounced key zone → key ∈ keys)
      (keys.forM fun key => ExceptT.lift (Procedure.request (.enqueue key)))
      fun _ survey => (∀ key zone, ¬survey.unmarked key zone) ∧
        ∀ key zone, ¬survey.unannounced key zone := by
  induction keys with
  | nil =>
    refine Agreement.Achieves.pure (stable _) ?_
    rintro survey ⟨unmarked, unannounced⟩
    exact ⟨unmarked, fun key zone left => by simpa using unannounced key zone left⟩
  | cons key rest ih =>
    refine Agreement.Achieves.bind (Agreement.Achieves.request Except.ok (stable _)
      (fun _ => stable _)
      (fun _ begun => ⟨lower key (List.mem_cons_self ..), begun.1 key⟩) ?_)
      fun _ => ih fun key member => lower key (List.mem_cons_of_mem _ member)
    rintro survey reply after a ⟨unmarked, unannounced⟩ rfl -
    refine ⟨unmarked, ?_⟩
    rintro other zone ⟨left, different⟩
    exact (List.mem_cons.mp (unannounced other zone left)).resolve_left different

theorem achieves_list :
    (agreement layout).Achieves (fun _ => True)
      (ExceptT.mk (Procedure.request (.list (layout.root ++ "/"))))
      fun entries survey => Placed layout entries ∧
        survey = ⟨Finds layout entries, Finds layout entries⟩ := by
  refine Agreement.Achieves.request (r := .list (layout.root ++ "/")) id (stable _)
    (fun _ => stable _) (fun _ _ => rfl) ?_
  rintro survey reply after entries - answer rfl
  exact answer

/-- A sweep that succeeds leaves nothing undone of what it has taken on. -/
theorem achieves_sweep :
    (agreement layout).Achieves (fun _ => True) (sweep layout)
      fun _ survey => (∀ key zone, ¬survey.unmarked key zone) ∧
        ∀ key zone, ¬survey.unannounced key zone := by
  unfold sweep
  refine Agreement.Achieves.bind achieves_list fun entries => ?_
  have marking : (agreement layout).Achieves (ε := StoreError)
      (fun survey => Placed layout entries ∧
        survey = ⟨Finds layout entries, Finds layout entries⟩)
      (ExceptT.lift (markOrphans layout entries)) (Marked fun _ => False) := by
    refine Agreement.Achieves.lift (fun _ => stable _) ?_
    rintro survey ⟨placed, rfl⟩
    exact honours_markOrphans entries placed _ _ ⟨fun _ _ found => found, fun _ _ => .inl⟩
  refine marking.bind fun orphans => ⟨?_⟩
  intro survey marked
  refine (Agreement.Achieves.bind (achieves_enqueue orphans.toList ?_) fun _ =>
    Agreement.Achieves.pure (stable _) fun _ holds => holds).honours survey ⟨marked.unmarked, ?_⟩
  · intro key member
    exact marked.isLower key (by simpa using member)
  · intro key zone left
    simpa using marked.unannounced key zone left

end Survey

end ServiceRecords
