import ServiceRecords.Proofs.Record.Ownership

set_option autoImplicit false

/-!
# Which services can be published

A service can be published when it passes a list of checks (`Service.checks`), and otherwise the
error is that of the first check that it does not pass. The checks come in the order in which a
record is made from a service, so that each part of this procedure is judged by some of them
(`Judges`), one after the other (`Judges.bind`).
-/

namespace ServiceRecords

namespace Dns.Label

/-- A letter or digit of ASCII, a hyphen or an underscore. -/
def IsNameCharacter (c : Char) : Prop := c.isAlphanum = true ∨ c = '-' ∨ c = '_'

/-- What can stand between two dots of a name. -/
structure IsWellFormed (label : String) : Prop where
  nonempty : 1 ≤ label.utf8ByteSize
  short : label.utf8ByteSize ≤ 63
  characters : ∀ c ∈ label.toList, IsNameCharacter c
  first : label.toList.head? ≠ some '-'
  last : label.toList.getLast? ≠ some '-'

/-- Why a text is not well-formed; where there are several reasons, the first one counts. -/
inductive Breaks (label : String) : LabelFault → Prop
  | empty (empty : label = "") : Breaks label .empty
  | tooLong (long : 63 < label.utf8ByteSize) : Breaks label .tooLong
  | foreignCharacter (short : label.utf8ByteSize ≤ 63) {c : Char} (member : c ∈ label.toList)
      (foreign : ¬IsNameCharacter c) : Breaks label .foreignCharacter
  | edgeHyphen (short : label.utf8ByteSize ≤ 63)
      (characters : ∀ c ∈ label.toList, IsNameCharacter c)
      (edge : label.toList.head? = some '-' ∨ label.toList.getLast? = some '-') :
      Breaks label .edgeHyphen

variable {label : String} {fault : LabelFault}

theorem isCharacter_iff {c : Char} : isCharacter c = true ↔ IsNameCharacter c := by
  simp [isCharacter, IsNameCharacter, or_assoc]

theorem one_le_utf8ByteSize : 1 ≤ label.utf8ByteSize ↔ label.toList ≠ [] := by
  rw [Nat.one_le_iff_ne_zero, ne_eq, ne_eq, String.toList_eq_nil_iff,
    String.utf8ByteSize_eq_zero_iff]

theorem isValid_iff_isWellFormed : IsValid label ↔ IsWellFormed label := by
  rw [isValid_iff]
  constructor
  · rintro ⟨nonempty, short, characters, first, last⟩
    exact ⟨one_le_utf8ByteSize.mpr nonempty, short,
      fun c member => isCharacter_iff.mp (characters c member), first, last⟩
  · rintro ⟨nonempty, short, characters, first, last⟩
    exact ⟨one_le_utf8ByteSize.mp nonempty, short,
      fun c member => isCharacter_iff.mpr (characters c member), first, last⟩

theorem breaks_of_fault? (found : fault? label = some fault) : Breaks label fault := by
  unfold fault? at found
  split at found
  · rename_i empty
    cases found
    exact .empty (String.toList_eq_nil_iff.mp empty)
  · split at found
    · rename_i long
      cases found
      exact .tooLong long
    · rename_i short
      have short : label.utf8ByteSize ≤ 63 := Nat.le_of_not_lt short
      split at found
      · rename_i foreign
        cases found
        simp only [Bool.not_eq_true', List.all_eq_false] at foreign
        obtain ⟨c, member, foreign⟩ := foreign
        exact .foreignCharacter short member (mt isCharacter_iff.mpr foreign)
      · rename_i characters
        simp only [Bool.not_eq_true', Bool.not_eq_false, List.all_eq_true] at characters
        split at found
        · rename_i edge
          cases found
          exact .edgeHyphen short (fun c member => isCharacter_iff.mp (characters c member)) edge
        · cases found

theorem Breaks.fault?_eq (breaks : Breaks label fault) : fault? label = some fault := by
  unfold fault? maxBytes
  cases breaks with
  | empty empty =>
    subst empty
    rfl
  | tooLong long =>
    have nonempty : label.toList ≠ [] := one_le_utf8ByteSize.mp (Nat.zero_lt_of_lt long)
    rw [if_neg nonempty, if_pos long]
  | foreignCharacter short member foreign =>
    have refused : (!label.toList.all isCharacter) = true := by
      simpa using ⟨_, member, by simpa using mt isCharacter_iff.mp foreign⟩
    rw [if_neg (List.ne_nil_of_mem member), if_neg (Nat.not_lt_of_le short), if_pos refused]
  | edgeHyphen short characters edge =>
    have nonempty : label.toList ≠ [] := by
      rintro empty
      simp [empty] at edge
    have passed : ¬(!label.toList.all isCharacter) = true := by
      simpa using fun c member => isCharacter_iff.mpr (characters c member)
    rw [if_neg nonempty, if_neg (Nat.not_lt_of_le short), if_neg passed, if_pos edge]

theorem fault?_eq_some : fault? label = some fault ↔ Breaks label fault :=
  ⟨breaks_of_fault?, Breaks.fault?_eq⟩

end Dns.Label

/-- What is checked before a service is published. -/
inductive Check where
  | zone (text : String)
  | label (place : LabelPlace) (text : String)
  | length (labels : List String)
  /-- None of the earlier endpoints has the same name. -/
  | distinct (earlier : List Endpoint) (endpoint : Endpoint)
  | host (endpoint : Endpoint)
  | port (endpoint : Endpoint)

/-- A host is not empty and has no blanks but at its ends. -/
def Endpoint.HasHost (endpoint : Endpoint) : Prop :=
  Text.trim endpoint.host ≠ "" ∧ ∀ c ∈ (Text.trim endpoint.host).toList, Text.isBlank c = false

namespace Check

def Holds : Check → Prop
  | .zone text => Dns.Zone.published text ≠ ""
  | .label _ text => Dns.Label.IsWellFormed text
  | .length labels => (Text.join '.' labels).utf8ByteSize ≤ 253
  | .distinct earlier endpoint => ∀ other ∈ earlier, other.name.toLower ≠ endpoint.name.toLower
  | .host endpoint => endpoint.HasHost
  | .port endpoint => endpoint.port ≠ 0

/-- The error where the check does not hold. -/
inductive Raises : Check → RecordError → Prop
  | zone {text : String} : Raises (.zone text) .emptyZone
  | label {place : LabelPlace} {text : String} {fault : Dns.LabelFault}
      (breaks : Dns.Label.Breaks text fault) :
      Raises (.label place text) (.invalidLabel place text fault)
  | length {labels : List String} :
      Raises (.length labels) (.nameTooLong (Text.join '.' (labels.map String.toLower)))
  | distinct {earlier : List Endpoint} {endpoint : Endpoint} :
      Raises (.distinct earlier endpoint) (.duplicateEndpoint endpoint.name.toLower)
  | host {endpoint : Endpoint} :
      Raises (.host endpoint) (.invalidEndpoint endpoint.name.toLower .unusableHost)
  | port {endpoint : Endpoint} :
      Raises (.port endpoint) (.invalidEndpoint endpoint.name.toLower .zeroPort)

variable {check : Check} {checks rest : List Check} {error : RecordError}

theorem Raises.eq {error' : RecordError} (raises : Raises check error)
    (raises' : Raises check error') : error = error' := by
  cases raises with
  | label breaks =>
    cases raises' with
    | label breaks' =>
      have same := breaks.fault?_eq.symm.trans breaks'.fault?_eq
      rw [Option.some.inj same]
  | _ =>
    cases raises'
    rfl

/-- The first check that does not hold raises the error. -/
inductive FirstBreaks : List Check → RecordError → Prop
  | here {check : Check} {rest : List Check} {error : RecordError} (broken : ¬check.Holds)
      (raises : check.Raises error) : FirstBreaks (check :: rest) error
  | later {check : Check} {rest : List Check} {error : RecordError} (holds : check.Holds)
      (breaks : FirstBreaks rest error) : FirstBreaks (check :: rest) error

namespace FirstBreaks

theorem eq {error' : RecordError} (breaks : FirstBreaks checks error)
    (breaks' : FirstBreaks checks error') : error = error' := by
  induction breaks with
  | here broken raises =>
    cases breaks' with
    | here _ raises' => exact raises.eq raises'
    | later holds _ => exact absurd holds broken
  | later holds _ ih =>
    cases breaks' with
    | here broken _ => exact absurd holds broken
    | later _ breaks' => exact ih breaks'

theorem exists_broken (breaks : FirstBreaks checks error) : ∃ check ∈ checks, ¬check.Holds := by
  induction breaks with
  | here broken _ => exact ⟨_, List.mem_cons_self .., broken⟩
  | later _ _ ih =>
    obtain ⟨check, member, broken⟩ := ih
    exact ⟨check, List.mem_cons_of_mem _ member, broken⟩

theorem append (breaks : FirstBreaks checks error) : FirstBreaks (checks ++ rest) error := by
  induction breaks with
  | here broken raises => exact .here broken raises
  | later holds _ ih => exact .later holds ih

theorem of_append (held : ∀ check ∈ checks, check.Holds) (breaks : FirstBreaks rest error) :
    FirstBreaks (checks ++ rest) error := by
  induction checks with
  | nil => exact breaks
  | cons check others ih =>
    rw [List.forall_mem_cons] at held
    exact .later held.1 (ih held.2)

end FirstBreaks

end Check

open Check

/-- The result is a success only if all the checks hold, and an error only if it is that of the
first one that does not. -/
structure Judges {α : Type} (checks : List Check) (result : Except RecordError α) : Prop where
  ok : ∀ a, result = .ok a → ∀ check ∈ checks, check.Holds
  error : ∀ error, result = .error error → FirstBreaks checks error

namespace Judges

variable {α β : Type} {check : Check} {checks rest : List Check} {result : Except RecordError α}
  {next : α → Except RecordError β}

theorem exists_ok_iff (judges : Judges checks result) :
    (∃ a, result = .ok a) ↔ ∀ check ∈ checks, check.Holds := by
  constructor
  · rintro ⟨a, succeeded⟩
    exact judges.ok a succeeded
  · intro held
    cases shape : result with
    | ok a => exact ⟨a, rfl⟩
    | error error =>
      obtain ⟨check, member, broken⟩ := (judges.error error shape).exists_broken
      exact absurd (held check member) broken

theorem eq_error_iff (judges : Judges checks result) (error : RecordError) :
    result = .error error ↔ FirstBreaks checks error := by
  constructor
  · exact judges.error error
  · intro breaks
    cases shape : result with
    | ok a =>
      obtain ⟨check, member, broken⟩ := breaks.exists_broken
      exact absurd (judges.ok a shape check member) broken
    | error error' => rw [breaks.eq (judges.error error' shape)]

theorem pure (a : α) : Judges [] (Pure.pure a) := ⟨nofun, fun _ failed => by cases failed⟩

theorem bind (first : Judges checks result)
    (following : ∀ a, result = .ok a → Judges rest (next a)) :
    Judges (checks ++ rest) (result >>= next) := by
  cases shape : result with
  | ok a =>
    have held := first.ok a shape
    constructor
    · intro b succeeded
      exact List.forall_mem_append.mpr ⟨held, (following a shape).ok b succeeded⟩
    · intro error failed
      exact .of_append held ((following a shape).error error failed)
  | error error =>
    constructor
    · intro b succeeded
      cases succeeded
    · rintro _ ⟨⟩
      exact (first.error error shape).append

theorem bind_cons (first : Judges [check] result)
    (following : ∀ a, result = .ok a → Judges rest (next a)) :
    Judges (check :: rest) (result >>= next) :=
  first.bind following

/-- A test that gives up where a check does not hold. -/
theorem guard {broken : Prop} [Decidable broken] {error : RecordError}
    {following : Except RecordError α} (fails : broken ↔ ¬check.Holds)
    (raises : check.Raises error) (judges : Judges rest following) :
    Judges (check :: rest) (if broken then .error error else following) := by
  split
  · rename_i broken
    constructor
    · intro a succeeded
      cases succeeded
    · rintro _ ⟨⟩
      exact .here (fails.mp broken) raises
  · rename_i passed
    have holds : check.Holds := by simpa [fails] using passed
    constructor
    · intro a succeeded
      exact List.forall_mem_cons.mpr ⟨holds, judges.ok a succeeded⟩
    · intro error failed
      exact .later holds (judges.error error failed)

end Judges

theorem judges_checkedLabel (place : LabelPlace) (label : String) :
    Judges [.label place label] (checkedLabel place label) := by
  constructor
  · intro checked succeeded
    have valid := (checkedLabel_eq_ok.mp succeeded).1
    simpa [Holds] using Dns.Label.isValid_iff_isWellFormed.mp valid
  · intro error failed
    unfold checkedLabel at failed
    cases found : Dns.Label.fault? label with
    | none => simp [found] at failed
    | some fault =>
      have breaks := Dns.Label.fault?_eq_some.mp found
      have invalid : ¬Dns.Label.IsValid label := by simp [Dns.Label.IsValid, found]
      rw [found] at failed
      cases failed
      exact .here (mt Dns.Label.isValid_iff_isWellFormed.mpr invalid) (.label breaks)

theorem judges_mapM_checkedLabel (place : LabelPlace) (labels : List String) :
    Judges (labels.map (.label place)) (labels.mapM (checkedLabel place)) := by
  induction labels with
  | nil => exact .pure []
  | cons label rest ih =>
    rw [List.mapM_cons]
    have judged := (judges_checkedLabel place label).bind fun checked _ =>
      ih.bind fun others _ => .pure (checked :: others)
    rwa [List.append_nil] at judged

/-- The checks of the name that a service is found under. -/
def nameChecks (key : Key) (zone : String) : List Check :=
  .zone zone :: .label .name key.name :: .label .namespaceName key.ns ::
    ((Dns.Zone.labels zone).map (.label .zone) ++ [.length (writtenLabels key zone)])

/-- The labels, unless the name that they make is too long. -/
def shortLabels (labels : List String) : Except RecordError (List String) :=
  if (Text.join '.' labels).utf8ByteSize > RecordError.maxNameBytes then
    .error (.nameTooLong (Text.join '.' labels))
  else .ok labels

theorem nameLabels_eq (key : Key) (zone : String) :
    nameLabels key zone =
      if Dns.Zone.published zone = "" then .error .emptyZone
      else (do
        let name ← checkedLabel .name key.name
        let ns ← checkedLabel .namespaceName key.ns
        let labels ← (Dns.Zone.labels zone).mapM (checkedLabel .zone)
        shortLabels (name :: ns :: labels)) := by
  have bounded (labels : List String) : shortLabels labels = (do
      if (Text.join '.' labels).utf8ByteSize > RecordError.maxNameBytes then
        throw (RecordError.nameTooLong (Text.join '.' labels))
      return labels) := by
    unfold shortLabels
    split <;> rfl
  unfold nameLabels
  simp only [bounded]
  rfl

theorem judges_shortLabels (labels : List String) :
    Judges [.length labels] (shortLabels (labels.map String.toLower)) := by
  refine .guard ?_ .length (.pure _)
  rw [← Text.toLower_join (by decide), Text.utf8ByteSize_toLower]
  exact Nat.not_le.symm

theorem judges_nameLabels (key : Key) (zone : String) :
    Judges (nameChecks key zone) (nameLabels key zone) := by
  rw [nameLabels_eq]
  refine .guard (by simp [Holds]) .zone ?_
  refine (judges_checkedLabel .name key.name).bind_cons fun name named => ?_
  refine (judges_checkedLabel .namespaceName key.ns).bind_cons fun ns placed => ?_
  refine (judges_mapM_checkedLabel .zone _).bind fun labels zoned => ?_
  obtain ⟨-, rfl⟩ := checkedLabel_eq_ok.mp named
  obtain ⟨-, rfl⟩ := checkedLabel_eq_ok.mp placed
  obtain ⟨-, rfl⟩ := mapM_checkedLabel_eq_ok.mp zoned
  exact judges_shortLabels (writtenLabels key zone)

/-- The checks of endpoints, where names are taken by earlier ones. -/
def endpointChecks (earlier : List Endpoint) : List Endpoint → List Check
  | [] => []
  | endpoint :: rest =>
    .label .endpointName endpoint.name :: .distinct earlier endpoint ::
      ([.host endpoint, .port endpoint] ++ endpointChecks (endpoint :: earlier) rest)

theorem judges_entry (owner : String) (ttl : Option UInt32) (endpoint : Endpoint) :
    Judges [.host endpoint, .port endpoint] (endpoint.entry owner ttl endpoint.name.toLower) := by
  refine .guard ?_ .host (.guard (by simp [Holds]) .port (.pure _))
  simp only [Holds, Endpoint.HasHost, ne_eq, ← String.toList_eq_nil_iff, List.any_eq_true,
    ← Bool.not_eq_true, ← not_exists, not_and_or, not_not]
  simp

theorem judges_namedEntries (owner : String) (ttl : Option UInt32)
    (earlier endpoints : List Endpoint) :
    Judges (endpointChecks earlier endpoints)
      (namedEntries owner ttl (earlier.map (·.name.toLower)) endpoints) := by
  induction endpoints generalizing earlier with
  | nil => exact .pure []
  | cons endpoint rest ih =>
    unfold namedEntries endpointChecks
    refine (judges_checkedLabel .endpointName endpoint.name).bind_cons fun name named => ?_
    obtain ⟨-, rfl⟩ := checkedLabel_eq_ok.mp named
    refine .guard (by simp [Holds]) .distinct ?_
    refine (judges_entry owner ttl endpoint).bind fun entry _ => ?_
    have judged := (ih (endpoint :: earlier)).bind fun others _ =>
      .pure ((endpoint.name.toLower, entry) :: others)
    rwa [List.append_nil] at judged

/-- The checks of a service, in order. -/
def Service.checks (service : Service) : List Check :=
  nameChecks service.key service.spec.zone ++ endpointChecks [] service.spec.endpoints

theorem Layout.judges_directory (layout : Layout) (key : Key) (zone : String) :
    Judges (nameChecks key zone) (layout.directory key zone) := by
  have named := (judges_nameLabels key zone).bind fun labels _ =>
    .pure (layout.root ++ "/" ++ Text.join '/' labels.reverse)
  rwa [List.append_nil] at named

theorem Layout.judges_record (layout : Layout) (service : Service) :
    Judges service.checks (layout.record service) := by
  unfold Layout.record
  refine (layout.judges_directory service.key service.spec.zone).bind fun directory _ => ?_
  have judged := (judges_namedEntries layout.owner service.spec.ttl [] service.spec.endpoints).bind
    fun entries _ => .pure (⟨directory, .ofList (entries.map fun pair =>
      (entryKey directory pair.1, pair.2))⟩ : Record)
  rwa [List.append_nil] at judged

/-- What a service needs to be published. -/
structure Service.IsPublishable (service : Service) : Prop where
  zone : Dns.Zone.published service.spec.zone ≠ ""
  labels : ∀ label ∈ writtenLabels service.key service.spec.zone, Dns.Label.IsWellFormed label
  short : (Text.join '.' (writtenLabels service.key service.spec.zone)).utf8ByteSize ≤ 253
  names : ∀ endpoint ∈ service.spec.endpoints, Dns.Label.IsWellFormed endpoint.name
  distinct : (service.spec.endpoints.map (·.name.toLower)).Nodup
  hosts : ∀ endpoint ∈ service.spec.endpoints, endpoint.HasHost
  ports : ∀ endpoint ∈ service.spec.endpoints, endpoint.port ≠ 0

theorem forall_endpointChecks {earlier endpoints : List Endpoint} :
    (∀ check ∈ endpointChecks earlier endpoints, check.Holds) ↔
      (∀ endpoint ∈ endpoints, Dns.Label.IsWellFormed endpoint.name) ∧
      ((endpoints.map (·.name.toLower)).Nodup ∧ ∀ endpoint ∈ endpoints, ∀ other ∈ earlier,
        other.name.toLower ≠ endpoint.name.toLower) ∧
      (∀ endpoint ∈ endpoints, endpoint.HasHost) ∧ ∀ endpoint ∈ endpoints, endpoint.port ≠ 0 := by
  induction endpoints generalizing earlier with
  | nil => simp [endpointChecks]
  | cons endpoint rest ih =>
    simp only [endpointChecks, List.cons_append, List.nil_append, List.forall_mem_cons, ih]
    simp only [Holds, List.map_cons, List.nodup_cons, List.mem_map, not_exists, not_and]
    grind

theorem forall_nameChecks {key : Key} {zone : String} :
    (∀ check ∈ nameChecks key zone, check.Holds) ↔ Dns.Zone.published zone ≠ "" ∧
      (∀ label ∈ writtenLabels key zone, Dns.Label.IsWellFormed label) ∧
      (Text.join '.' (writtenLabels key zone)).utf8ByteSize ≤ 253 := by
  simp only [nameChecks, List.forall_mem_cons, List.forall_mem_append, List.forall_mem_map, Holds,
    writtenLabels]
  constructor
  · rintro ⟨published, name, ns, labels, short, -⟩
    exact ⟨published, ⟨name, ns, labels⟩, short⟩
  · rintro ⟨published, ⟨name, ns, labels⟩, short⟩
    exact ⟨published, name, ns, labels, short, List.forall_mem_nil _⟩

theorem Service.isPublishable_iff {service : Service} :
    service.IsPublishable ↔ ∀ check ∈ service.checks, check.Holds := by
  rw [checks, List.forall_mem_append, forall_nameChecks, forall_endpointChecks]
  constructor
  · rintro ⟨zone, labels, short, names, distinct, hosts, ports⟩
    exact ⟨⟨zone, labels, short⟩, names, ⟨distinct, by simp⟩, hosts, ports⟩
  · rintro ⟨⟨zone, labels, short⟩, names, ⟨distinct, -⟩, hosts, ports⟩
    exact ⟨zone, labels, short, names, distinct, hosts, ports⟩

namespace Layout

variable {layout : Layout} {service : Service} {record : Record}

/-- The record has one entry for each endpoint, and no others. -/
structure IsRecordOf (layout : Layout) (service : Service) (record : Record) : Prop where
  directory : record.directory = layout.root ++ "/" ++ Text.join '/'
    ((writtenLabels service.key service.spec.zone).map String.toLower).reverse
  entries : ∀ (x : String) entry, record.entries[x]? = some entry ↔
    ∃ endpoint ∈ service.spec.endpoints, record.directory ++ "/" ++ endpoint.name.toLower = x ∧
      endpoint.wanted layout.owner service.spec.ttl = entry
  size : record.entries.size = service.spec.endpoints.length

theorem isRecordOf_of_record (made : layout.record service = .ok record) :
    layout.IsRecordOf service record := by
  have publishable := Service.isPublishable_iff.mpr ((judges_record layout service).ok record made)
  obtain ⟨directory, named, found, listed, rfl⟩ := record_eq_ok.mp made
  obtain ⟨rfl, -⟩ := namedEntries_eq_map listed
  have distinct : (((service.spec.endpoints.map fun endpoint =>
      (endpoint.name.toLower, endpoint.wanted layout.owner service.spec.ttl)).map
      fun pair => (entryKey directory pair.1, pair.2)).map Prod.fst).Nodup := by
    have names := publishable.distinct
    simp only [List.map_map, Function.comp_def]
    rw [List.Nodup, List.pairwise_map] at names ⊢
    exact names.imp fun different same => different ((String.append_right_inj _).mp same)
  refine ⟨?_, fun x entry => ?_, ?_⟩
  · obtain ⟨labels, spelled, rfl⟩ := directory_eq_ok.mp found
    rw [(nameLabels_eq_ok.mp spelled).2.2.2.1]
  · rw [getElem?_ofList_iff distinct]
    simp [entryKey]
  · rw [Std.ExtTreeMap.size_ofList (pairwise_of_nodup distinct), List.length_map, List.length_map]

/-- A service can be published just when it passes all the checks. Its record then has the entries
that it asks for, and otherwise the error is that of the first check that it does not pass. -/
theorem record_decides (layout : Layout) (service : Service) :
    ((∃ record, layout.record service = .ok record) ↔ service.IsPublishable) ∧
    (∀ record, layout.record service = .ok record → layout.IsRecordOf service record) ∧
    ∀ error, layout.record service = .error error ↔ FirstBreaks service.checks error := by
  have judges := judges_record layout service
  refine ⟨?_, fun _ => isRecordOf_of_record, judges.eq_error_iff⟩
  rw [judges.exists_ok_iff, Service.isPublishable_iff]

/-- A service with two endpoints, the first of which has blanks around its host. -/
def paired (second : String) (port : UInt16) : Service where
  metadata := { name := some "A", ns := some "svc" }
  spec := {
    zone := " X.y.. "
    endpoints := [⟨"E", " h ", port, .grpc⟩, ⟨second, "h", 2, .udp⟩] }

/-- Where the first endpoint has no port, it does not count that the second one has its name. -/
theorem record_decides_paired :
    (paired "b" 1).IsPublishable ∧
    (∃ record, Layout.record {} (paired "b" 1) = .ok record ∧ record.entries.size = 2 ∧
      record.entries["/skydns/y/x/svc/a/e"]? =
        some ⟨"h", 1, none, some .grpc, some "rpc-controller"⟩) ∧
    ¬(paired "e" 0).IsPublishable ∧
    Layout.record {} (paired "e" 0) = .error (.invalidEndpoint "e" .zeroPort) ∧
    FirstBreaks (paired "e" 0).checks (.invalidEndpoint "e" .zeroPort) := by
  obtain ⟨accepts, shows, -⟩ := record_decides {} (paired "b" 1)
  obtain ⟨accepts', -, refuses⟩ := record_decides {} (paired "e" 0)
  have accepted : (Layout.record {} (paired "b" 1)).toOption.isSome = true := by decide +kernel
  have refused : (Layout.record {} (paired "e" 0)).map (fun _ => ()) =
      .error (.invalidEndpoint "e" .zeroPort) := by
    decide +kernel
  cases made : Layout.record {} (paired "b" 1) with
  | error error =>
    rw [made] at accepted
    cases accepted
  | ok record =>
    cases failed : Layout.record {} (paired "e" 0) with
    | ok other =>
      rw [failed] at refused
      cases refused
    | error error =>
      rw [failed] at refused
      cases refused
      have isRecord := shows record made
      have directory : record.directory = "/skydns/y/x/svc/a" :=
        isRecord.directory.trans (by decide +kernel)
      refine ⟨accepts.mp ⟨record, made⟩, ⟨record, rfl, isRecord.size, ?_⟩, ?_, rfl,
        (refuses _).mp failed⟩
      · rw [isRecord.entries, directory]
        exact ⟨⟨"E", " h ", 1, .grpc⟩, List.mem_cons_self .., by decide +kernel,
          by decide +kernel⟩
      · rw [← accepts', failed]
        simp

end Layout

end ServiceRecords
