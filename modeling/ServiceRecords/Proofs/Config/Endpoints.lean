import Mathlib.Data.List.Forall2
import Mathlib.Data.List.TakeWhile
import ServiceRecords.CommandLine.Setting
import ServiceRecords.Config.Endpoints
import ServiceRecords.Proofs.Dns.Normal

set_option autoImplicit false

/-!
# Lists of endpoints

Lists of endpoints are judged by what stands between their commas. A piece that is not blank stands
for an address; all these addresses have to be secure, there has to be one, and the first one that
is not secure is reported (`Refuses`). Where one list ends and the next one begins makes no
difference (`Text.segments_join_eq_flatMap`), so that a list may as well have been taken apart
before.
-/

namespace ServiceRecords

namespace Text

theorem segments_append (separator : Char) (first second : String) :
    segments separator (first ++ String.singleton separator ++ second) =
      segments separator first ++ segments separator second := by
  have split := List.splitOnP_append_cons (p := (· == separator)) first.toList second.toList
    (beq_self_eq_true separator)
  unfold segments List.splitOn
  rw [String.toList_append, String.toList_append, String.toList_singleton, List.append_assoc,
    List.singleton_append, split, List.map_append]

/-- A text is taken apart at the separators in its parts and at those between them. -/
theorem segments_join_eq_flatMap (separator : Char) {parts : List String}
    (nonempty : parts ≠ []) :
    segments separator (join separator parts) = parts.flatMap (segments separator) := by
  induction parts with
  | nil => exact absurd rfl nonempty
  | cons part rest ih =>
    by_cases last : rest = []
    · rw [last, join_singleton, List.flatMap_singleton]
    · rw [join_cons separator part last, segments_append, ih last, List.flatMap_cons]

theorem trim_eq_empty {text : String} :
    trim text = "" ↔ ∀ c ∈ text.toList, isBlank c = true := by
  rw [← String.toList_eq_nil_iff, toList_trim]
  unfold dropEnds dropEnd
  simp only [List.reverse_eq_nil_iff, List.dropWhile_eq_nil_iff, List.mem_reverse]
  constructor
  · intro blank c member
    rw [← List.takeWhile_append_dropWhile (p := isBlank) (l := text.toList),
      List.mem_append] at member
    rcases member with member | member
    · exact List.mem_takeWhile_imp member
    · exact blank c member
  · intro blank c member
    exact blank c ((List.dropWhile_suffix isBlank).subset member)

/-- Everything that is dropped at the end of a text satisfies the condition. -/
theorem exists_eq_dropEnd_append (drop : Char → Bool) (cs : List Char) :
    ∃ dropped, cs = dropEnd drop cs ++ dropped ∧ ∀ c ∈ dropped, drop c = true := by
  refine ⟨(cs.reverse.takeWhile drop).reverse, ?_, ?_⟩
  · unfold dropEnd
    rw [← List.reverse_append, List.takeWhile_append_dropWhile, List.reverse_reverse]
  · intro c member
    exact List.mem_takeWhile_imp (List.mem_reverse.mp member)

end Text

namespace Config

section Traversal

variable {α β ε : Type} {f : α → Except ε β} {as : List α}

/-- Every step succeeds, and with these results. -/
theorem mapM_eq_ok {bs : List β} :
    as.mapM f = .ok bs ↔ List.Forall₂ (fun a b => f a = .ok b) as bs := by
  induction as generalizing bs with
  | nil =>
    rw [List.mapM_nil, List.forall₂_nil_left_iff]
    exact ⟨fun same => (Except.ok.inj same).symm, fun empty => congrArg Except.ok empty.symm⟩
  | cons a rest ih =>
    rw [List.mapM_cons, List.forall₂_cons_left_iff]
    simp only [← ih]
    constructor
    · intro succeeded
      cases first : f a with
      | error error => simp [first, bind, Except.bind] at succeeded
      | ok b =>
        cases others : rest.mapM f with
        | error error => simp [first, others, bind, Except.bind] at succeeded
        | ok bs' =>
          simp only [first, others, bind, Except.bind, pure, Except.pure, Except.ok.injEq]
            at succeeded
          exact ⟨b, bs', rfl, rfl, succeeded.symm⟩
    · rintro ⟨b, bs', first, others, rfl⟩
      simp [first, others, bind, Except.bind, pure, Except.pure]

theorem exists_mapM_eq_ok : (∃ bs, as.mapM f = .ok bs) ↔ ∀ a ∈ as, ∃ b, f a = .ok b := by
  simp only [mapM_eq_ok]
  induction as with
  | nil => simp
  | cons a rest ih =>
    simp only [List.forall₂_cons_left_iff, List.forall_mem_cons, ← ih]
    constructor
    · rintro ⟨_, b, bs, first, others, rfl⟩
      exact ⟨⟨b, first⟩, bs, others⟩
    · rintro ⟨⟨b, first⟩, bs, others⟩
      exact ⟨b :: bs, b, bs, first, others, rfl⟩

theorem mapM_cons_eq_error {a : α} {error : ε} :
    (a :: as).mapM f = .error error ↔
      f a = .error error ∨ (∃ b, f a = .ok b) ∧ as.mapM f = .error error := by
  rw [List.mapM_cons]
  cases first : f a with
  | error error' => simp [bind, Except.bind]
  | ok b => cases others : as.mapM f <;> simp [bind, Except.bind, pure, Except.pure]

/-- The first step that fails tells the error. -/
theorem mapM_eq_error {error : ε} :
    as.mapM f = .error error ↔ ∃ before a after, as = before ++ a :: after ∧
      (∀ earlier ∈ before, ∃ b, f earlier = .ok b) ∧ f a = .error error := by
  induction as with
  | nil => simp [pure, Except.pure]
  | cons first rest ih =>
    rw [mapM_cons_eq_error, ih]
    constructor
    · rintro (failed | ⟨passed, before, a, after, rfl, others, failed⟩)
      · exact ⟨[], first, rest, rfl, List.forall_mem_nil _, failed⟩
      · exact ⟨first :: before, a, after, rfl, List.forall_mem_cons.mpr ⟨passed, others⟩, failed⟩
    · rintro ⟨before, a, after, shape, passed, failed⟩
      cases before with
      | nil =>
        cases shape
        exact .inl failed
      | cons earlier before =>
        cases shape
        rw [List.forall_mem_cons] at passed
        exact .inr ⟨passed.1, before, a, after, rfl, passed.2, failed⟩

end Traversal

/-- The pieces between the commas that are not blank. -/
def filledPieces (raw : List String) : List String :=
  (raw.flatMap (Text.segments ',')).filter fun piece => !piece.toList.all Text.isBlank

/-- The address that an item stands for. -/
inductive StandsFor (item : String) : String → Prop
  | itself (named : "://".toList <:+: item.toList) : StandsFor item item
  | withScheme (unnamed : ¬"://".toList <:+: item.toList) : StandsFor item ("https://" ++ item)

/-- The address of a piece passes all the checks. -/
def IsSecure (read : ReadUrl) (piece : String) : Prop :=
  ∃ address url, StandsFor (Text.trim piece) address ∧ read address = .ok url ∧
    url.scheme = "https" ∧ url.host ≠ ""

/-- The first check that the address of a piece does not pass. -/
inductive Fails (read : ReadUrl) (piece : String) : AddressFault → Prop
  | unreadable {address : String} {fault : Web.UrlFault}
      (stands : StandsFor (Text.trim piece) address) (unread : read address = .error fault) :
      Fails read piece (.unreadable fault)
  | wrongScheme {address : String} {url : Web.Url}
      (stands : StandsFor (Text.trim piece) address) (isRead : read address = .ok url)
      (insecure : url.scheme ≠ "https") : Fails read piece .wrongScheme
  | noHost {address : String} {url : Web.Url}
      (stands : StandsFor (Text.trim piece) address) (isRead : read address = .ok url)
      (secure : url.scheme = "https") (hostless : url.host = "") : Fails read piece .noHost

/-- The endpoint is the address of the piece as it was given, without the slashes at its end. -/
def IsEndpointOf (piece endpoint : String) : Prop :=
  ∃ address slashes, StandsFor (Text.trim piece) address ∧
    address.toList = endpoint.toList ++ List.replicate slashes '/' ∧
    endpoint.toList.getLast? ≠ some '/'

/-- Why lists of endpoints are refused. -/
inductive Refuses (read : ReadUrl) (raw : List String) : ConfigError → Prop
  | blank (none : filledPieces raw = []) : Refuses read raw .emptyEndpoints
  | insecure {before after : List String} {piece : String} {fault : AddressFault}
      (shape : filledPieces raw = before ++ piece :: after)
      (first : ∀ earlier ∈ before, IsSecure read earlier) (fails : Fails read piece fault) :
      Refuses read raw (.invalidEndpoint (Text.trim piece) fault)

variable {read : ReadUrl} {raw : List String} {item address piece : String}

theorem standsFor_iff : StandsFor item address ↔ address = candidate item := by
  unfold candidate hasScheme
  by_cases named : "://".toList <:+: item.toList
  · have occurs := (Text.occurs_iff [':', '/', '/'] item.toList).mpr named
    rw [if_pos occurs]
    constructor
    · intro stands
      cases stands with
      | itself => rfl
      | withScheme unnamed => exact absurd named unnamed
    · intro same
      subst same
      exact .itself named
  · have unnamed := mt (Text.occurs_iff [':', '/', '/'] item.toList).mp named
    rw [if_neg unnamed]
    constructor
    · intro stands
      cases stands with
      | itself occurring => exact absurd occurring named
      | withScheme => rfl
    · intro same
      subst same
      exact .withScheme named

theorem fails_of_addressFault? {fault : AddressFault}
    (found : addressFault? read (candidate (Text.trim piece)) = some fault) :
    Fails read piece fault := by
  have stands := standsFor_iff.mpr (Eq.refl (candidate (Text.trim piece)))
  unfold addressFault? at found
  split at found
  · rename_i unread
    cases found
    exact .unreadable stands unread
  · rename_i url isRead
    split at found
    · rename_i insecure
      cases found
      exact .wrongScheme stands isRead insecure
    · rename_i secure
      split at found
      · rename_i hostless
        cases found
        exact .noHost stands isRead (not_not.mp secure) hostless
      · cases found

theorem Fails.addressFault?_eq {fault : AddressFault} (fails : Fails read piece fault) :
    addressFault? read (candidate (Text.trim piece)) = some fault := by
  cases fails with
  | unreadable stands unread =>
    rw [standsFor_iff.mp stands] at unread
    simp only [addressFault?, unread]
  | wrongScheme stands isRead insecure =>
    rw [standsFor_iff.mp stands] at isRead
    simp only [addressFault?, isRead, ne_eq, insecure, not_false_eq_true, if_true]
  | noHost stands isRead secure hostless =>
    rw [standsFor_iff.mp stands] at isRead
    simp only [addressFault?, isRead, ne_eq, secure, not_true_eq_false, if_false, hostless, if_true]

theorem isSecure_iff :
    IsSecure read piece ↔ addressFault? read (candidate (Text.trim piece)) = none := by
  constructor
  · rintro ⟨address, url, stands, isRead, secure, hosted⟩
    rw [standsFor_iff.mp stands] at isRead
    simp only [addressFault?, isRead, ne_eq, secure, not_true_eq_false, if_false, hosted]
  · intro faultless
    have stands := standsFor_iff.mpr (Eq.refl (candidate (Text.trim piece)))
    unfold addressFault? at faultless
    split at faultless
    · cases faultless
    · rename_i url isRead
      split at faultless
      · cases faultless
      · rename_i secure
        split at faultless
        · cases faultless
        · rename_i hosted
          exact ⟨_, url, stands, isRead, not_not.mp secure, hosted⟩

theorem isEndpointOf_candidate (piece : String) :
    IsEndpointOf piece (withoutFinalSlashes (candidate (Text.trim piece))) := by
  obtain ⟨slashes, whole, same⟩ :=
    Text.exists_eq_dropEnd_append (· == '/') (candidate (Text.trim piece)).toList
  refine ⟨_, slashes.length, standsFor_iff.mpr rfl, ?_, ?_⟩
  · rw [withoutFinalSlashes, String.toList_ofList,
      ← List.eq_replicate_of_mem fun c member => beq_iff_eq.mp (same c member)]
    exact whole
  · rw [withoutFinalSlashes, String.toList_ofList]
    intro last
    exact absurd (Text.getLast?_dropEnd last) (by decide)

theorem exists_endpoint_eq_ok :
    (∃ found, endpoint read (Text.trim piece) = .ok found) ↔ IsSecure read piece := by
  rw [isSecure_iff, endpoint]
  cases addressFault? read (candidate (Text.trim piece)) with
  | none => simp
  | some fault => simp

theorem isEndpointOf_of_endpoint {found : String}
    (succeeded : endpoint read (Text.trim piece) = .ok found) : IsEndpointOf piece found := by
  unfold endpoint at succeeded
  split at succeeded
  · cases succeeded
  · obtain rfl := Except.ok.inj succeeded
    exact isEndpointOf_candidate piece

theorem endpoint_eq_error {error : ConfigError} :
    endpoint read (Text.trim piece) = .error error ↔
      ∃ fault, Fails read piece fault ∧ error = .invalidEndpoint (Text.trim piece) fault := by
  constructor
  · intro failed
    unfold endpoint at failed
    split at failed
    · rename_i fault found
      exact ⟨fault, fails_of_addressFault? found, (Except.error.inj failed).symm⟩
    · cases failed
  · rintro ⟨fault, fails, rfl⟩
    simp only [endpoint, fails.addressFault?_eq]

theorem endpointItems_eq (raw : List String) :
    endpointItems raw = (filledPieces raw).map Text.trim := by
  unfold endpointItems filledPieces
  rw [List.filter_map]
  apply congrArg (List.map Text.trim)
  apply List.filter_congr
  intro piece _
  rw [Bool.eq_iff_iff]
  simp [Text.trim_eq_empty]

/-- The endpoints of the pieces, unless there are none. -/
theorem endpoints_eq (read : ReadUrl) (raw : List String) :
    endpoints read raw =
      if filledPieces raw = [] then .error .emptyEndpoints
      else (filledPieces raw).mapM fun piece => endpoint read (Text.trim piece) := by
  unfold endpoints
  rw [endpointItems_eq, List.mapM_map]
  by_cases none : filledPieces raw = []
  · rw [if_pos none, none]
    rfl
  · rw [if_neg none]
    change _ = (filledPieces raw).mapM (endpoint read ∘ Text.trim)
    cases traversed : (filledPieces raw).mapM (endpoint read ∘ Text.trim) with
    | error error => rfl
    | ok found =>
      have length := (mapM_eq_ok.mp traversed).length_eq
      have filled : found.isEmpty = false := by
        rw [List.isEmpty_eq_false_iff, ← List.length_pos_iff, ← length]
        exact List.length_pos_iff.mpr none
      simp [bind, Except.bind, filled, pure, Except.pure]

theorem filledPieces_join (raw : List String) :
    filledPieces [Text.join ',' raw] = filledPieces raw := by
  by_cases none : raw = []
  · subst none
    decide
  · unfold filledPieces
    rw [List.flatMap_singleton, Text.segments_join_eq_flatMap ',' none]

theorem endpoints_eq_error {error : ConfigError} :
    endpoints read raw = .error error ↔ Refuses read raw error := by
  rw [endpoints_eq]
  split
  · rename_i none
    constructor
    · intro refused
      rw [← Except.error.inj refused]
      exact .blank none
    · intro refuses
      cases refuses with
      | blank => rfl
      | insecure shape => simp [none] at shape
  · rename_i filled
    simp only [mapM_eq_error, exists_endpoint_eq_ok, endpoint_eq_error]
    constructor
    · rintro ⟨before, piece, after, shape, first, fault, fails, rfl⟩
      exact .insecure shape first fails
    · intro refuses
      cases refuses with
      | blank none => exact absurd none filled
      | insecure shape first fails => exact ⟨_, _, _, shape, first, _, fails, rfl⟩

/-- Lists are accepted just when there is a piece that is not blank and the addresses of all these
pieces are secure. They then have one endpoint for each, in order, and otherwise the first address
that is not secure is reported. It makes no difference whether they are given one by one, in one
text, or in one text that the command line has taken apart. -/
theorem endpoints_of_pieces (read : ReadUrl) (raw : List String) :
    ((∃ found, endpoints read raw = .ok found) ↔
      filledPieces raw ≠ [] ∧ ∀ piece ∈ filledPieces raw, IsSecure read piece) ∧
    (∀ found, endpoints read raw = .ok found →
      List.Forall₂ IsEndpointOf (filledPieces raw) found) ∧
    (∀ error, endpoints read raw = .error error ↔ Refuses read raw error) ∧
    endpoints read [Text.join ',' raw] = endpoints read raw ∧
    ∀ texts, CommandLine.ValueKind.texts.read (Text.join ',' raw) = .ok (.texts texts) →
      endpoints read texts = endpoints read raw := by
  refine ⟨?_, ?_, fun _ => endpoints_eq_error, ?_, ?_⟩
  · rw [endpoints_eq]
    split
    · rename_i none
      simp [none]
    · rename_i filled
      simp only [exists_mapM_eq_ok, exists_endpoint_eq_ok, ne_eq, filled, not_false_eq_true,
        true_and]
  · intro found succeeded
    rw [endpoints_eq] at succeeded
    split at succeeded
    · cases succeeded
    · exact (mapM_eq_ok.mp succeeded).imp fun _ _ => isEndpointOf_of_endpoint
  · rw [endpoints_eq, filledPieces_join, ← endpoints_eq]
  · rintro texts ⟨⟩
    rw [endpoints_eq, ← filledPieces_join (Text.segments _ _), Text.join_segments,
      filledPieces_join, ← endpoints_eq]

/-- Blank pieces are passed over, and of two addresses that are not secure the first one counts. -/
theorem endpoints_of_pieces_mixed :
    let raw := ["[::1]:2379, https://[::2]/ ,", " ", "[::3]//"]
    let refused := ["[::1]", ", http://[::2]/,https://:1"]
    endpoints Web.Url.read raw =
      .ok ["https://[::1]:2379", "https://[::2]", "https://[::3]"] ∧
    filledPieces raw ≠ [] ∧ (∀ piece ∈ filledPieces raw, IsSecure Web.Url.read piece) ∧
    List.Forall₂ IsEndpointOf (filledPieces raw)
      ["https://[::1]:2379", "https://[::2]", "https://[::3]"] ∧
    endpoints Web.Url.read ["[::1]:2379", " https://[::2]/ ", "", " ", "[::3]//"] =
      endpoints Web.Url.read raw ∧
    Refuses Web.Url.read refused (.invalidEndpoint "http://[::2]/" .wrongScheme) ∧
    Refuses Web.Url.read [" ,", ""] .emptyEndpoints := by
  intro raw refused
  obtain ⟨accepts, shows, -, -, apart⟩ := endpoints_of_pieces Web.Url.read raw
  obtain ⟨-, -, refuses, -⟩ := endpoints_of_pieces Web.Url.read refused
  obtain ⟨-, -, refuses', -⟩ := endpoints_of_pieces Web.Url.read [" ,", ""]
  have accepted : endpoints Web.Url.read raw =
      .ok ["https://[::1]:2379", "https://[::2]", "https://[::3]"] := by
    decide +kernel
  obtain ⟨filled, secure⟩ := accepts.mp ⟨_, accepted⟩
  exact ⟨accepted, filled, secure, shows _ accepted, apart _ (by decide +kernel),
    (refuses _).mp (by decide +kernel), (refuses' _).mp (by decide +kernel)⟩

end Config

end ServiceRecords
