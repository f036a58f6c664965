import ServiceRecords.Proofs.Json.RoundTrip
import ServiceRecords.Service.Written

set_option autoImplicit false

/-!
# Fields of objects

What an object says about one of its fields depends neither on the order of its members nor on
those with other names (`field?_perm`, `field?_cons_of_ne`), and a field that occurs twice cannot
be read (`field?_of_repeated`). The values that fields are written as are writable and are read
back.
-/

namespace ServiceRecords.Json

namespace Value

variable {members members' : List (String × Value)} {name : String} {value : Value}

/-- Every reading succeeds, and with these results. -/
theorem mapM_eq_some {α β : Type} {read : α → Option β} {as : List α} {bs : List β} :
    as.mapM read = some bs ↔ as.map read = bs.map some := by
  induction as generalizing bs with
  | nil => cases bs <;> simp
  | cons a rest ih =>
    simp only [List.mapM_cons, bind, pure, Option.bind_eq_some_iff, ih, List.map_cons,
      Option.some.injEq]
    cases bs with
    | nil => simp
    | cons b others =>
      constructor
      · rintro ⟨_, found, _, same, shape⟩
        cases shape
        rw [found, same, List.map_cons]
      · intro same
        obtain ⟨found, same⟩ := List.cons.inj same
        exact ⟨b, found, others, same, rfl⟩

theorem fields?_ofMembers (members : List (String × Value)) (names : List String) :
    (ofMembers members).fields? names = names.mapM (field? members) := by
  have named : (members.map fun member => (some member.1, member.2)).mapM
      (fun member => member.1.map (·, member.2)) = some members := by
    rw [mapM_eq_some, List.map_map]
    rfl
  unfold fields? ofMembers
  change Option.bind (List.mapM (fun member => member.1.map (·, member.2))
    (members.map fun member => (some member.1, member.2))) _ = _
  rw [named, Option.bind_some]

theorem field?_perm (reordered : members.Perm members') (name : String) :
    field? members name = field? members' name := by
  have found := reordered.filter (·.1 == name)
  unfold field?
  generalize members.filter (·.1 == name) = own at found ⊢
  generalize members'.filter (·.1 == name) = own' at found ⊢
  rcases own with _ | ⟨first, _ | ⟨second, rest⟩⟩
  · rw [← found.nil_eq]
  · rw [← found.singleton_eq]
  · have length := found.length_eq
    rcases own' with _ | ⟨_, _ | ⟨_, _⟩⟩
    · simp at length
    · simp at length
    · rfl

theorem field?_cons_of_ne {other : String} (different : other ≠ name) :
    field? ((other, value) :: members) name = field? members name := by
  simp [field?, different]

theorem filter_eq_nil (absent : ∀ member ∈ members, member.1 ≠ name) :
    members.filter (·.1 == name) = [] := by
  simpa using absent

theorem field?_of_absent (absent : ∀ member ∈ members, member.1 ≠ name) :
    field? members name = some none := by
  unfold field?
  rw [filter_eq_nil absent]

theorem field?_cons_self (absent : ∀ member ∈ members, member.1 ≠ name) :
    field? ((name, value) :: members) name = some (some value) := by
  unfold field?
  rw [List.filter_cons_of_pos (by simp), filter_eq_nil absent]

theorem field?_of_repeated (repeated : 2 ≤ (members.map Prod.fst).count name) :
    field? members name = none := by
  have found : 2 ≤ (members.filter (·.1 == name)).length := by
    rwa [List.count, List.countP_map, List.countP_eq_length_filter] at repeated
  unfold field?
  split
  · rename_i empty
    simp [empty] at found
  · rename_i single
    simp [single] at found
  · rfl

/-! ### Values of fields -/

theorem isWritable_ofMembers (each : ∀ member ∈ members, member.2.IsWritable) :
    (ofMembers members).IsWritable := by
  refine .object _ ?_ ?_
  · intro member present
    obtain ⟨written, -, rfl⟩ := List.mem_map.mp present
    rfl
  · intro member present
    obtain ⟨written, known, rfl⟩ := List.mem_map.mp present
    exact each written known

theorem isWritable_member? {α : Type} {name : String} {write : α → Value}
    (writable : ∀ a, (write a).IsWritable) (a : Option α) :
    ∀ member ∈ member? name write a, member.2.IsWritable := by
  intro member present
  cases a with
  | none => cases present
  | some a =>
    obtain rfl := List.mem_singleton.mp present
    exact writable a

theorem below?_ofNat {bound n : Nat} (small : n < bound) : (ofNat n).below? bound = some n := by
  simp [below?, ofNat, Number.ofNat, Number.natural?, Nat.ofDigitChars_ten_toDigits,
    Option.filter, small]

@[simp]
theorem string?_ofString (text : String) : (ofString text).string? = some text := rfl

@[simp]
theorem optional?_none {α : Type} (read : Value → Option α) : optional? read none = some none := rfl

@[simp]
theorem optional?_ofString {α : Type} (read : Value → Option α) (text : String) :
    optional? read (some (.ofString text)) = (read (.ofString text)).map some := rfl

@[simp]
theorem optional?_ofNat {α : Type} (read : Value → Option α) (n : Nat) :
    optional? read (some (.ofNat n)) = (read (.ofNat n)).map some := rfl

@[simp]
theorem optional?_protocol {α : Type} (read : Value → Option α) (protocol : Protocol) :
    optional? read (some protocol.value) = (read protocol.value).map some := rfl

end Value

@[simp]
theorem port?_ofNat (port : UInt16) : port? (.ofNat port.toNat) = some port := by
  simp [port?, Value.below?_ofNat port.toNat_lt]

@[simp]
theorem ttl?_ofNat (ttl : UInt32) : ttl? (.ofNat ttl.toNat) = some ttl := by
  simp [ttl?, Value.below?_ofNat ttl.toNat_lt]

@[simp]
theorem protocol?_value (protocol : Protocol) :
    Protocol.ofValue? protocol.value = some protocol := by
  simp [Protocol.ofValue?, Protocol.value, Value.ofString]

end ServiceRecords.Json
