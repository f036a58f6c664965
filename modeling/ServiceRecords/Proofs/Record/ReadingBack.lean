import ServiceRecords.Proofs.Reconcile.Inventory

set_option autoImplicit false

/-!
# What is stored can be read back

An entry is stored under a key and with a text. Every text of an entry is read as that entry
(`Layout.readsBack_text`), and the key tells where the entry belongs: locating is the inverse of
building keys, up to the case of letters and the way in which a zone is written
(`Layout.locatesBack_entryKey`).
-/

namespace ServiceRecords

theorem Entry.text_injective : Function.Injective Entry.text := by
  intro first second same
  have read := ofText?_text first
  rw [same, ofText?_text] at read
  exact (Option.some.inj read).symm

namespace Layout

variable {layout : Layout} {key : Key} {zone x : String} {location : Location}

theorem decode_text (x : String) (entry : Entry) : Layout.decode x entry.text = .ok entry := by
  rw [Layout.decode, Entry.ofText?_text]

/-- What a listing shows once an entry of a record has been put is taken for the entry. -/
theorem holds_put {service : Service} {record : Record} {entry : Entry}
    (made : layout.record service = .ok record) (wanted : record.entries[x]? = some entry)
    (contents : Store.Contents) :
    Changes.holds
      (Store.listingIn ((Store.Call.put x entry.text).apply contents) record.directory)
      x entry = true := by
  refine Changes.holds_of_stored ?_ (spec_of_record made wanted).1 (Entry.ofText?_text entry)
  rw [Store.Call.apply, Store.getElem?_insert, if_pos rfl]

/-- Any entry can be read back from its text, which also tells its owner and is the text of no
other entry. An entry of a record is owned, and is left alone once it is stored. -/
theorem readsBack_text (layout : Layout) :
    (∀ x entry, Layout.decode x (Entry.text entry) = .ok entry) ∧
    (∀ entry, layout.owns (Entry.text entry) = true ↔ entry.owner = some layout.owner) ∧
    Function.Injective Entry.text ∧
    ∀ service record x entry, layout.record service = .ok record →
      record.entries[x]? = some entry →
        layout.owns entry.text = true ∧ ∀ contents, Changes.holds
          (Store.listingIn ((Store.Call.put x entry.text).apply contents) record.directory)
          x entry = true := by
  refine ⟨decode_text, fun entry => owns_text, Entry.text_injective, ?_⟩
  intro service record x entry made wanted
  exact ⟨owns_text.mpr (owner_of_record made wanted), holds_put made wanted⟩

instance {service : Service} {entry : Entry} : Decidable (layout.Names service x entry) :=
  decidable_of_iff ((layout.record service).toOption.bind (·.entries[x]?) = some entry) (by
    unfold Names
    cases layout.record service <;> simp [Except.toOption])

/-- A service with one endpoint, however it is spelled. -/
def spelled (ns name zone endpoint : String) : Service where
  metadata := { name := some name, ns := some ns }
  spec := { zone, endpoints := [⟨endpoint, "10.0.0.1", 9000, .grpc⟩] }

def spelledEntry (layout : Layout) : Entry :=
  ⟨"10.0.0.1", 9000, none, some .grpc, some layout.owner⟩

/-- The owner has a quote, a backslash and a control character in its name. -/
def quoting : Layout := { owner := "\"\\\x01" }

theorem readsBack_text_quoting : ∃ record,
    quoting.record (spelled "SVC" "A" " X.y.. " "Main") = .ok record ∧
    record.entries["/skydns/y/x/svc/a/main"]? = some (spelledEntry quoting) ∧
    quoting.owns (spelledEntry quoting).text = true ∧
    Changes.holds (Store.listingIn ((Store.Call.put "/skydns/y/x/svc/a/main"
      (spelledEntry quoting).text).apply ∅) record.directory)
      "/skydns/y/x/svc/a/main" (spelledEntry quoting) = true := by
  have names : quoting.Names (spelled "SVC" "A" " X.y.. " "Main") "/skydns/y/x/svc/a/main"
      (spelledEntry quoting) := by
    decide +kernel
  obtain ⟨record, made, wanted⟩ := names
  have stored := (readsBack_text quoting).2.2.2 _ record _ _ made wanted
  exact ⟨record, made, wanted, stored.1, stored.2 ∅⟩

/-- The segments of a located key below the root. -/
theorem exists_of_locate? (located : layout.locate? x = some location) :
    ∃ below labels, layout.root ++ "/" ++ below = x ∧ labels ≠ [] ∧
      Text.segments '/' below =
        labels.reverse ++ [location.key.ns, location.key.name, location.endpoint] ∧
      Text.join '.' labels = location.zone := by
  unfold Layout.locate? at located
  simp only [bind, Option.bind_eq_some_iff] at located
  obtain ⟨below, found, located⟩ := located
  split at located
  · simp at located
  · split at located
    · rename_i endpoint name ns label labels taken
      simp only [Option.some.injEq] at located
      subst located
      refine ⟨below, label :: labels, Text.after?_eq_some.mp found, List.cons_ne_nil _ _, ?_, rfl⟩
      rw [← List.reverse_inj, taken]
      simp
    · cases located

/-- The segments of a located key are labels in lower case, and the name that they spell is not too
long. -/
structure IsCanonical (layout : Layout) (x : String) (location : Location) : Prop where
  labels : ∀ below, layout.root ++ "/" ++ below = x → ∀ segment ∈ Text.segments '/' below,
    Dns.Label.IsValid segment ∧ segment.toLower = segment
  short : (Text.join '.' [location.key.name, location.key.ns, location.zone]).utf8ByteSize ≤
    RecordError.maxNameBytes

/-- A canonical key is the one that is built for its location. -/
theorem entryKey_of_locate? (located : layout.locate? x = some location)
    (canonical : layout.IsCanonical x location) :
    ∃ directory, layout.directory location.key location.zone = .ok directory ∧
      entryKey directory location.endpoint = x := by
  obtain ⟨below, labels, rfl, nonempty, segmented, zoned⟩ := exists_of_locate? located
  have valid := canonical.labels below rfl
  rw [segmented] at valid
  have validLabels : ∀ label ∈ labels, Dns.Label.IsValid label :=
    fun label member => (valid label (by simp [member])).1
  have written : writtenLabels location.key location.zone =
      location.key.name :: location.key.ns :: labels := by
    rw [writtenLabels, ← zoned, Dns.Zone.labels_join nonempty validLabels]
  have lowered : (writtenLabels location.key location.zone).map String.toLower =
      writtenLabels location.key location.zone := by
    rw [written]
    refine (List.map_congr_left fun label member => ?_).trans (List.map_id _)
    simp only [List.mem_cons] at member
    exact (valid label (by simp only [List.mem_append, List.mem_reverse, List.mem_cons]; tauto)).2
  have joined : Text.join '.' (writtenLabels location.key location.zone) =
      Text.join '.' [location.key.name, location.key.ns, location.zone] := by
    rw [written, ← zoned, Text.join_join _ _ _ nonempty]
  have found : layout.directory location.key location.zone = .ok (layout.root ++ "/" ++
      Text.join '/' (writtenLabels location.key location.zone).reverse) := by
    refine directory_eq_ok.mpr ⟨_, nameLabels_eq_ok.mpr ⟨?_, ?_, ?_, lowered, ?_⟩, rfl⟩
    · apply Dns.Zone.isValid_of_labels
      rwa [← zoned, Dns.Zone.labels_join nonempty validLabels]
    · exact (valid _ (by simp)).1
    · exact (valid _ (by simp)).1
    · rw [joined]
      exact canonical.short
  refine ⟨_, found, ?_⟩
  rw [← join_writtenLabels found, lowered, written, ← Text.join_segments '/' below, segmented]
  simp

/-- The key of an entry of one service lies in the directory of another one only if both have the
same key in lower case and the same zone in normal form. -/
theorem lower_eq_of_shares {service other : Service} {entry : Entry}
    (names : layout.Names service x entry)
    (shares : (∃ entry, layout.Names other x entry) ∨
      layout.Resides other.key other.spec.zone x) :
    service.key.ns.toLower = other.key.ns.toLower ∧
      service.key.name.toLower = other.key.name.toLower ∧
      Dns.Zone.normalize service.spec.zone = Dns.Zone.normalize other.spec.zone := by
  obtain ⟨record, made, wanted⟩ := names
  have own := resides_of_record made wanted
  rcases shares with ⟨entry', record', made', wanted'⟩ | resides
  · exact own.lower_eq (resides_of_record made' wanted')
  · exact own.lower_eq resides

/-- Keys of entries and locations determine each other. A key is located where its service, zone
and endpoint say, in lower case and normal form. A canonical key is built from its location. So
services have entries in one directory only if they agree in name, namespace and zone. -/
theorem locatesBack_entryKey (layout : Layout) :
    (∀ key zone directory name endpoint, layout.directory key zone = .ok directory →
      checkedLabel .endpointName name = .ok endpoint →
        layout.locate? (entryKey directory name.toLower) =
          some ⟨⟨key.ns.toLower, key.name.toLower⟩, Dns.Zone.normalize zone, name.toLower⟩) ∧
    (∀ x location, layout.locate? x = some location → layout.IsCanonical x location →
      ∃ directory, layout.directory location.key location.zone = .ok directory ∧
        entryKey directory location.endpoint = x) ∧
    ∀ service other x entry, layout.Names service x entry →
      (∃ entry, layout.Names other x entry) ∨ layout.Resides other.key other.spec.zone x →
        service.key.ns.toLower = other.key.ns.toLower ∧
          service.key.name.toLower = other.key.name.toLower ∧
          Dns.Zone.normalize service.spec.zone = Dns.Zone.normalize other.spec.zone := by
  refine ⟨?_, fun _ _ => entryKey_of_locate?, fun _ _ _ _ => lower_eq_of_shares⟩
  intro key zone directory name endpoint found checked
  obtain ⟨valid, -⟩ := checkedLabel_eq_ok.mp checked
  exact locate?_entryKey found valid.toLower.ne_empty (valid.toLower.not_mem (by decide))

theorem isCanonical_spelled :
    IsCanonical {} "/skydns/y/x/svc/a/main" ⟨⟨"svc", "a"⟩, "x.y", "main"⟩ := by
  refine ⟨fun below shape => ?_, ?short⟩
  case short => decide +kernel
  have cut : Text.after? (({} : Layout).root ++ "/") "/skydns/y/x/svc/a/main" =
      some "y/x/svc/a/main" := by
    decide +kernel
  rw [Text.after?_eq_some.mpr shape] at cut
  rw [Option.some.inj cut]
  unfold Dns.Label.IsValid
  decide +kernel

/-- The spelling of a service makes no difference, and the key leads back to where it is. -/
theorem locatesBack_entryKey_spelled :
    Layout.directory {} ⟨"SVC", "A"⟩ " X.y.. " = .ok "/skydns/y/x/svc/a" ∧
    checkedLabel .endpointName "Main" = .ok "main" ∧
    Layout.locate? {} "/skydns/y/x/svc/a/main" = some ⟨⟨"svc", "a"⟩, "x.y", "main"⟩ ∧
    IsCanonical {} "/skydns/y/x/svc/a/main" ⟨⟨"svc", "a"⟩, "x.y", "main"⟩ ∧
    (∃ directory, Layout.directory {} ⟨"svc", "a"⟩ "x.y" = .ok directory ∧
      entryKey directory "main" = "/skydns/y/x/svc/a/main") ∧
    Names {} (spelled "SVC" "A" " X.y.. " "Main") "/skydns/y/x/svc/a/main" (spelledEntry {}) ∧
    Names {} (spelled "svc" "a" "x.Y" "MAIN") "/skydns/y/x/svc/a/main" (spelledEntry {}) ∧
    Dns.Zone.normalize " X.y.. " = Dns.Zone.normalize "x.Y" := by
  obtain ⟨locates, builds, agrees⟩ := locatesBack_entryKey {}
  have found : Layout.directory {} ⟨"SVC", "A"⟩ " X.y.. " = .ok "/skydns/y/x/svc/a" := by
    decide +kernel
  have checked : checkedLabel .endpointName "Main" = .ok "main" := by decide +kernel
  have built : entryKey "/skydns/y/x/svc/a" "Main".toLower = "/skydns/y/x/svc/a/main" := by
    decide +kernel
  have there : (⟨⟨"SVC".toLower, "A".toLower⟩, Dns.Zone.normalize " X.y.. ", "Main".toLower⟩ :
      Location) = ⟨⟨"svc", "a"⟩, "x.y", "main"⟩ := by
    decide +kernel
  have located := locates ⟨"SVC", "A"⟩ " X.y.. " "/skydns/y/x/svc/a" "Main" "main" found checked
  rw [built, there] at located
  have back := builds _ _ located isCanonical_spelled
  have first : Names {} (spelled "SVC" "A" " X.y.. " "Main") "/skydns/y/x/svc/a/main"
      (spelledEntry {}) := by
    decide +kernel
  have second : Names {} (spelled "svc" "a" "x.Y" "MAIN") "/skydns/y/x/svc/a/main"
      (spelledEntry {}) := by
    decide +kernel
  have agreed := agrees _ _ _ _ first (.inl ⟨_, second⟩)
  exact ⟨found, checked, located, isCanonical_spelled, back, first, second, agreed.2.2⟩

end Layout

end ServiceRecords
