import EventWiring.Event.Metadata
import EventWiring.Proofs.Json.Entries

/-! Changes of metadata. Metadata is made new or read from JSON, and then changed step by step.
Each change sets what it is about and leaves all else. Custom metadata need not be an object
when it was read, and then it takes no entries. -/
namespace EventWiring.Metadata

/-! ### Changes -/

/-- One change of metadata. -/
inductive Change where
  | correlation (id : Uuid)
  | causation (id : Uuid)
  | entry (key : String) (value : Json)

namespace Change

/-- The correlation identifier that a change sets. -/
def correlation? : Change → Option Uuid
  | correlation id => some id
  | _ => none

/-- The causation identifier that a change sets. -/
def causation? : Change → Option Uuid
  | causation id => some id
  | _ => none

/-- The value that a change attaches under a key. -/
def entry? (key : String) : Change → Option Json
  | entry k value => if key = k then some value else none
  | _ => none

end Change

/-- The last thing of a kind that changes give. -/
def lastOf {α : Type} (given : Change → Option α) (cs : List Change) : Option α :=
  (cs.filterMap given).getLast?

/-- Makes a change. -/
def change (m : Metadata) : Change → Metadata
  | .correlation id => m.withCorrelation id
  | .causation id => m.withCausation id
  | .entry key value => m.withEntry key value

/-- Makes changes in order. -/
def changed (m : Metadata) (cs : List Change) : Metadata := cs.foldl change m

theorem lastOf_cons {α : Type} (given : Change → Option α) (c : Change) (cs : List Change) :
    lastOf given (c :: cs) = (lastOf given cs).or (given c) := by
  unfold lastOf
  rw [List.filterMap_cons]
  cases given c with
  | none => simp
  | some a =>
    rw [List.getLast?_cons]
    cases (cs.filterMap given).getLast? <;> rfl

/-- Changes keep what each change keeps. -/
theorem changed_ind {P : Metadata → Prop} (keeps : ∀ m c, P m → P (m.change c)) {m : Metadata}
    (h : P m) (cs : List Change) : P (m.changed cs) := by
  induction cs generalizing m with
  | nil => exact h
  | cons c cs ih => exact ih (keeps m c h)

/-- What each change sets or leaves, many changes set last or leave. -/
theorem field_changed {α : Type} {P : Metadata → Prop} {f : Metadata → Option α}
    {g : Change → Option α} (keeps : ∀ m c, P m → P (m.change c))
    (sets : ∀ m c, P m → f (m.change c) = (g c).or (f m)) {m : Metadata} (h : P m)
    (cs : List Change) : f (m.changed cs) = (lastOf g cs).or (f m) := by
  induction cs generalizing m with
  | nil => rfl
  | cons c cs ih =>
    calc f ((m.change c).changed cs)
        = (lastOf g cs).or (f (m.change c)) := ih (keeps m c h)
      _ = (lastOf g cs).or ((g c).or (f m)) := by rw [sets m c h]
      _ = (lastOf g (c :: cs)).or (f m) := by rw [lastOf_cons, Option.or_assoc]

/-! ### One change -/

/-- A change sets or leaves each relation, and leaves what makes the event known. -/
theorem frame_change (m : Metadata) (c : Change) :
    ((m.change c).id = m.id ∧ (m.change c).name = m.name ∧ (m.change c).timestamp = m.timestamp) ∧
      (m.change c).correlation = c.correlation?.or m.correlation ∧
      (m.change c).causation = c.causation?.or m.causation := by
  cases c with
  | correlation id => exact ⟨⟨rfl, rfl, rfl⟩, rfl, rfl⟩
  | causation id => exact ⟨⟨rfl, rfl, rfl⟩, rfl, rfl⟩
  | entry key value =>
    rw [change, withEntry]
    split <;> exact ⟨⟨rfl, rfl, rfl⟩, rfl, rfl⟩

/-- Custom metadata is an object with ascending keys. -/
def HasEntries (m : Metadata) : Prop :=
  ∃ entries, m.custom = .object entries ∧ Json.Ascending entries

theorem HasEntries.change {m : Metadata} (h : m.HasEntries) (c : Change) :
    (m.change c).HasEntries := by
  obtain ⟨entries, hcustom, hascending⟩ := h
  cases c with
  | correlation id => exact ⟨entries, hcustom, hascending⟩
  | causation id => exact ⟨entries, hcustom, hascending⟩
  | entry key value =>
    refine ⟨Json.put key value entries, ?_, hascending.put key value⟩
    rw [Metadata.change, withEntry, hcustom]

theorem HasEntries.field?_change {m : Metadata} (h : m.HasEntries) (c : Change) (key : String) :
    (m.change c).custom.field? key = (c.entry? key).or (m.custom.field? key) := by
  obtain ⟨entries, hcustom, -⟩ := h
  cases c with
  | correlation id => rfl
  | causation id => rfl
  | entry k value =>
    rw [Metadata.change, withEntry, hcustom]
    show Json.find? key (Json.put k value entries) = _
    rw [Json.find?_put, Change.entry?]
    split <;> rfl

/-- Custom metadata that is no object stays. -/
theorem custom_change {m : Metadata} (h : m.custom.isObject = false) (c : Change) :
    (m.change c).custom = m.custom := by
  cases c with
  | correlation id => rfl
  | causation id => rfl
  | entry key value =>
    rw [change, withEntry]
    split
    · rename_i hcustom
      rw [hcustom] at h
      cases h
    · rfl

/-! ### Sources -/

/-- Where metadata comes from: it is new, or read from JSON. -/
inductive Source where
  | new (id : Uuid) (timestamp : Timestamp) (name : String)
  | text (text : String)
  | value (value : Json)

namespace Source

/-- The metadata of a source. -/
def metadata? : Source → Except Json.DecodeError Metadata
  | new id timestamp name => .ok (.new id timestamp name)
  | text s => ofText s
  | value v => ofJson v

/-- Whether custom metadata is given as an object. New metadata has an empty one. -/
def givesObject : Source → Bool
  | new .. => true
  | text s => ((recordType.fieldIn "metadata" (Json.read s).1).map (·.isObject)).getD false
  | value v => ((recordType.fieldIn "metadata" v.toReading).map (·.isObject)).getD false

end Source

theorem custom_of_ofFields {fields : List (String × Field)} {m : Metadata}
    (h : ofFields fields = .ok m) : fields.lookup "metadata" = some (.custom m.custom) := by
  unfold ofFields at h
  split at h
  case h_1 hcustom =>
    cases h
    exact hcustom
  all_goals cases h

theorem decodeField_custom {r : Json.Reading} {v : Json}
    (h : decodeField "metadata" r = .ok (.custom v)) :
    r.toJson? (Json.maxDepth - 1) = some v := by
  have hdecode : (Json.decodeAny (Json.maxDepth - 1) r).map Field.custom = .ok (.custom v) := h
  unfold Json.decodeAny at hdecode
  split at hdecode
  · rename_i w hw
    cases hdecode
    exact hw
  · cases hdecode

/-- Custom metadata is read as it is given: an object, with ascending keys, or something else. -/
theorem custom_of_decode {origin : Json.Origin} {r : Json.Reading} {m : Metadata}
    (h : decode origin r = .ok m) :
    m.custom.isObject = ((recordType.fieldIn "metadata" r).map (·.isObject)).getD false ∧
      (m.custom.isObject = true → m.HasEntries) := by
  unfold decode at h
  cases hfields : recordType.fieldsOf origin r with
  | error e =>
    rw [hfields] at h
    cases h
  | ok fields =>
    rw [hfields] at h
    obtain ⟨r', hr', hdecoded⟩ :=
      Json.RecordType.decode_of_fieldsOf hfields (by decide) (custom_of_ofFields h)
    have hread := decodeField_custom hdecoded
    refine ⟨?_, fun hobject => ?_⟩
    · rw [hr']
      exact Json.Reading.isObject_of_toJson? hread
    · cases hcustom : m.custom with
      | object entries =>
        rw [hcustom] at hread
        exact ⟨entries, hcustom, Json.Reading.ascending_of_toJson? hread⟩
      | _ => rw [hcustom] at hobject; cases hobject

theorem decode_of_ofText {text : String} {m : Metadata} (h : ofText text = .ok m) :
    decode .text (Json.read text).1 = .ok m := by
  unfold ofText at h
  cases hm : decode .text (Json.read text).1 with
  | error e =>
    simp only [hm] at h
    cases h
  | ok m' =>
    simp only [hm] at h
    cases halone : (Json.read text).2 <;> rw [halone] at h <;> cases h
    rfl

namespace Source

theorem custom {source : Source} {m : Metadata} (h : source.metadata? = .ok m) :
    m.custom.isObject = source.givesObject ∧ (m.custom.isObject = true → m.HasEntries) := by
  cases source with
  | new id timestamp name =>
    cases h
    exact ⟨rfl, fun _ => ⟨[], rfl, .nil⟩⟩
  | text s => exact custom_of_decode (decode_of_ofText h)
  | value v => exact custom_of_decode h

/-- However metadata is made and then changed, its identifier, name and time stay, and each
relation is the one set last, or the one that it had. Custom metadata that was given as an object
has under each key the value attached last, or the one that it had, with each key once. Anything
else takes no entries. So all that is attached is there exactly if custom metadata was given as
an object, or nothing was attached. -/
theorem entries_attached_iff_object {source : Source} {m : Metadata}
    (made : source.metadata? = .ok m) (cs : List Change) :
    let r := m.changed cs
    (r.id = m.id ∧ r.name = m.name ∧ r.timestamp = m.timestamp) ∧
    r.correlation = (lastOf Change.correlation? cs).or m.correlation ∧
    r.causation = (lastOf Change.causation? cs).or m.causation ∧
    (source.givesObject = true → r.HasEntries ∧
      ∀ key, r.custom.field? key = (lastOf (Change.entry? key) cs).or (m.custom.field? key)) ∧
    (source.givesObject = false → r.custom = m.custom) ∧
    ((∀ key value, lastOf (Change.entry? key) cs = some value → r.custom.field? key = some value) ↔
      source.givesObject = true ∨ ∀ key, lastOf (Change.entry? key) cs = none) := by
  intro r
  obtain ⟨hgives, hentries⟩ := source.custom made
  have hframe : r.id = m.id ∧ r.name = m.name ∧ r.timestamp = m.timestamp := by
    refine changed_ind (P := fun x => x.id = m.id ∧ x.name = m.name ∧ x.timestamp = m.timestamp)
      (fun x c hx => ?_) ⟨rfl, rfl, rfl⟩ cs
    obtain ⟨hid, hname, htime⟩ := (x.frame_change c).1
    exact ⟨hid.trans hx.1, hname.trans hx.2.1, htime.trans hx.2.2⟩
  have hcorrelation : r.correlation = (lastOf Change.correlation? cs).or m.correlation :=
    field_changed (P := fun _ => True) (fun _ _ h => h) (fun x c _ => (x.frame_change c).2.1)
      trivial cs
  have hcausation : r.causation = (lastOf Change.causation? cs).or m.causation :=
    field_changed (P := fun _ => True) (fun _ _ h => h) (fun x c _ => (x.frame_change c).2.2)
      trivial cs
  have hobject (h : source.givesObject = true) : r.HasEntries ∧
      ∀ key, r.custom.field? key = (lastOf (Change.entry? key) cs).or (m.custom.field? key) := by
    have hm : m.HasEntries := hentries (hgives.trans h)
    refine ⟨changed_ind (fun _ c hx => hx.change c) hm cs, fun key => ?_⟩
    exact field_changed (f := fun x => x.custom.field? key) (fun _ c hx => hx.change c)
      (fun _ c hx => hx.field?_change c key) hm cs
  have hother (h : source.givesObject = false) : r.custom = m.custom := by
    have hm : m.custom.isObject = false := hgives.trans h
    refine changed_ind (P := fun x => x.custom = m.custom) (fun x c hx => ?_) rfl cs
    exact (custom_change (hx ▸ hm) c).trans hx
  refine ⟨hframe, hcorrelation, hcausation, hobject, hother, fun hall => ?_, ?_⟩
  · cases h : source.givesObject with
    | true => exact .inl rfl
    | false =>
      refine .inr fun key => ?_
      cases hlast : lastOf (Change.entry? key) cs with
      | none => rfl
      | some value =>
        have hfield := hall key value hlast
        rw [hother h, Json.field?_of_not_isObject (hgives.trans h)] at hfield
        cases hfield
  · rintro (h | hnone) key value hlast
    · rw [(hobject h).2 key, hlast, Option.some_or]
    · rw [hnone key] at hlast
      cases hlast

/-- A value to read metadata from, with some custom metadata in it. -/
def openedJson (custom : Json) : Json :=
  .object [("id", .string "00000000-0000-0000-0000-000000000001"), ("metadata", custom),
    ("name", .string "opened"), ("timestamp", .string "1970-01-01T00:00:00Z")]

theorem ofJson_openedJson {custom : Json}
    (h : Json.decodeAny (Json.maxDepth - 1) custom.toReading = .ok custom) :
    ofJson (openedJson custom) = .ok ⟨⟨1⟩, "opened", ⟨0, 0, 0⟩, none, none, custom⟩ := by
  have hid : Uuid.parse? "00000000-0000-0000-0000-000000000001" = some ⟨1⟩ := by decide +kernel
  have htime : Timestamp.parse? "1970-01-01T00:00:00Z" = some ⟨0, 0, 0⟩ := by decide +kernel
  -- the four fields one by one, each with what its text stands for
  simp [openedJson, ofJson, decode, Json.toReading, Json.entryReadings,
    Json.RecordType.fieldsOf, Json.RecordType.walkEntries, recordType, decodeField, decodeUuid,
    decodeTimestamp, Json.decodeString, hid, htime, h, ofFields, relationIn,
    Directory.lookup_cons_eq, bind, Except.bind, Except.map]

/-- Two entries are given. One of them is replaced twice and a third is added. -/
theorem entries_attached_to_object :
    let source : Source := .value (openedJson (.object [("a", .null), ("b", .bool true)]))
    let cs : List Change := [.entry "b" (.ofNat 1), .correlation ⟨2⟩, .entry "c" .null,
      .entry "b" (.ofNat 2), .correlation ⟨3⟩]
    ∃ m, source.metadata? = .ok m ∧ source.givesObject = true ∧
      (m.changed cs).name = "opened" ∧ (m.changed cs).correlation = some ⟨3⟩ ∧
      (m.changed cs).causation = none ∧
      ["a", "b", "c"].map (m.changed cs).custom.field? =
        [some .null, some (.ofNat 2), some .null] := by
  intro source cs
  let m : Metadata :=
    ⟨⟨1⟩, "opened", ⟨0, 0, 0⟩, none, none, .object [("a", .null), ("b", .bool true)]⟩
  have made : source.metadata? = .ok m := ofJson_openedJson rfl
  have hgives : source.givesObject = true := (source.custom made).1.symm
  obtain ⟨⟨-, hname, -⟩, hcorrelation, hcausation, hobject, -, -⟩ :=
    entries_attached_iff_object made cs
  refine ⟨m, made, hgives, hname, hcorrelation, hcausation, ?_⟩
  simp only [List.map_cons, List.map_nil, (hobject hgives).2]
  rfl

/-- Custom metadata that was read as null takes no entry. -/
theorem entry_not_attached_to_null :
    let source : Source := .value (openedJson .null)
    let cs : List Change := [.entry "added" (.string "v")]
    ∃ m, source.metadata? = .ok m ∧ (m.changed cs).custom = .null ∧
      ¬∀ key value, lastOf (Change.entry? key) cs = some value →
        (m.changed cs).custom.field? key = some value := by
  intro source cs
  have made : source.metadata? =
      .ok ⟨⟨1⟩, "opened", ⟨0, 0, 0⟩, none, none, .null⟩ := ofJson_openedJson rfl
  refine ⟨_, made, rfl, fun hall => ?_⟩
  cases hall "added" (.string "v") rfl

end Source

end EventWiring.Metadata
