import EventWiring.Directory
import EventWiring.Json.Decode
import Mathlib.Data.List.Basic

/-! The entries of objects. An object that is built or read lists its entries by ascending
key, each key once, and a key that is filed again replaces its value. A record that decodes
has each field from one place of the reading: from under its name in an object, from its
position in an array. -/
namespace EventWiring.Json

/-! ### Filing under keys -/

/-- Entries by ascending key, each key once. -/
def Ascending (entries : List (String × Json)) : Prop :=
  entries.Pairwise (·.1 < ·.1)

theorem find?_put (key : String) (value : Json) (entries : List (String × Json))
    (asked : String) :
    find? asked (put key value entries) = if asked = key then some value else find? asked entries := by
  unfold find?
  induction entries with
  | nil => exact Directory.lookup_cons_eq ..
  | cons e rest ih =>
    obtain ⟨k, v⟩ := e
    rw [put]
    split
    · exact Directory.lookup_cons_eq ..
    · split
      · rename_i heq
        simp only [Directory.lookup_cons_eq, heq]
        split <;> rfl
      · rename_i hne
        simp only [Directory.lookup_cons_eq, ih]
        by_cases hk : asked = k
        · rw [if_pos hk, if_pos hk, if_neg fun h => hne (h.symm.trans hk)]
        · rw [if_neg hk, if_neg hk]

theorem mem_put {key : String} {value : Json} {entries : List (String × Json)}
    {e : String × Json} (h : e ∈ put key value entries) : e = (key, value) ∨ e ∈ entries := by
  induction entries with
  | nil => exact .inl (List.mem_singleton.mp h)
  | cons e' rest ih =>
    rw [put] at h
    split at h
    · exact List.mem_cons.mp h
    · split at h
      · exact (List.mem_cons.mp h).imp_right (List.mem_cons_of_mem _)
      · rcases List.mem_cons.mp h with rfl | h
        · exact .inr List.mem_cons_self
        · exact (ih h).imp_right (List.mem_cons_of_mem _)

theorem Ascending.put {entries : List (String × Json)} (h : Ascending entries) (key : String)
    (value : Json) : Ascending (put key value entries) := by
  induction entries with
  | nil => exact List.pairwise_singleton ..
  | cons e rest ih =>
    obtain ⟨k, v⟩ := e
    obtain ⟨hbelow, hrest⟩ := List.pairwise_cons.mp h
    rw [Json.put]
    split
    · rename_i hlt
      refine List.pairwise_cons.mpr ⟨fun e he => ?_, h⟩
      rcases List.mem_cons.mp he with rfl | he
      · exact hlt
      · exact String.lt_trans hlt (hbelow e he)
    · rename_i hge
      split
      · rename_i heq
        subst heq
        exact List.pairwise_cons.mpr ⟨hbelow, hrest⟩
      · rename_i hne
        refine List.pairwise_cons.mpr ⟨fun e he => ?_, ih hrest⟩
        rcases mem_put he with rfl | he
        · exact Std.lt_of_le_of_ne (String.not_lt.mp hge) (Ne.symm hne)
        · exact hbelow e he

theorem ascending_foldl_put {entries : List (String × Json)} (h : Ascending entries)
    (more : List (String × Json)) :
    Ascending (more.foldl (fun acc e => Json.put e.1 e.2 acc) entries) := by
  induction more generalizing entries with
  | nil => exact h
  | cons e more ih => exact ih (h.put e.1 e.2)

/-! ### Objects -/

/-- Whether a value is an object. -/
def isObject : Json → Bool
  | .object _ => true
  | _ => false

theorem field?_of_not_isObject {v : Json} (h : v.isObject = false) (key : String) :
    v.field? key = none := by
  cases v with
  | object => cases h
  | _ => rfl

/-- Whether a reading is of an object, closed or not. -/
def Reading.isObject : Reading → Bool
  | .object _ _ => true
  | _ => false

/-- An object is read from an object, and nothing else is. -/
theorem Reading.isObject_of_toJson? {r : Reading} {depth : Nat} {v : Json}
    (h : r.toJson? depth = some v) : v.isObject = r.isObject := by
  unfold Reading.toJson? at h
  split at h
  case h_5 items =>
    cases depth with
    | zero => cases h
    | succ d =>
      obtain ⟨vs, -, rfl⟩ := Option.map_eq_some_iff.mp h
      rfl
  case h_6 entries =>
    cases depth with
    | zero => cases h
    | succ d =>
      obtain ⟨es, -, rfl⟩ := Option.map_eq_some_iff.mp h
      rfl
  all_goals cases h; try rfl

/-- However an object is written, its entries are read by ascending key. -/
theorem Reading.ascending_of_toJson? {r : Reading} {depth : Nat} {entries : List (String × Json)}
    (h : r.toJson? depth = some (.object entries)) : Ascending entries := by
  have hr : r.isObject = true := (Reading.isObject_of_toJson? h).symm
  cases r with
  | object es closed =>
    cases closed <;> cases depth <;> try cases h
    obtain ⟨vs, -, hvs⟩ := Option.map_eq_some_iff.mp h
    cases hvs
    exact ascending_foldl_put .nil vs
  | _ => cases hr

/-! ### Fields of records -/

namespace RecordType

variable {α : Type} (t : RecordType α)

/-- The reading that a field is decoded from. -/
def fieldIn (name : String) : Reading → Option Reading
  | .object entries _ => entries.lookup name
  | .array items _ => (t.fields.zip items).lookup name
  | _ => none

/-- A walk over named readings. It decodes each, or skips it as none of the fields, and keeps
what it has found. -/
inductive Walks : List (String × α) → List (String × Reading) → List (String × α) → Prop where
  | nil (done : List (String × α)) : Walks done [] done
  | decode {done found : List (String × α)} {name : String} {r : Reading} {v : α}
    {rest : List (String × Reading)} (decoded : t.decode name r = .ok v)
    (walks : Walks (done ++ [(name, v)]) rest found) : Walks done ((name, r) :: rest) found
  | skip {done found : List (String × α)} {name : String} {r : Reading}
    {rest : List (String × Reading)} (unknown : name ∉ t.fields) (walks : Walks done rest found) :
    Walks done ((name, r) :: rest) found

variable {t} {closed : Bool} {done found : List (String × α)} {name : String} {v : α}

theorem walks_of_walkEntries {entries : List (String × Reading)}
    (h : t.walkEntries closed done entries = .ok found) : t.Walks done entries found := by
  induction entries generalizing done with
  | nil =>
    rw [walkEntries] at h
    split at h <;> cases h
    exact .nil _
  | cons e rest ih =>
    obtain ⟨key, r⟩ := e
    rw [walkEntries] at h
    split at h
    · split at h
      · cases h
      · cases hr : t.decode key r with
        | error e =>
          rw [hr] at h
          cases h
        | ok v =>
          rw [hr] at h
          exact .decode hr (ih h)
    · rename_i hunknown
      split at h
      · exact .skip hunknown (ih h)
      · cases h

theorem walks_of_walkItems {origin : Origin} {length : Nat} {names : List String}
    {items : List Reading} (h : t.walkItems origin closed length names items done = .ok found) :
    t.Walks done (names.zip items) found := by
  induction names generalizing items done with
  | nil =>
    cases origin <;> rw [walkItems] at h <;> split at h <;> cases h <;> exact .nil _
  | cons f fs ih =>
    cases items with
    | nil =>
      rw [walkItems] at h
      split at h
      · cases h
      · split at h <;> cases h
        exact .nil _
    | cons r rest =>
      rw [walkItems] at h
      cases hr : t.decode f r with
      | error e =>
        rw [hr] at h
        cases h
      | ok v =>
        rw [hr] at h
        exact .decode hr (ih h)

/-- What a walk has found stays. -/
theorem Walks.lookup_done {pairs : List (String × Reading)} (h : t.Walks done pairs found)
    (hdone : done.lookup name = some v) : found.lookup name = some v := by
  induction h with
  | nil => exact hdone
  | decode _ _ ih =>
    refine ih ?_
    rw [List.lookup_append, hdone, Option.some_or]
  | skip _ _ ih => exact ih hdone

/-- What a walk finds, it has decoded from the first reading of the name. -/
theorem Walks.lookup {pairs : List (String × Reading)} (h : t.Walks done pairs found)
    (known : name ∈ t.fields) (hdone : done.lookup name = none)
    (hv : found.lookup name = some v) :
    ∃ r, pairs.lookup name = some r ∧ t.decode name r = .ok v := by
  induction h with
  | nil =>
    rw [hdone] at hv
    cases hv
  | @decode done found key r w rest decoded walks ih =>
    rw [Directory.lookup_cons_eq]
    by_cases hkey : name = key
    · subst hkey
      have hnew : (done ++ [(name, w)]).lookup name = some w := by
        simp [List.lookup_append, hdone]
      obtain rfl := Option.some.inj ((walks.lookup_done hnew).symm.trans hv)
      exact ⟨r, if_pos rfl, decoded⟩
    · rw [if_neg hkey]
      refine ih ?_ hv
      rw [List.lookup_append, hdone, Directory.lookup_cons_eq, if_neg hkey]
      rfl
  | @skip done found key r rest unknown walks ih =>
    rw [Directory.lookup_cons_eq, if_neg fun hkey : name = key => unknown (hkey ▸ known)]
    exact ih hdone hv

/-- A record that decodes has decoded each of its fields from the reading of that field. -/
theorem decode_of_fieldsOf {origin : Origin} {r : Reading} (h : t.fieldsOf origin r = .ok found)
    (known : name ∈ t.fields) (hv : found.lookup name = some v) :
    ∃ r', t.fieldIn name r = some r' ∧ t.decode name r' = .ok v := by
  cases r with
  | object entries closed => exact (walks_of_walkEntries h).lookup known rfl hv
  | array items closed => exact (walks_of_walkItems h).lookup known rfl hv
  | _ => cases h

end RecordType

end EventWiring.Json
