/-! Directories file values under names. Each name has one value; names stand in
the order in which they were first given. -/
namespace EventWiring

/-- Values by name. -/
structure Directory (V : Type) where
  entries : List (String × V)

namespace Directory

variable {V : Type}

/-- The directory without values. -/
def empty : Directory V := ⟨[]⟩

/-- The value of a name. -/
def find? (d : Directory V) (name : String) : Option V :=
  d.entries.lookup name

/-- The entries with a value filed under a name: it replaces the value the name
had, or comes last. -/
def putIn (name : String) (v : V) : List (String × V) → List (String × V)
  | [] => [(name, v)]
  | (n, w) :: rest => if n = name then (n, v) :: rest else (n, w) :: putIn name v rest

/-- Files a value under a name. -/
def put (d : Directory V) (name : String) (v : V) : Directory V :=
  ⟨putIn name v d.entries⟩

/-- Drops a name with its value. -/
def erase (d : Directory V) (name : String) : Directory V :=
  ⟨d.entries.filter fun e => e.1 ≠ name⟩

/-- The values, in the order of their names. -/
def values (d : Directory V) : List V := d.entries.map (·.2)

/-- The number of names. -/
def size (d : Directory V) : Nat := d.entries.length

/-- The directory of a list of named values; of several values of one name the
last counts. -/
def ofList (entries : List (String × V)) : Directory V :=
  entries.foldl (fun d e => d.put e.1 e.2) empty

theorem lookup_cons_eq (n : String) (w : V) (rest : List (String × V)) (asked : String) :
    List.lookup asked ((n, w) :: rest) = if asked = n then some w else rest.lookup asked := by
  by_cases h : asked = n
  · simp [h]
  · simp [List.lookup_cons, beq_false_of_ne h, h]

end Directory

end EventWiring
