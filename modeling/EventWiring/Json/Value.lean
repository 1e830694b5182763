import EventWiring.Json.Decimal

/-! JSON values. Whole numbers in the range of 64-bit words stay exact; any
other number is a double, kept as its bits so that equal values are equal terms.
An object lists its entries by ascending key, each key once. -/
namespace EventWiring

/-- A JSON number. -/
inductive Json.Number where
  | whole (n : Int)
  | real (bits : UInt64)
deriving DecidableEq, Repr

/-- A JSON value. -/
inductive Json where
  | null
  | bool (b : Bool)
  | number (n : Json.Number)
  | string (s : String)
  | array (items : List Json)
  | object (entries : List (String × Json))
deriving Repr, Inhabited

namespace Json

/-- Files a value under a key: it replaces the value the key had, or takes the
key's place in ascending order. -/
def put (key : String) (value : Json) : List (String × Json) → List (String × Json)
  | [] => [(key, value)]
  | (k, v) :: rest =>
    if key < k then (key, value) :: (k, v) :: rest
    else if key = k then (key, value) :: rest
    else (k, v) :: put key value rest

/-- The object holding each key with the last value given for it. -/
def ofEntries (entries : List (String × Json)) : Json :=
  .object (entries.foldl (fun acc e => put e.1 e.2 acc) [])

/-- The value an entry list holds for a key. -/
def find? (key : String) (entries : List (String × Json)) : Option Json :=
  entries.lookup key

/-- The entry of an object, none for any other value. -/
def field? (key : String) : Json → Option Json
  | .object entries => find? key entries
  | _ => none

/-- A number between the bounds of 64-bit words. -/
def ofNat (n : Nat) : Json := .number (.whole n)

end Json

end EventWiring
