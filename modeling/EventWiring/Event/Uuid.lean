/-! Universally unique identifiers: 128 bits, written as hexadecimal digits in
five groups. They are read in any case, with or without hyphens, in braces or
with the prefix of a URN. -/
namespace EventWiring

/-- An identifier of 128 bits. -/
structure Uuid where
  bits : BitVec 128
deriving DecidableEq, Repr

namespace Uuid

/-- The version digit. -/
def version (u : Uuid) : Nat :=
  u.bits.toNat / Nat.pow 2 76 % 16

/-- The identifier given by its 32 hexadecimal digits. -/
def ofDigits (ds : List Nat) : Uuid :=
  ⟨BitVec.ofNat 128 (ds.foldl (fun n d => n * 16 + d) 0)⟩

/-- The value of a hexadecimal digit in either case. -/
def digitValue? (c : Char) : Option Nat :=
  if '0' ≤ c && c ≤ '9' then some (c.toNat - '0'.toNat)
  else if 'a' ≤ c && c ≤ 'f' then some (c.toNat - 'a'.toNat + 10)
  else if 'A' ≤ c && c ≤ 'F' then some (c.toNat - 'A'.toNat + 10)
  else none

/-- Reads 32 digits in a row. -/
def ofSimple? (cs : List Char) : Option Uuid :=
  if cs.length = 32 then (cs.mapM digitValue?).map ofDigits else none

/-- The group lengths of the hyphenated form. -/
def groups : List Nat := [8, 4, 4, 4, 12]

/-- Splits a text into groups of the given lengths with a hyphen between them,
and drops the hyphens. -/
def dropHyphens : List Nat → List Char → Option (List Char)
  | [], cs => if cs.isEmpty then some [] else none
  | [n], cs => if cs.length = n then some cs else none
  | n :: ns, cs =>
    match cs.drop n with
    | '-' :: rest => (dropHyphens ns rest).map (cs.take n ++ ·)
    | _ => none

/-- Reads the hyphenated form. -/
def ofHyphenated? (cs : List Char) : Option Uuid :=
  (dropHyphens groups cs).bind ofSimple?

/-- The prefix of the URN form. -/
def urnPrefix : List Char := "urn:uuid:".toList

/-- Reads any of the four forms. -/
def parse? (text : String) : Option Uuid :=
  let cs := text.toList
  if cs.length = 32 then ofSimple? cs
  else if cs.length = 36 then ofHyphenated? cs
  else if cs.length = 38 && cs.head? = some '{' && cs.getLast? = some '}' then
    ofHyphenated? ((cs.drop 1).take 36)
  else if cs.length = 45 && urnPrefix.isPrefixOf cs then ofHyphenated? (cs.drop 9)
  else none

/-- The 32 lower-case digits. -/
def digits (u : Uuid) : List Char :=
  let ds := Nat.toDigits 16 u.bits.toNat
  List.replicate (32 - ds.length) '0' ++ ds

/-- Puts a hyphen between groups of the given lengths. -/
def addHyphens : List Nat → List Char → List Char
  | [], cs => cs
  | [_], cs => cs
  | n :: ns, cs => cs.take n ++ '-' :: addHyphens ns (cs.drop n)

/-- The hyphenated lower-case form. -/
def text (u : Uuid) : String :=
  String.ofList (addHyphens groups u.digits)

end Uuid

end EventWiring
