import EventWiring.Proofs.Declaration.OptionReader

/-! The grammars of the options of handlers and of blocks: which token streams are accepted,
with what result, and at which option the others are refused. -/
namespace EventWiring

open Source Source.Parser OptionReader

/-! ### Handlers -/

namespace HandlerOptions

/-- The key of the list of events. -/
def handlesKey : OptionKey (Option (List Ty)) where
  name := "handles"
  isName := by decide
  Value := List Ty
  parser := typeList
  given := Option.isSome
  put _ types := some types

/-- The keys of a handler. -/
abbrev keys : List (OptionKey (Option (List Ty))) := [handlesKey]

/-- How the options of a handler are written: nothing, or one list of types in brackets. -/
inductive Written : List Token → List Ty → Prop where
  | nil : Written [] []
  | handles {equals : Token} {inner last : List Token} {types : List Ty}
    (hequals : equals.Writes "=") (htypes : Ty.parser.Listed inner types)
    (hlast : OptionalComma last) :
    Written (.ident "handles" :: equals :: .group .bracket inner :: last) types

end HandlerOptions

/-! ### Blocks -/

namespace BinderOptions

/-- The key of the type of the parent. -/
def extendsKey : OptionKey Found where
  name := "extends"
  isName := by decide
  Value := Ty
  parser := Ty.parser
  given found := found.type.isSome
  put found t := { found with type := some t }

/-- The key of the field that holds the parent. -/
def viaKey : OptionKey Found where
  name := "via"
  isName := by decide
  Value := Member
  parser := member
  given found := found.field.isSome
  put found f := { found with field := some f }

@[simp] theorem extendsKey_name : extendsKey.name = "extends" := rfl

@[simp] theorem viaKey_name : viaKey.name = "via" := rfl

/-- The keys of a block. -/
abbrev keys : List (OptionKey Found) := [extendsKey, viaKey]

/-- How the options of a block are written: nothing, or the type of the parent and its field
in any order. -/
inductive Written : List Token → Option Parent → Prop where
  | nil : Written [] none
  | extendsVia {equals equals' comma : Token} {type field last : List Token} {t : Ty} {f : Member}
    (hequals : equals.Writes "=") (hequals' : equals'.Writes "=") (hcomma : comma.Writes ",")
    (htype : Ty.parser.Reads type (comma :: .ident "via" :: equals' :: (field ++ last)) t)
    (hfield : member.Reads field last f) (hlast : OptionalComma last) :
    Written (.ident "extends" :: equals :: (type ++
      comma :: .ident "via" :: equals' :: (field ++ last))) (some ⟨t, f⟩)
  | viaExtends {equals equals' comma : Token} {type field last : List Token} {t : Ty} {f : Member}
    (hequals : equals.Writes "=") (hequals' : equals'.Writes "=") (hcomma : comma.Writes ",")
    (hfield : member.Reads field (comma :: .ident "extends" :: equals' :: (type ++ last)) f)
    (htype : Ty.parser.Reads type last t) (hlast : OptionalComma last) :
    Written (.ident "via" :: equals :: (field ++
      comma :: .ident "extends" :: equals' :: (type ++ last))) (some ⟨t, f⟩)

theorem written_iff_of_type {t : Ty} {ts : List Token} {found : Found} :
    OptionReader.Written keys ⟨some t, none⟩ ts [] found ↔
      ts = [] ∧ found = ⟨some t, none⟩ ∨
      ∃ equals written last f, ts = .ident "via" :: equals :: (written ++ last) ∧
        found = ⟨some t, some f⟩ ∧ equals.Writes "=" ∧ member.Reads written last f ∧
        OptionalComma last := by
  apply written_iff_of_one_left (k := viaKey)
  · rfl
  · rfl
  · simp [extendsKey]
  · simp [extendsKey, viaKey]

theorem written_iff_of_field {f : Member} {ts : List Token} {found : Found} :
    OptionReader.Written keys ⟨none, some f⟩ ts [] found ↔
      ts = [] ∧ found = ⟨none, some f⟩ ∨
      ∃ equals written last t, ts = .ident "extends" :: equals :: (written ++ last) ∧
        found = ⟨some t, some f⟩ ∧ equals.Writes "=" ∧ Ty.parser.Reads written last t ∧
        OptionalComma last := by
  apply written_iff_of_one_left (k := extendsKey)
  · rfl
  · rfl
  · simp [viaKey]
  · simp [extendsKey, viaKey]

theorem Written.options {ts : List Token} {parent : Option Parent} (h : Written ts parent) :
    OptionReader.Written keys ⟨none, none⟩ ts [] ⟨parent.map (·.type), parent.map (·.field)⟩ := by
  cases h with
  | nil => exact .nil _ _
  | extendsVia hequals hequals' hcomma htype hfield hlast =>
    apply OptionReader.Written.cons_comma (k := extendsKey) rfl rfl hequals htype hcomma
    exact written_iff_of_type.mpr (.inr ⟨_, _, _, _, rfl, rfl, hequals', hfield, hlast⟩)
  | viaExtends hequals hequals' hcomma hfield htype hlast =>
    apply OptionReader.Written.cons_comma (k := viaKey) rfl rfl hequals hfield hcomma
    exact written_iff_of_field.mpr (.inr ⟨_, _, _, _, rfl, rfl, hequals', htype, hlast⟩)

end BinderOptions

/-! ### Both -/

end EventWiring
