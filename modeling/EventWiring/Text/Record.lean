import EventWiring.Text.Quoted

/-! The inspection text of structured values: a name with its fields in braces,
a list in brackets, an optional value with its case spelled out. -/
namespace EventWiring.Text

/-- A list of texts in brackets. -/
def bracketed (items : List String) : String :=
  "[" ++ ", ".intercalate items ++ "]"

/-- A name followed by its fields in braces, each with its own name. -/
def record (name : String) (fields : List (String × String)) : String :=
  name ++ " \x7b " ++ ", ".intercalate (fields.map fun f => f.1 ++ ": " ++ f.2) ++ " \x7d"

/-- A name followed by one value in parentheses. -/
def tagged (name value : String) : String :=
  name ++ "(" ++ value ++ ")"

/-- An optional value with its case spelled out. -/
def optional : Option String → String
  | none => "None"
  | some value => tagged "Some" value

/-- The name of a truth value. -/
def boolean (b : Bool) : String :=
  if b then "true" else "false"

end EventWiring.Text
