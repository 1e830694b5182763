import EventWiring.Source.Token

/-! Writing tokens. The canonical form puts one blank between any two tokens, so
it shows where each token ends. The display form keeps operators together and
puts no blanks inside parentheses and brackets. -/
namespace EventWiring.Source

/-- A text between two brackets, if there are any. -/
def enclosed (d : Delimiter) (inner : String) : String :=
  d.opening ++ inner ++ d.closing

mutual

/-- The canonical words of a token. -/
def Token.words : Token → List String
  | .ident name => [name]
  | .punct mark _ => [mark.toString]
  | .lifetime name => [name]
  | .literal text => [text]
  | .group .invisible inner => wordsAll inner
  | .group d inner => d.opening :: (wordsAll inner ++ [d.closing])

/-- The canonical words of a list of tokens. -/
def wordsAll : List Token → List String
  | [] => []
  | t :: rest => t.words ++ wordsAll rest

end

/-- The canonical text of tokens. -/
def canonical (tokens : List Token) : String :=
  " ".intercalate (wordsAll tokens)

/-- The blank after a token: none after a joint mark and at the end. -/
def gap (t : Token) (rest : List Token) : String :=
  match t, rest with
  | _, [] => ""
  | .punct _ true, _ => ""
  | _, _ => " "

mutual

/-- The display text of a token. -/
def Token.display : Token → String
  | .ident name => name
  | .punct mark _ => mark.toString
  | .lifetime name => name
  | .literal text => text
  | .group .brace [] => enclosed .brace " "
  | .group .brace (t :: rest) => enclosed .brace (" " ++ displayAll (t :: rest) ++ " ")
  | .group d inner => enclosed d (displayAll inner)

/-- The display text of a list of tokens. -/
def displayAll : List Token → String
  | [] => ""
  | t :: rest => t.display ++ gap t rest ++ displayAll rest

end

end EventWiring.Source
