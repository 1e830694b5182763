import EventWiring.Declaration.Basic
import EventWiring.Source.Display
import EventWiring.Text.Quoted

/-! The code that declarations stand for. It builds the model of a type step by
step. -/
namespace EventWiring

open Source

namespace Code

/-! ### Pieces -/

/-- A word. -/
def word (name : String) : List Token := [.ident name]

/-- A string literal. -/
def string (text : String) : List Token := [.literal (Text.stringLiteral text)]

/-- Tokens in parentheses. -/
def paren (inner : List Token) : List Token := [.group .parenthesis inner]

/-- Tokens in braces. -/
def brace (inner : List Token) : List Token := [.group .brace inner]

/-- Names behind colons. -/
def absolute (names : List String) : List Token :=
  names.flatMap fun n => Token.operator "::" ++ word n

/-- A name of the library that runs the code. -/
def library (names : List String) : List Token := absolute ("eventbind" :: names)

/-- A call of a method. -/
def call (name : String) (generics args : List Token) : List Token :=
  Token.operator "." ++ word name ++ generics ++ paren args

/-- Generic arguments behind colons. -/
def turbofish (args : List Token) : List Token :=
  Token.operator "::" ++ Token.operator "<" ++ args ++ Token.operator ">"

/-- A type seen as a trait of the library. -/
def asTrait (type : Ty) (name : String) : List Token :=
  Token.operator "<" ++ type.tokens ++ word "as" ++ library [name] ++ Token.operator ">"

/-- A method by its name. -/
def ownMethod (name : String) : List Token :=
  word "Self" ++ Token.operator "::" ++ word name

/-- Items with commas between them. -/
def listed (items : List (List Token)) : List Token := Marked.join "," false items

/-- An error that the compiler is to report. -/
def compileError (message : String) : List Token :=
  absolute ["core", "compile_error"] ++ Token.operator "!" ++ brace (string message)

end Code

open Code

namespace Declaration

/-- A new declaration of a name. -/
def newMethod (name : String) : List Token :=
  library ["MethodDecl", "new"] ++ paren (string name)

/-- An event of a list. -/
def eventRef (type : Ty) : List Token :=
  library ["EventRef", "from"] ++
    paren (asTrait type "HandlerParam" ++ absolute ["event_type"] ++ paren [])

/-- The list of events of a handler, if it has one. -/
def annotation (handles : List Ty) : List Token :=
  if handles.isEmpty then []
  else
    call "annotated" [] (library ["HandlerAnnotation", "handles"] ++
      paren [.group .bracket (listed (handles.map eventRef))])

/-- The parameter of a function that gets the target. -/
def targetParam : List Token :=
  word "target" ++ Token.operator ":" ++ Token.operator "&" ++ word "Self"

/-- A function that calls a method with its target and perhaps an event. -/
def callback (name : String) (event : Bool) : List Token :=
  let extra := if event then [word "event"] else []
  Token.operator "|" ++ listed (targetParam :: extra) ++ Token.operator "|" ++
    ownMethod name ++ paren (listed (word "target" :: extra))

/-- The code of a method that is no handler. To name the method is to use it, so that
no warning says that it is unused. -/
def plainCode (name : String) (shape : Shape) : List Token :=
  brace (word "let" ++ word "_" ++ Token.operator "=" ++ ownMethod name ++
    Token.operator ";" ++ newMethod name ++
    match shape.written with
    | some t => call "param_opaque" (turbofish t.tokens) []
    | none => [])

/-- The code of a handler. -/
def handlerCode (name : String) (shape : Shape) (handles : List Ty) : List Token :=
  newMethod name ++ annotation handles ++
    match shape with
    | .alone => call "handles_none" [] (callback name false)
    | .event _ elem =>
      call "handles_event" (turbofish (listed [elem.tokens, word "_"])) (callback name true)

/-- The code of a declaration. -/
def code (d : Declaration) : List Token :=
  match d.handles with
  | some handles => handlerCode d.name d.shape handles
  | none => plainCode d.name d.shape

end Declaration

end EventWiring
