import EventWiring.Event.Type
import Mathlib.Data.List.TakeWhile

/-! The bare names of paths. The full name of a type is a path of words, any of which may
have arguments in angle brackets, and which may start with a type that is seen as a trait.
The bare name of a type is cut out of the text of its full name. It is the word in front of
the first arguments, and not always the last word of the path. -/
namespace EventWiring

/-! ### Names -/

/-- A word of a path. No mark of a path is in it. -/
structure PathWord where
  text : String
  nonempty : text ≠ ""
  angle : '<' ∉ text.toList
  colon : ':' ∉ text.toList

mutual

/-- The name of a type. -/
inductive TypeName where
  | path (path : PathName)
  | reference (mutable : Bool) (target : TypeName)
  | pointer (mutable : Bool) (target : TypeName)
  | slice (elem : TypeName)
  | array (elem : TypeName) (length : Nat)
  | tuple (elems : List TypeName)
  | function (params : List TypeName) (output : Option TypeName)
  | traitObject (bounds : List PathName)
  /-- A trait object that is called like a function. -/
  | callable (trait : PathName) (params : List TypeName) (output : Option TypeName)

/-- A path of at least one segment, perhaps behind a type that may be seen as a trait. -/
inductive PathName where
  | plain (first : SegmentName) (rest : List SegmentName)
  | qualified (self : TypeName) (trait : Option PathName) (first : SegmentName)
      (rest : List SegmentName)

/-- A word of a path with its arguments. Without any there are no brackets. -/
inductive SegmentName where
  | mk (word : PathWord) (args : List ArgumentName)

/-- An argument of a path. -/
inductive ArgumentName where
  | type (type : TypeName)
  | item (word : PathWord) (type : TypeName)
  | value (text : String)

end

/-! ### Texts -/

mutual

/-- A type name as it is written. -/
def TypeName.text : TypeName → String
  | .path p => p.text
  | .reference mutable target => (if mutable then "&mut " else "&") ++ target.text
  | .pointer mutable target => (if mutable then "*mut " else "*const ") ++ target.text
  | .slice elem => "[" ++ elem.text ++ "]"
  | .array elem length => "[" ++ elem.text ++ "; " ++ toString length ++ "]"
  | .tuple [elem] => "(" ++ elem.text ++ ",)"
  | .tuple elems => "(" ++ ", ".intercalate (typeTexts elems) ++ ")"
  | .function params output =>
    "fn(" ++ ", ".intercalate (typeTexts params) ++ ")" ++ outputText output
  | .traitObject bounds => "dyn " ++ " + ".intercalate (pathTexts bounds)
  | .callable trait params output =>
    "dyn " ++ trait.text ++ "(" ++ ", ".intercalate (typeTexts params) ++ ")" ++ outputText output

/-- Type names, one by one. -/
def typeTexts : List TypeName → List String
  | [] => []
  | t :: rest => t.text :: typeTexts rest

/-- What a function gives, with its arrow. -/
def outputText : Option TypeName → String
  | none => ""
  | some t => " -> " ++ t.text

/-- A path as it is written. -/
def PathName.text : PathName → String
  | .plain first rest => first.text ++ segmentsText rest
  | .qualified self trait first rest =>
    "<" ++ self.text ++ traitText trait ++ ">::" ++ first.text ++ segmentsText rest

/-- Paths, one by one. -/
def pathTexts : List PathName → List String
  | [] => []
  | p :: rest => p.text :: pathTexts rest

/-- The trait that a type is seen as. -/
def traitText : Option PathName → String
  | none => ""
  | some p => " as " ++ p.text

/-- Segments behind another one, each with its colons. -/
def segmentsText : List SegmentName → String
  | [] => ""
  | s :: rest => "::" ++ s.text ++ segmentsText rest

/-- A segment as it is written. -/
def SegmentName.text : SegmentName → String
  | .mk word [] => word.text
  | .mk word args => word.text ++ "<" ++ ", ".intercalate (argumentTexts args) ++ ">"

/-- Arguments, one by one. -/
def argumentTexts : List ArgumentName → List String
  | [] => []
  | a :: rest => a.text :: argumentTexts rest

/-- An argument as it is written. -/
def ArgumentName.text : ArgumentName → String
  | .type t => t.text
  | .item word t => word.text ++ " = " ++ t.text
  | .value text => text

end

/-! ### Words -/

namespace SegmentName

/-- The word of a segment. -/
def word : SegmentName → PathWord
  | mk w _ => w

/-- The arguments of a segment. -/
def args : SegmentName → List ArgumentName
  | mk _ as => as

/-- The last word of a row of segments. -/
def lastWord : SegmentName → List SegmentName → PathWord
  | s, [] => s.word
  | _, next :: rest => lastWord next rest

/-- The word in front of the first arguments of a row of segments, or the last one. -/
def wordAtArgs : SegmentName → List SegmentName → PathWord
  | s, [] => s.word
  | s, next :: rest => if s.args.isEmpty then wordAtArgs next rest else s.word

end SegmentName

namespace PathName

/-- The bare name of the type that a path leads to. -/
def lastWord : PathName → PathWord
  | plain first rest | qualified _ _ first rest => SegmentName.lastWord first rest

/-- What is cut out of a path as its bare name: nothing behind a qualifying type, and else the
word in front of the first arguments. -/
def cutText : PathName → String
  | plain first rest => (SegmentName.wordAtArgs first rest).text
  | qualified .. => ""

/-- A path with no arguments in front of its last word. -/
inductive ArgsAtEnd : PathName → Prop where
  | intro {first : SegmentName} {rest : List SegmentName}
    (h : ∀ s ∈ (first :: rest).dropLast, s.args = []) : ArgsAtEnd (plain first rest)

end PathName

/-! ### Cutting -/

namespace EventType

theorem untilColons_of_not_mem {cs : List Char} (h : ':' ∉ cs) : untilColons cs = cs := by
  induction cs with
  | nil => rfl
  | cons c cs ih =>
    have hc : c ≠ ':' := fun hc => h (hc ▸ List.mem_cons_self)
    have hrest : ':' ∉ cs := fun hcs => h (List.mem_cons_of_mem c hcs)
    cases cs with
    | nil => rfl
    | cons d cs => simp [untilColons, hc, ih hrest]

theorem untilColons_append {cs : List Char} (h : ':' ∉ cs) (rest : List Char) :
    untilColons (cs ++ ':' :: ':' :: rest) = cs := by
  induction cs with
  | nil => rfl
  | cons c cs ih =>
    have hc : c ≠ ':' := fun hc => h (hc ▸ List.mem_cons_self)
    have hrest : ':' ∉ cs := fun hcs => h (List.mem_cons_of_mem c hcs)
    cases cs with
    | nil => simp [untilColons, hc]
    | cons d cs => simpa [untilColons, hc] using ih hrest

theorem lastSegment_of_not_mem {cs : List Char} (h : ':' ∉ cs) : lastSegment cs = cs := by
  have hreverse : ':' ∉ cs.reverse := by simpa using h
  rw [lastSegment, untilColons_of_not_mem hreverse, List.reverse_reverse]

theorem lastSegment_append {cs : List Char} (h : ':' ∉ cs) (lead : List Char) :
    lastSegment (lead ++ ':' :: ':' :: cs) = cs := by
  have hreverse : ':' ∉ cs.reverse := by simpa using h
  have hcolons : (lead ++ ':' :: ':' :: cs).reverse =
      cs.reverse ++ ':' :: ':' :: lead.reverse := by simp
  rw [lastSegment, hcolons, untilColons_append hreverse, List.reverse_reverse]

theorem beforeAngle_append {cs : List Char} (h : '<' ∉ cs) (rest : List Char) :
    beforeAngle (cs ++ rest) = cs ++ beforeAngle rest := by
  apply List.takeWhile_append_of_pos
  intro c hc
  have hne : c ≠ '<' := fun heq => h (heq ▸ hc)
  simpa using hne

end EventType

open EventType

namespace SegmentName

theorem beforeAngle_of_args {s : SegmentName} (h : s.args ≠ []) (rest : List Char) :
    beforeAngle (s.text.toList ++ rest) = s.word.text.toList := by
  obtain ⟨w, _ | ⟨a, as⟩⟩ := s
  · exact absurd rfl h
  · simp only [text, String.toList_append, List.append_assoc]
    rw [beforeAngle_append w.angle]
    simp [beforeAngle, word]

theorem text_of_no_args {s : SegmentName} (h : s.args = []) : s.text = s.word.text := by
  obtain ⟨w, _ | ⟨a, as⟩⟩ := s
  · rfl
  · cases h

/-- What stands in front of the last word: nothing, or something with colons behind it. -/
inductive Lead : List Char → Prop where
  | nil : Lead []
  | colons (front : List Char) : Lead (front ++ [':', ':'])

theorem Lead.lastSegment {lead : List Char} (h : Lead lead) (w : PathWord) :
    lastSegment (lead ++ w.text.toList) = w.text.toList := by
  cases h with
  | nil => exact lastSegment_of_not_mem w.colon
  | colons front => simpa using lastSegment_append w.colon front

theorem Lead.cons {lead : List Char} (h : Lead lead) (w : PathWord) :
    Lead (w.text.toList ++ ':' :: ':' :: lead) := by
  cases h with
  | nil => exact .colons w.text.toList
  | colons front => simpa using Lead.colons (w.text.toList ++ ':' :: ':' :: front)

theorem wordAtArgs_of_args {s : SegmentName} (h : s.args ≠ []) (rest : List SegmentName) :
    wordAtArgs s rest = s.word := by
  cases rest <;> simp [wordAtArgs, h]

/-- Up to the first angle bracket a row of segments ends with the word in front of it. -/
theorem beforeAngle_segments (s : SegmentName) (rest : List SegmentName) :
    ∃ lead, Lead lead ∧ beforeAngle (s.text ++ segmentsText rest).toList =
      lead ++ (wordAtArgs s rest).text.toList := by
  induction rest generalizing s with
  | nil =>
    refine ⟨[], .nil, ?_⟩
    rw [String.toList_append]
    by_cases hargs : s.args = []
    · rw [text_of_no_args hargs, beforeAngle_append s.word.angle]
      simp [segmentsText, beforeAngle, wordAtArgs]
    · exact beforeAngle_of_args hargs _
  | cons next rest ih =>
    by_cases hargs : s.args = []
    · obtain ⟨lead, hlead, hnext⟩ := ih next
      refine ⟨s.word.text.toList ++ ':' :: ':' :: lead, hlead.cons s.word, ?_⟩
      have hword : wordAtArgs s (next :: rest) = wordAtArgs next rest := by
        simp [wordAtArgs, hargs]
      have hcolons : beforeAngle (segmentsText (next :: rest)).toList =
          ':' :: ':' :: beforeAngle (next.text ++ segmentsText rest).toList := by
        simp [segmentsText, beforeAngle]
      rw [text_of_no_args hargs, String.toList_append, beforeAngle_append s.word.angle, hcolons,
        hnext, hword]
      simp
    · refine ⟨[], .nil, ?_⟩
      rw [String.toList_append, wordAtArgs_of_args hargs]
      exact beforeAngle_of_args hargs _

theorem wordAtArgs_eq_lastWord {s : SegmentName} {rest : List SegmentName}
    (h : ∀ x ∈ (s :: rest).dropLast, x.args = []) : wordAtArgs s rest = lastWord s rest := by
  induction rest generalizing s with
  | nil => rfl
  | cons next rest ih =>
    rw [List.dropLast_cons_cons] at h
    have hargs : s.args = [] := h s List.mem_cons_self
    have hrest : wordAtArgs next rest = lastWord next rest :=
      ih fun x hx => h x (List.mem_cons_of_mem s hx)
    simp [wordAtArgs, lastWord, hargs, hrest]

end SegmentName

namespace PathName

/-- The bare name that is cut out of a path. -/
theorem bareName_text (p : PathName) : bareName p.text = p.cutText := by
  unfold bareName
  cases p with
  | plain first rest =>
    obtain ⟨lead, hlead, hcut⟩ := SegmentName.beforeAngle_segments first rest
    rw [text, hcut, hlead.lastSegment, String.ofList_toList]
    rfl
  | qualified self trait first rest =>
    simp [text, beforeAngle, lastSegment, untilColons, cutText]

theorem bareName_word (w : PathWord) : bareName w.text = w.text := by
  have hangle : beforeAngle w.text.toList = w.text.toList := by
    simpa [beforeAngle] using beforeAngle_append w.angle []
  rw [bareName, hangle, lastSegment_of_not_mem w.colon, String.ofList_toList]

/-- A path that is not cut at its last word has more than that word. -/
theorem text_ne_lastWord {p : PathName} (h : p.cutText ≠ p.lastWord.text) :
    p.text ≠ p.lastWord.text := by
  intro heq
  apply h
  rw [← p.bareName_text, heq, bareName_word]

/-- A path is cut at its last word if only that has arguments. -/
theorem ArgsAtEnd.cutText {p : PathName} (h : p.ArgsAtEnd) : p.cutText = p.lastWord.text := by
  obtain ⟨hargs⟩ := h
  rw [PathName.cutText, SegmentName.wordAtArgs_eq_lastWord hargs]
  rfl

end PathName

end EventWiring
