import EventWiring.Source.Parser
import Mathlib.Data.List.Basic
import Mathlib.Tactic.Tauto

/-! What parsers accept. A parser reads some tokens with others behind them, which it
leaves but may look at. Here it is said what names, marks, brackets and lists with commas
are to a parser, without a run of one. -/
namespace EventWiring.Source

/-- A token that writes a text: a word, or a mark. -/
inductive Token.Writes : String → Token → Prop where
  | word (name : String) : Writes name (.ident name)
  | mark (c : Char) (joint : Bool) : Writes (String.singleton c) (.punct c joint)

theorem Token.writes_singleton_iff {c : Char} {t : Token} :
    t.Writes (String.singleton c) ↔
      t = .ident (String.singleton c) ∨ ∃ joint, t = .punct c joint := by
  constructor
  · intro h
    generalize hs : String.singleton c = s at h
    cases h with
    | word => exact .inl rfl
    | mark d joint =>
      have hcd : c = d := by simpa using hs
      exact .inr ⟨joint, by rw [hcd]⟩
  · rintro (rfl | ⟨joint, rfl⟩)
    · exact .word _
    · exact .mark c joint

/-- Perhaps a comma, and nothing else. -/
inductive OptionalComma : List Token → Prop where
  | none : OptionalComma []
  | comma {t : Token} (ht : t.Writes ",") : OptionalComma [t]

namespace Parser

variable {α : Type}

/-! ### Reading -/

/-- A parser takes the tokens `written` from in front of `behind` and gives a value. -/
def Reads (p : Parser α) (written behind : List Token) (a : α) : Prop :=
  p.run (written ++ behind) = some (a, behind)

theorem run_eq_some_iff {p : Parser α} {ts rest : List Token} {a : α} :
    p.run ts = some (a, rest) ↔ ∃ written, ts = written ++ rest ∧ p.Reads written rest a := by
  constructor
  · intro h
    obtain ⟨written, rfl⟩ := p.leaves h
    exact ⟨written, rfl, h⟩
  · rintro ⟨written, rfl, h⟩
    exact h

/-! ### Single tokens -/

/-- What a name is. -/
theorem name_run_eq_some_iff {n : String} {ts rest : List Token} :
    name.run ts = some (n, rest) ↔ ts = .ident n :: rest ∧ n ∉ reservedWords := by
  match ts with
  | .ident m :: more =>
    by_cases hm : m ∈ reservedWords
    · simp only [name, run_bind, run_remaining, Option.bind_some, if_pos hm, run_failure,
        Option.bind_none, reduceCtorEq, List.cons.injEq, Token.ident.injEq, false_iff]
      rintro ⟨⟨rfl, -⟩, hn⟩
      exact hn hm
    · simp only [name, run_bind, run_remaining, Option.bind_some, if_neg hm, run_pure, run_skip,
        List.drop_succ_cons, List.drop_zero, Option.some.injEq, Prod.mk.injEq, List.cons.injEq,
        Token.ident.injEq]
      constructor
      · rintro ⟨rfl, rfl⟩
        exact ⟨⟨rfl, rfl⟩, hm⟩
      · exact And.left
  | [] => simp [name]
  | .punct .. :: _ | .lifetime _ :: _ | .literal _ :: _ | .group .. :: _ => simp [name]

section Mark

-- A mark that is neither a letter or a digit nor an opening bracket.
variable {c : Char} (hword : c.isAlphanum = false)
  (hbracket : ∀ d : Delimiter, String.singleton c ≠ d.opening)
include hword hbracket

theorem text_run_punct (d : Char) (joint : Bool) (rest : List Token) :
    (text (String.singleton c)).run (.punct d joint :: rest) =
      if c = d then some (Token.operator (String.singleton c), rest) else none := by
  by_cases hcd : c = d
  · subst hcd
    have hparenthesis : '(' ≠ c := fun h => hbracket .parenthesis (congrArg String.singleton h.symm)
    have hsquare : '[' ≠ c := fun h => hbracket .bracket (congrArg String.singleton h.symm)
    have hbrace : '\x7b' ≠ c := fun h => hbracket .brace (congrArg String.singleton h.symm)
    simp [text, atText, atAny, atMarks, hword, hparenthesis, hsquare, hbrace]
  · simp [text, atText, atMarks, hcd]

/-- What a mark is. -/
theorem exists_text_run_iff {ts rest : List Token} :
    (∃ a, (text (String.singleton c)).run ts = some (a, rest)) ↔
      ∃ t : Token, t.Writes (String.singleton c) ∧ ts = t :: rest := by
  simp only [Token.writes_singleton_iff]
  match ts with
  | .ident m :: more =>
    by_cases hm : m = String.singleton c
    · simp [text, hm]
    · simp [text, hm]
  | .punct d joint :: more =>
    rw [text_run_punct hword hbracket]
    by_cases hcd : c = d
    · subst hcd
      simp
    · have hdc : d ≠ c := fun h => hcd h.symm
      simp [hcd, hdc]
  | .group d inner :: more => simp [text, atText, hbracket]
  | [] => simp [text, atText]
  | .lifetime _ :: _ | .literal _ :: _ => simp [text, atText, atMarks]

end Mark

theorem exists_comma_run_iff {ts rest : List Token} :
    (∃ a, (text ",").run ts = some (a, rest)) ↔ ∃ t : Token, t.Writes "," ∧ ts = t :: rest :=
  exists_text_run_iff (c := ',') (by decide) (by rintro ⟨⟩ <;> decide)

theorem exists_equals_run_iff {ts rest : List Token} :
    (∃ a, (text "=").run ts = some (a, rest)) ↔ ∃ t : Token, t.Writes "=" ∧ ts = t :: rest :=
  exists_text_run_iff (c := '=') (by decide) (by rintro ⟨⟩ <;> decide)

/-! ### Brackets and lists -/

/-- Items with a comma between any two and perhaps one behind the last. -/
inductive Listed (p : Parser α) : List Token → List α → Prop where
  | nil : Listed p [] []
  | last {written : List Token} {a : α} (hne : written ≠ []) (ha : p.Reads written [] a) :
    Listed p written [a]
  | cons {written rest : List Token} {comma : Token} {a : α} {as : List α}
    (ha : p.Reads written (comma :: rest) a) (hcomma : comma.Writes ",")
    (hrest : Listed p rest as) : Listed p (written ++ comma :: rest) (a :: as)

end Parser

end EventWiring.Source
