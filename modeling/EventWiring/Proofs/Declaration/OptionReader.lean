import EventWiring.Declaration.Options
import EventWiring.Proofs.Source.Reading

/-! How options are read. A table of keys says which options there are; the loop over them
has rules that mention neither a parser nor a bound. An option is taken with its comma, and
the first option that is refused for its key ends the loop. -/
namespace EventWiring

open Source Source.Parser

variable {σ : Type}

/-! ### Keys -/

/-- A key of an option: what its value is, and where options that were found keep it. -/
structure OptionKey (σ : Type) where
  name : String
  isName : name ∉ reservedWords
  Value : Type
  parser : Parser Value
  given : σ → Bool
  put : σ → Value → σ

namespace OptionReader

/-- Reads an option whose key is in a table. -/
def byKey (keys : List (OptionKey σ)) (unknown : String → Problem) (found : σ) :
    OptionReader σ := do
  let key ← parsed name
  match keys.find? (key = ·.name) with
  | some k =>
    if k.given found then throw (.duplicateOption key)
    return k.put found (← value k.parser)
  | none => throw (unknown key)

/-! ### One option -/

/-- What stands between the value of an option and what is behind it: a comma, or nothing at
the end. -/
inductive Separates : List Token → List Token → Prop where
  | comma {t : Token} (ht : t.Writes ",") (behind : List Token) : Separates [t] behind
  | ended : Separates [] []

/-- What is written behind a key: an equals sign, a value and a separator. -/
inductive ValueWritten {α : Type} (p : Parser α) : List Token → List Token → α → Prop where
  | intro {equals : Token} {written separator behind : List Token} {a : α}
    (hequals : equals.Writes "=") (hvalue : p.Reads written (separator ++ behind) a)
    (hseparator : Separates separator behind) :
    ValueWritten p (equals :: (written ++ separator)) behind a

/-- An option whose key is in the table and not found yet, and what is found with it. -/
inductive OptionWritten (keys : List (OptionKey σ)) :
    σ → List Token → List Token → σ → Prop where
  | intro {k : OptionKey σ} {found : σ} {written behind : List Token} {a : k.Value}
    (hk : keys.find? (k.name = ·.name) = some k) (hfresh : k.given found = false)
    (hvalue : ValueWritten k.parser written behind a) :
    OptionWritten keys found (.ident k.name :: written) behind (k.put found a)

/-- An option that is refused for its key: the table does not have it, or it was found
before. -/
inductive Refused (keys : List (OptionKey σ)) (unknown : String → Problem) (found : σ) :
    List Token → Problem → Prop where
  | unknown {key : String} {rest : List Token} (hname : key ∉ reservedWords)
    (hkey : keys.find? (key = ·.name) = none) :
    Refused keys unknown found (.ident key :: rest) (unknown key)
  | duplicate {k : OptionKey σ} {rest : List Token}
    (hk : keys.find? (k.name = ·.name) = some k) (hgiven : k.given found = true) :
    Refused keys unknown found (.ident k.name :: rest) (.duplicateOption k.name)

theorem parsed_eq_ok_iff {α : Type} {p : Parser α} {ts rest : List Token} {a : α} :
    parsed p ts = .ok (a, rest) ↔ p.run ts = some (a, rest) := by
  unfold parsed
  split
  · rename_i r hr
    simp [hr]
  · rename_i hr
    simp [hr]

theorem value_eq_ok_iff {α : Type} {p : Parser α} {ts rest : List Token} {a : α} :
    value p ts = .ok (a, rest) ↔
      ∃ written, ts = written ++ rest ∧ ValueWritten p written rest a := by
  rw [value, parsed_eq_ok_iff]
  simp only [run_bind, run_pure, atEnd, ahead, run_remaining, Option.bind_some, run_ite]
  constructor
  · intro h
    obtain ⟨⟨_, more⟩, htext, hmore⟩ := Option.bind_eq_some_iff.mp h
    obtain ⟨⟨a', behind⟩, ha, hbehind⟩ := Option.bind_eq_some_iff.mp hmore
    obtain ⟨equals, hequals, rfl⟩ := exists_equals_run_iff.mp ⟨_, htext⟩
    obtain ⟨written, rfl, hread⟩ := run_eq_some_iff.mp ha
    cases behind with
    | nil =>
      cases hbehind
      exact ⟨_, by simp, .intro hequals hread .ended⟩
    | cons t behind =>
      obtain ⟨⟨_, rest'⟩, htext', hrest⟩ := Option.bind_eq_some_iff.mp hbehind
      obtain ⟨comma, hcomma, hcons⟩ := exists_comma_run_iff.mp ⟨_, htext'⟩
      cases hcons
      cases hrest
      exact ⟨equals :: (written ++ [t]), by simp, .intro hequals hread (.comma hcomma _)⟩
  · rintro ⟨_, rfl, ⟨hequals, hvalue, hseparator⟩⟩
    rename_i equals written separator
    obtain ⟨_, htext⟩ := exists_equals_run_iff.mpr
      ⟨equals, hequals, Eq.refl (equals :: (written ++ (separator ++ rest)))⟩
    rw [Reads] at hvalue
    cases hseparator with
    | comma ht =>
      rename_i t
      obtain ⟨_, hcomma⟩ := exists_comma_run_iff.mpr ⟨t, ht, Eq.refl (t :: rest)⟩
      simp_all
    | ended => simp_all

/-- Reading an option, branch by branch. -/
theorem byKey_eq (keys : List (OptionKey σ)) (unknown : String → Problem) (found : σ)
    (ts : List Token) :
    byKey keys unknown found ts =
      match name.run ts with
      | none => .error (.source .unreadable)
      | some (key, rest) =>
        match keys.find? (key = ·.name) with
        | none => .error (unknown key)
        | some k =>
          if k.given found then .error (.duplicateOption key)
          else (value k.parser rest).map fun (a, more) => (k.put found a, more) := by
  unfold byKey
  change Except.bind (parsed name ts) _ = _
  cases hname : name.run ts with
  | none => simp [parsed, hname, Except.bind]
  | some r =>
    obtain ⟨key, rest⟩ := r
    simp only [parsed, hname, Except.bind]
    cases hk : keys.find? (key = ·.name) with
    | none => rfl
    | some k =>
      by_cases hgiven : k.given found = true
      · simp only [hgiven]
        rfl
      · dsimp only
        rw [if_neg hgiven, if_neg hgiven]
        change Except.bind (value k.parser rest) _ = _
        cases value k.parser rest <;> rfl

theorem byKey_eq_ok_iff {keys : List (OptionKey σ)} {unknown : String → Problem}
    {found found' : σ} {ts rest : List Token} :
    byKey keys unknown found ts = .ok (found', rest) ↔
      ∃ written, ts = written ++ rest ∧ OptionWritten keys found written rest found' := by
  rw [byKey_eq]
  constructor
  · intro h
    split at h
    · cases h
    · rename_i key more hname
      obtain ⟨rfl, hnotReserved⟩ := name_run_eq_some_iff.mp hname
      split at h
      · cases h
      · rename_i k hk
        split at h
        · cases h
        · rename_i hgiven
          obtain rfl : key = k.name := by simpa using List.find?_some hk
          cases hvalue : value k.parser more with
          | error problem =>
            rw [hvalue] at h
            cases h
          | ok r =>
            obtain ⟨a, rest'⟩ := r
            rw [hvalue] at h
            cases h
            obtain ⟨written, rfl, hwritten⟩ := value_eq_ok_iff.mp hvalue
            exact ⟨.ident k.name :: written, rfl,
              .intro hk (Bool.eq_false_iff.mpr hgiven) hwritten⟩
  · rintro ⟨_, rfl, ⟨hk, hfresh, hvalue⟩⟩
    rename_i k written a
    have hname : name.run (.ident k.name :: (written ++ rest)) = some (k.name, written ++ rest) :=
      name_run_eq_some_iff.mpr ⟨rfl, k.isName⟩
    have hread : value k.parser (written ++ rest) = .ok (a, rest) :=
      value_eq_ok_iff.mpr ⟨written, rfl, hvalue⟩
    simp [hname, hk, hfresh, hread, Except.map]

/-- Reading options one by one, as long as tokens are left. -/
inductive Loop (option : σ → OptionReader σ) : σ → List Token → Except Problem σ → Prop where
  | ended (found : σ) : Loop option found [] (.ok found)
  | failed {found : σ} {ts : List Token} {problem : Problem} (hne : ts ≠ [])
    (hfailed : option found ts = .error problem) : Loop option found ts (.error problem)
  | again {found found' : σ} {ts rest : List Token} {outcome : Except Problem σ}
    (hne : ts ≠ []) (htaken : option found ts = .ok (found', rest))
    (hrest : Loop option found' rest outcome) : Loop option found ts outcome

theorem Loop.unique {option : σ → OptionReader σ} {found : σ} {ts : List Token}
    {o o' : Except Problem σ} (h : Loop option found ts o) (h' : Loop option found ts o') :
    o = o' := by
  induction h with
  | ended =>
    cases h' with
    | ended => rfl
    | failed hne => exact absurd rfl hne
    | again hne => exact absurd rfl hne
  | failed hne hfailed =>
    cases h' with
    | ended => exact absurd rfl hne
    | failed _ hfailed' =>
      rw [hfailed] at hfailed'
      cases hfailed'
      rfl
    | again _ htaken =>
      rw [hfailed] at htaken
      cases htaken
  | again hne htaken _ ih =>
    cases h' with
    | ended => exact absurd rfl hne
    | failed _ hfailed =>
      rw [htaken] at hfailed
      cases hfailed
    | again _ htaken' hrest =>
      rw [htaken] at htaken'
      cases htaken'
      exact ih hrest

section ByKey

variable {keys : List (OptionKey σ)} {unknown : String → Problem}

theorem length_lt_of_byKey {found found' : σ} {ts rest : List Token}
    (h : byKey keys unknown found ts = .ok (found', rest)) : rest.length < ts.length := by
  obtain ⟨_, rfl, ⟨_, _, _⟩⟩ := byKey_eq_ok_iff.mp h
  simp only [List.length_append, List.length_cons]
  omega

end ByKey

/-! ### Options in a row -/

/-- Options in a row, and what is found with them. -/
inductive Written (keys : List (OptionKey σ)) : σ → List Token → List Token → σ → Prop where
  | nil (found : σ) (behind : List Token) : Written keys found [] behind found
  | cons {found found' found'' : σ} {written rest behind : List Token}
    (hoption : OptionWritten keys found written (rest ++ behind) found')
    (hrest : Written keys found' rest behind found'') :
    Written keys found (written ++ rest) behind found''

section ByKey

variable {keys : List (OptionKey σ)} {unknown : String → Problem}

theorem Written.loop {found found' : σ} {written behind : List Token}
    {outcome : Except Problem σ} (h : Written keys found written behind found')
    (hbehind : Loop (byKey keys unknown) found' behind outcome) :
    Loop (byKey keys unknown) found (written ++ behind) outcome := by
  induction h with
  | nil => exact hbehind
  | @cons found found' found'' written rest behind hoption _ ih =>
    have htaken : byKey keys unknown found (written ++ (rest ++ behind)) =
        .ok (found', rest ++ behind) := byKey_eq_ok_iff.mpr ⟨written, rfl, hoption⟩
    have hne : written ++ (rest ++ behind) ≠ [] :=
      List.ne_nil_of_length_pos (Nat.zero_lt_of_lt (length_lt_of_byKey htaken))
    rw [List.append_assoc]
    exact .again hne htaken (ih hbehind)

end ByKey

theorem Written.cons_comma {keys : List (OptionKey σ)} {k : OptionKey σ} {found found' : σ}
    {equals comma : Token} {written rest : List Token} {a : k.Value}
    (hk : keys.find? (k.name = ·.name) = some k) (hfresh : k.given found = false)
    (hequals : equals.Writes "=") (hread : k.parser.Reads written (comma :: rest) a)
    (hcomma : comma.Writes ",") (hrest : Written keys (k.put found a) rest [] found') :
    Written keys found (.ident k.name :: equals :: (written ++ comma :: rest)) [] found' := by
  have hvalue : ValueWritten k.parser (equals :: (written ++ [comma])) rest a :=
    .intro hequals hread (.comma hcomma rest)
  have hoption : OptionWritten keys found (.ident k.name :: equals :: (written ++ [comma])) rest
      (k.put found a) := .intro hk hfresh hvalue
  rw [← List.append_nil rest] at hoption
  simpa using Written.cons hoption hrest

/-! ### The first option at fault -/

section ByKey

variable {keys : List (OptionKey σ)} {unknown : String → Problem}
  (hunknown : ∀ key key', unknown key ≠ .duplicateOption key')
include hunknown

end ByKey

/-! ### The last option -/

theorem separates_nil_iff {separator : List Token} :
    Separates separator [] ↔ OptionalComma separator := by
  constructor
  · rintro (⟨ht, -⟩ | -)
    · exact .comma ht
    · exact .none
  · rintro (- | ht)
    · exact .ended
    · exact .comma ht []

theorem written_of_all_given {keys : List (OptionKey σ)} {found found' : σ}
    {written behind : List Token} (hall : ∀ k ∈ keys, k.given found = true)
    (h : Written keys found written behind found') : written = [] ∧ found' = found := by
  cases h with
  | nil => exact ⟨rfl, rfl⟩
  | cons hoption _ =>
    obtain ⟨hk, hfresh, -⟩ := hoption
    rw [hall _ (List.mem_of_find?_eq_some hk)] at hfresh
    cases hfresh

/-- Where one key is left that is not found yet, its option is the last one. -/
theorem written_iff_of_one_left {keys : List (OptionKey σ)} {k : OptionKey σ} {found : σ}
    (hk : keys.find? (k.name = ·.name) = some k) (hfresh : k.given found = false)
    (honly : ∀ l ∈ keys, l.given found = false → l = k)
    (hall : ∀ a, ∀ l ∈ keys, l.given (k.put found a) = true) {ts : List Token} {found' : σ} :
    Written keys found ts [] found' ↔
      ts = [] ∧ found' = found ∨
      ∃ equals written last a, ts = .ident k.name :: equals :: (written ++ last) ∧
        found' = k.put found a ∧ equals.Writes "=" ∧ k.parser.Reads written last a ∧
        OptionalComma last := by
  constructor
  · intro h
    cases h with
    | nil => exact .inl ⟨rfl, rfl⟩
    | @cons _ _ _ written rest _ hoption hrest =>
      obtain ⟨hl, hfreshl, hvalue⟩ := hoption
      obtain rfl := honly _ (List.mem_of_find?_eq_some hl) hfreshl
      obtain ⟨rfl, rfl⟩ := written_of_all_given (hall _) hrest
      obtain ⟨hequals, hread, hseparator⟩ := hvalue
      simp only [List.append_nil] at hread hseparator
      exact .inr ⟨_, _, _, _, by simp, rfl, hequals, hread, separates_nil_iff.mp hseparator⟩
  · rintro (⟨rfl, rfl⟩ | ⟨equals, written, last, a, rfl, rfl, hequals, hread, hlast⟩)
    · exact .nil found' []
    · rw [← List.append_nil last] at hread
      have hvalue : ValueWritten k.parser (equals :: (written ++ last)) [] a :=
        .intro hequals hread (separates_nil_iff.mpr hlast)
      have hoption : OptionWritten keys found (.ident k.name :: equals :: (written ++ last)) []
          (k.put found a) := .intro hk hfresh hvalue
      rw [← List.append_nil (Token.ident k.name :: equals :: (written ++ last))]
      exact .cons hoption (.nil _ _)

end OptionReader

end EventWiring
