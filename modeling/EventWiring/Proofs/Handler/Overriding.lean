import EventWiring.Handler.Resolution
import EventWiring.Proofs.Handler.Inheritance

/-! What overriding leaves of a chain of declarations: of each signature the
declaration that comes first, where it stood. A declaration with a signature that
was declared before it is hidden, and whatever is done to hidden ones, the model
resolves to the same. -/
namespace EventWiring

variable {T A : Type}

/-! ### Walking the declarations -/

/-- Only which signatures were seen counts. -/
theorem firstBySignature_congr {seen seen' : List MethodSignature}
    (h : ∀ s, s ∈ seen ↔ s ∈ seen') (ds : List (MethodDecl T A)) :
    firstBySignature seen ds = firstBySignature seen' ds := by
  induction ds generalizing seen seen' with
  | nil => rfl
  | cons d rest ih =>
    have hcons : ∀ s, s ∈ d.signature :: seen ↔ s ∈ d.signature :: seen' := by
      intro s
      rw [List.mem_cons, List.mem_cons, h]
    simp only [firstBySignature, h, ih h, ih hcons]

/-- Changing methods in a way that keeps their signatures changes only those that are
left. -/
theorem firstBySignature_map {C : Type} {f : MethodDecl T A → MethodDecl C A}
    (same : ∀ d, (f d).signature = d.signature) (seen : List MethodSignature)
    (ds : List (MethodDecl T A)) :
    firstBySignature seen (ds.map f) = (firstBySignature seen ds).map f := by
  induction ds generalizing seen with
  | nil => rfl
  | cons d rest ih =>
    rw [List.map_cons, firstBySignature, firstBySignature, same]
    by_cases hseen : d.signature ∈ seen
    · rw [if_pos hseen, if_pos hseen]
      exact ih seen
    · rw [if_neg hseen, if_neg hseen, ih, List.map_cons]

theorem firstBySignature_append (seen : List MethodSignature) (xs ys : List (MethodDecl T A)) :
    firstBySignature seen (xs ++ ys) =
      firstBySignature seen xs ++ firstBySignature (xs.map MethodDecl.signature ++ seen) ys := by
  induction xs generalizing seen with
  | nil => rfl
  | cons d rest ih =>
    rw [List.cons_append, firstBySignature, firstBySignature]
    split
    · rename_i hseen
      rw [ih]
      -- the signature of `d` is among those seen already
      refine congrArg _ (firstBySignature_congr (fun s => ?_) ys)
      simp only [List.map_cons, List.cons_append, List.mem_cons, List.mem_append]
      constructor
      · exact .inr
      · rintro (rfl | hs)
        · exact .inr hseen
        · exact hs
    · rw [ih, List.cons_append]
      refine congrArg _ (congrArg _ (firstBySignature_congr (fun s => ?_) ys))
      simp only [List.map_cons, List.cons_append, List.mem_cons, List.mem_append]
      exact or_left_comm

theorem firstBySignature_sublist (seen : List MethodSignature) (ds : List (MethodDecl T A)) :
    (firstBySignature seen ds).Sublist ds := by
  induction ds generalizing seen with
  | nil => exact .slnil
  | cons d rest ih =>
    rw [firstBySignature]
    split
    · exact .cons d (ih seen)
    · exact .cons_cons d (ih _)

/-- Every signature that is declared was seen before or is left. -/
theorem exists_mem_firstBySignature {seen : List MethodSignature} {ds : List (MethodDecl T A)}
    {d : MethodDecl T A} (hd : d ∈ ds) (hnew : d.signature ∉ seen) :
    ∃ d' ∈ firstBySignature seen ds, d'.signature = d.signature := by
  induction ds generalizing seen with
  | nil => cases hd
  | cons x rest ih =>
    rw [firstBySignature]
    by_cases hx : x.signature = d.signature
    · rw [if_neg (hx ▸ hnew)]
      exact ⟨x, List.mem_cons_self, hx⟩
    · have hrest : d ∈ rest := (List.mem_cons.mp hd).resolve_left fun he => hx (he ▸ rfl)
      split
      · exact ih hrest hnew
      · have hnew' : d.signature ∉ x.signature :: seen := fun hs =>
          (List.mem_cons.mp hs).elim (fun he => hx he.symm) hnew
        obtain ⟨d', hd', he⟩ := ih hrest hnew'
        exact ⟨d', List.mem_cons_of_mem _ hd', he⟩

/-- Whether a declaration at a place of a list is the first with its signature. -/
def firstOfSignature (ds : List (MethodDecl T A)) (x : MethodDecl T A × Nat) : Bool :=
  x.1.signature ∉ (ds.take x.2).map MethodDecl.signature

/-- A declaration stays exactly if it is the first with its signature. `before` is
what was walked already. -/
theorem firstBySignature_eq_filter (before ds : List (MethodDecl T A)) :
    firstBySignature (before.map MethodDecl.signature) ds =
      ((ds.zipIdx before.length).filter (firstOfSignature (before ++ ds))).map Prod.fst := by
  induction ds generalizing before with
  | nil => rfl
  | cons d rest ih =>
    have hlength : (before ++ [d]).length = before.length + 1 := List.length_append ..
    have hsplit : before ++ d :: rest = (before ++ [d]) ++ rest := List.append_cons ..
    have htake : (before ++ d :: rest).take before.length = before := List.take_left ..
    have ih := ih (before ++ [d])
    rw [hlength, ← hsplit] at ih
    have hwalked : ∀ s, s ∈ d.signature :: before.map MethodDecl.signature ↔
        s ∈ (before ++ [d]).map MethodDecl.signature := by
      intro s
      rw [List.map_append, List.mem_append, List.mem_cons, List.map_singleton,
        List.mem_singleton]
      exact or_comm
    rw [firstBySignature, List.zipIdx_cons, List.filter_cons]
    simp only [firstOfSignature, htake]
    by_cases hseen : d.signature ∈ before.map MethodDecl.signature
    · have hsame : ∀ s, s ∈ before.map MethodDecl.signature ↔
          s ∈ (before ++ [d]).map MethodDecl.signature := by
        intro s
        rw [← hwalked, List.mem_cons]
        exact ⟨.inr, fun h => h.elim (· ▸ hseen) id⟩
      rw [if_pos hseen, if_neg (by simpa using hseen), firstBySignature_congr hsame]
      exact ih
    · rw [if_neg hseen, if_pos (by simpa using hseen), firstBySignature_congr hwalked]
      exact congrArg (d :: ·) ih

/-! ### Hidden declarations -/

/-- Declarations whose signatures were seen leave nothing. -/
theorem firstBySignature_of_hidden {seen : List MethodSignature} {ds : List (MethodDecl T A)}
    (h : ∀ d ∈ ds, d.signature ∈ seen) : firstBySignature seen ds = [] := by
  induction ds with
  | nil => rfl
  | cons d rest ih =>
    rw [firstBySignature, if_pos (h d List.mem_cons_self)]
    exact ih fun d' hd' => h d' (List.mem_cons_of_mem _ hd')

/-- Hidden declarations can be left out. -/
theorem firstBySignature_append_hidden {seen : List MethodSignature}
    (before : List (MethodDecl T A)) {hidden : List (MethodDecl T A)}
    (h : ∀ d ∈ hidden, d.signature ∈ before.map MethodDecl.signature)
    (after : List (MethodDecl T A)) :
    firstBySignature seen (before ++ hidden ++ after) = firstBySignature seen (before ++ after) := by
  have hseen : ∀ d ∈ hidden, d.signature ∈ before.map MethodDecl.signature ++ seen :=
    fun d hd => List.mem_append_left _ (h d hd)
  have hsame : ∀ s, s ∈ (before ++ hidden).map MethodDecl.signature ++ seen ↔
      s ∈ before.map MethodDecl.signature ++ seen := by
    intro s
    simp only [List.map_append, List.append_assoc, List.mem_append]
    constructor
    · rintro (hs | hs | hs)
      · exact .inl hs
      · obtain ⟨d, hd, rfl⟩ := List.mem_map.mp hs
        exact .inl (h d hd)
      · exact .inr hs
    · rintro (hs | hs)
      · exact .inl hs
      · exact .inr (.inr hs)
  calc firstBySignature seen (before ++ hidden ++ after)
      = firstBySignature seen before ++
          firstBySignature (before.map MethodDecl.signature ++ seen) hidden ++
          firstBySignature ((before ++ hidden).map MethodDecl.signature ++ seen) after := by
        rw [firstBySignature_append, firstBySignature_append]
    _ = firstBySignature seen before ++
          firstBySignature (before.map MethodDecl.signature ++ seen) after := by
        rw [firstBySignature_of_hidden hseen, List.append_nil, firstBySignature_congr hsame]
    _ = firstBySignature seen (before ++ after) := (firstBySignature_append ..).symm

namespace TypeModel

theorem mem_inheritable_of_first {m : TypeModel T A} {d : MethodDecl T A}
    {before after : List (MethodDecl T A)}
    (h : m.declarations = before ++ d :: after)
    (hbefore : ∀ b ∈ before, b.signature ≠ d.signature) : d ∈ m.inheritable := by
  have hnew : d.signature ∉ before.map MethodDecl.signature ++ [] := by
    rw [List.append_nil]
    intro hs
    obtain ⟨b, hb, he⟩ := List.mem_map.mp hs
    exact hbefore b hb he
  rw [inheritable, h, firstBySignature_append, firstBySignature, if_neg hnew]
  exact List.mem_append_right _ List.mem_cons_self

/-- A declaration is left exactly if no earlier one has its signature. -/
theorem mem_inheritable_iff {m : TypeModel T A} {d : MethodDecl T A} :
    d ∈ m.inheritable ↔ ∃ before after, m.declarations = before ++ d :: after ∧
      ∀ b ∈ before, b.signature ≠ d.signature := by
  constructor
  · intro hd
    have hmem : d ∈ m.declarations := (firstBySignature_sublist ..).subset hd
    have hfound : (m.declarations.find? (·.signature = d.signature)).isSome :=
      List.find?_isSome.mpr ⟨d, hmem, decide_eq_true rfl⟩
    obtain ⟨d', hfind⟩ := Option.isSome_iff_exists.mp hfound
    obtain ⟨hsignature, before, after, hsplit, hbefore⟩ := List.find?_eq_some_iff_append.mp hfind
    have hsame : d'.signature = d.signature := of_decide_eq_true hsignature
    have hfirst : ∀ b ∈ before, b.signature ≠ d'.signature := by
      intro b hb he
      have hnot := hbefore b hb
      simp [he.trans hsame] at hnot
    obtain rfl : d' = d := eq_of_signature (mem_inheritable_of_first hsplit hfirst) hd hsame
    exact ⟨before, after, hsplit, hfirst⟩
  · rintro ⟨before, after, hsplit, hfirst⟩
    exact mem_inheritable_of_first hsplit hfirst

/-- Models whose declarations differ in hidden ones only have the same methods. -/
theorem inheritable_congr {m m' : TypeModel T A}
    {before hidden hidden' after : List (MethodDecl T A)}
    (hm : m.declarations = before ++ hidden ++ after)
    (hm' : m'.declarations = before ++ hidden' ++ after)
    (h : ∀ d ∈ hidden ++ hidden', d.signature ∈ before.map MethodDecl.signature) :
    m'.inheritable = m.inheritable := by
  rw [inheritable, inheritable, hm, hm',
    firstBySignature_append_hidden before (fun d hd => h d (List.mem_append_left _ hd)),
    firstBySignature_append_hidden before (fun d hd => h d (List.mem_append_right _ hd))]

/-- Of the declarations of a model and of the types it extends, those are left
that no earlier one has the signature of: in their order, no two with one
signature, and one for every signature. What is declared under a signature that was
declared before can go, come or change in any way, and the model resolves, or does
not, as it did. -/
theorem inheritable_firstOfSignature (m : TypeModel T A) :
    m.inheritable =
        (m.declarations.zipIdx.filter (firstOfSignature m.declarations)).map Prod.fst ∧
      m.inheritable.Sublist m.declarations ∧
      (m.inheritable.Pairwise fun d d' => d.signature ≠ d'.signature) ∧
      (∀ d ∈ m.declarations, ∃ d' ∈ m.inheritable, d'.signature = d.signature) ∧
      ∀ (m' : TypeModel T A) (before hidden hidden' after : List (MethodDecl T A)),
        m.declarations = before ++ hidden ++ after →
        m'.declarations = before ++ hidden' ++ after →
        (∀ d ∈ hidden ++ hidden', d.signature ∈ before.map MethodDecl.signature) →
        ∀ catalog, m'.resolve catalog = m.resolve catalog := by
  refine ⟨firstBySignature_eq_filter [] m.declarations, firstBySignature_sublist ..,
    pairwise_signature_ne .., fun d hd => exists_mem_firstBySignature hd List.not_mem_nil, ?_⟩
  intro m' before hidden hidden' after hm hm' h catalog
  rw [resolve, resolve, inheritable_congr hm hm' h]

/-- A parent's handler that could not be wired is hidden by a method that is none,
so the model resolves as without it. -/
example :
    let broken : MethodDecl Nat Nat := .annotated (.new "on_any") .implicit
    let parent : TypeModel Nat Nat := (new "Counter").method broken
    let child : TypeModel Nat Nat := (new "Panel").method (.new "on_any")
    ((child.extending parent id).resolve none).isOk = true ∧
      ((new "Panel" : TypeModel Nat Nat).extending parent id |>.resolve none).isOk = false := by
  exact ⟨rfl, rfl⟩

end TypeModel

end EventWiring
