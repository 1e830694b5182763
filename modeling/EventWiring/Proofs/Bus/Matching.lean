import EventWiring.Proofs.Bus.Client
import Mathlib.Data.List.Forall2

/-! Two programs that hold the same names of buses, and at each place for a token
or in a handle a pair that a relation ties. Whatever one of them finds at a place,
the other finds there too, and filling a place on both sides keeps the match. -/
namespace EventWiring

/-! ### Lists in step -/

section

universe u v

variable {α : Type u} {β : Type v} {R : α → β → Prop}

theorem rel_getElem? {xs : List α} {ys : List β} (h : List.Forall₂ R xs ys) (i : Nat) :
    Option.Rel R xs[i]? ys[i]? := by
  induction h generalizing i with
  | nil => exact .none
  | cons hxy _ ih =>
    cases i with
    | zero => exact .some hxy
    | succ i => exact ih i

theorem forall₂_set {xs : List α} {ys : List β} (h : List.Forall₂ R xs ys) (i : Nat) {x : α}
    {y : β} (hxy : R x y) : List.Forall₂ R (xs.set i x) (ys.set i y) := by
  induction h generalizing i with
  | nil => exact .nil
  | cons hab hrest ih =>
    cases i with
    | zero => exact .cons hxy hrest
    | succ i => exact .cons hab (ih i)

theorem forall₂_modify_set {xs : List α} {ys : List β} (h : List.Forall₂ R xs ys) (i : Nat)
    {f : α → α} {y : β} (hy : ∀ x, R (f x) y) : List.Forall₂ R (xs.modify i f) (ys.set i y) := by
  induction h generalizing i with
  | nil =>
    rw [List.modify_nil]
    exact .nil
  | cons hab hrest ih =>
    cases i with
    | zero => exact .cons (hy _) hrest
    | succ i => exact .cons hab (ih i)

/-- A place may change on one side, as long as it is still tied to the other. -/
theorem forall₂_set_left {xs : List α} {ys : List β} (h : List.Forall₂ R xs ys) {i : Nat} {x : α}
    {y : β} (hy : ys[i]? = some y) (hxy : R x y) : List.Forall₂ R (xs.set i x) ys := by
  obtain ⟨hi, rfl⟩ := List.getElem?_eq_some_iff.mp hy
  have hset := forall₂_set h i hxy
  rwa [List.set_getElem_self] at hset

/-- What is tied from the left is tied to itself. -/
theorem forall₂_right {S : β → β → Prop} (hi : ∀ a b, R a b → S b b) {xs : List α} {ys : List β}
    (h : List.Forall₂ R xs ys) : List.Forall₂ S ys ys := by
  induction h with
  | nil => exact .nil
  | cons hxy _ ih => exact .cons (hi _ _ hxy) ih

theorem exists_of_forall₂ {xs : List α} {ys : List β} (h : List.Forall₂ R xs ys) {x : α}
    (hx : x ∈ xs) : ∃ y, R x y := by
  induction h with
  | nil => cases hx
  | cons hxy _ ih =>
    rcases List.mem_cons.mp hx with rfl | hx
    · exact ⟨_, hxy⟩
    · exact ih hx

theorem rel_right {S : β → β → Prop} (hi : ∀ a b, R a b → S b b) {x : Option α} {y : Option β}
    (h : Option.Rel R x y) : Option.Rel S y y := by
  cases h with
  | none => exact .none
  | some h => exact .some (hi _ _ h)

theorem rel_bind {γ δ : Type} {S : γ → δ → Prop} {x : Option α} {y : Option β}
    (h : Option.Rel R x y) {f : α → Option γ} {g : β → Option δ}
    (hfg : ∀ a b, R a b → Option.Rel S (f a) (g b)) : Option.Rel S (x.bind f) (y.bind g) := by
  cases h with
  | none => exact .none
  | some h => exact hfg _ _ h

theorem rel_imp {S : α → β → Prop} (hi : ∀ a b, R a b → S a b) {x : Option α} {y : Option β}
    (h : Option.Rel R x y) : Option.Rel S x y := by
  cases h with
  | none => exact .none
  | some h => exact .some (hi _ _ h)

theorem rel_refl (x : Option α) : Option.Rel (· = ·) x x := by
  cases x with
  | none => exact .none
  | some a => exact .some rfl

end

/-- Answers with what two names stand for, when they stand for related things or
both for nothing. -/
theorem given_rel {S S' A A' N N' : Type} {R : N → N' → Prop}
    {P : S × Answer A → S' × Answer A' → Prop} {s : S} {s' : S'} {name : Option N}
    {name' : Option N'} (hnames : Option.Rel R name name') (hnone : P (s, .noSuch) (s', .noSuch))
    {x : N → S × Answer A} {y : N' → S' × Answer A'}
    (hxy : ∀ n n', name = some n → name' = some n' → R n n' → P (x n) (y n')) :
    P (Answer.given s name x) (Answer.given s' name' y) := by
  cases hnames with
  | none => exact hnone
  | some hn => exact hxy _ _ rfl rfl hn

/-! ### Holdings -/

namespace Holdings

variable {K L : Type}

/-- Holdings that are the same up to how subscriptions are known. -/
structure Match (R : K → L → Prop) (h : Holdings K) (g : Holdings L) : Prop where
  buses : h.buses = g.buses
  tokens : List.Forall₂ (Option.Rel R) h.tokens g.tokens
  handles : List.Forall₂ (List.Forall₂ R) h.handles g.handles

namespace Match

variable {R : K → L → Prop} {h : Holdings K} {g : Holdings L}

theorem empty : (empty : Holdings K).Match R (Holdings.empty : Holdings L) := ⟨rfl, .nil, .nil⟩

theorem imp {S : K → L → Prop} (hm : h.Match R g) (hi : ∀ k l, R k l → S k l) : h.Match S g :=
  ⟨hm.buses, hm.tokens.imp fun _ _ => rel_imp hi, hm.handles.imp fun _ _ hs => hs.imp hi⟩

theorem right {S : L → L → Prop} (hm : h.Match R g) (hi : ∀ k l, R k l → S l l) :
    g.Match S g :=
  ⟨rfl, forall₂_right (fun _ _ => rel_right hi) hm.tokens,
    forall₂_right (fun _ _ => forall₂_right hi) hm.handles⟩

theorem names (hm : h.Match R g) (id : BusId) : h.names id = g.names id :=
  congrArg (fun buses : List (Option BusId) => buses.contains (some id)) hm.buses

theorem bus? (hm : h.Match R g) (bus : Nat) : h.bus? bus = g.bus? bus :=
  congrArg (fun buses : List (Option BusId) => (buses[bus]?).join) hm.buses

theorem bus?_rel (hm : h.Match R g) (bus : Nat) :
    Option.Rel (· = ·) (h.bus? bus) (g.bus? bus) := by
  rw [hm.bus? bus]
  exact rel_refl _

theorem token? (hm : h.Match R g) (token : Nat) :
    Option.Rel R (h.token? token) (g.token? token) :=
  rel_bind (rel_getElem? hm.tokens token) fun _ _ h => h

theorem handle? (hm : h.Match R g) (handle : Nat) :
    Option.Rel (List.Forall₂ R) h.handles[handle]? g.handles[handle]? :=
  rel_getElem? hm.handles handle

theorem heldToken? (hm : h.Match R g) (handle place : Nat) :
    Option.Rel R (h.heldToken? handle place) (g.heldToken? handle place) :=
  rel_bind (hm.handle? handle) fun _ _ hs => rel_getElem? hs place

theorem addBus (hm : h.Match R g) {id id' : BusId} (hid : id = id') :
    (h.addBus id).Match R (g.addBus id') :=
  ⟨hid ▸ congrArg (· ++ [some id]) hm.buses, hm.tokens, hm.handles⟩

theorem dropBus (hm : h.Match R g) (bus : Nat) : (h.dropBus bus).Match R (g.dropBus bus) :=
  ⟨congrArg (·.set bus none) hm.buses, hm.tokens, hm.handles⟩

theorem addToken (hm : h.Match R g) {k : K} {l : L} (hk : R k l) :
    (h.addToken k).Match R (g.addToken l) :=
  ⟨hm.buses, List.rel_append hm.tokens (.cons (.some hk) .nil), hm.handles⟩

theorem addHandle (hm : h.Match R g) {ks : List K} {ls : List L} (hks : List.Forall₂ R ks ls) :
    (h.addHandle ks).Match R (g.addHandle ls) :=
  ⟨hm.buses, hm.tokens, List.rel_append hm.handles (.cons hks .nil)⟩

theorem setHandle (hm : h.Match R g) (handle : Nat) {ks : List K} {ls : List L}
    (hks : List.Forall₂ R ks ls) : (h.setHandle handle ks).Match R (g.setHandle handle ls) :=
  ⟨hm.buses, hm.tokens, forall₂_set hm.handles handle hks⟩

theorem moveToken (hm : h.Match R g) (token handle : Nat) {k : K} {l : L} (hk : R k l)
    {ks : List K} {ls : List L} (hks : List.Forall₂ R ks ls) :
    (h.moveToken token handle k ks).Match R (g.moveToken token handle l ls) :=
  ⟨hm.buses, forall₂_set hm.tokens token .none,
    forall₂_set hm.handles handle (List.rel_append hks (.cons hk .nil))⟩

/-- A token that was used is still tied to what it was tied to. -/
theorem setToken (hm : h.Match R g) {token : Nat} {k : K} {l : L}
    (hl : g.token? token = some l) (hk : R k l) : (h.setToken token k).Match R g :=
  ⟨hm.buses, forall₂_set_left hm.tokens (Option.join_eq_some_iff.mp hl) (.some hk), hm.handles⟩

theorem setHeldToken (hm : h.Match R g) {handle place : Nat} {k : K} {l : L} {ks : List K}
    (hks : h.handles[handle]? = some ks) (hl : g.heldToken? handle place = some l) (hk : R k l) :
    (h.setHandle handle (ks.set place k)).Match R g := by
  obtain ⟨ls, hls, hplace⟩ := Option.bind_eq_some_iff.mp hl
  have hpair := hm.handle? handle
  rw [hks, hls] at hpair
  cases hpair with
  | some hpair =>
    exact ⟨hm.buses, hm.tokens,
      forall₂_set_left hm.handles hls (forall₂_set_left hpair hplace hk)⟩

end Match

end Holdings

end EventWiring
