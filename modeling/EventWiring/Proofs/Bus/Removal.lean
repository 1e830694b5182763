import EventWiring.Proofs.Bus.Bindings
import EventWiring.Proofs.Bus.Alike

/-! Removing by tokens. A program uses any of its tokens, in any order and any number of
times. Every table then is what it was without the subscriptions that these tokens were
returned for; a token whose subscription is gone takes nothing with it, whatever was
subscribed in the meantime. -/
namespace EventWiring

open Answer (given)

variable {A C K L : Type}

/-! ### Places of tokens -/

/-- Where a program has a token: loose, or at a place of a handle. -/
inductive TokenPlace where
  | loose (token : Nat)
  | held (handle place : Nat)
deriving DecidableEq

/-- The request that uses the token at a place. -/
def TokenPlace.removal : TokenPlace → Request A
  | loose token => .remove token
  | held handle place => .removeHeld handle place

namespace Holdings

def at? (h : Holdings K) : TokenPlace → Option K
  | .loose token => h.token? token
  | .held handle place => h.heldToken? handle place

def putAt (h : Holdings K) : TokenPlace → K → Holdings K
  | .loose token, k => h.setToken token k
  | .held handle place, k => h.setHandle handle ((h.handles[handle]?.getD []).set place k)

theorem buses_putAt (h : Holdings K) (p : TokenPlace) (k : K) : (h.putAt p k).buses = h.buses := by
  cases p <;> rfl

theorem at?_loose_putAt {h : Holdings K} {token : Nat} {k₀ : K} (hk : h.token? token = some k₀)
    (k : K) (q : TokenPlace) :
    (h.setToken token k).at? q = if q = .loose token then some k else h.at? q := by
  have hlt : token < h.tokens.length := by
    by_cases hlt : token < h.tokens.length
    · exact hlt
    · simp [token?, List.getElem?_eq_none (Nat.le_of_not_lt hlt)] at hk
  cases q with
  | loose token' =>
    by_cases he : token' = token
    · simp [at?, token?, setToken, he, hlt]
    · simp [at?, token?, setToken, he, Ne.symm he]
  | held handle place => rfl

theorem at?_held_putAt {h : Holdings K} {handle place : Nat} {k₀ : K}
    (hk : h.heldToken? handle place = some k₀) (k : K) (q : TokenPlace) :
    (h.putAt (.held handle place) k).at? q =
      if q = .held handle place then some k else h.at? q := by
  obtain ⟨ks, hks, hplace⟩ := Option.bind_eq_some_iff.mp hk
  obtain ⟨hlt, -⟩ := List.getElem?_eq_some_iff.mp hplace
  obtain ⟨hlt', hget⟩ := List.getElem?_eq_some_iff.mp hks
  cases q with
  | loose token => rfl
  | held handle' place' =>
    by_cases he : handle' = handle
    · subst he
      by_cases hp : place' = place
      · simp [at?, heldToken?, putAt, setHandle, hget, hp, hlt, hlt']
      · simp [at?, heldToken?, putAt, setHandle, hget, hp, Ne.symm hp, hlt']
    · simp [at?, heldToken?, putAt, setHandle, he, Ne.symm he]

/-- Filling a place changes no other. -/
theorem at?_putAt {h : Holdings K} {p : TokenPlace} {k₀ : K} (hk : h.at? p = some k₀) (k : K)
    (q : TokenPlace) : (h.putAt p k).at? q = if q = p then some k else h.at? q := by
  cases p with
  | loose token => exact at?_loose_putAt hk k q
  | held handle place => exact at?_held_putAt hk k q

namespace Match

variable {R : K → L → Prop} {h : Holdings K} {g : Holdings L}

theorem at? (hm : h.Match R g) (p : TokenPlace) : Option.Rel R (h.at? p) (g.at? p) := by
  cases p with
  | loose token => exact hm.token? token
  | held handle place => exact hm.heldToken? handle place

/-- A token that was used is still tied to what it was tied to. -/
theorem putAt (hm : h.Match R g) {p : TokenPlace} {k k₀ : K} {l : L} (hk₀ : h.at? p = some k₀)
    (hl : g.at? p = some l) (hk : R k l) : (h.putAt p k).Match R g := by
  cases p with
  | loose token => exact hm.setToken hl hk
  | held handle place =>
    obtain ⟨ks, hks, -⟩ := Option.bind_eq_some_iff.mp hk₀
    rw [Holdings.putAt, hks]
    exact hm.setHeldToken hks hl hk

end Match

end Holdings

/-! ### Using a token -/

namespace Client

variable {c : Client A} {p : TokenPlace}

theorem step_removal_none (h : c.held.at? p = none) : (c.step idle p.removal).1 = c := by
  cases p with
  | loose token =>
    replace h : c.held.token? token = none := h
    simp [TokenPlace.removal, step, h, given]
  | held handle place =>
    replace h : c.held.heldToken? handle place = none := h
    simp [TokenPlace.removal, step, h, given]

theorem step_removal {t : Token} (h : c.held.at? p = some t) :
    (c.step idle p.removal).1 =
      ⟨c.held.putAt p { t with removed := true }, (c.system.remove t).1⟩ := by
  cases p with
  | loose token =>
    replace h : c.held.token? token = some t := h
    simp [TokenPlace.removal, step, h, given, Holdings.putAt, System.token_remove]
  | held handle place =>
    obtain ⟨ts, hts, -⟩ := Option.bind_eq_some_iff.mp h
    replace h : c.held.heldToken? handle place = some t := h
    simp [TokenPlace.removal, step, h, hts, given, Holdings.putAt, System.token_remove]

/-- Once a place was used its token is marked, and the others are as they were. -/
theorem at?_step_removal (q : TokenPlace) :
    (c.step idle p.removal).1.held.at? q =
      if q = p then (c.held.at? q).map fun t => { t with removed := true }
      else c.held.at? q := by
  cases h : c.held.at? p with
  | none =>
    rw [step_removal_none h]
    split
    · rename_i he
      rw [he, h]
      rfl
    · rfl
  | some t =>
    rw [step_removal h, Holdings.at?_putAt h]
    split
    · rename_i he
      rw [he, h]
      rfl
    · rfl

theorem at?_run_removals (c : Client A) (places : List TokenPlace) (q : TokenPlace) :
    (c.run idle (places.map TokenPlace.removal)).held.at? q =
      if q ∈ places then (c.held.at? q).map fun t => { t with removed := true }
      else c.held.at? q := by
  induction places generalizing c with
  | nil => simp [run]
  | cons p rest ih =>
    refine (ih _).trans ?_
    rw [at?_step_removal]
    by_cases hp : q = p
    · simp [hp, Function.comp_def]
    · simp [hp]

end Client

namespace FlatClient

variable {f : FlatClient A} {p : TokenPlace}

theorem step_removal (f : FlatClient A) (p : TokenPlace) :
    (f.step p.removal).1 = { f with buses := f.buses.removeAll (f.held.at? p).toList } := by
  cases p with
  | loose token =>
    cases h : f.held.token? token <;>
      simp [TokenPlace.removal, step, given, Holdings.at?, h, FlatBuses.removeAll]
  | held handle place =>
    cases h : f.held.heldToken? handle place <;>
      simp [TokenPlace.removal, step, given, Holdings.at?, h, FlatBuses.removeAll]

theorem run_removals (f : FlatClient A) (places : List TokenPlace) :
    f.run (places.map TokenPlace.removal) =
      { f with buses := f.buses.removeAll (places.filterMap f.held.at?) } := by
  induction places generalizing f with
  | nil => rfl
  | cons p rest ih =>
    have hnext : (f.step p.removal).1.held = f.held := by rw [step_removal]
    rw [List.map_cons, run, List.foldl_cons, ← run, ih, hnext, step_removal]
    cases h : f.held.at? p <;> simp [h, FlatBuses.removeAll]

end FlatClient

/-! ### Tables -/

/-- The subscriptions that a bus has filed for a type, if it has an entry for it. -/
def System.listed? (s : System C) (id : BusId) (t : EventType) : Option (List (Subscription C)) :=
  (s.bus? id).bind fun b => b.table.listed? t

/-- The entry that a table is to have for what is live, when tickets have given
numbers. -/
def FlatBuses.listed? (f : FlatBuses C) (number : Nat → Nat) (id : BusId) (t : EventType) :
    Option (List (Subscription C)) :=
  if f.on id t = [] then none
  else some ((f.on id t).map fun l => ⟨number l.ticket, l.callback⟩)

theorem Twin.Agree.listed? {p : Twin C} (h : p.Agree) (id : BusId) (t : EventType) :
    p.keyed.listed? id t = p.flat.listed? p.number id t := by
  unfold System.listed? FlatBuses.listed?
  cases hb : p.keyed.bus? id with
  | none =>
    have hon : p.flat.on id t = [] := by
      refine List.filter_eq_nil_iff.mpr fun l hl hq => ?_
      obtain ⟨b, hs, -⟩ := h.numbered l hl
      rw [(of_decide_eq_true hq).1, hb] at hs
      cases hs
    rw [if_pos hon]
    rfl
  | some b =>
    refine ((h.tables id b hb).listed? (fun u hu => h.lists_eq_nil hu id) t).trans ?_
    simp only [lists, List.map_eq_nil_iff]
    rfl

/-- What is live for a type decides its entry. -/
theorem FlatBuses.listed?_congr {f g : FlatBuses C} {id : BusId} {t : EventType}
    (h : f.on id t = g.on id t) (number : Nat → Nat) :
    f.listed? number id t = g.listed? number id t := by
  unfold listed?
  rw [h]

/-- Tickets that are taken away count as a set. -/
theorem FlatBuses.listed?_removeAll (f : FlatBuses C) {ns ms : List Nat}
    (h : ∀ n, n ∈ ns ↔ n ∈ ms) (number : Nat → Nat) (id : BusId) (t : EventType) :
    (f.removeAll ns).listed? number id t = (f.removeAll ms).listed? number id t := by
  refine listed?_congr ?_ number
  simp only [on, live_removeAll, h]

theorem FlatBuses.listed?_removeAll_of_gone {f : FlatBuses C} {ns : List Nat}
    (h : ∀ l ∈ f.live, l.ticket ∉ ns) (number : Nat → Nat) (id : BusId) (t : EventType) :
    (f.removeAll ns).listed? number id t = f.listed? number id t := by
  refine listed?_congr ?_ number
  have hlive : f.live.filter (·.ticket ∉ ns) = f.live :=
    List.filter_eq_self.mpr fun l hl => decide_eq_true (h l hl)
  rw [on, live_removeAll, hlive, on]

/-! ### Programs -/

/-- At a place where the account has a ticket the program has a token that stands
for it. -/
theorem Holdings.Match.exists_at? {R : K → L → Prop} {h : Holdings K} {g : Holdings L}
    (hm : h.Match R g) {p : TokenPlace} {l : L} (hl : g.at? p = some l) :
    ∃ k, h.at? p = some k ∧ R k l := by
  have hat := hm.at? p
  rw [hl] at hat
  cases hk : h.at? p with
  | none =>
    rw [hk] at hat
    cases hat
  | some k =>
    rw [hk] at hat
    cases hat with
    | some hkl => exact ⟨k, rfl, hkl⟩

theorem Holdings.Match.at?_eq_none {R : K → L → Prop} {h : Holdings K} {g : Holdings L}
    (hm : h.Match R g) {p : TokenPlace} (hp : g.at? p = none) : h.at? p = none := by
  have hat := hm.at? p
  rw [hp] at hat
  cases hk : h.at? p with
  | none => rfl
  | some k =>
    rw [hk] at hat
    cases hat

namespace Mirrors

variable {c : Client A} {f : FlatClient A} {number : Nat → Nat}

theorem listed? (h : Mirrors c f number) (id : BusId) (t : EventType) :
    c.system.listed? id t = f.buses.listed? number id t := Twin.Agree.listed? h.agree id t

/-- Using a token gives no numbers, so tickets keep the ones they have. -/
theorem removal (h : Mirrors c f number) (p : TokenPlace) :
    Mirrors (c.step Client.idle p.removal).1 (f.step p.removal).1 number := by
  rw [FlatClient.step_removal]
  cases hn : f.held.at? p with
  | none =>
    rw [Client.step_removal_none (h.held.at?_eq_none hn)]
    exact h
  | some n =>
    obtain ⟨t, ht, hstands⟩ := h.held.exists_at? hn
    rw [Client.step_removal ht]
    obtain ⟨hagree, hkeeps, hused⟩ := Twin.remove_spec h.agree hstands
    have hnext := h.advance hagree hkeeps (c.system.isOpen_remove t)
    rw [System.token_remove] at hused
    refine ⟨hnext.agree, hnext.held.putAt ht hn hused, ?_⟩
    rw [Holdings.buses_putAt]
    exact hnext.opened

theorem removals (h : Mirrors c f number) (places : List TokenPlace) :
    Mirrors (c.run Client.idle (places.map TokenPlace.removal))
      (f.run (places.map TokenPlace.removal)) number := by
  induction places generalizing c f with
  | nil => exact h
  | cons p rest ih => exact ih (h.removal p)

/-- What the tables hold once tokens were used. -/
theorem listed?_removals (h : Mirrors c f number) (places : List TokenPlace) (id : BusId)
    (t : EventType) :
    (c.run Client.idle (places.map TokenPlace.removal)).system.listed? id t =
      (f.buses.removeAll (places.filterMap f.held.at?)).listed? number id t := by
  rw [(h.removals places).listed?, FlatClient.run_removals]

theorem listed?_unbind (h : Mirrors c f number) {handle : Nat} {ns : List Nat}
    (hns : f.held.handles[handle]? = some ns) (id : BusId) (t : EventType) :
    (c.step Client.idle (.unbind handle)).1.system.listed? id t =
      (f.buses.removeAll ns).listed? number id t := by
  have hhandle := h.held.handle? handle
  rw [hns] at hhandle
  cases hts : c.held.handles[handle]? with
  | none =>
    rw [hts] at hhandle
    cases hhandle
  | some ts =>
    rw [hts] at hhandle
    cases hhandle with
    | some hstands =>
      obtain ⟨hagree, -, -⟩ := Twin.unbind_spec h.agree hstands
      simp only [Client.step, hts, given]
      exact Twin.Agree.listed? hagree id t

/-- A subscription that is gone does not come back: no later one gets its ticket. -/
theorem gone_run (h : Mirrors c f number) {p : TokenPlace} {n : Nat} (hn : f.held.at? p = some n)
    (gone : ∀ l ∈ f.buses.live, l.ticket ≠ n) (later : List (Request A)) :
    ∀ l ∈ (f.run later).buses.live, l.ticket ≠ n := by
  obtain ⟨t, -, ht⟩ := h.held.exists_at? hn
  -- a used token would stand for the ticket, and goes on to
  have hused : Twin.Stands ⟨c.system, f.buses, number⟩ { t with removed := true } n :=
    ⟨ht.made, ht.opened, ht.key, ht.below, ht.listing, ht.type, fun _ => gone⟩
  obtain ⟨number', -, hkeeps⟩ := h.run later
  exact (hkeeps _ _ hused).used rfl

end Mirrors

/-! ### Exact removal -/

/-- A program has come to a point by some requests, or is inside a callback at such a
point. Whatever tokens it uses then, every table becomes what it was without the
subscriptions whose tickets these tokens hold, the rest in the old order: neither the
order in which they are used nor how often each is used makes a difference, and to
unbind a handle is to use all its tokens. A used token is marked. Nothing goes if the
token was used before, or if its subscription was gone at an earlier point already,
whatever was subscribed after that. -/
theorem tokens_remove_their_own {c : Client A} {registry : KeyRegistry}
    {requests : List (Request A)}
    (reached : c.Alike ((Client.start registry).run Client.idle requests)) :
    let f := FlatClient.start.run requests
    ∃ number : Nat → Nat,
      (∀ id t, c.system.listed? id t = f.buses.listed? number id t) ∧
      (∀ places : List TokenPlace,
        let after := c.run Client.idle (places.map TokenPlace.removal)
        (∀ id t, after.system.listed? id t =
          (f.buses.removeAll (places.filterMap f.held.at?)).listed? number id t) ∧
        (∀ places' : List TokenPlace, (∀ p, p ∈ places ↔ p ∈ places') → ∀ id t,
          (c.run Client.idle (places'.map TokenPlace.removal)).system.listed? id t =
            after.system.listed? id t) ∧
        ∀ p ∈ places, after.held.at? p = (c.held.at? p).map fun t => { t with removed := true }) ∧
      (∀ (handle : Nat) (ns : List Nat), f.held.handles[handle]? = some ns → ∀ id t,
        (c.step Client.idle (.unbind handle)).1.system.listed? id t =
          (f.buses.removeAll ns).listed? number id t) ∧
      (∀ p t, c.held.at? p = some t → t.removed = true →
        (c.step Client.idle p.removal).1.system = c.system) ∧
      ∀ earlier later, requests = earlier ++ later →
        let f₀ := FlatClient.start.run earlier
        ∀ p₀ p n, f₀.held.at? p₀ = some n → (∀ l ∈ f₀.buses.live, l.ticket ≠ n) →
          f.held.at? p = some n → ∀ id t,
            (c.step Client.idle p.removal).1.system.listed? id t = c.system.listed? id t := by
  intro f
  obtain ⟨number, hrun, -⟩ := (Mirrors.start registry).run requests
  have h : Mirrors c f number := hrun.alike reached
  refine ⟨number, h.listed?, fun places => ⟨h.listed?_removals places, ?_, ?_⟩,
    fun handle ns hns => h.listed?_unbind hns, ?_, ?_⟩
  · intro places' hsame id t
    rw [h.listed?_removals, h.listed?_removals]
    refine FlatBuses.listed?_removeAll _ (fun n => ?_) number id t
    simp only [List.mem_filterMap, hsame]
  · intro p hp
    rw [Client.at?_run_removals, if_pos hp]
  · intro p t ht hused
    rw [Client.step_removal ht, System.remove_of_removed _ hused]
  · rintro earlier later rfl f₀ p₀ p n hn₀ gone hn id t
    obtain ⟨number₀, h₀, -⟩ := (Mirrors.start registry).run earlier
    have hlater : FlatClient.start.run (earlier ++ later) = f₀.run later := List.foldl_append ..
    have hgone := h₀.gone_run hn₀ gone later
    rw [← hlater] at hgone
    have hremoval := h.listed?_removals [p] id t
    rw [List.filterMap_cons_some hn, List.filterMap_nil] at hremoval
    rw [h.listed?]
    refine hremoval.trans (FlatBuses.listed?_removeAll_of_gone (fun l hl => ?_) number id t)
    simpa using hgone l hl

/-- The first subscription of a bus is cleared away before two more are made for the
type, and another bus, where a subscription has the same number, is dropped. The
tokens of both that are gone remove nothing, and the order of removals is all one. -/
theorem tokens_remove_their_own_after_clear :
    let opened : ConcreteType := ⟨1, "Opened"⟩
    let earlier : List (Request Nat) := [.openBus .default, .openBus .default,
      .subscribe 0 opened fun _ => 1, .subscribe 1 opened fun _ => 2, .clear 0]
    let later : List (Request Nat) := [.subscribe 0 opened fun _ => 3,
      .subscribe 0 opened fun _ => 4, .dropBus 1]
    let c := (Client.start .empty).run Client.idle (earlier ++ later)
    let used := c.run Client.idle ([.loose 1, .loose 2, .loose 0, .loose 2].map TokenPlace.removal)
    c.system.total 0 = 2 ∧ used.system.total 0 = 1 ∧
      (∀ id t, (c.step Client.idle (TokenPlace.loose 0).removal).1.system.listed? id t =
        c.system.listed? id t) ∧
      (∀ id t, (c.run Client.idle
        ([.loose 0, .loose 2, .loose 1].map TokenPlace.removal)).system.listed? id t =
          used.system.listed? id t) ∧
      used.held.at? (.loose 1) = some ⟨1, ⟨1, .concrete opened⟩, 1, true, true⟩ := by
  intro opened earlier later c used
  have reached : c.Alike ((Client.start .empty).run Client.idle (earlier ++ later)) :=
    Client.Alike.refl c
  obtain ⟨number, -, hremovals, -, -, hgone⟩ := tokens_remove_their_own reached
  obtain ⟨-, horder, hmarked⟩ := hremovals [.loose 1, .loose 2, .loose 0, .loose 2]
  have hcleared : ∀ l ∈ (FlatClient.start.run earlier).buses.live, l.ticket ≠ 0 := by decide
  have hthen : (FlatClient.start.run earlier).held.at? (.loose 0) = some 0 := by decide
  have hnow : (FlatClient.start.run (earlier ++ later)).held.at? (.loose 0) = some 0 := by decide
  have hheld : c.held.at? (.loose 1) = some ⟨1, ⟨1, .concrete opened⟩, 1, false, true⟩ := by decide
  refine ⟨by decide, by decide, ?_, ?_, ?_⟩
  · exact hgone earlier later rfl (.loose 0) (.loose 0) 0 hthen hcleared hnow
  · exact horder [.loose 0, .loose 2, .loose 1] fun p => by grind
  · rw [hmarked (.loose 1) (by simp), hheld]
    rfl

end EventWiring
