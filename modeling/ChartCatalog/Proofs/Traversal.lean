import Mathlib.Data.List.Forall2

/-!
# One result for each item

A list is gone through item by item, and every item has a result or none. All results
are there, in the order of the items, or the first item without one decides
(`mapM_eq_error_iff`).

Of a list of rules the first with a result decides. If no two rules have a result for the
same argument, their order is of no account (`Apart.findSome?_eq_of_perm`).
-/

namespace ChartCatalog

variable {α β ε : Type}

/-! ## Results with errors -/

variable {f : α → Except ε β}

/-- One step after the other: both have results. -/
theorem bind_eq_ok_iff {x : Except ε α} {b : β} :
    x >>= f = .ok b ↔ ∃ a, x = .ok a ∧ f a = .ok b := by
  cases x with
  | error e => simp [bind, Except.bind]
  | ok a => simp [bind, Except.bind]

theorem mapError_eq_ok_iff {ε' : Type} {x : Except ε α} {g : ε → ε'} {a : α} :
    x.mapError g = .ok a ↔ x = .ok a := by
  cases x with
  | error e => simp [Except.mapError]
  | ok b => simp [Except.mapError]

theorem mapM_eq_ok_iff_forall₂ {l : List α} {results : List β} :
    l.mapM f = .ok results ↔ List.Forall₂ (fun a b => f a = .ok b) l results := by
  induction l generalizing results with
  | nil =>
    constructor
    · intro h
      cases h
      exact .nil
    · rintro ⟨⟩
      rfl
  | cons a l ih =>
    rw [List.mapM_cons, bind_eq_ok_iff]
    constructor
    · rintro ⟨b, hb, h⟩
      obtain ⟨rest, hrest, h⟩ := bind_eq_ok_iff.mp h
      cases h
      exact .cons hb (ih.mp hrest)
    · rintro (_ | ⟨hb, hrest⟩)
      exact ⟨_, hb, bind_eq_ok_iff.mpr ⟨_, ih.mpr hrest, rfl⟩⟩

theorem mapM_eq_ok_iff {l : List α} {results : List β} :
    l.mapM f = .ok results ↔ l.map f = results.map .ok := by
  rw [mapM_eq_ok_iff_forall₂, ← List.forall₂_eq_eq_eq, List.forall₂_map_left_iff,
    List.forall₂_map_right_iff]

theorem option_mapM_eq_ok_iff {o : Option α} {result : Option β} :
    o.mapM f = .ok result ↔ Option.Rel (fun a b => f a = .ok b) o result := by
  cases o with
  | none =>
    constructor
    · intro h
      cases h
      exact .none
    · rintro ⟨⟩
      rfl
  | some a =>
    show f a >>= (fun b => .ok (some b)) = .ok result ↔ _
    rw [bind_eq_ok_iff]
    constructor
    · rintro ⟨b, hb, h⟩
      cases h
      exact .some hb
    · rintro ⟨hb⟩
      exact ⟨_, hb, rfl⟩

theorem mapM_eq_error_iff {l : List α} {e : ε} :
    l.mapM f = .error e ↔ ∃ before a after, l = before ++ a :: after ∧
      (∀ x ∈ before, ∃ b, f x = .ok b) ∧ f a = .error e := by
  induction l with
  | nil =>
    rw [List.mapM_nil]
    constructor
    · intro h
      exact absurd h (by simp [pure, Except.pure])
    · rintro ⟨before, a, after, h, -⟩
      exact absurd h (by simp)
  | cons a l ih =>
    rw [List.mapM_cons]
    cases ha : f a with
    | error e' =>
      constructor
      · intro h
        cases h
        exact ⟨[], a, l, rfl, by simp, ha⟩
      · rintro ⟨before, x, after, hl, hbefore, hx⟩
        cases before with
        | nil =>
          obtain ⟨rfl, -⟩ := List.cons.inj hl
          rw [ha] at hx
          cases hx
          rfl
        | cons y before =>
          obtain ⟨rfl, -⟩ := List.cons.inj hl
          obtain ⟨b, hb⟩ := hbefore a List.mem_cons_self
          rw [ha] at hb
          exact absurd hb (by simp)
    | ok b =>
      have hrest : (do let rest ← l.mapM f; pure (b :: rest)) = Except.error e ↔
          l.mapM f = .error e := by
        cases l.mapM f <;> simp [bind, Except.bind, pure, Except.pure]
      refine (show _ ↔ _ from hrest).trans (ih.trans ?_)
      constructor
      · rintro ⟨before, x, after, rfl, hbefore, hx⟩
        refine ⟨a :: before, x, after, rfl, ?_, hx⟩
        simp only [List.forall_mem_cons]
        exact ⟨⟨b, ha⟩, hbefore⟩
      · rintro ⟨before, x, after, hl, hbefore, hx⟩
        cases before with
        | nil =>
          obtain ⟨rfl, -⟩ := List.cons.inj hl
          rw [ha] at hx
          exact absurd hx (by simp)
        | cons y before =>
          obtain ⟨rfl, rfl⟩ := List.cons.inj hl
          exact ⟨before, x, after, rfl, fun z hz => hbefore z (List.mem_cons_of_mem _ hz), hx⟩

/-! ## Values that belong together -/

section Rel

variable {r : α → β → Prop} {o : Option α} {o' : Option β} {l : List α} {l' : List β}

theorem exists_rel_of_forall (h : ∀ a, o = some a → ∃ b, r a b) :
    ∃ result, Option.Rel r o result := by
  cases o with
  | none => exact ⟨none, .none⟩
  | some a =>
    obtain ⟨b, hb⟩ := h a rfl
    exact ⟨some b, .some hb⟩

theorem exists_of_rel_left (h : Option.Rel r o o') {a : α} (ha : o = some a) :
    ∃ b, o' = some b ∧ r a b := by
  cases h with
  | none => exact absurd ha (by simp)
  | some hab =>
    cases ha
    exact ⟨_, rfl, hab⟩

theorem exists_of_rel_right (h : Option.Rel r o o') {b : β} (hb : o' = some b) :
    ∃ a, o = some a ∧ r a b := by
  cases h with
  | none => exact absurd hb (by simp)
  | some hab =>
    cases hb
    exact ⟨_, rfl, hab⟩

theorem exists_forall₂_of_forall (h : ∀ a ∈ l, ∃ b, r a b) :
    ∃ results, List.Forall₂ r l results := by
  induction l with
  | nil => exact ⟨[], .nil⟩
  | cons a l ih =>
    obtain ⟨b, hb⟩ := h a List.mem_cons_self
    obtain ⟨results, hresults⟩ := ih fun x hx => h x (List.mem_cons_of_mem a hx)
    exact ⟨b :: results, .cons hb hresults⟩

theorem exists_of_forall₂_left (h : List.Forall₂ r l l') {a : α} (ha : a ∈ l) :
    ∃ b ∈ l', r a b := by
  induction h with
  | nil => exact absurd ha List.not_mem_nil
  | @cons a' b l l' hab _ ih =>
    rcases List.mem_cons.mp ha with rfl | ha
    · exact ⟨b, List.mem_cons_self, hab⟩
    · obtain ⟨b', hmem, hb'⟩ := ih ha
      exact ⟨b', List.mem_cons_of_mem b hmem, hb'⟩

theorem exists_of_forall₂_right (h : List.Forall₂ r l l') {b : β} (hb : b ∈ l') :
    ∃ a ∈ l, r a b := by
  obtain ⟨a, ha, hab⟩ := exists_of_forall₂_left h.flip hb
  exact ⟨a, ha, hab⟩

end Rel

/-! ## Results that may be missing -/

theorem bind_eq_some {g : α → Option β} {o : Option α} {a : α} {b : β} (ho : o = some a)
    (hg : g a = some b) : (do let x ← o; g x) = some b := by
  rw [ho]
  exact hg

theorem mapM_eq_some_iff_forall₂ {g : α → Option β} {l : List α} {results : List β} :
    l.mapM g = some results ↔ List.Forall₂ (fun a b => g a = some b) l results := by
  induction l generalizing results with
  | nil =>
    constructor
    · intro h
      cases h
      exact .nil
    · rintro ⟨⟩
      rfl
  | cons a l ih =>
    rw [List.mapM_cons]
    constructor
    · intro h
      obtain ⟨b, hb, h⟩ := Option.bind_eq_some_iff.mp h
      obtain ⟨rest, hrest, h⟩ := Option.bind_eq_some_iff.mp h
      cases h
      exact .cons hb (ih.mp hrest)
    · rintro (_ | ⟨hb, hrest⟩)
      rw [hb, ih.mpr hrest]
      rfl

/-! ## Rules of which no two have a result -/

section Rules

variable {rules rules' : List (α → Option β)} {a : α}

/-- No rule has a result where another one has. -/
def Apart (rules : List (α → Option β)) (a : α) : Prop :=
  rules.Pairwise fun rule rule' => rule a = none ∨ rule' a = none

theorem Apart.perm (h : Apart rules a) (hperm : rules.Perm rules') : Apart rules' a :=
  hperm.pairwise h Or.symm

/-- The rules after one with a result have none. -/
theorem Apart.eq_none_of_cons {rule rule' : α → Option β} {b : β} (h : Apart (rule :: rules) a)
    (hresult : rule a = some b) (hmem : rule' ∈ rules) : rule' a = none := by
  have hone := (List.pairwise_cons.mp h).1 rule' hmem
  exact hone.resolve_left (by simp [hresult])

/-- Any rule with a result is the first one. -/
theorem Apart.findSome?_eq_some_iff (h : Apart rules a) {b : β} :
    rules.findSome? (· a) = some b ↔ ∃ rule ∈ rules, rule a = some b := by
  induction rules with
  | nil => simp
  | cons rule rules ih =>
    rw [List.findSome?_cons, List.exists_mem_cons_iff]
    cases hresult : rule a with
    | none => simpa using ih (List.Pairwise.of_cons h)
    | some b' =>
      have hrest : ¬ ∃ rule' ∈ rules, rule' a = some b := by
        rintro ⟨rule', hmem, hb⟩
        rw [h.eq_none_of_cons hresult hmem] at hb
        exact absurd hb (by simp)
      exact (or_iff_left hrest).symm

theorem Apart.findSome?_eq_of_perm (h : Apart rules a) (hperm : rules.Perm rules') :
    rules.findSome? (· a) = rules'.findSome? (· a) := by
  ext b
  rw [h.findSome?_eq_some_iff, (h.perm hperm).findSome?_eq_some_iff]
  simp only [hperm.mem_iff]

theorem Apart.countP_le_one (h : Apart rules a) :
    rules.countP (fun rule => (rule a).isSome) ≤ 1 := by
  induction rules with
  | nil => exact Nat.zero_le 1
  | cons rule rules ih =>
    rw [List.countP_cons]
    cases hresult : rule a with
    | none => simpa using ih (List.Pairwise.of_cons h)
    | some b =>
      have hrest : rules.countP (fun rule' => (rule' a).isSome) = 0 := by
        rw [List.countP_eq_zero]
        intro rule' hmem
        simp [h.eq_none_of_cons hresult hmem]
      rw [hrest]
      exact Nat.le_refl 1

end Rules

end ChartCatalog
