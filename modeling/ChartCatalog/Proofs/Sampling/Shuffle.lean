import ChartCatalog.Difficulty
import ChartCatalog.Sampling
import Mathlib.Data.List.Permutation
import Mathlib.Data.Set.Card

/-!
# Shuffles are unbiased

A shuffle of `n` items draws one number for each place but the first, and the
order that it leaves depends on the source only through these numbers
(`shuffle_eq_ordered`). Different numbers leave different orders of items that are
all different: what is drawn first decides the last place, which no later exchange
touches. As there are `n!` sequences of numbers and `n!` orders, each order is
left by exactly one sequence (`bijOn_ordered`), and each selection of `k` items in
order is sampled by the same number of sequences (`shuffle_unbiased`).
-/

namespace ChartCatalog

open scoped Nat

variable {σ α : Type}

/-! ## Sequences of choices -/

/-- What a shuffle draws for the places from `last` down to the second one: for
each place a number from zero up to the place. -/
inductive Choices : Nat → Type
  | done : Choices 0
  | next {last : Nat} (choice : Fin (last + 2)) (rest : Choices last) : Choices (last + 1)

namespace Choices

variable {last : Nat}

/-- A sequence is its first choice and the sequence of the others. -/
def split : Choices (last + 1) ≃ Fin (last + 2) × Choices last where
  toFun | .next choice rest => (choice, rest)
  invFun pair := .next pair.1 pair.2
  left_inv | .next _ _ => rfl
  right_inv _ := rfl

theorem card_eq (last : Nat) : Nat.card (Choices last) = (last + 1)! := by
  induction last with
  | zero =>
    have : Unique (Choices 0) := ⟨⟨.done⟩, fun | .done => rfl⟩
    exact Nat.card_unique
  | succ last ih =>
    rw [Nat.card_congr split, Nat.card_prod, ih, Nat.card_fin, ← Nat.factorial_succ]

instance : Finite (Choices last) :=
  Nat.finite_of_card_ne_zero (by rw [card_eq]; exact Nat.factorial_ne_zero _)

/-- The source that gives out the choices of a sequence one after the other. Its
state is the rest of the sequence. -/
def replay : Chooser (Σ last, Choices last) where
  choose last
    | ⟨_, .done⟩ => (0, ⟨0, .done⟩)
    -- a shuffle asks for the places of the sequence, so the choice is below the bound
    | ⟨_, .next choice rest⟩ => (Fin.ofNat (last + 1) choice, ⟨_, rest⟩)

end Choices

open Choices (replay)

namespace Chooser

variable {chooser : Chooser σ} {items : Array α} {last : Nat}

/-- What the source gives out to a shuffle with the last place `last`. -/
def drawn (chooser : Chooser σ) : (last : Nat) → σ → Choices last
  | 0, _ => .done
  | last + 1, state =>
    let (choice, state) := chooser.choose (last + 1) state
    .next choice (chooser.drawn last state)

theorem shuffleFrom_succ (chooser : Chooser σ) (last : Nat) (items : Array α) (state : σ) :
    chooser.shuffleFrom (last + 1) items state =
      chooser.shuffleFrom last
        (items.swapIfInBounds (last + 1) (chooser.choose (last + 1) state).1)
        (chooser.choose (last + 1) state).2 :=
  rfl

theorem choose_replay_next (choice : Fin (last + 2)) (rest : Choices last) :
    replay.choose (last + 1) ⟨last + 1, .next choice rest⟩ = (choice, ⟨last, rest⟩) := by
  simp only [replay, Fin.ofNat_val_eq_self]

theorem shuffleFrom_replay_next (items : Array α) (choice : Fin (last + 2))
    (rest : Choices last) :
    replay.shuffleFrom (last + 1) items ⟨last + 1, .next choice rest⟩ =
      replay.shuffleFrom last (items.swapIfInBounds (last + 1) choice) ⟨last, rest⟩ := by
  rw [shuffleFrom_succ, choose_replay_next]

theorem drawn_replay (choices : Choices last) : replay.drawn last ⟨last, choices⟩ = choices := by
  induction choices with
  | done => rfl
  | next choice rest ih =>
    rw [drawn, choose_replay_next]
    exact congrArg (Choices.next choice) ih

/-- The source matters only for the choices that it gives out. -/
theorem shuffleFrom_eq_replay (chooser : Chooser σ) (last : Nat) (items : Array α) (state : σ) :
    (chooser.shuffleFrom last items state).1 =
      (replay.shuffleFrom last items ⟨last, chooser.drawn last state⟩).1 := by
  induction last generalizing items state with
  | zero => rfl
  | succ last ih =>
    rw [shuffleFrom_succ, ih]
    exact congrArg Prod.fst (shuffleFrom_replay_next _ _ _).symm

/-! ## Exchanges -/

theorem swapIfInBounds_perm (items : Array α) (i j : Nat) :
    (items.swapIfInBounds i j).toList.Perm items.toList := by
  unfold Array.swapIfInBounds
  split
  · split
    · exact (Array.swap_perm _ _).toList
    · exact List.Perm.refl _
  · exact List.Perm.refl _

theorem getElem?_swapIfInBounds_of_ne {i j k : Nat} (hi : k ≠ i) (hj : k ≠ j) :
    (items.swapIfInBounds i j)[k]? = items[k]? := by
  grind [Array.getElem?_eq_getElem]

theorem getElem?_swapIfInBounds_left {i j : Nat} (hi : i < items.size) (hj : j < items.size) :
    (items.swapIfInBounds i j)[i]? = items[j]? := by
  grind [Array.getElem?_eq_getElem]

theorem shuffleFrom_perm (chooser : Chooser σ) (last : Nat) (items : Array α) (state : σ) :
    (chooser.shuffleFrom last items state).1.toList.Perm items.toList := by
  induction last generalizing items state with
  | zero => exact List.Perm.refl _
  | succ last ih =>
    rw [shuffleFrom_succ]
    exact (ih _ _).trans (swapIfInBounds_perm _ _ _)

/-- The places after `last` are left alone. -/
theorem getElem?_shuffleFrom_of_lt {k : Nat} (h : last < k) (items : Array α) (state : σ) :
    (chooser.shuffleFrom last items state).1[k]? = items[k]? := by
  induction last generalizing items state with
  | zero => rfl
  | succ last ih =>
    have hchoice : (chooser.choose (last + 1) state).1.val < last + 2 := Fin.isLt _
    rw [shuffleFrom_succ, ih (by omega),
      getElem?_swapIfInBounds_of_ne (by omega) (by omega)]

/-- The last place receives the item that is drawn for it. -/
theorem getElem?_shuffleFrom_last (h : last + 1 < items.size) (state : σ) :
    (chooser.shuffleFrom (last + 1) items state).1[last + 1]? =
      items[(chooser.choose (last + 1) state).1.val]? := by
  have hchoice : (chooser.choose (last + 1) state).1.val < last + 2 := Fin.isLt _
  rw [shuffleFrom_succ, getElem?_shuffleFrom_of_lt (Nat.lt_succ_self last),
    getElem?_swapIfInBounds_left h (by omega)]

/-- Different choices leave different orders: the last place tells the first choice,
and the places before it tell the others. -/
theorem shuffleFrom_replay_injective {choices choices' : Choices last}
    (hitems : items.toList.Nodup) (hlast : last ≤ items.size - 1)
    (h : (replay.shuffleFrom last items ⟨last, choices⟩).1 =
      (replay.shuffleFrom last items ⟨last, choices'⟩).1) : choices = choices' := by
  induction choices generalizing items with
  | done =>
    cases choices' with
    | done => rfl
  | @next last choice rest ih =>
    cases choices' with
    | next choice' rest' =>
      have hplace : items.toList[choice.val]? = items.toList[choice'.val]? := by
        have h := congrArg (·[last + 1]?) h
        simpa only [getElem?_shuffleFrom_last (show last + 1 < items.size by omega),
          choose_replay_next, ← Array.getElem?_toList] using h
      have hchoice : choice = choice' := by
        have hsize : choice.val < items.toList.length := by
          rw [Array.length_toList]
          omega
        exact Fin.ext ((List.getElem?_inj hsize hitems).mp hplace)
      subst hchoice
      rw [shuffleFrom_replay_next, shuffleFrom_replay_next] at h
      have hswap := swapIfInBounds_perm items (last + 1) choice
      rw [ih (hswap.nodup_iff.mpr hitems) (by simp; omega) h]

end Chooser

/-! ## Orders and selections -/

variable {items : List α}

/-- The order in which a shuffle leaves the items if the source gives out the
choices. -/
def ordered (items : List α) (choices : Choices (items.length - 1)) : List α :=
  (replay.shuffle items ⟨_, choices⟩).1

theorem shuffle_eq_ordered (chooser : Chooser σ) (items : List α) (state : σ) :
    (chooser.shuffle items state).1 = ordered items (chooser.drawn (items.length - 1) state) :=
  congrArg Array.toList (chooser.shuffleFrom_eq_replay _ _ state)

theorem sample_eq_take_ordered (chooser : Chooser σ) (items : List α) (count : Nat)
    (state : σ) : (chooser.sample items count state).1 =
      (ordered items (chooser.drawn (items.length - 1) state)).take count :=
  congrArg (List.take count) (shuffle_eq_ordered chooser items state)

theorem ordered_perm (items : List α) (choices : Choices (items.length - 1)) :
    (ordered items choices).Perm items :=
  Chooser.shuffleFrom_perm _ _ _ _

theorem ordered_injective (h : items.Nodup) : Function.Injective (ordered items) := by
  intro choices choices' heq
  have hitems : items.toArray.toList.Nodup := h
  exact Chooser.shuffleFrom_replay_injective hitems (Nat.le_refl _) (Array.toList_inj.mp heq)

theorem card_choices (items : List α) : Nat.card (Choices (items.length - 1)) = items.length ! := by
  cases items with
  | nil => exact Choices.card_eq 0
  | cons item items => exact Choices.card_eq items.length

theorem ncard_orders (h : items.Nodup) : {order : List α | order.Perm items}.ncard =
    items.length ! := by
  classical
  have hset : {order : List α | order.Perm items} = items.permutations.toFinset := by
    ext order
    simp [List.mem_permutations]
  rw [hset, Set.ncard_coe_finset, List.toFinset_card_of_nodup (List.nodup_permutations _ h),
    List.length_permutations]

/-- Every order of the items is left by exactly one sequence of choices. -/
theorem bijOn_ordered (h : items.Nodup) :
    Set.BijOn (ordered items) Set.univ {order | order.Perm items} := by
  refine ⟨fun choices _ => ordered_perm items choices, (ordered_injective h).injOn, ?_⟩
  -- there are as many orders as sequences
  have hfinite : {order : List α | order.Perm items}.Finite :=
    Set.finite_of_ncard_ne_zero (by rw [ncard_orders h]; exact Nat.factorial_ne_zero _)
  have himage : ordered items '' Set.univ = {order | order.Perm items} := by
    refine Set.eq_of_subset_of_ncard_le ?_ ?_ hfinite
    · rintro _ ⟨choices, -, rfl⟩
      exact ordered_perm items choices
    · rw [(ordered_injective h).injOn.ncard_image, Set.ncard_univ, card_choices, ncard_orders h]
  exact himage.ge

/-- The orders of the items that begin with a selection of some of them. -/
theorem ncard_orders_take {picked : List α} (h : items.Nodup) (hpicked : picked.Nodup)
    (hsubset : picked ⊆ items) :
    {order : List α | order.Perm items ∧ order.take picked.length = picked}.ncard =
      (items.length - picked.length)! := by
  obtain ⟨chosen, hchosen, hsublist⟩ := List.subperm_of_subset hpicked hsubset
  obtain ⟨others, hothers⟩ := hsublist.exists_perm_append
  have hperm : items.Perm (picked ++ others) := hothers.trans (hchosen.append_right others)
  have hset : {order : List α | order.Perm items ∧ order.take picked.length = picked} =
      (picked ++ ·) '' {rest | rest.Perm others} := by
    ext order
    constructor
    · rintro ⟨horder, htake⟩
      refine ⟨order.drop picked.length, ?_, ?_⟩
      · have hsplit := List.take_append_drop picked.length order
        rw [htake] at hsplit
        rw [← hsplit] at horder
        exact (List.perm_append_left_iff picked).mp (horder.trans hperm)
      · nth_rewrite 1 [← htake]
        exact List.take_append_drop _ _
    · rintro ⟨rest, hrest, rfl⟩
      exact ⟨((List.perm_append_left_iff picked).mpr hrest).trans hperm.symm,
        List.take_left⟩
  have hnodup : others.Nodup := (List.nodup_append.mp (hperm.nodup_iff.mp h)).2.1
  have hlength : items.length - picked.length = others.length := by
    rw [hperm.length_eq, List.length_append, Nat.add_sub_cancel_left]
  rw [hset, (List.append_right_injective picked).injOn.ncard_image, ncard_orders hnodup, hlength]

/-- A shuffle of items that are all different is unbiased. The order that it leaves
is settled by the numbers drawn, and a source can give out any sequence of numbers;
each order of the items is left by exactly one sequence, and there are `n!` of
either. A sample of `count` items is each selection in order for the same number
of sequences. -/
theorem shuffle_unbiased (h : items.Nodup) :
    (∀ (σ : Type) (chooser : Chooser σ) (state : σ),
      (chooser.shuffle items state).1 = ordered items (chooser.drawn (items.length - 1) state) ∧
      ∀ count, (chooser.sample items count state).1 =
        (ordered items (chooser.drawn (items.length - 1) state)).take count) ∧
    (∀ choices : Choices (items.length - 1), replay.drawn _ ⟨_, choices⟩ = choices) ∧
    Set.BijOn (ordered items) Set.univ {order | order.Perm items} ∧
    Nat.card (Choices (items.length - 1)) = items.length ! ∧
    {order : List α | order.Perm items}.ncard = items.length ! ∧
    ∀ count ≤ items.length, ∀ picked : List α, picked.length = count → picked.Nodup →
      picked ⊆ items →
      {choices : Choices (items.length - 1) |
        (replay.sample items count ⟨_, choices⟩).1 = picked}.ncard = (items.length - count)! := by
  refine ⟨fun σ chooser state => ⟨shuffle_eq_ordered chooser items state,
      fun count => sample_eq_take_ordered chooser items count state⟩,
    Chooser.drawn_replay, bijOn_ordered h, card_choices items, ncard_orders h, ?_⟩
  rintro _ - picked rfl hpicked hsubset
  have himage : ordered items ''
        {choices | (replay.sample items picked.length ⟨_, choices⟩).1 = picked} =
      {order | order.Perm items ∧ order.take picked.length = picked} := by
    ext order
    constructor
    · rintro ⟨choices, hsample, rfl⟩
      exact ⟨ordered_perm items choices, hsample⟩
    · rintro ⟨horder, htake⟩
      obtain ⟨choices, -, rfl⟩ := (bijOn_ordered h).surjOn horder
      exact ⟨choices, htake, rfl⟩
  rw [← (ordered_injective h).injOn.ncard_image, himage, ncard_orders_take h hpicked hsubset]

/-- A shuffle of the four difficulties has 24 sequences of choices, and six of them
bring hyper to the front. -/
theorem shuffle_unbiased_difficulties : Difficulty.all.Nodup ∧
    Nat.card (Choices 3) = 24 ∧
    {choices : Choices 3 |
      (replay.sample Difficulty.all 1 ⟨_, choices⟩).1 = [Difficulty.hyper]}.ncard = 6 := by
  have hall : Difficulty.all.Nodup := by decide
  obtain ⟨-, -, -, hcard, -, hselection⟩ := shuffle_unbiased hall
  exact ⟨hall, hcard, hselection 1 (by decide) [.hyper] rfl (by decide) (by decide)⟩

end ChartCatalog
