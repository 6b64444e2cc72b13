import ChartCatalog.Proofs.Text.CharClass

/-!
# Laws of the shapes of tokens

A shape looks at a text from its start. Four laws hold of every shape and of the
first of several shapes that takes anything (`Shape.Lawful`): it takes no more
than there is; what it has taken it takes again when it stands alone; what it
takes something of, it still takes something of when more text follows; and it
does not look beyond a blank.

The first three follow for the single shapes from one stronger law, that what a
shape has taken is taken, and perhaps more, whatever follows (`of_extend`). The
choice of the first shape does not obey it: `1` is a token, but of `12a` the
first token is `12a` and not `1`.
-/

namespace ChartCatalog.Token

open Text

/-- What all shapes obey. -/
structure Shape.Lawful (shape : Shape) : Prop where
  le_length : ∀ s, shape s ≤ s.length
  take : ∀ s, shape (s.take (shape s)) = shape s
  mono : ∀ s t, shape s ≠ 0 → shape (s ++ t) ≠ 0
  blank : ∀ s t b, isBlank b = true → shape (s ++ b :: t) = shape s

namespace Shape

variable {shape : Shape}

theorem Lawful.of_extend (le_length : ∀ s, shape s ≤ s.length)
    (extend : ∀ s t, shape s ≤ shape (s.take (shape s) ++ t))
    (blank : ∀ s t b, isBlank b = true → shape (s ++ b :: t) = shape s) : shape.Lawful where
  le_length := le_length
  take s := by
    have hmore := extend s []
    have hless := le_length (s.take (shape s))
    rw [List.append_nil] at hmore
    rw [List.length_take] at hless
    omega
  mono s t h := by
    have hmore := extend s (s.drop (shape s) ++ t)
    rw [← List.append_assoc, List.take_append_drop] at hmore
    omega
  blank := blank

/-- No shape begins with a blank. -/
theorem Lawful.of_blank (h : shape.Lawful) {b : Char} (hb : isBlank b = true) (s : List Char) :
    shape (b :: s) = 0 := by
  have hnil : shape [] ≤ 0 := h.le_length []
  have hblank : shape ([] ++ b :: s) = shape [] := h.blank [] s b hb
  rw [List.nil_append] at hblank
  omega

/-- What stands alone and is not taken is not taken either when it is cut off
from a longer text. -/
theorem Lawful.eq_zero_of_append (h : shape.Lawful) {s t : List Char}
    (hst : shape (s ++ t) = 0) : shape s = 0 :=
  Decidable.byContradiction fun hs => h.mono s t hs hst

/-! ## The first of several shapes -/

/-- The first of the shapes that takes anything. -/
def firstOf : List Shape → Shape
  | [], _ => 0
  | shape :: shapes, s => if shape s = 0 then firstOf shapes s else shape s

theorem firstOf_eq_find? (shapes : List Shape) (s : List Char) :
    firstOf shapes s = ((shapes.map (· s)).find? (· ≠ 0)).getD 0 := by
  induction shapes with
  | nil => rfl
  | cons shape shapes ih =>
    rw [firstOf, List.map_cons, List.find?_cons, ih]
    by_cases h : shape s = 0 <;> simp [h]

/-- The laws pass from the shapes to the first of them that takes anything. -/
theorem lawful_firstOf {shapes : List Shape} (h : ∀ shape ∈ shapes, shape.Lawful) :
    (firstOf shapes).Lawful := by
  induction shapes with
  | nil => exact ⟨fun _ => Nat.zero_le _, fun _ => rfl, fun _ _ h => absurd rfl h, fun _ _ _ _ => rfl⟩
  | cons shape shapes ih =>
    have hfirst : shape.Lawful := h shape List.mem_cons_self
    have hrest : (firstOf shapes).Lawful := ih fun shape hs => h shape (List.mem_cons_of_mem _ hs)
    refine ⟨fun s => ?_, fun s => ?_, fun s t hs => ?_, fun s t b hb => ?_⟩
    · rw [firstOf]
      split
      · exact hrest.le_length s
      · exact hfirst.le_length s
    · by_cases h0 : shape s = 0
      · -- the first shape takes nothing of a piece of a text of which it takes nothing
        have htaken : firstOf (shape :: shapes) s = firstOf shapes s := by rw [firstOf, if_pos h0]
        rw [htaken, firstOf, if_pos, hrest.take]
        apply hfirst.eq_zero_of_append (t := s.drop (firstOf shapes s))
        rw [List.take_append_drop]
        exact h0
      · have htaken : firstOf (shape :: shapes) s = shape s := by rw [firstOf, if_neg h0]
        rw [htaken, firstOf, hfirst.take, if_neg h0]
    · rw [firstOf] at hs ⊢
      split at hs
      · split
        · exact hrest.mono s t hs
        · assumption
      · rw [if_neg (hfirst.mono s t hs)]
        exact hfirst.mono s t hs
    · rw [firstOf, firstOf, hfirst.blank s t b hb, hrest.blank s t b hb]

end Shape

end ChartCatalog.Token
