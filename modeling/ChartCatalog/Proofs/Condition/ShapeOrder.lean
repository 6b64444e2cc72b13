import ChartCatalog.Proofs.Condition.Shape

/-!
# The order of the clause shapes

The clause shapes are a list, and the first that accepts the tokens of a clause
decides. No list of tokens whatever is accepted by two of them, so the same shapes
in any other order read every clause alike, and refuse the same clauses with the
same error (`clauseShapes_unambiguous`).
-/

namespace ChartCatalog.Condition

open Text

/-- The condition of a clause by a table of shapes. -/
def parseBy (shapes : List ClauseShape) (clause : String) : Except CatalogError Condition :=
  match shapes.findSome? (· (clauseTokens clause)) with
  | some condition => .ok condition
  | none => .error (.invalidCondition (trimString clause) (clauseTokens clause))

theorem parseBy_clauseShapes (clause : String) : parseBy clauseShapes clause = parse clause := rfl

/-- At most one of the clause shapes accepts a list of tokens, and the shapes can be
put into any order. -/
theorem clauseShapes_unambiguous :
    (∀ tokens : List String, clauseShapes.countP (fun shape => (shape tokens).isSome) ≤ 1) ∧
    ∀ shapes : List ClauseShape, shapes.Perm clauseShapes →
      ∀ clause, parseBy shapes clause = parse clause := by
  refine ⟨fun tokens => (apart_clauseShapes tokens).countP_le_one, fun shapes hperm clause => ?_⟩
  rw [← parseBy_clauseShapes]
  unfold parseBy
  rw [(apart_clauseShapes _).findSome?_eq_of_perm hperm.symm]

/-- From the last shape to the first: a level with a part is still no level, and a
folder without a value is still none. -/
theorem clauseShapes_unambiguous_reversed :
    clauseShapes.reverse.Perm clauseShapes ∧
      parseBy clauseShapes.reverse "LV >= 40h" = .ok (.halfLevel .ge 40 .harder) ∧
      parseBy clauseShapes.reverse "ver=" = .ok .never ∧
      parseBy clauseShapes.reverse " ver=29" =
        .error (.invalidCondition "ver=29" ["ver", "=", "29"]) := by
  have hperm := clauseShapes.reverse_perm
  have hparse := clauseShapes_unambiguous.2 clauseShapes.reverse hperm
  refine ⟨hperm, ?_, ?_, ?_⟩
  · rw [hparse]
    decide +kernel
  · rw [hparse]
    decide +kernel
  · rw [hparse]
    decide +kernel

end ChartCatalog.Condition
