import ChartCatalog.Proofs.Condition.Operand

/-!
# Clause shapes

What the clause shapes accept, as an equation for their tokens. Six of the eight
compare a field with an operand, and one equation holds of all of them, whatever
their fields, signs and operands are (`comparedShape_eq_some_iff`).

The tokens alone say which shape can accept them (`shapeIndex`): their number, the
first of them, and for levels the last character (`shapeIndex_eq`). So two shapes
never accept the same tokens (`apart_clauseShapes`), and a list of tokens is a
clause if any shape accepts it (`ofTokens?_eq_some_iff`).
-/

namespace ChartCatalog.Condition

open Number Text

variable {tokens : List String} {c : Condition}

/-! ## What the shapes accept -/

/-- The tokens of a compared field are a name of it, the sign of a comparison and an operand,
and the sign and the operand are read each on its own. -/
theorem comparedShape_eq_some_iff {κ α : Type} {fields : List String} {sign : κ → String}
    {sign? : String → Option κ} {operand? : String → Option α} {condition : κ → α → Condition}
    (hsign : ∀ {s : String} {comparison : κ},
      sign? s = some comparison ↔ s = sign comparison) :
    comparedShape fields sign? operand? condition tokens = some c ↔
      ∃ field ∈ fields, ∃ comparison operand value,
        tokens = [field, sign comparison, operand] ∧ operand? operand = some value ∧
          c = condition comparison value := by
  constructor
  · intro h
    unfold comparedShape at h
    split at h
    · rename_i field s operand
      split at h
      · rename_i hfield
        obtain ⟨comparison, hcomparison, hrest⟩ := Option.bind_eq_some_iff.mp h
        obtain ⟨value, hvalue, hcondition⟩ := Option.bind_eq_some_iff.mp hrest
        obtain rfl := hsign.mp hcomparison
        exact ⟨field, hfield, comparison, operand, value, rfl, hvalue,
          (Option.some.inj hcondition).symm⟩
      · exact absurd h (by simp)
    · exact absurd h (by simp)
  · rintro ⟨field, hfield, comparison, operand, value, rfl, hvalue, rfl⟩
    rw [comparedShape, if_pos hfield, hsign.mpr rfl, hvalue]
    rfl

theorem neverShape_eq_some_iff : neverShape tokens = some c ↔
    ∃ field ∈ ["diff", "ver", "folder"], tokens = [field, "="] ∧ c = .never := by
  constructor
  · intro h
    unfold neverShape at h
    split at h
    · rename_i field
      split at h
      · rename_i hfield
        cases h
        exact ⟨field, by simpa using hfield, rfl, rfl⟩
      · exact absurd h (by simp)
    · exact absurd h (by simp)
  · rintro ⟨field, hfield, rfl, rfl⟩
    simp only [List.mem_cons, List.not_mem_nil, or_false] at hfield
    exact if_pos hfield

theorem flagShape_eq_some_iff : flagShape tokens = some c ↔
    ∃ token clause, tokens = [token] ∧ FlagClause.ofToken? token = some clause ∧
      c = .flag clause := by
  constructor
  · intro h
    unfold flagShape at h
    split at h
    · rename_i token
      obtain ⟨clause, hclause, rfl⟩ := Option.map_eq_some_iff.mp h
      exact ⟨token, clause, rfl, hclause, rfl⟩
    · exact absurd h (by simp)
  · rintro ⟨token, clause, rfl, hclause, rfl⟩
    simp [flagShape, hclause]

/-! ## Which shape can accept -/

/-- The place among the shapes of the only one that can accept the tokens. -/
def shapeIndex : List String → Nat
  | [_] => 6
  | [_, _] => 0
  | "lv" :: _ :: operand :: _ =>
    if (operand.toList.getLast?.bind HalfLevel.ofLetter?).isSome then 2 else 1
  | "rat" :: _ => 3
  | "srlv" :: _ => 4
  | "diff" :: _ => 5
  | _ => 7

/-- A level ends in a digit, a level with a part in a letter. -/
theorem getLast?_of_levelOf? {s : List Char} {value : UInt8} (h : levelOf? s = some value) :
    s.getLast?.bind HalfLevel.ofLetter? = none := by
  have hnumber := (levelOf?_eq_some_iff.mp h).number
  cases hlast : s.getLast? with
  | none => rfl
  | some d =>
    have hdigit := hnumber.digits d (List.mem_of_getLast? hlast)
    exact forall_isDigit (p := fun d => HalfLevel.ofLetter? d = none) (by decide) hdigit

theorem getLast?_of_halfLevelOf? {s : List Char} {value : UInt8 × HalfLevel}
    (h : halfLevelOf? s = some value) :
    (s.getLast?.bind HalfLevel.ofLetter?).isSome = true := by
  unfold halfLevelOf? at h
  obtain ⟨half, hhalf, -⟩ := Option.bind_eq_some_iff.mp h
  rw [hhalf]
  rfl

/-- Only the shape at the index accepts the tokens. -/
theorem shapeIndex_eq {i : Nat} {shape : ClauseShape} (hi : clauseShapes[i]? = some shape)
    (h : shape tokens = some c) : shapeIndex tokens = i := by
  match i, hi with
  | 0, hi =>
    cases hi
    obtain ⟨field, -, rfl, -⟩ := neverShape_eq_some_iff.mp h
    rfl
  | 1, hi =>
    cases hi
    obtain ⟨field, hfield, comparison, operand, value, rfl, hvalue, -⟩ :=
      (comparedShape_eq_some_iff Comparison.ofSign?_eq_some_iff).mp h
    obtain rfl := List.mem_singleton.mp hfield
    show (if _ then 2 else 1) = 1
    rw [getLast?_of_levelOf? hvalue]
    rfl
  | 2, hi =>
    cases hi
    obtain ⟨field, hfield, comparison, operand, value, rfl, hvalue, -⟩ :=
      (comparedShape_eq_some_iff HalfComparison.ofSign?_eq_some_iff).mp h
    obtain rfl := List.mem_singleton.mp hfield
    show (if _ then 2 else 1) = 2
    rw [if_pos (getLast?_of_halfLevelOf? hvalue)]
  | 3, hi =>
    cases hi
    obtain ⟨field, hfield, comparison, operand, value, rfl, -⟩ :=
      (comparedShape_eq_some_iff Comparison.ofSign?_eq_some_iff).mp h
    obtain rfl := List.mem_singleton.mp hfield
    rfl
  | 4, hi =>
    cases hi
    obtain ⟨field, hfield, comparison, operand, value, rfl, -⟩ :=
      (comparedShape_eq_some_iff Comparison.ofSign?_eq_some_iff).mp h
    obtain rfl := List.mem_singleton.mp hfield
    rfl
  | 5, hi =>
    cases hi
    obtain ⟨field, hfield, comparison, operand, values, rfl, -⟩ :=
      (comparedShape_eq_some_iff Equality.ofSign?_eq_some_iff).mp h
    obtain rfl := List.mem_singleton.mp hfield
    rfl
  | 6, hi =>
    cases hi
    obtain ⟨token, clause, rfl, -⟩ := flagShape_eq_some_iff.mp h
    rfl
  | 7, hi =>
    cases hi
    obtain ⟨field, hfield, comparison, operand, value, rfl, -⟩ :=
      (comparedShape_eq_some_iff Equality.ofSign?_eq_some_iff).mp h
    simp only [List.mem_cons, List.not_mem_nil, or_false] at hfield
    rcases hfield with rfl | rfl <;> rfl

/-- No two shapes accept the same tokens. -/
theorem apart_clauseShapes (tokens : List String) : Apart clauseShapes tokens := by
  unfold Apart
  rw [List.pairwise_iff_getElem]
  intro i j hi hj hlt
  cases hfirst : clauseShapes[i] tokens with
  | none => exact .inl rfl
  | some c =>
    cases hsecond : clauseShapes[j] tokens with
    | none => exact .inr rfl
    | some c' =>
      have hindex := shapeIndex_eq (List.getElem?_eq_getElem hi) hfirst
      have hindex' := shapeIndex_eq (List.getElem?_eq_getElem hj) hsecond
      omega

/-- A list of tokens is a clause if any of the shapes accepts it. -/
theorem ofTokens?_eq_some_iff : ofTokens? tokens = some c ↔
    ∃ shape ∈ clauseShapes, shape tokens = some c :=
  (apart_clauseShapes tokens).findSome?_eq_some_iff

end ChartCatalog.Condition
