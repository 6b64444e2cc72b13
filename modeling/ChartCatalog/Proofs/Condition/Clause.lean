import ChartCatalog.Proofs.Condition.Shape

/-!
# The grammar of clauses, character by character

`Condition.Parts` lists the eight forms of a clause as a sequence of parts,
`Condition.Spelling` puts blanks around and between the parts. A clause is
accepted exactly if its lower case is spelled like this, and the condition is the
one that is spelled (`parse_eq_ok_iff_spelling`).

From left to right the parts are the tokens, which with blanks between them are
the clause. From right to left the parts have to be shown to be the tokens: a
field does not run into a sign, nor a sign into an operand, and an operand is one
token (`Parts.scan_eq`).
-/

namespace ChartCatalog.Condition

open Number Text Token

/-- The parts of a clause and the condition that they spell. -/
inductive Parts : List (List Char) → Condition → Prop
  | never {field : String} :
    field ∈ ["diff", "ver", "folder"] → Parts [field.toList, ['=']] .never
  | level (comparison : Comparison) {s : List Char} {value : UInt8} :
    LevelSpelling s value →
      Parts ["lv".toList, comparison.sign.toList, s] (.level comparison value)
  | halfLevel (comparison : HalfComparison) {s : List Char} {value : UInt8} {half : HalfLevel} :
    HalfLevelSpelling s value half →
      Parts ["lv".toList, comparison.sign.toList, s] (.halfLevel comparison value half)
  | rating (comparison : Comparison) {s : List Char} {value : Binary64} :
    RatingSpelling s value →
      Parts ["rat".toList, comparison.sign.toList, s] (.rating comparison value)
  | sranLevel (comparison : Comparison) {s : List Char} {value : SranLevel} :
    s ∈ value.spellings →
      Parts ["srlv".toList, comparison.sign.toList, s] (.sranLevel comparison value)
  | difficulty (comparison : Equality) {s : List Char} {values : List Difficulty} :
    DifficultySpelling s values →
      Parts ["diff".toList, comparison.sign.toList, s] (.difficulty comparison values)
  | flag {s : List Char} {clause : FlagClause} : clause.Spelling s → Parts [s] (.flag clause)
  | folder {field : String} (comparison : Equality) {s : List Char} {value : Folder} :
    field ∈ ["ver", "folder"] → value.Spelling s →
      Parts [field.toList, comparison.sign.toList, s] (.folder comparison value)

/-- The text is the clause of a condition: its parts with any blanks before,
between and after them. -/
def Spelling (t : List Char) (c : Condition) : Prop :=
  ∃ parts, Parts parts c ∧ Spaced parts t

/-! ## The parts are the tokens -/

theorem comparison_sign_mem (comparison : Comparison) : comparison.sign.toList ∈ signs := by
  cases comparison <;> decide

theorem halfComparison_sign_mem (comparison : HalfComparison) :
    comparison.sign.toList ∈ signs := by
  cases comparison <;> decide

theorem equality_sign_mem (comparison : Equality) : comparison.sign.toList ∈ signs := by
  cases comparison <;> decide

theorem isWord_field {field : String} (h : field ∈ ["diff", "ver", "folder"]) :
    IsWord field.toList := by
  have all : ∀ field ∈ ["diff", "ver", "folder"], IsWord field.toList := by decide
  exact all field h

theorem scan_comparison {field sign s t : List Char} (hfield : IsWord field) (hsign : sign ∈ signs)
    (hs : IsOperand s) (h : Spaced [field, sign, s] t) : scan t = [field, sign, s] := by
  apply scan_of_spaced h
  · simp only [List.forall_mem_cons]
    exact ⟨isLexeme_word hfield, isLexeme_sign hsign, hs.isLexeme, List.forall_mem_nil _⟩
  · have hends : EndsBefore sign s := by
      cases s with
      | nil => exact absurd rfl hs.isLexeme.ne_nil
      | cons c s => exact endsBefore_sign hsign (hs.head_ne c rfl) s
    simp only [List.isChain_cons_cons, List.isChain_singleton, and_true]
    exact ⟨endsBefore_word_sign hfield hsign, hends⟩

/-- However they are spaced, the parts of a clause are its tokens. -/
theorem Parts.scan_eq {parts : List (List Char)} {c : Condition} {t : List Char}
    (h : Parts parts c) (ht : Spaced parts t) : scan t = parts := by
  cases h with
  | never hfield =>
    have hword := isWord_field hfield
    apply scan_of_spaced ht
    · simp only [List.forall_mem_cons]
      exact ⟨isLexeme_word hword, isLexeme_sign (by decide), List.forall_mem_nil _⟩
    · simp only [List.isChain_cons_cons, List.isChain_singleton, and_true]
      exact endsBefore_word_sign hword (by decide)
  | level comparison hs =>
    exact scan_comparison (by decide) (comparison_sign_mem comparison) hs.isOperand ht
  | halfLevel comparison hs =>
    exact scan_comparison (by decide) (halfComparison_sign_mem comparison) hs.isOperand ht
  | rating comparison hs =>
    exact scan_comparison (by decide) (comparison_sign_mem comparison) hs.isOperand ht
  | sranLevel comparison hs =>
    exact scan_comparison (by decide) (comparison_sign_mem comparison)
      (SranLevel.isOperand_of_mem_spellings hs) ht
  | difficulty comparison hs =>
    exact scan_comparison (by decide) (equality_sign_mem comparison) (isOperand_word hs.isWord) ht
  | flag hs =>
    apply scan_of_spaced ht
    · simp only [List.forall_mem_cons]
      exact ⟨hs.isLexeme, List.forall_mem_nil _⟩
    · exact List.isChain_singleton _
  | folder comparison hfield hs =>
    have hword := isWord_field (List.mem_cons_of_mem "diff" hfield)
    exact scan_comparison hword (equality_sign_mem comparison) hs.isOperand ht

/-! ## What the tokens denote -/

theorem trim_operand {s : List Char} (h : IsOperand s) : trim s = s :=
  trim_of_not_blank fun _ hc => h.isLexeme.isBlank_eq hc

theorem eq_map_toList {parts : List (List Char)} {tokens : List String}
    (h : parts.map String.ofList = tokens) : parts = tokens.map String.toList := by
  have hid : String.toList ∘ String.ofList = id := funext fun _ => String.toList_ofList
  rw [← h, List.map_map, hid, List.map_id]

section Compared

variable {κ α : Type} {fields : List String} {sign : κ → String} {sign? : String → Option κ}
  {operand? : String → Option α} {condition : κ → α → Condition} {s t : List Char} {c : Condition}

/-- A field, a sign and an operand that are read are the tokens of their condition. -/
theorem comparedShape_of_operand
    (hsign : ∀ {s : String} {comparison : κ}, sign? s = some comparison ↔ s = sign comparison)
    {field : String} (hfield : field ∈ fields) (comparison : κ) (value : α)
    (hvalue : operand? (.ofList s) = some value) :
    comparedShape fields sign? operand? condition
      ([field.toList, (sign comparison).toList, s].map String.ofList) =
        some (condition comparison value) := by
  rw [comparedShape_eq_some_iff hsign]
  exact ⟨field, hfield, comparison, .ofList s, value, by simp, hvalue, rfl⟩

/-- The tokens of a text that a compared shape accepts are a field, a sign and an operand, and
the operand is a token of the text. -/
theorem scan_of_comparedShape
    (hsign : ∀ {s : String} {comparison : κ}, sign? s = some comparison ↔ s = sign comparison)
    (h : comparedShape fields sign? operand? condition ((scan t).map String.ofList) = some c) :
    ∃ field ∈ fields, ∃ comparison s value, s ∈ scan t ∧
      scan t = [field.toList, (sign comparison).toList, s] ∧
      operand? (.ofList s) = some value ∧ c = condition comparison value := by
  obtain ⟨field, hfield, comparison, operand, value, htokens, hvalue, hc⟩ :=
    (comparedShape_eq_some_iff hsign).mp h
  have hscan := eq_map_toList htokens
  refine ⟨field, hfield, comparison, operand.toList, value, ?_, hscan, ?_, hc⟩
  · rw [hscan]
    simp
  · rw [String.ofList_toList]
    exact hvalue

end Compared

theorem Parts.ofTokens?_eq {parts : List (List Char)} {c : Condition} (h : Parts parts c) :
    ofTokens? (parts.map String.ofList) = some c := by
  rw [ofTokens?_eq_some_iff]
  cases h with
  | never hfield =>
    refine ⟨neverShape, by simp [clauseShapes], neverShape_eq_some_iff.mpr ?_⟩
    exact ⟨_, hfield, by simp, rfl⟩
  | level comparison hs =>
    refine ⟨levelShape, by simp [clauseShapes], ?_⟩
    apply comparedShape_of_operand Comparison.ofSign?_eq_some_iff List.mem_cons_self comparison
    rw [String.toList_ofList]
    exact levelOf?_eq_some_iff.mpr hs
  | @halfLevel comparison s value half hs =>
    refine ⟨halfLevelShape, by simp [clauseShapes], ?_⟩
    apply comparedShape_of_operand HalfComparison.ofSign?_eq_some_iff List.mem_cons_self
      comparison (value, half)
    rw [String.toList_ofList]
    exact halfLevelOf?_eq_some_iff.mpr hs
  | rating comparison hs =>
    refine ⟨ratingShape, by simp [clauseShapes], ?_⟩
    apply comparedShape_of_operand Comparison.ofSign?_eq_some_iff List.mem_cons_self comparison
    rw [String.toList_ofList]
    exact hs.ratingOf?_eq
  | sranLevel comparison hs =>
    refine ⟨sranLevelShape, by simp [clauseShapes], ?_⟩
    apply comparedShape_of_operand Comparison.ofSign?_eq_some_iff List.mem_cons_self comparison
    rw [SranLevel.ofText?, String.toList_ofList,
      trim_operand (SranLevel.isOperand_of_mem_spellings hs)]
    exact SranLevel.ofSpelling?_eq_some_iff.mpr hs
  | difficulty comparison hs =>
    refine ⟨difficultyShape, by simp [clauseShapes], ?_⟩
    apply comparedShape_of_operand Equality.ofSign?_eq_some_iff List.mem_cons_self comparison
    rw [String.toList_ofList]
    exact (difficultiesOf?_eq_some_iff hs.isWord.ne_nil).mpr hs
  | @flag s clause hs =>
    refine ⟨flagShape, by simp [clauseShapes], flagShape_eq_some_iff.mpr ?_⟩
    exact ⟨.ofList s, clause, rfl, FlagClause.ofToken?_eq_some_iff.mpr hs, rfl⟩
  | folder comparison hfield hs =>
    refine ⟨folderShape, by simp [clauseShapes], ?_⟩
    apply comparedShape_of_operand Equality.ofSign?_eq_some_iff hfield comparison
    rw [Folder.ofText?, String.toList_ofList, trim_operand hs.isOperand]
    exact hs.ofTag?_eq

theorem trim_of_mem_scan {s t : List Char} (h : s ∈ scan t) : trim s = s :=
  trim_of_not_blank fun _ hc => isBlank_of_mem_scan h hc

/-- Tokens that are a condition are its parts. -/
theorem parts_of_ofTokens? {t : List Char} {c : Condition} (ht : ∀ d ∈ t, d.isUpper = false)
    (h : ofTokens? ((scan t).map String.ofList) = some c) : Parts (scan t) c := by
  obtain ⟨shape, hmem, hshape⟩ := ofTokens?_eq_some_iff.mp h
  simp only [clauseShapes, List.mem_cons, List.not_mem_nil, or_false] at hmem
  rcases hmem with rfl | rfl | rfl | rfl | rfl | rfl | rfl | rfl
  · obtain ⟨field, hfield, htokens, rfl⟩ := neverShape_eq_some_iff.mp hshape
    rw [eq_map_toList htokens]
    exact .never hfield
  · obtain ⟨field, hfield, comparison, s, value, -, hscan, hvalue, rfl⟩ :=
      scan_of_comparedShape Comparison.ofSign?_eq_some_iff hshape
    obtain rfl := List.mem_singleton.mp hfield
    rw [String.toList_ofList] at hvalue
    rw [hscan]
    exact .level comparison (levelOf?_eq_some_iff.mp hvalue)
  · obtain ⟨field, hfield, comparison, s, value, -, hscan, hvalue, rfl⟩ :=
      scan_of_comparedShape HalfComparison.ofSign?_eq_some_iff hshape
    obtain rfl := List.mem_singleton.mp hfield
    rw [String.toList_ofList] at hvalue
    rw [hscan]
    exact .halfLevel comparison (halfLevelOf?_eq_some_iff.mp hvalue)
  · obtain ⟨field, hfield, comparison, s, value, htoken, hscan, hvalue, rfl⟩ :=
      scan_of_comparedShape Comparison.ofSign?_eq_some_iff hshape
    obtain rfl := List.mem_singleton.mp hfield
    rw [String.toList_ofList] at hvalue
    rw [hscan]
    exact .rating comparison (ratingSpelling_of_token htoken hvalue)
  · obtain ⟨field, hfield, comparison, s, value, htoken, hscan, hvalue, rfl⟩ :=
      scan_of_comparedShape Comparison.ofSign?_eq_some_iff hshape
    obtain rfl := List.mem_singleton.mp hfield
    rw [SranLevel.ofText?, String.toList_ofList, trim_of_mem_scan htoken] at hvalue
    rw [hscan]
    exact .sranLevel comparison (SranLevel.ofSpelling?_eq_some_iff.mp hvalue)
  · obtain ⟨field, hfield, comparison, s, values, htoken, hscan, hvalues, rfl⟩ :=
      scan_of_comparedShape Equality.ofSign?_eq_some_iff hshape
    obtain rfl := List.mem_singleton.mp hfield
    rw [String.toList_ofList] at hvalues
    rw [hscan]
    exact .difficulty comparison
      ((difficultiesOf?_eq_some_iff (ne_nil_of_mem_scan htoken)).mp hvalues)
  · obtain ⟨token, clause, htokens, hclause, rfl⟩ := flagShape_eq_some_iff.mp hshape
    rw [eq_map_toList htokens]
    rw [← String.ofList_toList (s := token), FlagClause.ofToken?_eq_some_iff] at hclause
    exact .flag hclause
  · obtain ⟨field, hfield, comparison, s, value, htoken, hscan, hvalue, rfl⟩ :=
      scan_of_comparedShape Equality.ofSign?_eq_some_iff hshape
    have hlower : asciiLower s = s := by
      apply asciiLower_of_not_isUpper
      intro d hd
      exact ht d ((spaced_scan t).mem_of_mem htoken hd)
    rw [Folder.ofText?, String.toList_ofList, trim_of_mem_scan htoken,
      Folder.ofTag?_eq_some_iff, hlower] at hvalue
    rw [hscan]
    exact .folder comparison hfield hvalue

/-! ## Clauses -/

theorem parse_eq_ok_iff {clause : String} {c : Condition} :
    parse clause = .ok c ↔ ofTokens? (clauseTokens clause) = some c := by
  unfold parse
  dsimp only
  split
  · rename_i c' h
    rw [h]
    simp
  · rename_i h
    rw [h]
    simp

/-- However a condition is spelled, it is the result. -/
theorem parse_of_parts {clause : String} {parts : List (List Char)} {c : Condition}
    (h : Parts parts c) (hclause : Spaced parts (lowerCase clause.toList)) :
    parse clause = .ok c := by
  rw [parse_eq_ok_iff, clauseTokens, tokens, String.toList_ofList, h.scan_eq hclause]
  exact h.ofTokens?_eq

/-- The tokens of a clause that is accepted are the parts of the result. -/
theorem parts_of_parse {clause : String} {c : Condition} (h : parse clause = .ok c) :
    Parts (scan (lowerCase clause.toList)) c := by
  rw [parse_eq_ok_iff, clauseTokens, tokens, String.toList_ofList] at h
  exact parts_of_ofTokens? (fun d hd => isUpper_of_mem_lowerCase hd) h

theorem Parts.wellFormed {parts : List (List Char)} {c : Condition} (h : Parts parts c) :
    c.WellFormed := by
  cases h with
  | never => trivial
  | level comparison hs => exact ⟨hs.lowest_le, hs.le_highest⟩
  | halfLevel comparison hs =>
    obtain ⟨number, hnumber, -⟩ := hs
    exact ⟨hnumber.lowest_le, hnumber.le_highest⟩
  | rating comparison hs => exact hs.isFinite
  | sranLevel => trivial
  | difficulty comparison hs =>
    obtain ⟨letters, hne, -, rfl⟩ := hs
    refine ⟨fun hnil => ?_, nodup_distinct letters⟩
    obtain ⟨letter, hletter⟩ := List.exists_mem_of_ne_nil letters hne
    have hmem := mem_distinct.mpr hletter
    rw [hnil] at hmem
    exact absurd hmem List.not_mem_nil
  | flag => trivial
  | folder comparison hfield hs =>
    cases hs with
    | consumer => trivial
    | bemani => trivial
    | version _ hlow hhigh => exact ⟨hlow, hhigh⟩

/-- What a clause denotes is well formed. -/
theorem wellFormed_of_parse {clause : String} {c : Condition} (h : parse clause = .ok c) :
    c.WellFormed :=
  (parts_of_parse h).wellFormed

/-- A clause is accepted exactly if its lower case is spelled as a condition, and
that condition is the result. -/
theorem parse_eq_ok_iff_spelling (clause : String) (c : Condition) :
    parse clause = .ok c ↔ Spelling (lowerCase clause.toList) c := by
  constructor
  · intro h
    exact ⟨_, parts_of_parse h, spaced_scan _⟩
  · rintro ⟨parts, hparts, hspaced⟩
    exact parse_of_parts hparts hspaced

end ChartCatalog.Condition
