import Mathlib.Logic.Relation
import ChartCatalog.Proofs.Condition.Blanks
import ChartCatalog.Proofs.Query.Parse
import ChartCatalog.Proofs.Text.LetterCase

/-!
# Letter case and blanks in a filter

A filter may be respelled (`Respelled`): the case of its ASCII letters may change,
blanks may stand for other blanks, and there may be more or fewer of them at the two ends
of a clause. What is read of a filter is, clause by clause, nothing for a blank clause
and else its tokens (`readings`), and that is the same for all spellings. So they
are all read as the same query, or all are refused for the clause at the same place, with
the same tokens (`parse_respelled`).
-/

namespace ChartCatalog

open Text

/-! ## Parts next to each other -/

namespace Text

variable {separator : Char}

/-- Where two texts meet, the last part of the one and the first part of the other become
one part. -/
theorem splitOn_append {s t left right : List Char} {first last : List (List Char)}
    (hs : splitOn separator s = first ++ [left]) (ht : splitOn separator t = right :: last) :
    splitOn separator (s ++ t) = first ++ (left ++ right) :: last := by
  induction s generalizing first left with
  | nil =>
    have hsingle : first = [] ∧ [left] = [[]] :=
      (List.append_eq_singleton_iff.mp hs.symm).resolve_right (by simp)
    obtain ⟨rfl, hleft⟩ := hsingle
    cases hleft
    exact ht
  | cons c s ih =>
    unfold splitOn at hs ht ih ⊢
    rw [splitWhere] at hs
    rw [List.cons_append, splitWhere]
    cases hparts : splitWhere (· == separator) s with
    | nil => exact absurd hparts (splitWhere_ne_nil _ s)
    | cons part parts =>
      rw [hparts] at hs ih
      cases hc : c == separator with
      | true =>
        -- a part ends here, so there is another one before the last
        rw [hc, if_pos rfl] at hs
        cases first with
        | nil => exact absurd hs (by simp)
        | cons head first =>
          obtain ⟨rfl, hrest⟩ := List.cons.inj hs
          rw [if_pos rfl, ih hrest, List.cons_append]
      | false =>
        rw [hc, if_neg (by decide)] at hs
        rw [if_neg (by decide)]
        cases first with
        | nil =>
          obtain ⟨rfl, rfl⟩ := List.cons.inj hs
          rw [ih (show [part] = [] ++ [part] from rfl)]
          rfl
        | cons head first =>
          obtain ⟨rfl, rfl⟩ := List.cons.inj hs
          rw [ih (show part :: (first ++ [left]) = (part :: first) ++ [left] from rfl)]
          rfl

/-- What stands in the middle of a text, without a separator in it, is in one part; it
begins the part if a separator stands before it, and ends the part if one stands after
it. -/
theorem exists_splitOn_middle (separator : Char) (before after : List Char) :
    ∃ first left right last,
      (∀ middle, separator ∉ middle → splitOn separator (before ++ middle ++ after) =
        first ++ (left ++ middle ++ right) :: last) ∧
      ((∀ c ∈ before.getLast?, c = separator) → left = []) ∧
      ((∀ c ∈ after.head?, c = separator) → right = []) := by
  obtain ⟨first, left, hbefore⟩ : ∃ first left, splitOn separator before = first ++ [left] :=
    ⟨_, _, (List.dropLast_append_getLast (splitWhere_ne_nil _ before)).symm⟩
  obtain ⟨right, last, hafter⟩ := List.exists_cons_of_ne_nil
    (show splitOn separator after ≠ [] from splitWhere_ne_nil _ after)
  refine ⟨first, left, right, last, fun middle hmiddle => ?_, fun hend => ?_, fun hend => ?_⟩
  · have hleft := splitOn_append hbefore (Query.splitOn_of_not_mem hmiddle)
    rw [splitOn_append hleft hafter]
  · rcases List.eq_nil_or_concat before with rfl | ⟨before, c, rfl⟩
    · have hsingle : first = [] ∧ [left] = [[]] :=
        (List.append_eq_singleton_iff.mp hbefore.symm).resolve_right (by simp)
      exact List.singleton_inj.mp hsingle.2
    · rw [List.concat_eq_append, List.getLast?_concat] at hend
      rw [hend c rfl, List.concat_eq_append, splitOn, splitWhere_append _ _ _ (by simp)] at hbefore
      exact (List.singleton_inj.mp (List.append_inj_right' hbefore rfl)).symm
  · cases after with
    | nil => exact (List.cons.inj hafter).1.symm
    | cons c after =>
      rw [hend c rfl, splitOn, splitWhere, if_pos (by simp)] at hafter
      exact (List.cons.inj hafter).1.symm

end Text

namespace Query

/-! ## Respelling -/

/-- One change to a filter. -/
inductive Respelling : List Char → List Char → Prop
  /-- Of the case of ASCII letters, anywhere. -/
  | letters {s t : List Char} : sameIgnoringCase s t = true → Respelling s t
  /-- Of blanks, anywhere, for other blanks. -/
  | blanks (before after : List Char) {blanks blanks' : List Char} :
    isBlankText blanks = true → isBlankText blanks' = true → blanks ≠ [] → blanks' ≠ [] →
      Respelling (before ++ blanks ++ after) (before ++ blanks' ++ after)
  /-- Of the blanks before a clause, which may also come and go. -/
  | clauseStart (before after : List Char) {blanks blanks' : List Char} :
    isBlankText blanks = true → isBlankText blanks' = true →
      (∀ c ∈ before.getLast?, c = separator) →
      Respelling (before ++ blanks ++ after) (before ++ blanks' ++ after)
  /-- Of the blanks after a clause, which may also come and go. -/
  | clauseEnd (before after : List Char) {blanks blanks' : List Char} :
    isBlankText blanks = true → isBlankText blanks' = true →
      (∀ c ∈ after.head?, c = separator) →
      Respelling (before ++ blanks ++ after) (before ++ blanks' ++ after)

/-- The second filter comes from the first by any number of changes. -/
def Respelled (filter filter' : String) : Prop :=
  Relation.ReflTransGen Respelling filter.toList filter'.toList

/-! ## What is read -/

/-- What is read of a clause: nothing if it is blank, else its tokens. -/
def reading (clause : List Char) : Option (List String) :=
  if isBlankText clause then none else some (Condition.clauseTokens (String.ofList clause))

/-- What is read of the clauses of a filter. -/
def readings (filter : List Char) : List (Option (List String)) :=
  (splitOn separator filter).map reading

theorem reading_congr {clause clause' : List Char}
    (hblank : isBlankText clause = isBlankText clause')
    (hscan : Token.scan (lowerCase clause) = Token.scan (lowerCase clause')) :
    reading clause = reading clause' := by
  unfold reading Condition.clauseTokens Token.tokens
  simp only [String.toList_ofList, hblank, hscan]

theorem isBlankText_middle {blanks : List Char} (hb : isBlankText blanks = true)
    (left right : List Char) :
    isBlankText (left ++ blanks ++ right) = (isBlankText left && isBlankText right) := by
  unfold isBlankText at hb ⊢
  rw [List.all_append, List.all_append, hb, Bool.and_true]

/-- Of blanks in a clause nothing is read but that they are there. -/
theorem scan_middle {blanks : List Char} (hb : isBlankText blanks = true) (hne : blanks ≠ [])
    (left right : List Char) : Token.scan (lowerCase (left ++ blanks ++ right)) =
      Token.scan (lowerCase left) ++ Token.scan (lowerCase right) := by
  obtain ⟨b, blanks, rfl⟩ := List.exists_cons_of_ne_nil hne
  rw [isBlankText, List.all_cons, Bool.and_eq_true] at hb
  rw [List.append_assoc, List.cons_append, Condition.scan_lowerCase_append_blank hb.1,
    Condition.scan_lowerCase_blanks_append hb.2]

/-- Blanks in the middle of a filter are in the middle of a clause. -/
theorem readings_congr_middle {before after blanks blanks' : List Char}
    (hb : isBlankText blanks = true) (hb' : isBlankText blanks' = true)
    (hscan : ∀ left right, ((∀ c ∈ before.getLast?, c = separator) → left = []) →
      ((∀ c ∈ after.head?, c = separator) → right = []) →
      Token.scan (lowerCase (left ++ blanks ++ right)) =
        Token.scan (lowerCase (left ++ blanks' ++ right))) :
    readings (before ++ blanks ++ after) = readings (before ++ blanks' ++ after) := by
  have hcomma : ∀ blanks, isBlankText blanks = true → separator ∉ blanks := by
    intro blanks hb hmem
    exact absurd (List.all_eq_true.mp hb separator hmem) (by decide)
  obtain ⟨first, left, right, last, hsplit, hleft, hright⟩ :=
    exists_splitOn_middle separator before after
  have hreading : reading (left ++ blanks ++ right) = reading (left ++ blanks' ++ right) := by
    apply reading_congr
    · rw [isBlankText_middle hb, isBlankText_middle hb']
    · exact hscan left right hleft hright
  unfold readings
  rw [hsplit blanks (hcomma blanks hb), hsplit blanks' (hcomma blanks' hb'), List.map_append,
    List.map_append, List.map_cons, List.map_cons, hreading]

/-- One change is not seen in what is read. -/
theorem readings_of_respelling {s t : List Char} (h : Respelling s t) :
    readings s = readings t := by
  cases h with
  | letters hsame =>
    have hasciiLower : ∀ s, readings (asciiLower s) = readings s := by
      intro s
      unfold readings
      rw [splitOn_asciiLower (by decide), List.map_map]
      refine List.map_congr_left fun clause _ => ?_
      exact reading_congr (isBlankText_asciiLower clause) (by rw [lowerCase_asciiLower])
    rw [← hasciiLower s, ← hasciiLower t, beq_iff_eq.mp hsame]
  | blanks before after hb hb' hne hne' =>
    apply readings_congr_middle hb hb'
    intro left right _ _
    rw [scan_middle hb hne, scan_middle hb' hne']
  | clauseStart before after hb hb' hend =>
    apply readings_congr_middle hb hb'
    intro left right hleft _
    rw [hleft hend, List.nil_append, List.nil_append, Condition.scan_lowerCase_blanks_append hb,
      Condition.scan_lowerCase_blanks_append hb']
  | clauseEnd before after hb hb' hend =>
    apply readings_congr_middle hb hb'
    intro left right _ hright
    rw [hright hend, List.append_nil, List.append_nil, Condition.scan_lowerCase_append_blanks hb,
      Condition.scan_lowerCase_append_blanks hb']

/-- Any number of changes are not. -/
theorem readings_of_changes {s t : List Char} (h : Relation.ReflTransGen Respelling s t) :
    readings s = readings t := by
  induction h with
  | refl => rfl
  | tail _ hstep ih => rw [ih, readings_of_respelling hstep]

/-! ## The query or the error -/

variable {filter filter' : String}

/-- The filter is refused for the clause at this place in it, counted from zero, and the
error shows these tokens. The clauses before are blank or conditions. -/
def FailsAt (filter : String) (position : Nat) (tokens : List String) : Prop :=
  ∃ before clause after, splitOn separator filter.toList = before ++ clause :: after ∧
    before.length = position ∧
    (∀ earlier ∈ before, isBlankText earlier = true ∨
      ∃ c, Condition.parse (String.ofList earlier) = .ok c) ∧
    isBlankText clause = false ∧
    parse filter = .error (.invalidCondition (trimString (String.ofList clause)) tokens)

/-- A clause of which something is read that is no condition. -/
def IsRefused (reading : Option (List String)) : Prop :=
  ∃ tokens, reading = some tokens ∧ Condition.ofTokens? tokens = none

theorem reading_eq_some_iff {clause : List Char} {tokens : List String} :
    reading clause = some tokens ↔
      isBlankText clause = false ∧ Condition.clauseTokens (String.ofList clause) = tokens := by
  unfold reading
  split
  · rename_i hblank
    simp [hblank]
  · rename_i hblank
    simp [hblank]

/-- What is not refused is skipped or is a condition. -/
theorem accepted_cases {clause : List Char} (h : ¬ IsRefused (reading clause)) :
    isBlankText clause = true ∨ ∃ c, Condition.parse (String.ofList clause) = .ok c := by
  cases hblank : isBlankText clause with
  | true => exact .inl rfl
  | false =>
    right
    have hreading := reading_eq_some_iff.mpr ⟨hblank, rfl⟩
    cases htokens : Condition.ofTokens? (Condition.clauseTokens (String.ofList clause)) with
    | none => exact absurd ⟨_, hreading, htokens⟩ h
    | some c => exact ⟨c, Condition.parse_eq_ok_iff.mpr htokens⟩

/-- The first clause that is refused is where reading the filter fails. -/
theorem failsAt_of_readings {before after : List (Option (List String))} {tokens : List String}
    (hreadings : readings filter.toList = before ++ some tokens :: after)
    (hbefore : ∀ reading ∈ before, ¬ IsRefused reading)
    (htokens : Condition.ofTokens? tokens = none) : FailsAt filter before.length tokens := by
  obtain ⟨first, rest, hsplit, rfl, hrest⟩ := List.map_eq_append_iff.mp hreadings
  obtain ⟨clause, last, rfl, hclause, -⟩ := List.map_eq_cons_iff.mp hrest
  obtain ⟨hblank, rfl⟩ := reading_eq_some_iff.mp hclause
  have hfirst : ∀ earlier ∈ first, isBlankText earlier = true ∨
      ∃ c, Condition.parse (String.ofList earlier) = .ok c := by
    intro earlier hearlier
    exact accepted_cases (hbefore _ (List.mem_map_of_mem hearlier))
  refine ⟨first, clause, last, hsplit, (List.length_map _).symm, hfirst, hblank, ?_⟩
  rw [parse_eq_error_iff]
  refine ⟨(first.filter (!isBlankText ·)).map String.ofList, String.ofList clause,
    (last.filter (!isBlankText ·)).map String.ofList, ?_, ?_, ?_⟩
  · unfold clauses
    rw [hsplit, List.filter_append, List.filter_cons, hblank]
    simp
  · intro x hx
    obtain ⟨earlier, hearlier, rfl⟩ := List.mem_map.mp hx
    obtain ⟨hmem, hnonblank⟩ := List.mem_filter.mp hearlier
    refine (hfirst earlier hmem).resolve_left fun hblank => ?_
    rw [hblank] at hnonblank
    exact absurd hnonblank (by decide)
  · rw [Condition.parse_eq_error_iff]
    refine ⟨rfl, fun c hc => ?_⟩
    rw [Condition.parse_eq_ok_iff, htokens] at hc
    exact absurd hc (by simp)

/-- If no clause is refused, what is read decides the query. -/
theorem parse_of_readings
    (h : ∀ reading ∈ readings filter.toList, ¬ IsRefused reading) :
    parse filter = .ok ⟨(readings filter.toList).filterMap (·.bind Condition.ofTokens?)⟩ := by
  rw [parse_eq_ok_iff]
  unfold clauses readings at *
  generalize splitOn separator filter.toList = split at h ⊢
  induction split with
  | nil => rfl
  | cons clause rest ih =>
    rw [List.map_cons, List.forall_mem_cons] at h
    have hrest := ih h.2
    rw [List.filter_cons, List.map_cons, List.filterMap_cons]
    cases hblank : isBlankText clause with
    | true =>
      have hreading : reading clause = none := if_pos hblank
      simpa [hreading] using hrest
    | false =>
      have hreading := reading_eq_some_iff.mpr ⟨hblank, rfl⟩
      obtain ⟨c, hc⟩ := (accepted_cases h.1).resolve_left (by simp [hblank])
      have htokens := Condition.parse_eq_ok_iff.mp hc
      simp only [hreading, Option.bind_some, htokens, Bool.not_false, if_true, List.map_cons, hc,
        hrest]

/-- Filters of which the same is read are the same query or fail at the same place. -/
theorem parse_congr_readings (h : readings filter.toList = readings filter'.toList) :
    (∃ query, parse filter = .ok query ∧ parse filter' = .ok query) ∨
      ∃ position tokens, FailsAt filter position tokens ∧ FailsAt filter' position tokens := by
  classical
  by_cases hall : ∀ reading ∈ readings filter.toList, ¬ IsRefused reading
  · left
    have hparse := parse_of_readings hall
    rw [h] at hall hparse
    exact ⟨_, hparse, parse_of_readings hall⟩
  · right
    simp only [not_forall, not_not] at hall
    obtain ⟨refused, hmem, hrefused⟩ := hall
    -- the first clause that is refused
    have hsome : ((readings filter.toList).find? (decide <| IsRefused ·)).isSome = true := by
      rw [List.find?_isSome]
      exact ⟨refused, hmem, decide_eq_true hrefused⟩
    obtain ⟨found, hfound⟩ := Option.isSome_iff_exists.mp hsome
    obtain ⟨hrefused, before, after, hreadings, hbefore⟩ :=
      List.find?_eq_some_iff_append.mp hfound
    obtain ⟨tokens, rfl, htokens⟩ := of_decide_eq_true hrefused
    have hbefore : ∀ reading ∈ before, ¬ IsRefused reading := by
      intro reading hreading
      simpa using hbefore reading hreading
    refine ⟨before.length, tokens, failsAt_of_readings hreadings hbefore htokens, ?_⟩
    rw [h] at hreadings
    exact failsAt_of_readings hreadings hbefore htokens

theorem map_isBlankText_eq (filter : List Char) :
    (splitOn separator filter).map isBlankText = (readings filter).map Option.isNone := by
  unfold readings
  rw [List.map_map]
  refine List.map_congr_left fun clause _ => ?_
  cases hblank : isBlankText clause <;> simp [reading, hblank]

/-- The case of ASCII letters and the amount of blanks do not matter. A respelled filter
has as many clauses, with the blank ones at the same places. It is read as the same query, or
both filters are refused for the clause at the same place, with the same tokens. -/
theorem parse_respelled (h : Respelled filter filter') :
    (splitOn separator filter.toList).map isBlankText =
      (splitOn separator filter'.toList).map isBlankText ∧
    ((∃ query, parse filter = .ok query ∧ parse filter' = .ok query) ∨
      ∃ position tokens, FailsAt filter position tokens ∧ FailsAt filter' position tokens) := by
  have hreadings := readings_of_changes h
  refine ⟨?_, parse_congr_readings hreadings⟩
  rw [map_isBlankText_eq, map_isBlankText_eq, hreadings]

/-- A filter that is refused for its second clause, with other blanks and capitals around a
capital sigma. The sigma ends a word in both spellings. -/
theorem parse_respelled_sigma :
    Respelled "lv>=40 , aΣ b" "LV>=40,\t AΣ\t\tB" ∧
      parse "lv>=40 , aΣ b" = .error (.invalidCondition "aΣ b" ["a", "ς", "b"]) ∧
      ∃ position tokens, FailsAt "lv>=40 , aΣ b" position tokens ∧
        FailsAt "LV>=40,\t AΣ\t\tB" position tokens := by
  have hletters : Respelling "lv>=40 , aΣ b".toList "LV>=40 , AΣ B".toList :=
    .letters (by decide +kernel)
  have hend : Respelling "LV>=40 , AΣ B".toList "LV>=40, AΣ B".toList :=
    .clauseEnd "LV>=40".toList ", AΣ B".toList (show isBlankText [' '] = true by decide)
      (show isBlankText [] = true by decide) (by simp [separator])
  have hstart : Respelling "LV>=40, AΣ B".toList "LV>=40,\t AΣ B".toList :=
    .clauseStart "LV>=40,".toList "AΣ B".toList (show isBlankText [' '] = true by decide)
      (show isBlankText ['\t', ' '] = true by decide) (by simp [separator])
  have hblanks : Respelling "LV>=40,\t AΣ B".toList "LV>=40,\t AΣ\t\tB".toList :=
    .blanks "LV>=40,\t AΣ".toList "B".toList (show isBlankText [' '] = true by decide)
      (show isBlankText ['\t', '\t'] = true by decide) (by decide) (by decide)
  have h : Respelled "lv>=40 , aΣ b" "LV>=40,\t AΣ\t\tB" :=
    (((Relation.ReflTransGen.single hletters).tail hend).tail hstart).tail hblanks
  have herror : parse "lv>=40 , aΣ b" = .error (.invalidCondition "aΣ b" ["a", "ς", "b"]) := by
    decide +kernel
  refine ⟨h, herror, (parse_respelled h).2.resolve_left ?_⟩
  rintro ⟨query, hparse, -⟩
  rw [herror] at hparse
  exact absurd hparse (by simp)

end Query

end ChartCatalog
