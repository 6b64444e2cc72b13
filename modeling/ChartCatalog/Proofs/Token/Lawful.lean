import Mathlib.Data.List.TakeWhile
import ChartCatalog.Proofs.Token.Shape

/-!
# The eight shapes are lawful

Each shape of token obeys the laws of `Shape.Lawful`, and so does their
combination `length` (`lawful_length`), which decides where a token ends.
-/

namespace ChartCatalog.Token

open Text

/-! ## Runs of characters of one class -/

section Runs

variable {p : Char → Bool}

theorem takeWhile_append_cons {b : Char} (hb : p b = false) (s t : List Char) :
    (s ++ b :: t).takeWhile p = s.takeWhile p := by
  induction s with
  | nil => simp [hb]
  | cons c s ih => simp only [List.cons_append, List.takeWhile_cons, ih]

theorem dropWhile_append_cons {b : Char} (hb : p b = false) (s t : List Char) :
    (s ++ b :: t).dropWhile p = s.dropWhile p ++ b :: t := by
  induction s with
  | nil => simp [hb]
  | cons c s ih =>
    simp only [List.cons_append, List.dropWhile_cons, ih]
    split <;> rfl

theorem take_length_takeWhile (s : List Char) :
    s.take (s.takeWhile p).length = s.takeWhile p :=
  (List.prefix_iff_eq_take.mp (List.takeWhile_prefix p)).symm

theorem takeWhile_takeWhile_append (s t : List Char) :
    (s.takeWhile p ++ t).takeWhile p = s.takeWhile p ++ t.takeWhile p :=
  List.takeWhile_append_of_pos fun _ hc => List.all_eq_true.mp List.all_takeWhile _ hc

/-- The shape that takes all characters of a class that has no blanks. -/
theorem lawful_run (hblank : ∀ b, isBlank b = true → p b = false) :
    Shape.Lawful fun s => (s.takeWhile p).length :=
  .of_extend
    (fun s => (List.takeWhile_prefix p).length_le)
    (fun s t => by
      simp only [take_length_takeWhile, takeWhile_takeWhile_append, List.length_append]
      omega)
    (fun s t b hb => by rw [takeWhile_append_cons (hblank b hb)])

end Runs

/-! ## Classes of characters -/

/-- The characters before the `=` of a sign of two. -/
def isLongSignStart (c : Char) : Bool := c = '!' || c = '>' || c = '<'

/-- The signs of one character. -/
def isShortSign (c : Char) : Bool := c = '=' || c = '>' || c = '<'

/-- The numbers with sublevels. -/
def isMarkedDigit (c : Char) : Bool := c = '1' || c = '2'

/-- The marks before a word. -/
def isWordMark (c : Char) : Bool := c = '+' || c = '!' || c = '-'

theorem mem_of_isLongSignStart {c : Char} (h : isLongSignStart c = true) :
    c ∈ ['!', '>', '<'] := by
  simpa [isLongSignStart, or_assoc] using h

theorem mem_of_isShortSign {c : Char} (h : isShortSign c = true) : c ∈ ['=', '>', '<'] := by
  simpa [isShortSign, or_assoc] using h

theorem mem_of_isMarkedDigit {c : Char} (h : isMarkedDigit c = true) : c ∈ ['1', '2'] := by
  simpa [isMarkedDigit] using h

theorem mem_of_isWordMark {c : Char} (h : isWordMark c = true) : c ∈ ['+', '!', '-'] := by
  simpa [isWordMark, or_assoc] using h

theorem mem_of_isSublevelMark {c : Char} (h : isSublevelMark c = true) :
    c ∈ ['a', '-', '弱', 'b', '+', '強'] := by
  simpa [isSublevelMark, or_assoc] using h

theorem mem_of_isHalfLetter {c : Char} (h : isHalfLetter c = true) : c ∈ ['e', 'm', 'h'] := by
  simpa [isHalfLetter, or_assoc] using h

theorem isNumberChar_iff {c : Char} :
    isNumberChar c = true ↔ isDecimalDigit c = true ∨ c ∈ ['+', '-', '.'] := by
  simp only [isNumberChar, Bool.or_eq_true, decide_eq_true_eq, List.mem_cons, List.not_mem_nil,
    or_false]
  constructor <;> rintro h <;> grind

theorem isDecimalDigit_of_isBlank {b : Char} (hb : isBlank b = true) :
    isDecimalDigit b = false :=
  eq_false_of_class isBlank_of_isDecimalDigit hb

theorem isSmallLetter_of_isBlank {b : Char} (hb : isBlank b = true) :
    isSmallLetter b = false :=
  eq_false_of_class isBlank_of_isSmallLetter hb

theorem isNumberChar_of_isBlank {b : Char} (hb : isBlank b = true) : isNumberChar b = false := by
  refine eq_false_of_class (fun h => ?_) hb
  rcases isNumberChar_iff.mp h with h | h
  · exact isBlank_of_isDecimalDigit h
  · have all : ∀ d ∈ ['+', '-', '.'], isBlank d = false := forall_mem_of_all (by decide)
    exact all b h

theorem lawful_letters : Shape.Lawful letters := lawful_run fun _ => isSmallLetter_of_isBlank

theorem lawful_number : Shape.Lawful number := lawful_run fun _ => isNumberChar_of_isBlank

/-! ## Shapes of a fixed form -/

/-- The text begins with one character of each of the classes. -/
def beginsWith : List (Char → Bool) → List Char → Bool
  | [], _ => true
  | p :: classes, c :: s => p c && beginsWith classes s
  | _ :: _, [] => false

/-- The shape that takes one character of each of the classes. -/
def fixed (classes : List (Char → Bool)) : Shape := fun s =>
  if beginsWith classes s then classes.length else 0

theorem length_le_of_beginsWith {classes : List (Char → Bool)} {s : List Char}
    (h : beginsWith classes s = true) : classes.length ≤ s.length := by
  induction classes generalizing s with
  | nil => exact Nat.zero_le _
  | cons p classes ih =>
    cases s with
    | nil => exact absurd h (by simp [beginsWith])
    | cons c s =>
      rw [beginsWith, Bool.and_eq_true] at h
      exact Nat.succ_le_succ (ih h.2)

theorem beginsWith_take_append {classes : List (Char → Bool)} {s : List Char}
    (h : beginsWith classes s = true) (t : List Char) :
    beginsWith classes (s.take classes.length ++ t) = true := by
  induction classes generalizing s with
  | nil => rfl
  | cons p classes ih =>
    cases s with
    | nil => exact absurd h (by simp [beginsWith])
    | cons c s =>
      rw [beginsWith, Bool.and_eq_true] at h
      rw [List.length_cons, List.take_succ_cons, List.cons_append, beginsWith, Bool.and_eq_true]
      exact ⟨h.1, ih h.2⟩

theorem beginsWith_append_cons {classes : List (Char → Bool)} {b : Char}
    (hb : ∀ p ∈ classes, p b = false) (s t : List Char) :
    beginsWith classes (s ++ b :: t) = beginsWith classes s := by
  induction classes generalizing s with
  | nil => rfl
  | cons p classes ih =>
    cases s with
    | nil => simp [beginsWith, hb p List.mem_cons_self]
    | cons c s =>
      rw [List.cons_append, beginsWith, beginsWith, ih fun p hp => hb p (List.mem_cons_of_mem _ hp)]

theorem lawful_fixed {classes : List (Char → Bool)}
    (hblank : ∀ b, isBlank b = true → ∀ p ∈ classes, p b = false) :
    (fixed classes).Lawful := by
  refine .of_extend (fun s => ?_) (fun s t => ?_) (fun s t b hb => ?_)
  · unfold fixed
    split
    · exact length_le_of_beginsWith ‹_›
    · exact Nat.zero_le _
  · unfold fixed
    split
    · simp only [beginsWith_take_append ‹_› t, if_true, Nat.le_refl]
    · exact Nat.zero_le _
  · rw [fixed, fixed, beginsWith_append_cons (hblank b hb)]

theorem longSign_eq_fixed : longSign = fixed [isLongSignStart, (· == '=')] := by
  funext s
  match s with
  | [] => rfl
  | [c] => simp [longSign, fixed, beginsWith]
  | c :: d :: s =>
    by_cases hd : d = '='
    · subst hd
      simp [longSign, fixed, beginsWith, isLongSignStart, or_assoc]
    · simp [longSign, fixed, beginsWith, hd]

theorem shortSign_eq_fixed : shortSign = fixed [isShortSign] := by
  funext s
  cases s <;> simp [shortSign, fixed, beginsWith, isShortSign, or_assoc]

theorem markedNumber_eq_fixed : markedNumber = fixed [isMarkedDigit, isSublevelMark] := by
  funext s
  match s with
  | [] => rfl
  | [c] => simp [markedNumber, fixed, beginsWith]
  | c :: d :: s => simp [markedNumber, fixed, beginsWith, isMarkedDigit]

/-- With two digits if that is possible, else with one. -/
theorem halfLevel_eq_firstOf :
    halfLevel = Shape.firstOf [fixed [isDecimalDigit, isDecimalDigit, isHalfLetter],
      fixed [isDecimalDigit, isHalfLetter]] := by
  funext s
  match s with
  | [] => rfl
  | [d] => simp [halfLevel, Shape.firstOf, fixed, beginsWith]
  | [d, e] =>
    cases hd : isDecimalDigit d <;> simp [halfLevel, Shape.firstOf, fixed, beginsWith, hd]
  | d :: e :: f :: s =>
    cases hd : isDecimalDigit d <;> cases he : isDecimalDigit e <;>
      cases hf : isHalfLetter f <;> simp [halfLevel, Shape.firstOf, fixed, beginsWith, hd, he, hf]

theorem lawful_longSign : Shape.Lawful longSign := by
  rw [longSign_eq_fixed]
  apply lawful_fixed
  intro b hb
  have hstart := eq_false_of_mem mem_of_isLongSignStart (by decide) hb
  have hsign : b ≠ '=' := by
    rintro rfl
    exact absurd hb (by decide)
  simp [hstart, hsign]

theorem lawful_shortSign : Shape.Lawful shortSign := by
  rw [shortSign_eq_fixed]
  apply lawful_fixed
  intro b hb
  simpa using eq_false_of_mem mem_of_isShortSign (by decide) hb

theorem lawful_markedNumber : Shape.Lawful markedNumber := by
  rw [markedNumber_eq_fixed]
  apply lawful_fixed
  intro b hb
  have hnumber := eq_false_of_mem mem_of_isMarkedDigit (by decide) hb
  have hmark := eq_false_of_mem mem_of_isSublevelMark (by decide) hb
  simp [hnumber, hmark]

theorem lawful_halfLevel : Shape.Lawful halfLevel := by
  rw [halfLevel_eq_firstOf]
  apply Shape.lawful_firstOf
  simp only [List.forall_mem_cons]
  refine ⟨lawful_fixed ?_, lawful_fixed ?_, List.forall_mem_nil _⟩
  all_goals
    intro b hb
    have hletter := eq_false_of_mem mem_of_isHalfLetter (by decide) hb
    simp [isDecimalDigit_of_isBlank hb, hletter]

/-! ## A mark in front -/

/-- A shape with an optional mark in front of what it takes. -/
def marked (isMark : Char → Bool) (shape : Shape) : Shape
  | c :: s => if isMark c then (if shape s = 0 then 0 else shape s + 1) else shape (c :: s)
  | [] => shape []

theorem marked_of_not_mark {isMark : Char → Bool} {shape : Shape} {c : Char}
    (hc : isMark c = false) (s : List Char) : marked isMark shape (c :: s) = shape (c :: s) := by
  rw [marked, hc, if_neg (by decide)]

theorem marked_of_mark {isMark : Char → Bool} {shape : Shape} {c : Char} (hc : isMark c = true)
    (s : List Char) :
    marked isMark shape (c :: s) = if shape s = 0 then 0 else shape s + 1 := by
  rw [marked, if_pos hc]

theorem lawful_marked {isMark : Char → Bool} {shape : Shape} (h : shape.Lawful)
    (hblank : ∀ b, isBlank b = true → isMark b = false) : (marked isMark shape).Lawful := by
  have hnil : shape [] = 0 := Nat.le_zero.mp (h.le_length [])
  refine ⟨fun s => ?_, fun s => ?_, fun s t hs => ?_, fun s t b hb => ?_⟩
  all_goals cases s with | nil => ?_ | cons c s => ?_
  · exact h.le_length []
  · cases hc : isMark c with
    | true =>
      have hle := h.le_length s
      rw [marked_of_mark hc, List.length_cons]
      split <;> omega
    | false =>
      rw [marked_of_not_mark hc]
      exact h.le_length (c :: s)
  · rw [List.take_nil]
  · cases hc : isMark c with
    | true =>
      rw [marked_of_mark hc]
      split
      · exact hnil
      · rw [List.take_succ_cons, marked_of_mark hc, h.take, if_neg ‹_›]
    | false =>
      have htake := h.take (c :: s)
      rw [marked_of_not_mark hc]
      cases hn : shape (c :: s) with
      | zero => exact hnil
      | succ n =>
        rw [hn, List.take_succ_cons] at htake
        rw [List.take_succ_cons, marked_of_not_mark hc, htake]
  · exact absurd hnil hs
  · rw [List.cons_append]
    cases hc : isMark c with
    | true =>
      rw [marked_of_mark hc] at hs ⊢
      split at hs
      · exact absurd rfl hs
      · rw [if_neg (h.mono s t ‹_›)]
        exact Nat.succ_ne_zero _
    | false =>
      rw [marked_of_not_mark hc] at hs ⊢
      exact h.mono (c :: s) t hs
  · rw [List.nil_append, marked_of_not_mark (hblank b hb)]
    exact h.blank [] t b hb
  · have hrest := h.blank s t b hb
    have hall := h.blank (c :: s) t b hb
    rw [List.cons_append] at hall ⊢
    rw [marked, marked, hrest, hall]

theorem sublevelCode_eq_marked : sublevelCode = marked (· == '0') markedNumber := by
  funext s
  unfold sublevelCode marked
  split
  · simp
  · rename_i hzero
    cases s with
    | nil => rfl
    | cons c s =>
      have hc : c ≠ '0' := fun e => hzero s (by rw [e])
      simp [hc]

theorem word_eq_marked : word = marked isWordMark letters := by
  funext s
  cases s with
  | nil => rfl
  | cons c s => simp only [word, marked, isWordMark, Bool.or_eq_true, decide_eq_true_eq, or_assoc]

theorem lawful_sublevelCode : Shape.Lawful sublevelCode := by
  rw [sublevelCode_eq_marked]
  apply lawful_marked lawful_markedNumber
  intro b hb
  rw [beq_eq_false_iff_ne]
  rintro rfl
  exact absurd hb (by decide)

theorem lawful_word : Shape.Lawful word := by
  rw [word_eq_marked]
  apply lawful_marked lawful_letters
  intro b hb
  exact eq_false_of_mem mem_of_isWordMark (by decide) hb

/-! ## Shapes with digits -/

theorem decimal_of_point {whole t : List Char} (hne : whole ≠ [])
    (hwhole : ∀ c ∈ whole, isDecimalDigit c = true) :
    decimal (whole ++ '.' :: t) = whole.length + 1 + (t.takeWhile isDecimalDigit).length := by
  have hpoint : isDecimalDigit '.' = false := by decide
  have htake : (whole ++ '.' :: t).takeWhile isDecimalDigit = whole := by
    rw [takeWhile_append_cons hpoint, List.takeWhile_eq_self_iff.mpr hwhole]
  have hdrop : (whole ++ '.' :: t).dropWhile isDecimalDigit = '.' :: t := by
    rw [dropWhile_append_cons hpoint, List.dropWhile_eq_nil_iff.mpr hwhole, List.nil_append]
  simp only [decimal, htake, hdrop, if_neg hne]

theorem exists_point_of_decimal {s : List Char} (h : decimal s ≠ 0) :
    ∃ whole t, s = whole ++ '.' :: t ∧ whole ≠ [] ∧ ∀ c ∈ whole, isDecimalDigit c = true := by
  unfold decimal at h
  dsimp only at h
  split at h
  · rename_i t hdrop
    refine ⟨s.takeWhile isDecimalDigit, t, ?_, fun hnil => h (if_pos hnil),
      List.all_eq_true.mp List.all_takeWhile⟩
    rw [← hdrop, List.takeWhile_append_dropWhile]
  · exact absurd rfl h

theorem lawful_decimal : Shape.Lawful decimal := by
  refine .of_extend (fun s => ?_) (fun s t => ?_) (fun s t b hb => ?_)
  · by_cases h : decimal s = 0
    · rw [h]
      exact Nat.zero_le _
    · obtain ⟨whole, t, rfl, hne, hwhole⟩ := exists_point_of_decimal h
      have hrun := (List.takeWhile_prefix isDecimalDigit (l := t)).length_le
      rw [decimal_of_point hne hwhole, List.length_append, List.length_cons]
      omega
  · by_cases h : decimal s = 0
    · rw [h]
      exact Nat.zero_le _
    · obtain ⟨whole, u, rfl, hne, hwhole⟩ := exists_point_of_decimal h
      have htaken : (whole ++ '.' :: u).take (decimal (whole ++ '.' :: u)) =
          whole ++ '.' :: u.takeWhile isDecimalDigit := by
        rw [decimal_of_point hne hwhole, Nat.add_assoc, List.take_length_add_append,
          Nat.add_comm 1, List.take_succ_cons, take_length_takeWhile]
      rw [htaken, decimal_of_point hne hwhole, List.append_assoc, List.cons_append,
        decimal_of_point hne hwhole, takeWhile_takeWhile_append, List.length_append]
      omega
  · have hdigit := isDecimalDigit_of_isBlank hb
    have hpoint : b ≠ '.' := by
      rintro rfl
      exact absurd hb (by decide)
    simp only [decimal, takeWhile_append_cons hdigit, dropWhile_append_cons hdigit]
    cases s.dropWhile isDecimalDigit with
    | nil => simp [hpoint]
    | cons c rest =>
      by_cases hc : c = '.'
      · subst hc
        simp [takeWhile_append_cons hdigit]
      · simp [hc]

theorem lawful_pairs : Shape.Lawful pairs := by
  refine .of_extend (fun s => ?_) (fun s t => ?_) (fun s t b hb => ?_)
  · fun_induction pairs s with
    | case1 c d s _ ih => simpa using ih
    | case2 => exact Nat.zero_le _
    | case3 => exact Nat.zero_le _
  · fun_induction pairs s with
    | case1 c d s hpair ih => simpa [pairs, hpair] using ih
    | case2 => exact Nat.zero_le _
    | case3 => exact Nat.zero_le _
  · have hdigit := isDecimalDigit_of_isBlank hb
    have hc : b ≠ 'c' := by
      rintro rfl
      exact absurd hb (by decide)
    have hs : b ≠ 's' := by
      rintro rfl
      exact absurd hb (by decide)
    fun_induction pairs s with
    | case1 c d s hpair ih => simp [pairs, hpair, ih]
    | case2 c d s hpair => simp only [List.cons_append, pairs, if_neg hpair]
    | case3 s hshort =>
      match s with
      | [] => cases t <;> simp [pairs, hdigit, hc]
      | [d] => cases t <;> simp [pairs, hdigit, hs]
      | d :: e :: s => exact absurd rfl (hshort d e s)

theorem length_eq_firstOf : length = Shape.firstOf shapes :=
  funext fun s => (Shape.firstOf_eq_find? shapes s).symm

/-- The end of a token is decided lawfully. -/
theorem lawful_length : Shape.Lawful length := by
  rw [length_eq_firstOf]
  apply Shape.lawful_firstOf
  simp only [shapes, List.forall_mem_cons]
  exact ⟨lawful_longSign, lawful_shortSign, lawful_sublevelCode, lawful_halfLevel,
    lawful_decimal, lawful_pairs, lawful_word, lawful_number, List.forall_mem_nil _⟩

end ChartCatalog.Token
