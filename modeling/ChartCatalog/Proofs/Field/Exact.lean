import Mathlib.Data.List.Lex
import Mathlib.Data.String.Basic
import Mathlib.Order.Fin.Basic
import ChartCatalog.Proofs.Field.Spelling
import ChartCatalog.Proofs.Number.Positional

/-!
# Sran levels and folders, exactly

Which texts are read as a sran level or as a folder, blanks around them aside, character
by character, and that all others are refused with the error of their kind. Codes and tags
are read back, and the order of sran levels is the order of their codes
(`SranLevel.code_strictMono`).

A sran level is read by cutting off the last character where that is the letter of a
sublevel. A mark may have several bytes, but it is replaced by its letter before the cut,
which is therefore always one byte before the end (`SranLevel.exists_letter_of_split`).
-/

namespace ChartCatalog

open Text

namespace SranLevel

variable {s : List Char} {level : SranLevel}

/-! ## The spellings of sran levels -/

/-- The spellings of a level: `1` or `2` with a mark of the sublevel, `3` to `9`, these
with a zero before them or without, and `10` to `19`. -/
inductive Spelling : List Char → SranLevel → Prop
  | marked {zero : List Char} {digit mark : Char} {sublevel : Sublevel} {level : SranLevel} :
    zero ∈ [[], ['0']] → digit ∈ ['1', '2'] → [mark] ∈ sublevelMarks (some sublevel) →
    level.number = numberOf [digit] → level.sublevel? = some sublevel →
      Spelling (zero ++ [digit, mark]) level
  | single {zero : List Char} {digit : Char} {level : SranLevel} :
    zero ∈ [[], ['0']] → digit ∈ ['3', '4', '5', '6', '7', '8', '9'] →
    level.number = numberOf [digit] → Spelling (zero ++ [digit]) level
  | double {digit : Char} {level : SranLevel} :
    digit ∈ ['0', '1', '2', '3', '4', '5', '6', '7', '8', '9'] →
    level.number = numberOf ['1', digit] → Spelling ['1', digit] level

/-- The first two numbers have sublevels and the others have none. -/
theorem sublevel?_eq_none_iff : level.sublevel? = none ↔ 3 ≤ level.number := by
  have all : ∀ rank : Fin 21, sublevel? ⟨rank⟩ = none ↔ 3 ≤ number ⟨rank⟩ := by decide
  exact all level.rank

theorem number_pos (level : SranLevel) : 1 ≤ level.number := by
  unfold number
  split <;> omega

theorem number_lt (level : SranLevel) : level.number < 20 := by
  unfold number
  split <;> omega

theorem mem_spellings_of_spelling (h : Spelling s level) : s ∈ level.spellings := by
  have hmem : ∀ {number mark : List Char}, number ∈ shortTexts level.number →
      mark ∈ sublevelMarks level.sublevel? → number ++ mark ∈ level.spellings := by
    intro number mark hnumber hmark
    exact List.mem_flatMap.mpr ⟨number, hnumber, List.mem_map.mpr ⟨mark, hmark, rfl⟩⟩
  -- a number without sublevels has the empty mark
  have hbare : ∀ {number : List Char}, number ∈ shortTexts level.number →
      3 ≤ level.number → number ∈ level.spellings := by
    intro number hnumber hlow
    have hmark : [] ∈ sublevelMarks level.sublevel? := by
      rw [sublevel?_eq_none_iff.mpr hlow]
      exact List.mem_cons_self
    simpa using hmem hnumber hmark
  cases h with
  | @marked zero digit mark sublevel _ hzero hdigit hmark hnumber hsublevel =>
    -- over the lists, since the instance of the quantifier may go through all characters
    have all : [[], ['0']].all (fun zero => ['1', '2'].all fun digit =>
        zero ++ [digit] ∈ shortTexts (numberOf [digit])) := by decide
    simp only [List.all_eq_true, decide_eq_true_iff] at all
    have htext := all zero hzero digit hdigit
    rw [← hnumber] at htext
    rw [← hsublevel] at hmark
    simpa using hmem htext hmark
  | @single zero digit _ hzero hdigit hnumber =>
    have all : [[], ['0']].all (fun zero =>
        ['3', '4', '5', '6', '7', '8', '9'].all fun digit =>
          zero ++ [digit] ∈ shortTexts (numberOf [digit]) ∧ 3 ≤ numberOf [digit]) := by decide
    simp only [List.all_eq_true, decide_eq_true_iff] at all
    obtain ⟨htext, hlow⟩ := all zero hzero digit hdigit
    rw [← hnumber] at htext hlow
    exact hbare htext hlow
  | @double digit _ hdigit hnumber =>
    have all : ['0', '1', '2', '3', '4', '5', '6', '7', '8', '9'].all (fun digit =>
        ['1', digit] ∈ shortTexts (numberOf ['1', digit]) ∧ 3 ≤ numberOf ['1', digit]) := by decide
    simp only [List.all_eq_true, decide_eq_true_iff] at all
    obtain ⟨htext, hlow⟩ := all digit hdigit
    rw [← hnumber] at htext hlow
    exact hbare htext hlow

theorem spelling_of_mem_spellings (h : s ∈ level.spellings) : Spelling s level := by
  obtain ⟨number, hnumber, hmarks⟩ := List.mem_flatMap.mp h
  obtain ⟨mark, hmark, rfl⟩ := List.mem_map.mp hmarks
  cases hsublevel : level.sublevel? with
  | some sublevel =>
    have hlt : level.number < 3 := by
      rw [← Nat.not_le, ← sublevel?_eq_none_iff, hsublevel]
      simp
    have all : ∀ n : Fin 3, 1 ≤ n.val → (shortTexts n).all (fun text =>
        [[], ['0']].any fun zero => ['1', '2'].any fun digit =>
          text = zero ++ [digit] ∧ n.val = numberOf [digit]) := by decide
    simp only [List.all_eq_true, List.any_eq_true, decide_eq_true_iff] at all
    obtain ⟨zero, hzero, digit, hdigit, rfl, hvalue⟩ :=
      all ⟨level.number, hlt⟩ level.number_pos number hnumber
    rw [hsublevel] at hmark
    have hletter : ∀ mark ∈ sublevelMarks (some sublevel), ∃ c, mark = [c] := by
      cases sublevel <;> simp [sublevelMarks]
    obtain ⟨c, rfl⟩ := hletter mark hmark
    rw [List.append_assoc]
    exact .marked hzero hdigit hmark hvalue hsublevel
  | none =>
    have hlow := sublevel?_eq_none_iff.mp hsublevel
    rw [hsublevel] at hmark
    obtain rfl : mark = [] := List.mem_singleton.mp hmark
    rw [List.append_nil]
    by_cases hsingle : level.number < 10
    · have all : ∀ n : Fin 10, 3 ≤ n.val → (shortTexts n).all (fun text =>
          [[], ['0']].any fun zero => ['3', '4', '5', '6', '7', '8', '9'].any fun digit =>
            text = zero ++ [digit] ∧ n.val = numberOf [digit]) := by decide +kernel
      simp only [List.all_eq_true, List.any_eq_true, decide_eq_true_iff] at all
      obtain ⟨zero, hzero, digit, hdigit, rfl, hvalue⟩ :=
        all ⟨level.number, hsingle⟩ hlow number hnumber
      exact .single hzero hdigit hvalue
    · have all : ∀ n : Fin 20, 10 ≤ n.val → (shortTexts n).all (fun text =>
          ['0', '1', '2', '3', '4', '5', '6', '7', '8', '9'].any fun digit =>
            text = ['1', digit] ∧ n.val = numberOf ['1', digit]) := by decide +kernel
      simp only [List.all_eq_true, List.any_eq_true, decide_eq_true_iff] at all
      obtain ⟨digit, hdigit, rfl, hvalue⟩ :=
        all ⟨level.number, level.number_lt⟩ (Nat.not_lt.mp hsingle) number hnumber
      exact .double hdigit hvalue

/-- A text is read as a level if it is a spelling of the level. -/
theorem ofText?_eq_some_iff {text : String} :
    ofText? text = some level ↔ Spelling (trim text.toList) level := by
  rw [ofText?, ofSpelling?_eq_some_iff]
  exact ⟨spelling_of_mem_spellings, mem_spellings_of_spelling⟩

/-! ## The cut before the letter of a sublevel -/

/-- What is cut off is a letter of one byte. -/
theorem exists_letter_of_split {number : List Char} {sublevel : Sublevel}
    (h : splitSublevel s = (number, some sublevel)) : ∃ letter : String,
      String.ofList s = String.ofList number ++ letter ∧ letter.utf8ByteSize = 1 := by
  unfold splitSublevel at h
  split at h
  · rename_i hlast
    obtain ⟨t, rfl⟩ := List.getLast?_eq_some_iff.mp hlast
    obtain ⟨rfl, -⟩ := Prod.mk.inj h
    exact ⟨"a", by rw [List.dropLast_concat, String.ofList_append], by decide⟩
  · rename_i hlast
    obtain ⟨t, rfl⟩ := List.getLast?_eq_some_iff.mp hlast
    obtain ⟨rfl, -⟩ := Prod.mk.inj h
    exact ⟨"b", by rw [List.dropLast_concat, String.ofList_append], by decide⟩
  · exact absurd (Prod.mk.inj h).2 (by simp)

/-! ## Codes -/

theorem ofText?_code (level : SranLevel) : ofText? level.code = some level := by
  have hblank : ∀ rank : Fin 21,
      (SranLevel.mk rank).codeText.all (fun c => decide (isBlank c = false)) = true := by
    decide +kernel
  unfold ofText? code
  rw [String.toList_ofList, trim_of_not_blank (forall_mem_of_all (hblank level.rank)),
    ofSpelling?_codeText]

/-- Each code comes before the next one, so all codes are in order. -/
theorem code_strictMono : StrictMono fun rank : Fin 21 => code ⟨rank⟩ := by
  rw [Fin.strictMono_iff_lt_succ]
  have all : ∀ rank : Fin 20, codeText ⟨rank.castSucc⟩ < codeText ⟨rank.succ⟩ := by
    decide +kernel
  intro rank
  rw [String.lt_iff_toList_lt]
  simpa only [code, String.toList_ofList] using all rank

theorem compare_code (level level' : SranLevel) :
    compare level.code level'.code = compare level.rank.val level'.rank.val := by
  rw [← cmp_eq_compare, ← cmp_eq_compare]
  exact code_strictMono.cmp_map_eq level.rank level'.rank

end SranLevel

/-! ## Folders -/

namespace Folder

theorem isBlank_of_mem_tag {folder : Folder} {c : Char} (h : c ∈ folder.tag) :
    isBlank c = false := by
  cases folder with
  | consumer => exact forall_mem_of_all (p := fun c => isBlank c = false) (by decide) c h
  | bemani => exact forall_mem_of_all (p := fun c => isBlank c = false) (by decide) c h
  | version number =>
    exact forall_isDigit (p := fun c => isBlank c = false) (by decide)
      (Number.isDigits_digits number c h)

theorem ofText?_text {folder : Folder} (h : folder.Exists) : ofText? folder.text = some folder := by
  unfold ofText? text
  rw [String.toList_ofList, trim_of_not_blank fun c => isBlank_of_mem_tag, ofTag?_tag folder h]

/-- The tag of a folder that was read is read back. -/
theorem parse_text_of_parse {s : String} {folder : Folder} (h : parse s = .ok folder) :
    parse folder.text = .ok folder := by
  rw [parse_eq_ok_iff] at h ⊢
  exact ofText?_text (exists_of_ofTag? h)

end Folder

/-! ## Readers -/

/-- A reader of texts for what is spelled in them: it accepts the spellings, each with
what it spells, and refuses every other text with its error for the text. -/
structure ReadsExactly {α : Type} (parse : String → Except FieldError α)
    (spells : String → α → Prop) (error : String → FieldError) : Prop where
  ok_iff : ∀ s a, parse s = .ok a ↔ spells s a
  error_iff : ∀ s e, parse s = .error e ↔ e = error s ∧ ∀ a, ¬ spells s a

/-- A reader that always has a result refuses what it does not accept. -/
theorem ReadsExactly.of_ok_iff {α : Type} {parse : String → Except FieldError α}
    {spells : String → α → Prop} {error : String → FieldError}
    (hok : ∀ s a, parse s = .ok a ↔ spells s a)
    (herror : ∀ s e, parse s = .error e → e = error s) : ReadsExactly parse spells error := by
  refine ⟨hok, fun s e => ⟨fun h => ⟨herror s e h, fun a ha => ?_⟩, ?_⟩⟩
  · rw [← hok, h] at ha
    exact absurd ha (by simp)
  · rintro ⟨rfl, hnone⟩
    cases hparse : parse s with
    | ok a => exact absurd ((hok s a).mp hparse) (hnone a)
    | error e => rw [herror s e hparse]

theorem SranLevel.readsExactly_parse :
    ReadsExactly parse (fun s level => Spelling (trim s.toList) level) .sranLevel := by
  apply ReadsExactly.of_ok_iff
  · intro s level
    rw [parse_eq_ok_iff, ofText?_eq_some_iff]
  · intro s e h
    unfold parse at h
    split at h <;> cases h
    rfl

theorem Folder.readsExactly_parse :
    ReadsExactly parse (fun s folder => Spelling (asciiLower (trim s.toList)) folder)
      fun s => .folder (trimString s) := by
  apply ReadsExactly.of_ok_iff
  · intro s folder
    rw [parse_eq_ok_iff, ofText?, ofTag?_eq_some_iff]
  · intro s e h
    unfold parse at h
    split at h <;> cases h
    rfl

/-- Sran levels and folders are read from their spellings, blanks around them aside, and
from nothing else. The code of a level is read back and so is the tag of a folder that was
read, and levels are in the order of their codes. Where the letter of a sublevel is cut
off, the cut is one byte before the end. -/
theorem readsExactly_fields :
    ReadsExactly SranLevel.parse (fun s level => SranLevel.Spelling (trim s.toList) level)
      .sranLevel ∧
    (∀ level : SranLevel, SranLevel.parse level.code = .ok level) ∧
    (∀ level level' : SranLevel,
      compare level.code level'.code = compare level.rank.val level'.rank.val) ∧
    (∀ (s : String) (number : List Char) (sublevel : Sublevel),
      SranLevel.splitSublevel ((trim s.toList).map SranLevel.markLetter) =
        (number, some sublevel) →
      ∃ letter : String, String.ofList ((trim s.toList).map SranLevel.markLetter) =
        String.ofList number ++ letter ∧ letter.utf8ByteSize = 1) ∧
    ReadsExactly Folder.parse
      (fun s folder => Folder.Spelling (asciiLower (trim s.toList)) folder)
      (fun s => .folder (trimString s)) ∧
    ∀ (s : String) (folder : Folder), Folder.parse s = .ok folder →
      Folder.parse folder.text = .ok folder := by
  refine ⟨SranLevel.readsExactly_parse, fun level => ?_, SranLevel.compare_code, ?_,
    Folder.readsExactly_parse, ?_⟩
  · rw [SranLevel.parse_eq_ok_iff]
    exact level.ofText?_code
  · intro s number sublevel h
    exact SranLevel.exists_letter_of_split h
  · intro s folder h
    exact Folder.parse_text_of_parse h

/-- A mark of three bytes, the same mark in the wrong place, and a name in capitals. -/
theorem readsExactly_fields_marked :
    SranLevel.parse " 02弱" = .ok ⟨2⟩ ∧
      (∃ letter : String, "02a" = "02" ++ letter ∧ letter.utf8ByteSize = 1) ∧
      SranLevel.parse "弱2" = .error (.sranLevel "弱2") ∧
      Folder.parse "CS " = .ok .consumer ∧ Folder.parse "cs" = .ok .consumer := by
  obtain ⟨hlevel, -, -, hcut, hfolder, htag⟩ := readsExactly_fields
  have hconsumer : Folder.parse "CS " = .ok .consumer := (hfolder.ok_iff _ _).mpr .consumer
  refine ⟨?_, hcut " 02弱" ['0', '2'] .lower (by decide +kernel), by decide +kernel, hconsumer,
    htag _ _ hconsumer⟩
  rw [hlevel.ok_iff]
  exact @SranLevel.Spelling.marked ['0'] '2' '弱' .lower _
    (by decide) (by decide) (by decide) (by decide) (by decide)

end ChartCatalog
