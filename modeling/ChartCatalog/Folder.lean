import ChartCatalog.Error
import ChartCatalog.Text.AsciiCase
import ChartCatalog.Text.Blank
import ChartCatalog.Text.Digits

/-!
# Folders

The music select screen files songs under numbered version folders, a folder of
the songs that only consumer releases have, and the crossover folder. `ofText?`
reads a folder's tag in any letter case; `ofTag?_tag` says that the tag that
is written is read back.
-/

namespace ChartCatalog

open Text

/-- A folder of the music select screen. -/
inductive Folder
  | consumer
  | version (number : Nat)
  | bemani
  deriving DecidableEq

namespace Folder

/-- The newest version with a folder. -/
def latestVersion : Nat := 28

/-- A version folder exists from the first to the latest version. -/
def Exists : Folder → Prop
  | version number => 1 ≤ number ∧ number ≤ latestVersion
  | _ => True

instance (folder : Folder) : Decidable folder.Exists :=
  match folder with
  | version number => inferInstanceAs (Decidable (1 ≤ number ∧ number ≤ latestVersion))
  | consumer => isTrue trivial
  | bemani => isTrue trivial

/-- The tag as characters. -/
def tag : Folder → List Char
  | consumer => ['c', 's']
  | version number => digits number
  | bemani => ['b', 'e', 'm', 'a', 'n', 'i']

/-- The tag of a folder: its version number or its name. -/
def text (folder : Folder) : String := String.ofList folder.tag

/-- The folder of a tag without blanks around it. -/
def ofTag? (s : List Char) : Option Folder :=
  if asciiLower s = consumer.tag then some consumer
  else if asciiLower s = bemani.tag then some bemani
  else (shortNumber? s).bind fun n =>
    if 1 ≤ n ∧ n ≤ latestVersion then some (version n) else none

/-- The folder of a tag, blanks around it aside. -/
def ofText? (s : String) : Option Folder := ofTag? (trim s.toList)

/-- `ofText?`, with the text without the blanks around it for an error. -/
def parse (s : String) : Except FieldError Folder :=
  match ofText? s with
  | some folder => .ok folder
  | none => .error (.folder (trimString s))

/-- Only folders that exist have a tag. -/
theorem exists_of_ofTag? {s : List Char} {folder : Folder} (h : ofTag? s = some folder) :
    folder.Exists := by
  unfold ofTag? at h
  split at h
  · cases h; trivial
  · split at h
    · cases h; trivial
    · obtain ⟨n, -, hn⟩ := Option.bind_eq_some_iff.mp h
      split at hn
      next hrange => cases hn; exact hrange
      next => cases hn

/-- The tag of a folder that exists is read back. -/
theorem ofTag?_tag (folder : Folder) (h : folder.Exists) : ofTag? folder.tag = some folder := by
  cases folder with
  | consumer => rfl
  | bemani => rfl
  | version number =>
    have all : ∀ n : Fin 29, 1 ≤ n.val → ofTag? (version n.val).tag = some (version n.val) := by
      decide +kernel
    exact all ⟨number, Nat.lt_succ_of_le h.2⟩ h.1

end Folder

end ChartCatalog
