import ChartCatalog.Json.Record
import ChartCatalog.Proofs.Json.Document
import ChartCatalog.Proofs.Traversal

/-!
# Records and their fields

The values that are written for texts, numbers, options, lists and records are
writable, and each reader undoes its writer: a field is found under its name
(`Record.ofJson?_ofRecord`), an option in `null` or its value (`nullable?_ofOption`),
a list item by item (`list?_ofList`). For ratings that is assumed value by value
(`Rereads`), since records read numbers by scaling, which does not always give the
nearest number.

`recode?` reads a document and writes it again. The result is canonical as soon as
the value is read back from what is written for it (`recode?_canonical`).
-/

namespace ChartCatalog.Json

open Number Text

variable {α : Type}

/-! ## Writable values -/

theorem writable_ofNat (n : Nat) : Writable (.ofNat n) := .number (Literal.wellFormed_ofNat n)

theorem writable_ofBinary64 (x : Binary64) : Writable (.ofBinary64 x) := by
  cases x with
  | finite negative units h => exact .number (Literal.wellFormed_ofFinite negative h)
  | infinite negative => exact .null
  | nan => exact .null

theorem writable_ofOption {encode : α → Json} (h : ∀ a, Writable (encode a)) (o : Option α) :
    Writable (.ofOption encode o) := by
  cases o with
  | none => exact .null
  | some a => exact h a

theorem writable_ofList {encode : α → Json} (h : ∀ a, Writable (encode a)) (l : List α) :
    Writable (.ofList encode l) := by
  refine .array fun item hitem => ?_
  obtain ⟨a, -, rfl⟩ := List.mem_map.mp hitem
  exact h a

theorem writable_ofRecord {members : List (String × Json)}
    (h : ∀ member ∈ members, Writable member.2) : Writable (.ofRecord members) := by
  refine .object (fun named hnamed => ?_) fun named hnamed => ?_
  · obtain ⟨member, -, rfl⟩ := List.mem_map.mp hnamed
    rfl
  · obtain ⟨member, hmember, rfl⟩ := List.mem_map.mp hnamed
    exact h member hmember

/-! ## Plain values -/

@[simp] theorem text?_ofString (text : String) : (ofString text).text? = some text := rfl

@[simp] theorem name?_ofString (text : String) : (ofString text).name? = some text := rfl

@[simp] theorem bool?_bool (value : Bool) : (bool value).bool? = some value := rfl

theorem natBelow?_ofNat {n limit : Nat} (h : n < limit) : (ofNat n).natBelow? limit = some n := by
  show (Literal.ofNat n).toNat?.filter (· < limit) = some n
  rw [Literal.toNat?_ofNat, Option.filter_some, if_pos (by simp [h])]

@[simp] theorem uint8?_ofNat (n : UInt8) : (ofNat n.toNat).uint8? = some n := by
  unfold uint8?
  rw [natBelow?_ofNat n.toNat_lt, Option.map_some, UInt8.ofNat_toNat]

@[simp] theorem uint32?_ofNat (n : UInt32) : (ofNat n.toNat).uint32? = some n := by
  unfold uint32?
  rw [natBelow?_ofNat n.toNat_lt, Option.map_some, UInt32.ofNat_toNat]

/-- What a reader that takes no `null` undoes, it undoes for values that may be
missing. -/
theorem nullable?_ofOption {encode : α → Json} {decode : Json → Option α} {o : Option α}
    (hnull : decode .null = none) (h : ∀ a ∈ o, decode (encode a) = some a) :
    nullable? decode (.ofOption encode o) = some o := by
  cases o with
  | none => rfl
  | some a =>
    have ha := h a rfl
    show nullable? decode (encode a) = some (some a)
    unfold nullable?
    split
    · rename_i heq
      rw [heq, hnull] at ha
      cases ha
    · rw [ha]
      rfl

theorem list?_ofList {encode : α → Json} {decode : Json → Option α} {l : List α}
    (h : ∀ a ∈ l, decode (encode a) = some a) : list? decode (.ofList encode l) = some l := by
  show (l.map encode).mapM decode = some l
  rw [mapM_eq_some_iff_forall₂, List.forall₂_map_left_iff, List.forall₂_same]
  exact h

/-! ## Ratings -/

/-- The literal that is written for the number, if it is finite, is read as that
number. -/
def Rereads (x : Binary64) : Prop := x.isFinite = true → (ofBinary64 x).binary64? = some x

instance (x : Binary64) : Decidable (Rereads x) :=
  inferInstanceAs (Decidable (x.isFinite = true → (ofBinary64 x).binary64? = some x))

/-- Only finite numbers are read. -/
theorem isFinite_of_binary64? {value : Json} {x : Binary64} (h : value.binary64? = some x) :
    x.isFinite = true := by
  unfold binary64? at h
  split at h
  · obtain ⟨hfinite, heq⟩ := Option.ite_none_right_eq_some.mp h
    rw [← Option.some.inj heq]
    exact hfinite
  · cases h

/-! ## Records -/

namespace Record

/-- A record is read with all its fields. -/
theorem ofJson?_ofRecord (names : List String) {members : List (String × Json)}
    (hnames : members.map (·.1) = names) (hnodup : names.Nodup) :
    ofJson? names (.ofRecord members) = some ⟨false, members⟩ := by
  have hknown : ∀ member ∈ members, names.contains member.1 = true := by
    intro member hmember
    rw [List.contains_iff_mem, ← hnames]
    exact List.mem_map_of_mem hmember
  unfold ofJson? ofRecord
  -- every member has its name
  refine bind_eq_some (mapM_eq_some_iff_forall₂.mpr
    (List.forall₂_map_left_iff.mpr (List.forall₂_same.mpr fun _ _ => rfl))) ?_
  show (if ((members.filter _).map _).Nodup then _ else _) = _
  rw [List.filter_eq_self.mpr, hnames, if_pos hnodup]
  exact hknown

end Record

/-! ## What readers give -/

section Reading

variable {decode : Json → Option α} {p : α → Prop} (hdecode : ∀ v a, decode v = some a → p a)

include hdecode

theorem forall_mem_of_list? {value : Json} {l : List α} (h : list? decode value = some l) :
    ∀ a ∈ l, p a := by
  unfold list? at h
  split at h
  · intro a ha
    have hitems := (mapM_eq_some_iff_forall₂.mp h).flip
    obtain ⟨item, -, hitem⟩ := exists_of_forall₂_left hitems ha
    exact hdecode item a hitem
  · cases h

theorem forall_mem_of_nullable? {value : Json} {o : Option α}
    (h : nullable? decode value = some o) : ∀ a ∈ o, p a := by
  unfold nullable? at h
  split at h
  · cases h
    intro a ha
    cases ha
  · obtain ⟨a, ha, rfl⟩ := Option.map_eq_some_iff.mp h
    intro b hb
    cases hb
    exact hdecode _ a ha

theorem Record.of_required {record : Record} {name : String} {a : α}
    (h : record.required name decode = some a) : p a := by
  obtain ⟨value, -, hvalue⟩ := Option.bind_eq_some_iff.mp h
  exact hdecode value a hvalue

theorem Record.forall_mem_of_optional {record : Record} {name : String} {o : Option α}
    (h : record.optional name decode = some o) : ∀ a ∈ o, p a := by
  unfold optional at h
  split at h
  · exact forall_mem_of_nullable? hdecode h
  · split at h
    · cases h
    · cases h
      intro a ha
      cases ha

theorem Record.of_defaulted {record : Record} {name : String} {default a : α}
    (hdefault : p default) (h : record.defaulted name default decode = some a) : p a := by
  unfold defaulted at h
  split at h
  · exact hdecode _ a h
  · cases h
    exact hdefault

end Reading

/-! ## Documents -/

/-- The value that a document denotes. -/
def ofDocument? (decode : Json → Option α) (document : String) : Option α :=
  (parse? document).bind decode

/-- A document read and written again. -/
def recode? (decode : Json → Option α) (encode : α → Json) (document : String) : Option String :=
  (ofDocument? decode document).map fun a => (encode a).compact

variable {encode : α → Json} {decode : Json → Option α} {a : α}

theorem ofDocument?_compact (hwritable : Writable (encode a)) (h : decode (encode a) = some a) :
    ofDocument? decode (encode a).compact = some a := by
  unfold ofDocument?
  rw [parse?_compact hwritable]
  exact h

/-- A document whose value is read back from its text is written as a text that
denotes the same value and is written as itself. -/
theorem recode?_canonical (hwritable : Writable (encode a)) (h : decode (encode a) = some a)
    {document : String} (hdocument : ofDocument? decode document = some a) :
    ∃ text, recode? decode encode document = some text ∧ ofDocument? decode text = some a ∧
      recode? decode encode text = some text := by
  have hread := ofDocument?_compact hwritable h
  unfold recode?
  refine ⟨(encode a).compact, ?_, hread, ?_⟩
  · rw [hdocument]
    rfl
  · rw [hread]
    rfl

end ChartCatalog.Json
