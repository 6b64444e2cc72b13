import ChartCatalog.Proofs.Chart.Record
import ChartCatalog.Selection.Record

/-!
# Selections and their records

A selection is read back from its record if its rating bounds are numbers, and only
such selections are read. Together with the same for charts this is the law of the
two forms of document (`records_canonical`): writing and reading gives the value
again, and whatever spelling a document had, the text that is written for what it
denotes is final.
-/

namespace ChartCatalog

open Json Number

@[simp] theorem Inclusion.ofJson?_toJson (inclusion : Inclusion) :
    ofJson? inclusion.toJson = some inclusion := by
  simp [ofJson?, toJson]

namespace Selection

/-- A selection whose rating bounds are numbers. -/
structure Encodable (selection : Selection) : Prop where
  ratingMin_isFinite : ∀ bound ∈ selection.ratingMin, bound.isFinite = true
  ratingMax_isFinite : ∀ bound ∈ selection.ratingMax, bound.isFinite = true

/-- The literals of the rating bounds are read as these bounds. -/
structure RereadsBounds (selection : Selection) : Prop where
  ratingMin : ∀ bound ∈ selection.ratingMin, Rereads bound
  ratingMax : ∀ bound ∈ selection.ratingMax, Rereads bound

theorem writable_toJson (selection : Selection) : Writable selection.toJson := by
  apply writable_ofRecord
  simp only [List.forall_mem_cons]
  exact ⟨writable_ofNat _, writable_ofNat _, writable_ofOption writable_ofBinary64 _,
    writable_ofOption writable_ofBinary64 _, writable_ofOption (fun level => .string _) _,
    writable_ofOption (fun level => .string _) _, .bool _, .bool _, .bool _, .bool _, .string _,
    .string _, .string _, .string _, .string _, .string _, .string _, .string _, .string _,
    List.forall_mem_nil _⟩

theorem ofJson?_toJson {selection : Selection} (h : selection.Encodable)
    (hbounds : selection.RereadsBounds) : ofJson? selection.toJson = some selection := by
  have hratingMin : nullable? binary64? (.ofOption .ofBinary64 selection.ratingMin) =
      some selection.ratingMin :=
    nullable?_ofOption rfl fun bound hmem =>
      hbounds.ratingMin bound hmem (h.ratingMin_isFinite bound hmem)
  have hratingMax : nullable? binary64? (.ofOption .ofBinary64 selection.ratingMax) =
      some selection.ratingMax :=
    nullable?_ofOption rfl fun bound hmem =>
      hbounds.ratingMax bound hmem (h.ratingMax_isFinite bound hmem)
  have hsran : ∀ o : Option SranLevel,
      nullable? SranLevel.ofJson? (.ofOption SranLevel.toJson o) = some o := by
    intro o
    exact nullable?_ofOption rfl fun level _ => level.ofJson?_toJson
  unfold ofJson?
  refine bind_eq_some (Record.ofJson?_ofRecord fieldNames rfl (by decide)) ?_
  refine bind_eq_some (uint8?_ofNat selection.levelMin) ?_
  refine bind_eq_some (uint8?_ofNat selection.levelMax) ?_
  refine bind_eq_some hratingMin ?_
  refine bind_eq_some hratingMax ?_
  refine bind_eq_some (hsran selection.sranLevelMin) ?_
  refine bind_eq_some (hsran selection.sranLevelMax) ?_
  refine bind_eq_some (bool?_bool selection.includeEasy) ?_
  refine bind_eq_some (bool?_bool selection.includeNormal) ?_
  refine bind_eq_some (bool?_bool selection.includeHyper) ?_
  refine bind_eq_some (bool?_bool selection.includeExtra) ?_
  refine bind_eq_some selection.hardest.ofJson?_toJson ?_
  refine bind_eq_some selection.floorInfection.ofJson?_toJson ?_
  refine bind_eq_some selection.buggedTempo.ofJson?_toJson ?_
  refine bind_eq_some selection.tempoChanges.ofJson?_toJson ?_
  refine bind_eq_some selection.holds.ofJson?_toJson ?_
  refine bind_eq_some selection.upper.ofJson?_toJson ?_
  refine bind_eq_some selection.ura.ofJson?_toJson ?_
  refine bind_eq_some selection.omnimix.ofJson?_toJson ?_
  refine bind_eq_some selection.lively.ofJson?_toJson ?_
  rfl

/-- A selection is read back from its text if its rating bounds have few digits. -/
theorem ofDocument?_compact_of_isShort {selection : Selection} (h : selection.Encodable)
    (hmin : ∀ bound ∈ selection.ratingMin, bound.IsShort)
    (hmax : ∀ bound ∈ selection.ratingMax, bound.IsShort) :
    ofDocument? ofJson? selection.toJson.compact = some selection :=
  ofDocument?_compact selection.writable_toJson <| ofJson?_toJson h
    ⟨fun bound hmem => rereads_of_isShort (hmin bound hmem),
      fun bound hmem => rereads_of_isShort (hmax bound hmem)⟩

/-- Only encodable selections are read. -/
theorem encodable_of_ofJson? {value : Json} {selection : Selection}
    (h : ofJson? value = some selection) : selection.Encodable := by
  have hfinite : ∀ {record : Record} {name : String} {bound : Option Binary64},
      record.defaulted name none (nullable? binary64?) = some bound →
        ∀ x ∈ bound, x.isFinite = true := by
    intro record name bound
    apply Record.of_defaulted fun _ _ => forall_mem_of_nullable? fun _ _ => isFinite_of_binary64?
    intro x hx
    cases hx
  -- the record and the fields before the rating bounds
  iterate 3 obtain ⟨_, -, h⟩ := Option.bind_eq_some_iff.mp h
  obtain ⟨ratingMin, hratingMin, h⟩ := Option.bind_eq_some_iff.mp h
  obtain ⟨ratingMax, hratingMax, h⟩ := Option.bind_eq_some_iff.mp h
  iterate 15 obtain ⟨_, -, h⟩ := Option.bind_eq_some_iff.mp h
  cases h
  exact ⟨hfinite hratingMin, hfinite hratingMax⟩

end Selection

/-- Charts and selections are read back from the text that is written for them, for
any text in their strings and any labels. Where a document denotes a chart or a
selection, in whatever spelling, writing gives a text that denotes the same and is
not changed by being read and written again. -/
theorem records_canonical :
    (∀ chart : Chart, chart.Encodable → (∀ rating ∈ chart.rating, Rereads rating) →
      ofDocument? Chart.ofJson? chart.toJson.compact = some chart) ∧
    (∀ selection : Selection, selection.Encodable → selection.RereadsBounds →
      ofDocument? Selection.ofJson? selection.toJson.compact = some selection) ∧
    (∀ document chart, ofDocument? Chart.ofJson? document = some chart →
      (∀ rating ∈ chart.rating, Rereads rating) →
        ∃ text, recode? Chart.ofJson? Chart.toJson document = some text ∧
          ofDocument? Chart.ofJson? text = some chart ∧
          recode? Chart.ofJson? Chart.toJson text = some text) ∧
    (∀ document selection, ofDocument? Selection.ofJson? document = some selection →
      selection.RereadsBounds →
        ∃ text, recode? Selection.ofJson? Selection.toJson document = some text ∧
          ofDocument? Selection.ofJson? text = some selection ∧
          recode? Selection.ofJson? Selection.toJson text = some text) := by
  refine ⟨?_, ?_, ?_, ?_⟩
  · intro chart h hrating
    exact ofDocument?_compact chart.writable_toJson (Chart.ofJson?_toJson h hrating)
  · intro selection h hbounds
    exact ofDocument?_compact selection.writable_toJson (Selection.ofJson?_toJson h hbounds)
  · intro document chart hdocument hrating
    obtain ⟨value, -, hvalue⟩ := Option.bind_eq_some_iff.mp hdocument
    have hread := Chart.ofJson?_toJson (Chart.encodable_of_ofJson? hvalue) hrating
    exact recode?_canonical chart.writable_toJson hread hdocument
  · intro document selection hdocument hbounds
    obtain ⟨value, -, hvalue⟩ := Option.bind_eq_some_iff.mp hdocument
    have hread := Selection.ofJson?_toJson (Selection.encodable_of_ofJson? hvalue) hbounds
    exact recode?_canonical selection.writable_toJson hread hdocument

/-- A chart as an array with other spellings of its codes and repeated labels, and a
selection of which only three fields are given. -/
theorem records_canonical_respelled :
    (ofDocument? Chart.ofJson? (Chart.draft "a" "b" .hyper 40).toJson.compact =
      some (Chart.draft "a" "b" .hyper 40)) ∧
    (ofDocument? Selection.ofJson? ({} : Selection).toJson.compact = some {}) ∧
    (∃ text, recode? Chart.ofJson? Chart.toJson
        ("[\"a\",\"b\",\"x\",50,3.5e-1,\"2弱\",\"150\",true,[\"01\",\"CS\"]," ++
          "[\"ura\",\"eemall\",\"ura\"],\"\",\"\",\"\",null,90]") = some text ∧
      ofDocument? Chart.ofJson? text = some { Chart.draft "a" "b" .extra 50 with
        rating := some (.nearest false 35 100), sranLevel := some ⟨2⟩, tempo := "150",
        hasHolds := true, folders := [.version 1, .consumer],
        songLabels := .ofList ["eemall", "ura"], duration := some 90 } ∧
      recode? Chart.ofJson? Chart.toJson text = some text) ∧
    (∃ text, recode? Selection.ofJson? Selection.toJson
        "\x7b\"level_min\": 47, \"sran_level_max\": \" 5\", \"rating_max\": -0.5\x7d" =
          some text ∧
      ofDocument? Selection.ofJson? text = some { ({} : Selection) with
        levelMin := 47, sranLevelMax := some ⟨6⟩, ratingMax := some (.nearest true 1 2) } ∧
      recode? Selection.ofJson? Selection.toJson text = some text) := by
  have hrating : Rereads (.nearest false 35 100) := by decide +kernel
  have hbound : Rereads (.nearest true 1 2) := by decide +kernel
  obtain ⟨hchart, hselection, hcharts, hselections⟩ := records_canonical
  refine ⟨?_, ?_, ?_, ?_⟩
  · refine hchart _ ⟨?_, ?_⟩ ?_ <;> intro _ h <;> cases h
  · refine hselection _ ⟨?_, ?_⟩ ⟨?_, ?_⟩ <;> intro _ h <;> cases h
  · refine hcharts _ _ (by decide +kernel) fun rating h => ?_
    rw [← Option.some.inj h]
    exact hrating
  · refine hselections _ _ (by decide +kernel) ⟨fun bound h => ?_, fun bound h => ?_⟩
    · cases h
    · rw [← Option.some.inj h]
      exact hbound

end ChartCatalog
