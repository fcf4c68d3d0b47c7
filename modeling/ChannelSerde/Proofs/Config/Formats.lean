import Mathlib.Control.Monad.Basic
import ChannelSerde.Config.File

/-!
# Two formats of one value

A JSON file and a YAML file that say the same value are loaded alike if the value is a mapping: its
entries made dotted are the properties of both. If it is none, the JSON file is refused. The YAML
file is refused as well, unless the value counts as an empty mapping there. A document without a
value has to; but so does every empty list, every zero and every switch that is off, and then one
file is refused and the other is taken for a configuration without properties. The formats agree on
a value exactly if it is none of these (`formats_agree_iff`).
-/

namespace ChannelSerde.Config

open Text Document

/-- **A file says a value**: its bytes are a text, and that is what the text is read as. -/
def Says (read : List Char → Except Fault Value) (bs : List UInt8) (v : Value) : Prop :=
  ∃ text, String.fromUTF8? ⟨bs.toArray⟩ = some text ∧ read (unifyNewlines text.toList) = .ok v

/-- **The values that are no mapping and count as an empty one** in a YAML document. -/
inductive CountsAsEmpty : Value → Prop
  | null : CountsAsEmpty .null
  | off : CountsAsEmpty (.scalar (.bool false))
  | zero : CountsAsEmpty (.scalar (.int 0))
  | zeroFloat {x} (h : (x == Decimal.floatOfInt 0) = true) : CountsAsEmpty (.scalar (.float x))
  | emptyText : CountsAsEmpty (.text "")
  | noBytes : CountsAsEmpty (.scalar (.bytes []))
  | noItems : CountsAsEmpty (.list [])

/-- **Two files are loaded alike**: with the same properties, or both are refused because there is
no mapping in them. -/
inductive LoadedAlike : Except FileError Source → Except FileError Source → Prop
  | ok {s t} (h : s.properties = t.properties) : LoadedAlike (.ok s) (.ok t)
  | notMapping {p q} : LoadedAlike (.error (.notMapping p)) (.error (.notMapping q))

/-- **The formats agree on a value**: the two files are loaded alike, and they are loaded exactly if
the value is a mapping. -/
def FormatsAgree (v : Value) (a b : Except FileError Source) : Prop :=
  LoadedAlike a b ∧ ((∃ s, a = .ok s) ↔ ∃ entries, v = .map entries)
    ∧ ((∃ s, b = .ok s) ↔ ∃ entries, v = .map entries)

/-- The source of a file with the given properties. -/
def applicationSource (path : FilePath) (ordinal : Int) (properties : Properties) : Source :=
  .ofProperties ("ApplicationConfigSource[" ++ path.name ++ "]") properties ordinal

theorem CountsAsEmpty.ne_map {v : Value} (h : CountsAsEmpty v) (entries : List (Scalar × Value)) :
    v ≠ .map entries := by
  rintro rfl
  cases h

theorem isVoid_iff (v : Value) : isVoid v = true ↔ v = .map [] ∨ CountsAsEmpty v := by
  constructor
  · intro h
    match v with
    | .scalar .null => exact .inr .null
    | .scalar (.bool b) =>
      obtain rfl : b = false := by simpa [isVoid] using h
      exact .inr .off
    | .scalar (.int i) =>
      obtain rfl : i = 0 := by simpa [isVoid] using h
      exact .inr .zero
    | .scalar (.float x) => exact .inr (.zeroFloat h)
    | .scalar (.text s) =>
      obtain rfl : s = "" := by simpa [isVoid] using h
      exact .inr .emptyText
    | .scalar (.bytes bs) =>
      obtain rfl : bs = [] := List.isEmpty_iff.mp h
      exact .inr .noBytes
    | .scalar (.date d) => exact absurd h Bool.false_ne_true
    | .scalar (.moment m) => exact absurd h Bool.false_ne_true
    | .list items =>
      obtain rfl : items = [] := List.isEmpty_iff.mp h
      exact .inr .noItems
    | .map entries =>
      obtain rfl : entries = [] := List.isEmpty_iff.mp h
      exact .inl rfl
  · rintro (rfl | h)
    · rfl
    · cases h with
      | zeroFloat h => exact h
      | null | off | zero | emptyText | noBytes | noItems => rfl

/-! ## Loading a file -/

section Loading

variable {path : FilePath} {bs : List UInt8} {v : Value}

/-- **A text of a known format** is loaded if its value is a mapping. -/
theorem load_of_read {format : FileFormat} {text : String} (ordinal : Int)
    (hsuffix : FileFormat.ofSuffix? path.suffix = some format)
    (htext : String.fromUTF8? ⟨bs.toArray⟩ = some text)
    (hread : format.read (String.ofList (unifyNewlines text.toList)) = .ok v) :
    load path (.bytes bs) ordinal
      = (propertiesOfDocument path v).map (applicationSource path ordinal) := by
  simp only [load, hsuffix, htext, hread]
  show (do return applicationSource path ordinal (← propertiesOfDocument path v)) = _
  cases propertiesOfDocument path v <;> rfl

theorem load_json (ordinal : Int) (hsuffix : path.suffix = ".json") (h : Says Json.read bs v) :
    load path (.bytes bs) ordinal
      = (propertiesOfDocument path v).map (applicationSource path ordinal) := by
  obtain ⟨text, htext, hread⟩ := h
  have hformat : FileFormat.ofSuffix? path.suffix = some .json := by
    rw [hsuffix]
    rfl
  refine load_of_read ordinal hformat htext ?_
  rwa [FileFormat.read, String.toList_ofList]

/-- A YAML file is loaded by its value, the empty mapping in place of one that counts as it. -/
theorem load_yaml (ordinal : Int) (hsuffix : path.suffix = ".yaml" ∨ path.suffix = ".yml")
    (h : Says Yaml.read bs v) :
    load path (.bytes bs) ordinal
      = (propertiesOfDocument path (if isVoid v then .map [] else v)).map
          (applicationSource path ordinal) := by
  obtain ⟨text, htext, hread⟩ := h
  have hformat : FileFormat.ofSuffix? path.suffix = some .yaml := by
    obtain hsuffix | hsuffix := hsuffix
    · rw [hsuffix]
      rfl
    · rw [hsuffix]
      rfl
  refine load_of_read ordinal hformat htext ?_
  rw [FileFormat.read, String.toList_ofList, hread]
  rfl

theorem propertiesOfDocument_of_ne_map (path : FilePath) (h : ∀ entries, v ≠ .map entries) :
    propertiesOfDocument path v = .error (.notMapping path) := by
  cases v with
  | map entries => exact absurd rfl (h entries)
  | scalar s | list items => rfl

/-- **A JSON file is loaded** exactly if it says a mapping. -/
theorem load_json_cases (ordinal : Int) (hsuffix : path.suffix = ".json")
    (h : Says Json.read bs v) :
    (∀ entries, v = .map entries →
        load path (.bytes bs) ordinal = .ok (applicationSource path ordinal (dotted entries "")))
      ∧ ((∀ entries, v ≠ .map entries) →
          load path (.bytes bs) ordinal = .error (.notMapping path)) := by
  rw [load_json ordinal hsuffix h]
  refine ⟨?_, fun hv => ?_⟩
  · rintro entries rfl
    rfl
  · rw [propertiesOfDocument_of_ne_map path hv]
    rfl

/-- **A YAML file is loaded** if it says a mapping, and without properties if what it says counts as
an empty one. -/
theorem load_yaml_cases (ordinal : Int) (hsuffix : path.suffix = ".yaml" ∨ path.suffix = ".yml")
    (h : Says Yaml.read bs v) :
    (∀ entries, v = .map entries →
        load path (.bytes bs) ordinal = .ok (applicationSource path ordinal (dotted entries "")))
      ∧ (CountsAsEmpty v →
          load path (.bytes bs) ordinal = .ok (applicationSource path ordinal .empty))
      ∧ ((∀ entries, v ≠ .map entries) → ¬ CountsAsEmpty v →
          load path (.bytes bs) ordinal = .error (.notMapping path)) := by
  rw [load_yaml ordinal hsuffix h]
  refine ⟨?_, fun hv => ?_, fun hv hempty => ?_⟩
  · rintro entries rfl
    cases entries <;> rfl
  · rw [if_pos ((isVoid_iff v).mpr (.inr hv))]
    rfl
  · have hvoid : ¬ isVoid v = true := fun hvoid =>
      ((isVoid_iff v).mp hvoid).elim (hv []) hempty
    rw [if_neg hvoid, propertiesOfDocument_of_ne_map path hv]
    rfl

end Loading

/-! ## Both formats -/

theorem not_loadedAlike_error_ok (e : FileError) (s : Source) : ¬ LoadedAlike (.error e) (.ok s) :=
  nofun

/-- **A JSON file and a YAML file that say the same value** are loaded alike, and exactly if it is a
mapping, unless the value counts as an empty mapping in the one and not in the other. A mapping is
made dotted by both; no other value is ever loaded from the JSON file, and from the YAML file only
those that count as an empty mapping, which give no properties. -/
theorem formats_agree_iff {jsonPath yamlPath : FilePath} {bs bs' : List UInt8} {v : Value}
    (jsonOrdinal yamlOrdinal : Int) (hjson : jsonPath.suffix = ".json")
    (hyaml : yamlPath.suffix = ".yaml" ∨ yamlPath.suffix = ".yml")
    (hjsonValue : Says Json.read bs v) (hyamlValue : Says Yaml.read bs' v) :
    let a := load jsonPath (.bytes bs) jsonOrdinal
    let b := load yamlPath (.bytes bs') yamlOrdinal
    (FormatsAgree v a b ↔ ¬ CountsAsEmpty v)
      ∧ (∀ entries, v = .map entries →
          a = .ok (applicationSource jsonPath jsonOrdinal (dotted entries ""))
            ∧ b = .ok (applicationSource yamlPath yamlOrdinal (dotted entries "")))
      ∧ ((∀ entries, v ≠ .map entries) → a = .error (.notMapping jsonPath)
          ∧ (¬ CountsAsEmpty v → b = .error (.notMapping yamlPath)))
      ∧ (CountsAsEmpty v → b = .ok (applicationSource yamlPath yamlOrdinal .empty)) := by
  intro a b
  obtain ⟨hmap, hnone⟩ := load_json_cases jsonOrdinal hjson hjsonValue
  obtain ⟨hmap', hempty', hnone'⟩ := load_yaml_cases yamlOrdinal hyaml hyamlValue
  refine ⟨⟨fun hagree hempty => ?_, fun hempty => ?_⟩,
    fun entries hv => ⟨hmap entries hv, hmap' entries hv⟩, fun hv => ⟨hnone hv, hnone' hv⟩, hempty'⟩
  · refine not_loadedAlike_error_ok (.notMapping jsonPath)
      (applicationSource yamlPath yamlOrdinal .empty) ?_
    rw [← hnone hempty.ne_map, ← hempty' hempty]
    exact hagree.1
  · by_cases hv : ∃ entries, v = .map entries
    · obtain ⟨entries, hentries⟩ := hv
      have ha : a = _ := hmap entries hentries
      have hb : b = _ := hmap' entries hentries
      rw [ha, hb]
      exact ⟨.ok rfl, iff_of_true ⟨_, rfl⟩ ⟨entries, hentries⟩,
        iff_of_true ⟨_, rfl⟩ ⟨entries, hentries⟩⟩
    · have hv' : ∀ entries, v ≠ .map entries := fun entries h => hv ⟨entries, h⟩
      have ha : a = _ := hnone hv'
      have hb : b = _ := hnone' hv' hempty
      rw [ha, hb]
      exact ⟨.notMapping, iff_of_false nofun hv, iff_of_false nofun hv⟩

/-- A mapping within a mapping, in braces and by indentation. -/
theorem formats_agree_iff_nested :
    let bs := "\x7b\"a\": \x7b\"b\": 1\x7d\x7d".toUTF8.data.toList
    let bs' := "a:\n  b: 1\n".toUTF8.data.toList
    let v : Value := .map [(.text "a", .map [(.text "b", .scalar (.int 1))])]
    let jsonPath : FilePath := ⟨["application.json"]⟩
    let yamlPath : FilePath := ⟨["application.yml"]⟩
    Says Json.read bs v ∧ Says Yaml.read bs' v
      ∧ FormatsAgree v (load jsonPath (.bytes bs) applicationOrdinal)
          (load yamlPath (.bytes bs') applicationOrdinal) := by
  intro bs bs' v jsonPath yamlPath
  have hjsonValue : Says Json.read bs v :=
    ⟨"\x7b\"a\": \x7b\"b\": 1\x7d\x7d", by decide +kernel, by decide +kernel⟩
  have hyamlValue : Says Yaml.read bs' v := ⟨"a:\n  b: 1\n", by decide +kernel, by decide +kernel⟩
  have hempty : ¬ CountsAsEmpty v := fun h => h.ne_map _ rfl
  have hjson : jsonPath.suffix = ".json" := by decide
  have hyaml : yamlPath.suffix = ".yml" := by decide
  have hagree := formats_agree_iff applicationOrdinal applicationOrdinal hjson (.inr hyaml)
    hjsonValue hyamlValue
  exact ⟨hjsonValue, hyamlValue, hagree.1.mpr hempty⟩

/-- **An empty list is no configuration as JSON and one as YAML.** -/
theorem empty_list_taken_for_mapping :
    let bs := "[]".toUTF8.data.toList
    let jsonPath : FilePath := ⟨["application.json"]⟩
    let yamlPath : FilePath := ⟨["application.yaml"]⟩
    Value.list [] ≠ .null ∧ Says Json.read bs (.list []) ∧ Says Yaml.read bs (.list [])
      ∧ load jsonPath (.bytes bs) applicationOrdinal = .error (.notMapping jsonPath)
      ∧ load yamlPath (.bytes bs) applicationOrdinal
          = .ok (applicationSource yamlPath applicationOrdinal .empty)
      ∧ ¬ FormatsAgree (.list []) (load jsonPath (.bytes bs) applicationOrdinal)
          (load yamlPath (.bytes bs) applicationOrdinal) := by
  intro bs jsonPath yamlPath
  have hjsonValue : Says Json.read bs (.list []) := ⟨"[]", by decide +kernel, by decide +kernel⟩
  have hyamlValue : Says Yaml.read bs (.list []) := ⟨"[]", by decide +kernel, by decide +kernel⟩
  have hjson : load jsonPath (.bytes bs) applicationOrdinal = .error (.notMapping jsonPath) :=
    (load_json_cases applicationOrdinal (by decide) hjsonValue).2 nofun
  have hyaml : load yamlPath (.bytes bs) applicationOrdinal
      = .ok (applicationSource yamlPath applicationOrdinal .empty) :=
    (load_yaml_cases applicationOrdinal (.inl (by decide)) hyamlValue).2.1 .noItems
  refine ⟨nofun, hjsonValue, hyamlValue, hjson, hyaml, ?_⟩
  rw [hjson, hyaml]
  exact fun h => not_loadedAlike_error_ok _ _ h.1

end ChannelSerde.Config
