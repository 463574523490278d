/-
  JsonSchema.Proofs.Sketch — what is wrong with a document, but for how its numbers are written.

  A defect quotes a value of the wrong shape as it is written. Its sketch leaves the quotation out
  and keeps all else: the place, the kind of the defect, the keyword, what is expected. What is
  found in a place of a document with plain numbers is, part by part, what is found there in the
  document itself: as many defects with the same sketches, and the same schemas below with their
  numbers plain.

  Statements:
  - `contents_plain`: the parts of a schema with plain numbers.
  - `report_plain`: both documents have the same report, sketched.
-/

import JsonSchema.Proofs.Plain
import JsonSchema.Proofs.Report
import Mathlib.Data.List.Basic

namespace JsonSchema

open Json (Members plainItems plainMembers plainItems_eq_map plainMembers_eq_map member?_plain)

/-- The cause without the text of a value that has the wrong shape. -/
def Defect.Cause.sketch : Cause → Cause
  | .invalidKeyword keyword expected _ => .invalidKeyword keyword expected ""
  | cause => cause

def Defect.sketch (d : Defect) : Defect := ⟨d.path, d.cause.sketch⟩

@[simp] theorem Defect.sketch_sketch (d : Defect) : d.sketch.sketch = d.sketch := by
  obtain ⟨path, cause⟩ := d
  cases cause <;> rfl

namespace Part

def sketch : Part → Part
  | .problem d => .problem d.sketch
  | .schema needed path raw => .schema needed path raw

def plain : Part → Part
  | .problem d => .problem d.sketch
  | .schema needed path raw => .schema needed path raw.plain

end Part

/-! ## Values that fit -/

namespace Json

@[simp] theorem isObject_plain (v : Json) : v.plain.isObject = v.isObject := by
  cases v <;> rfl

@[simp] theorem isBool_plain (v : Json) : v.plain.isBool = v.isBool := by
  cases v <;> rfl

@[simp] theorem isText_plain (v : Json) : v.plain.isText = v.isText := by
  cases v <;> rfl

@[simp] theorem isNumber_plain (v : Json) : v.plain.isNumber = v.isNumber := by
  cases v <;> rfl

@[simp] theorem isInteger_plain (v : Json) : v.plain.isInteger = v.isInteger := by
  cases v with
  | number n => simp only [plain, isInteger, Number.toInteger?_plain]
  | _ => rfl

@[simp] theorem isCount_plain (v : Json) : v.plain.isCount = v.isCount := by
  cases v with
  | number n => simp only [plain, isCount, Number.toCount?_plain]
  | _ => rfl

@[simp] theorem isTexts_plain (v : Json) : v.plain.isTexts = v.isTexts := by
  cases v with
  | array items => simp [plain, isTexts, plainItems_eq_map, Function.comp_def]
  | _ => rfl

@[simp] theorem isZero_plain (v : Json) : v.plain.isZero = v.isZero := by
  cases v with
  | number n => simp only [plain, isZero, Number.toDouble_plain, Double.units_unsignedZero]
  | _ => rfl

end Json

/-! ## Keywords -/

/-- A keyword has the same parts in a schema with plain numbers, these plain. -/
def Reading.Steady (reading : Reading) : Prop := ∀ keyword path members v,
  (reading keyword path (plainMembers members) v.plain).map Part.sketch =
    (reading keyword path members v).map Part.plain

namespace Reading

theorem steady_fitting {fits : Json → Bool} (h : ∀ v, fits v.plain = fits v) (expected : String) :
    (fitting fits expected).Steady := by
  intro keyword path members v
  unfold fitting
  rw [h]
  by_cases fit : fits v
  · rw [if_pos fit, if_pos fit]
    rfl
  · rw [if_neg fit, if_neg fit]
    rfl

theorem steady_divisor {reading : Reading} (h : reading.Steady) : (divisor reading).Steady := by
  intro keyword path members v
  unfold divisor
  rw [Json.isZero_plain]
  by_cases zero : v.isZero
  · rw [if_pos zero, if_pos zero]
    rfl
  · rw [if_neg zero, if_neg zero]
    exact h keyword path members v

theorem steady_beside {sibling : String} {reading : Reading} (h : reading.Steady) :
    (beside sibling reading).Steady := by
  intro keyword path members v
  unfold beside
  rw [member?_plain, Option.isSome_map]
  by_cases there : (Json.member? members sibling).isSome
  · rw [if_pos there, if_pos there]
    exact h keyword path members v
  · rw [if_neg there, if_neg there]
    rfl

theorem steady_text : text.Steady := steady_fitting Json.isText_plain _

/-- The parts of a pattern are defects only. -/
theorem sketch_badPattern (keyword : String) (path : Path) (source : String) :
    (badPattern keyword path source).map Part.sketch = (badPattern keyword path source).map Part.plain := by
  unfold badPattern
  cases Pattern.compile source <;> rfl

theorem steady_pattern : pattern.Steady := by
  intro keyword path members v
  cases v with
  | string source => exact sketch_badPattern _ _ _
  | _ => exact steady_text keyword path members _

theorem steady_format : format.Steady := by
  intro keyword path members v
  cases v with
  | string name =>
    simp only [Json.plain, format]
    split <;> rfl
  | _ => exact steady_text keyword path members _

theorem steady_schema (needed : Option ValueType) : (schema needed).Steady := by
  intro keyword path members v
  rfl

theorem steady_items : items.Steady := by
  intro keyword path members v
  cases v with
  | object ms => rfl
  | array schemas =>
    refine List.ext_getElem? fun i => ?_
    simp only [Json.plain, items, plainItems_eq_map, List.getElem?_map, List.getElem?_mapIdx, Option.map_map]
    rfl
  | _ => exact steady_fitting Json.isObject_plain _ keyword path members _

theorem steady_dependents : dependents.Steady := by
  intro keyword path members v
  cases v with
  | object triggers =>
    have all : (plainMembers triggers).all (·.2.isTexts) = triggers.all (·.2.isTexts) := by
      simp [plainMembers_eq_map, List.all_map, Function.comp_def]
    simp only [Json.plain, dependents, all]
    split <;> rfl
  | _ => exact steady_fitting Json.isObject_plain _ keyword path members _

theorem steady_patterns : patterns.Steady := by
  intro keyword path members v
  cases v with
  | object sources =>
    simp only [Json.plain, patterns, plainMembers_eq_map, List.flatMap_map, List.map_flatMap, List.map_append,
      sketch_badPattern]
    rfl
  | _ => exact steady_fitting Json.isObject_plain _ keyword path members _

theorem steady_properties : properties.Steady := by
  intro keyword path members v
  cases v with
  | object declared =>
    simp only [Json.plain, properties, plainMembers_eq_map, List.filter_map, List.map_map, Function.comp_def,
      Json.isObject_plain]
    rfl
  | _ => rfl

end Reading

theorem steady_keywords {type : ValueType} : ∀ k ∈ keywordReadings type, k.2.Steady := by
  have count : Reading.count.Steady := Reading.steady_fitting Json.isCount_plain _
  have integer : Reading.integer.Steady := Reading.steady_fitting Json.isInteger_plain _
  have number : Reading.number.Steady := Reading.steady_fitting Json.isNumber_plain _
  have texts : Reading.texts.Steady := Reading.steady_fitting Json.isTexts_plain _
  have flag : Reading.flag.Steady := Reading.steady_fitting Json.isBool_plain _
  cases type <;>
    simp [keywordReadings, count, integer, number, texts, flag, Reading.steady_divisor, Reading.steady_beside,
      Reading.steady_pattern, Reading.steady_format, Reading.steady_schema, Reading.steady_items,
      Reading.steady_dependents, Reading.steady_patterns, Reading.steady_properties]

/-! ## Schemas -/

theorem parts_plain (type : ValueType) (path : Path) (members : Members) :
    (parts type path (plainMembers members)).map Part.sketch = (parts type path members).map Part.plain := by
  unfold parts
  rw [List.map_flatMap, List.map_flatMap]
  refine List.flatMap_congr fun k hk => ?_
  obtain ⟨keyword, reading⟩ := k
  cases there : Json.member? members keyword with
  | none => rw [partsOf_none there, partsOf_none (by rw [member?_plain, there]; rfl)]; rfl
  | some v =>
    rw [partsOf_some there, partsOf_some (v := v.plain) (by rw [member?_plain, there]; rfl)]
    exact steady_keywords _ hk keyword path members v

theorem resolveType_plain (needed : Option ValueType) (declared : Option Json) :
    resolveType needed (declared.map Json.plain) = resolveType needed declared := by
  cases declared with
  | none => rfl
  | some v =>
    have same : ValueType.classify (some v.plain) = ValueType.classify (some v) := by
      cases v <;> rfl
    cases needed <;> simp only [Option.map_some, resolveType, same]

theorem contents_plain (needed : Option ValueType) (path : Path) (raw : Json) :
    (contents needed path raw.plain).map Part.sketch = (contents needed path raw).map Part.plain := by
  cases raw with
  | object members =>
    simp only [Json.plain, contents, member?_plain, resolveType_plain]
    cases resolveType needed (Json.member? members "type") with
    | ok type => exact parts_plain type path members
    | error cause => rfl
  | _ => rfl

/-- A defect in a sketched part is sketched in any case. -/
theorem sketch_defects (below : Option ValueType → Path → Json → List Defect) (part : Part) :
    (part.sketch.defects below).map Defect.sketch = (part.defects below).map Defect.sketch := by
  cases part with
  | problem d => simp [Part.sketch, Part.defects]
  | schema needed path raw => rfl

/-- What is wrong with a document is, but for the texts that are quoted, what is wrong with it when its
    numbers are plain. -/
theorem report_plain (limit level : Nat) (needed : Option ValueType) (path : Path) (raw : Json) :
    (report limit level needed path raw.plain).map Defect.sketch =
      (report limit level needed path raw).map Defect.sketch := by
  by_cases beyond : limit < level
  · rw [report_beyond beyond, report_beyond beyond]
  · rw [report_within (by omega), report_within (by omega), List.map_flatMap, List.map_flatMap]
    calc (contents needed path raw.plain).flatMap
          (fun part => (part.defects (report limit (level + 1))).map Defect.sketch)
        = ((contents needed path raw.plain).map Part.sketch).flatMap
          (fun part => (part.defects (report limit (level + 1))).map Defect.sketch) := by
          rw [List.flatMap_map]
          exact List.flatMap_congr fun part _ => (sketch_defects _ part).symm
      _ = (contents needed path raw).flatMap
          (fun part => (part.plain.defects (report limit (level + 1))).map Defect.sketch) := by
          rw [contents_plain, List.flatMap_map]
      _ = (contents needed path raw).flatMap
          (fun part => (part.defects (report limit (level + 1))).map Defect.sketch) := by
          refine List.flatMap_congr fun part hp => ?_
          cases part with
          | problem d => simp [Part.plain, Part.defects]
          | schema needed' place raw' =>
            have smaller := sizeOf_lt_of_mem_contents hp
            exact report_plain limit (level + 1) needed' place raw'
termination_by sizeOf raw

end JsonSchema
