/-
  JsonSchema.Proofs.Visits — the way through a document, without a limit.

  `visits` lists the places of schemas and the defects on the way through a document, each with
  its level. Without a limit the defects among them are all that is wrong. A limit cuts the list
  at one level: `cut` keeps the defects down to the limit, puts one defect in the place of each
  schema one level below it and leaves out everything further down.

  Statements:
  - `mem_visits_schema`, `mem_visits_defect`: what is visited are the positions of the document
    and the defects at them.
  - `report_eq_cut`: the report with a limit is the cut of the visits.
  - `report_eq_found`: where no schema lies beyond the limit, nothing is cut.
-/

import JsonSchema.Proofs.Report
import Mathlib.Data.List.Basic

namespace JsonSchema

open Json (Members)

inductive Visit where
  | schema (path : Path)
  | defect (d : Defect)

/-- Everything on the way through what stands in a place, with levels. -/
def visits (level : Nat) (needed : Option ValueType) (path : Path) (raw : Json) : List (Nat × Visit) :=
  (level, .schema path) :: (contents needed path raw).attach.flatMap fun
    | ⟨.problem d, _⟩ => [(level, .defect d)]
    | ⟨.schema needed place raw, _⟩ => visits (level + 1) needed place raw
termination_by sizeOf raw
decreasing_by exact sizeOf_lt_of_mem_contents ‹_›

def Part.visits (level : Nat) : Part → List (Nat × Visit)
  | .problem d => [(level, .defect d)]
  | .schema needed place raw => JsonSchema.visits (level + 1) needed place raw

theorem visits_eq (level : Nat) (needed : Option ValueType) (path : Path) (raw : Json) :
    visits level needed path raw =
      (level, .schema path) :: (contents needed path raw).flatMap (Part.visits level) := by
  rw [visits, List.flatMap_subtype (g := Part.visits level) (fun part _ => by cases part <;> rfl),
    List.unattach_attach]

def found : Nat × Visit → Option Defect
  | (_, .defect d) => some d
  | (_, .schema _) => none

/-- What a limit makes of a visit. -/
def cut (limit : Nat) : Nat × Visit → Option Defect
  | (level, .defect d) => if level ≤ limit then some d else none
  | (level, .schema path) => if level = limit + 1 then some ⟨path, .depthExceeded limit⟩ else none

theorem cut_beyond {limit : Nat} {e : Nat × Visit} (h : limit + 1 < e.1) : cut limit e = none := by
  obtain ⟨level, _ | _⟩ := e
  · exact if_neg (by simp at h; omega)
  · exact if_neg (by simp at h; omega)

theorem cut_within {limit : Nat} {e : Nat × Visit} (h : e.1 ≤ limit) : cut limit e = found e := by
  obtain ⟨level, _ | _⟩ := e
  · exact if_neg (by simp at h; omega)
  · exact if_pos h

/-! ## What is visited -/

/-- A visit in a place is at its level or further down. -/
theorem le_of_mem_visits {level : Nat} {needed : Option ValueType} {path : Path} {raw : Json} {e : Nat × Visit}
    (h : e ∈ visits level needed path raw) : level ≤ e.1 := by
  rw [visits_eq] at h
  rcases List.mem_cons.mp h with rfl | h
  · exact Nat.le_refl _
  · obtain ⟨part, hp, h⟩ := List.mem_flatMap.mp h
    cases part with
    | problem d =>
      obtain rfl := List.mem_singleton.mp h
      exact Nat.le_refl _
    | schema needed' place raw' =>
      have smaller := sizeOf_lt_of_mem_contents hp
      have inner : level + 1 ≤ e.1 := le_of_mem_visits h
      omega
termination_by sizeOf raw

/-- Whatever is visited below a position is visited in the document. -/
theorem visits_subset_of_position {level : Nat} {document raw : Json} {needed : Option ValueType} {path : Path}
    (h : Position document level needed path raw) : visits level needed path raw ⊆ visits 0 none [] document := by
  induction h with
  | root => exact fun e he => he
  | down above clear below ih =>
    intro e he
    refine ih ?_
    rw [visits_eq]
    refine List.mem_cons_of_mem _ (List.mem_flatMap.mpr ⟨_, mem_contents_schema.mpr ⟨_, _, rfl, clear, below⟩, he⟩)

/-- The visit is to what stands in a place, and to nothing below it. -/
def Visit.Of (needed : Option ValueType) (path : Path) (raw : Json) : Visit → Prop
  | .schema place => place = path
  | .defect d => .problem d ∈ contents needed path raw

/-- Every visit is to a position. -/
theorem position_of_mem_visits {document : Json} {level level' : Nat} {needed : Option ValueType} {path : Path}
    {raw : Json} (here : Position document level needed path raw) {v : Visit}
    (h : (level', v) ∈ visits level needed path raw) :
    ∃ needed' path' raw', Position document level' needed' path' raw' ∧ v.Of needed' path' raw' := by
  rw [visits_eq] at h
  rcases List.mem_cons.mp h with h | h
  · obtain ⟨rfl, rfl⟩ := Prod.mk.inj h
    exact ⟨needed, path, raw, here, rfl⟩
  · obtain ⟨part, hp, he⟩ := List.mem_flatMap.mp h
    cases part with
    | problem d =>
      obtain ⟨rfl, rfl⟩ := Prod.mk.inj (List.mem_singleton.mp he)
      exact ⟨needed, path, raw, here, hp⟩
    | schema needed' place raw' =>
      have smaller := sizeOf_lt_of_mem_contents hp
      obtain ⟨members, type, rfl, clear, below⟩ := mem_contents_schema.mp hp
      exact position_of_mem_visits (here.down clear below) he
termination_by sizeOf raw

/-- The schemas that are visited are those at the positions of the document. -/
theorem mem_visits_schema {document : Json} {level : Nat} {path : Path} :
    (level, .schema path) ∈ visits 0 none [] document ↔
      ∃ needed raw, Position document level needed path raw := by
  constructor
  · intro h
    obtain ⟨needed, path', raw, position, rfl⟩ := position_of_mem_visits .root h
    exact ⟨needed, raw, position⟩
  · rintro ⟨needed, raw, position⟩
    refine visits_subset_of_position position ?_
    rw [visits_eq]
    exact List.mem_cons_self

/-- The defects that are visited are those of the schemas at the positions, with their levels. -/
theorem mem_visits_defect {document : Json} {level : Nat} {d : Defect} :
    (level, .defect d) ∈ visits 0 none [] document ↔
      ∃ needed path raw, Position document level needed path raw ∧ .problem d ∈ contents needed path raw := by
  constructor
  · intro h
    exact position_of_mem_visits .root h
  · rintro ⟨needed, path, raw, position, h⟩
    refine visits_subset_of_position position ?_
    rw [visits_eq]
    exact List.mem_cons_of_mem _ (List.mem_flatMap.mpr ⟨_, h, List.mem_singleton_self _⟩)

/-! ## The report -/

/-- The report with a limit is what the limit leaves of the visits. -/
theorem report_eq_cut {limit level : Nat} (hl : level ≤ limit + 1) (needed : Option ValueType) (path : Path)
    (raw : Json) : report limit level needed path raw = (visits level needed path raw).filterMap (cut limit) := by
  rw [visits_eq]
  by_cases h : limit < level
  · obtain rfl : level = limit + 1 := by omega
    have below : ((contents needed path raw).flatMap (Part.visits (limit + 1))).filterMap (cut limit) = [] := by
      refine List.filterMap_eq_nil_iff.mpr fun e he => ?_
      obtain ⟨part, hp, he⟩ := List.mem_flatMap.mp he
      cases part with
      | problem d =>
        obtain rfl := List.mem_singleton.mp he
        exact if_neg (by omega)
      | schema needed' place raw' => exact cut_beyond (le_of_mem_visits he)
    have here : cut limit (limit + 1, .schema path) = some ⟨path, .depthExceeded limit⟩ := if_pos rfl
    rw [report_beyond h, List.filterMap_cons_some here, below]
  · have here : cut limit (level, .schema path) = none := if_neg (by omega)
    rw [report_within (by omega), List.filterMap_cons_none here, List.filterMap_flatMap]
    refine List.flatMap_congr fun part hp => ?_
    cases part with
    | problem d =>
      have kept : cut limit (level, .defect d) = some d := if_pos (by omega)
      simp [Part.defects, Part.visits, kept]
    | schema needed' place raw' =>
      have smaller := sizeOf_lt_of_mem_contents hp
      exact report_eq_cut (by omega) needed' place raw'
termination_by sizeOf raw

/-! ## Levels enough -/

def deepest (document : Json) : Nat := (visits 0 none [] document).foldr (fun e n => max e.1 n) 0

theorem foldr_max_le {n : Nat} {l : List (Nat × Visit)} :
    l.foldr (fun e n => max e.1 n) 0 ≤ n ↔ ∀ e ∈ l, e.1 ≤ n := by
  induction l with
  | nil => simp
  | cons e rest ih => rw [List.foldr_cons, Nat.max_le, ih, List.forall_mem_cons]

theorem deepest_le_iff {document : Json} {n : Nat} :
    deepest document ≤ n ↔ ∀ level needed path raw, Position document level needed path raw → level ≤ n := by
  unfold deepest
  rw [foldr_max_le]
  constructor
  · intro h level needed path raw position
    exact h _ (mem_visits_schema.mpr ⟨needed, raw, position⟩)
  · rintro h ⟨level, v⟩ he
    obtain ⟨needed, path, raw, position, -⟩ := position_of_mem_visits .root he
    exact h level needed path raw position

/-- A limit that no schema goes beyond leaves every defect and adds none. -/
theorem report_eq_found {limit : Nat} {document : Json} (h : deepest document ≤ limit) :
    report limit 0 none [] document = (visits 0 none [] document).filterMap found := by
  rw [report_eq_cut (Nat.zero_le _)]
  refine List.filterMap_congr fun e he => cut_within ?_
  exact foldr_max_le.mp h e he

/-- A schema beyond the limit is a defect. -/
theorem report_ne_nil {limit level : Nat} {document raw : Json} {needed : Option ValueType} {path : Path}
    (h : Position document level needed path raw) (hl : limit < level) : report limit 0 none [] document ≠ [] := by
  have first : ∃ needed path raw, Position document (limit + 1) needed path raw := by
    induction h with
    | root => omega
    | @down level needed needed' path place members type raw above clear below ih =>
      by_cases deeper : limit < level
      · exact ih deeper
      · obtain rfl : level = limit := by omega
        exact ⟨_, _, _, above.down clear below⟩
  obtain ⟨needed, path, raw, position⟩ := first
  have beyond := report_subset_of_position position (Nat.le_refl _)
  rw [report_beyond (Nat.lt_succ_self _)] at beyond
  exact List.ne_nil_of_mem (beyond (List.mem_singleton_self _))

end JsonSchema
