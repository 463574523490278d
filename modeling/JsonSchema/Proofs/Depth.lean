/-
  JsonSchema.Proofs.Depth — what the limit on nesting does.

  Compiling without a limit is compiling within the level of the deepest schema. The outcome
  within any other limit is the same one, cut at one level.

  Statements:
  - `compileWithin_mono`: what compiles within a limit compiles to the same within a greater one.
  - `compileWithin_blank`: whatever stands one level below the limit is not looked at.
  - `compileWithin_ok_iff`: when something compiles within a limit.
  - `compileWithin_cut`: all of this for the outcome of compiling.
-/

import JsonSchema.Proofs.Blank
import JsonSchema.Proofs.Refines
import JsonSchema.Proofs.Visits

namespace JsonSchema

open Json (blank)

/-- The schema that a document describes however deep it is, or everything that is wrong. -/
def Schema.compileUnlimited (raw : Json) : Except Defects Schema := compileWithin (deepest raw) raw

/-- What compiles within a limit compiles to the same within a greater one. -/
theorem compileWithin_mono {depth depth' : Nat} (h : depth ≤ depth') {raw : Json} {s : Schema}
    (hs : Schema.compileWithin depth raw = .ok s) : Schema.compileWithin depth' raw = .ok s :=
  compileWithin_eq_ok.mpr (compileNode_mono (Nat.succ_le_succ h) _ _ _ (compileWithin_eq_ok.mp hs))

/-- What stands one level below the limit is not looked at. -/
theorem compileWithin_blank (depth : Nat) (raw : Json) :
    Schema.compileWithin depth (blank (depth + 1) raw) = Schema.compileWithin depth raw := by
  unfold Schema.compileWithin
  rw [compileNode_blank]

/-- Outcomes with the same defects are the same, where one builds what the other does. -/
theorem Refines.eq_of_defects {α : Type} {b b' : Built α} (h : Refines b b') (same : b.defects = b'.defects) :
    b = b' := by
  cases b with
  | ok a => exact (h a (Eq.refl _)).symm
  | error ds =>
    cases b' with
    | ok a => exact absurd same (List.cons_ne_nil _ _)
    | error ds' => rw [Defects.toList_inj same]

/-- A limit that no schema goes beyond is no limit. -/
theorem compileWithin_of_deepest_le {n : Nat} {raw : Json} (h : deepest raw ≤ n) :
    Schema.compileUnlimited raw = Schema.compileWithin n raw := by
  have more : Refines (Schema.compileUnlimited raw) (Schema.compileWithin n raw) := fun s hs =>
    compileWithin_mono h hs
  refine more.eq_of_defects ?_
  unfold Schema.compileUnlimited
  rw [compileWithin_defects, compileWithin_defects, report_eq_found h, report_eq_found (Nat.le_refl _)]

/-- A schema comes out within a limit just when one comes out without and none lies beyond it. -/
theorem compileWithin_ok_iff (m : Nat) (raw : Json) :
    (∃ s, Schema.compileWithin m raw = .ok s) ↔
      (∃ s, Schema.compileUnlimited raw = .ok s) ∧
        ∀ level needed path raw', Position raw level needed path raw' → level ≤ m := by
  rw [← deepest_le_iff]
  constructor
  · rintro ⟨s, hs⟩
    have all : deepest raw ≤ m := by
      rw [deepest_le_iff]
      intro level needed path raw' position
      by_cases hl : level ≤ m
      · exact hl
      · have none : (report m 0 none [] raw).eraseDups = [] := by
          rw [← compileWithin_defects, hs]
          rfl
        refine absurd ?_ (report_ne_nil position (Nat.lt_of_not_le hl))
        refine List.eq_nil_iff_forall_not_mem.mpr fun d hd => ?_
        rw [← List.mem_eraseDups, none] at hd
        cases hd
    exact ⟨⟨s, (compileWithin_of_deepest_le all).trans hs⟩, all⟩
  · rintro ⟨⟨s, hs⟩, all⟩
    exact ⟨s, (compileWithin_of_deepest_le all).symm.trans hs⟩

/-- The limit cuts what is found without it at one level, in its order, and changes nothing else: it
    looks at nothing further down, and what compiles within it compiles to the same within any
    greater one. -/
theorem compileWithin_cut (m : Nat) (raw : Json) (h : raw.WellFormed) :
    (∀ n, deepest raw ≤ n → Schema.compileUnlimited raw = Schema.compileWithin n raw) ∧
      Built.defects (Schema.compileUnlimited raw) = (visits 0 none [] raw).filterMap found ∧
      Built.defects (Schema.compileWithin m raw) = (visits 0 none [] raw).filterMap (cut m) ∧
      (Built.defects (Schema.compileWithin m raw)).Nodup ∧
      (∀ level path, (level, .schema path) ∈ visits 0 none [] raw ↔
        ∃ needed raw', Position raw level needed path raw') ∧
      (∀ level d, (level, .defect d) ∈ visits 0 none [] raw ↔
        ∃ needed path raw', Position raw level needed path raw' ∧ .problem d ∈ contents needed path raw') ∧
      Schema.compileWithin m (blank (m + 1) raw) = Schema.compileWithin m raw ∧
      ((∃ s, Schema.compileWithin m raw = .ok s) ↔
        (∃ s, Schema.compileUnlimited raw = .ok s) ∧
          ∀ level needed path raw', Position raw level needed path raw' → level ≤ m) ∧
      ∀ s, Schema.compileWithin m raw = .ok s → ∀ m', m ≤ m' → Schema.compileWithin m' raw = .ok s := by
  have once (n : Nat) : Built.defects (Schema.compileWithin n raw) = report n 0 none [] raw := by
    rw [compileWithin_defects, eraseDups_of_nodup (nodup_report h)]
  refine ⟨fun n hn => compileWithin_of_deepest_le hn, ?_, ?_, ?_, fun _ _ => mem_visits_schema,
    fun _ _ => mem_visits_defect, compileWithin_blank m raw, compileWithin_ok_iff m raw,
    fun s hs m' hm => compileWithin_mono hm hs⟩
  · exact (once _).trans (report_eq_found (Nat.le_refl _))
  · exact (once m).trans (report_eq_cut (Nat.zero_le _) _ _ _)
  · rw [once]
    exact nodup_report h

/-- Two levels below the outermost schema: one schema of no known type, one that is no object. -/
def layered : Json :=
  .object [("items", .object [("contains", .null), ("items", .object [("type", .string "none")]),
    ("type", .string "array")]), ("type", .string "array")]

/-- Below a limit of one level both are too deep, whatever is wrong with them. -/
theorem compileWithin_cut_layered :
    layered.WellFormed ∧
      Built.defects (Schema.compileUnlimited layered) =
        [⟨[.key "items", .key "items", .key "type"], .unknownType "none"⟩,
         ⟨[.key "items", .key "contains"], .notAnObject "null"⟩] ∧
      Built.defects (Schema.compileWithin 1 layered) =
        [⟨[.key "items", .key "items"], .depthExceeded 1⟩, ⟨[.key "items", .key "contains"], .depthExceeded 1⟩] := by
  have wellFormed : layered.WellFormed := by
    simp only [layered, Json.WellFormed, Json.WellFormedMembers, Json.Ordered, and_true]
    decide
  obtain ⟨-, unlimited, limited, -⟩ := compileWithin_cut 1 layered wellFormed
  refine ⟨wellFormed, unlimited.trans ?_, limited.trans ?_⟩
  · decide +kernel
  · decide +kernel

end JsonSchema
