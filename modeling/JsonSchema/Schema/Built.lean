/-
  JsonSchema.Schema.Built — what is built from a part of a document, or the defects of that part.

  Parts are built side by side: one that fails does not keep the others from being looked at,
  and their defects stand in the order of the parts.

  Statements: the defects of several parts are those of each, one after another
  (`defects_both`, `defects_all`); several parts build just when each does (`both_eq_ok`,
  `all_eq_ok`), in their order (`pairwise_of_all`).
-/

import JsonSchema.Defect

namespace JsonSchema

/-- Something built from a part of a document, or the defects of that part. -/
abbrev Built (α : Type) := Except Defects α

namespace Built

variable {α β : Type}

def defect (path : Path) (cause : Defect.Cause) : Built α := .error (.single ⟨path, cause⟩)

def both (a : Built α) (b : Built β) : Built (α × β) :=
  match a, b with
  | .ok a, .ok b => .ok (a, b)
  | .error d, .error e => .error (d.combine e)
  | .error d, .ok _ => .error d
  | .ok _, .error e => .error e

def all : List (Built α) → Built (List α)
  | [] => .ok []
  | b :: rest => (both b (all rest)).map fun (a, more) => a :: more

/-! ## What is built -/

@[simp] theorem defect_ne_ok (path : Path) (cause : Defect.Cause) (a : α) :
    (defect path cause : Built α) ≠ .ok a := by simp [defect]

@[simp] theorem map_eq_ok {f : α → β} {b : Built α} {c : β} :
    b.map f = .ok c ↔ ∃ a, b = .ok a ∧ f a = c := by
  cases b <;> simp [Except.map]

theorem both_eq_ok {a : Built α} {b : Built β} {c : α × β} :
    both a b = .ok c ↔ a = .ok c.1 ∧ b = .ok c.2 := by
  obtain ⟨x, y⟩ := c
  cases a <;> cases b <;> simp [both]

/-- All build just when each does. -/
theorem all_eq_ok {parts : List (Built α)} {built : List α} :
    all parts = .ok built ↔ parts = built.map .ok := by
  induction parts generalizing built with
  | nil => cases built <;> simp [all]
  | cons b rest ih =>
    cases built with
    | nil => simp [all]
    | cons a more =>
      simp only [all, map_eq_ok, both_eq_ok, List.map_cons, List.cons.injEq]
      constructor
      · rintro ⟨⟨x, xs⟩, ⟨hb, hr⟩, rfl, rfl⟩
        exact ⟨hb, ih.mp hr⟩
      · rintro ⟨hb, hr⟩
        exact ⟨(a, more), ⟨hb, ih.mpr hr⟩, rfl, rfl⟩

section

variable {parts : List (Built α)} {built : List α}

theorem mem_of_all (h : all parts = .ok built) {a : α} : a ∈ built ↔ .ok a ∈ parts := by
  rw [all_eq_ok.mp h]
  simp

/-- Each part of what was built was built. -/
theorem ok_of_all (h : all parts = .ok built) {b : Built α} (hb : b ∈ parts) : ∃ a, b = .ok a := by
  rw [all_eq_ok.mp h] at hb
  obtain ⟨a, -, rfl⟩ := List.mem_map.mp hb
  exact ⟨a, rfl⟩

/-- What was built stands in the order of the parts. -/
theorem pairwise_of_all (h : all parts = .ok built) {R : α → α → Prop}
    (order : parts.Pairwise fun b c => ∀ x y, b = .ok x → c = .ok y → R x y) : built.Pairwise R := by
  rw [all_eq_ok.mp h] at order
  exact (List.pairwise_map.mp order).imp fun related => related _ _ rfl rfl

end

/-! ## The defects -/

def defects : Built α → List Defect
  | .ok _ => []
  | .error ds => ds.toList

@[simp] theorem defects_ok (a : α) : defects (.ok a : Built α) = [] := rfl

@[simp] theorem defects_error (ds : Defects) : defects (.error ds : Built α) = ds.toList := rfl

@[simp] theorem defects_defect (path : Path) (cause : Defect.Cause) :
    defects (defect path cause : Built α) = [⟨path, cause⟩] := rfl

@[simp] theorem defects_map (f : α → β) (b : Built α) : defects (b.map f) = defects b := by
  cases b <;> rfl

@[simp] theorem defects_both (a : Built α) (b : Built β) :
    defects (both a b) = defects a ++ defects b := by
  cases a <;> cases b <;> simp [both]

@[simp] theorem defects_all (parts : List (Built α)) : defects (all parts) = parts.flatMap defects := by
  induction parts with
  | nil => rfl
  | cons b rest ih => simp [all, ih]

/-- Something is built just when there is no defect. -/
theorem defects_eq_nil {b : Built α} : defects b = [] ↔ ∃ a, b = .ok a := by
  cases b <;> simp [defects, Defects.toList]

end Built

end JsonSchema
