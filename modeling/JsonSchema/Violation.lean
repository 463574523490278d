/-
  JsonSchema.Violation — how a value breaks a schema.

  A violation says where, what was expected and what is there. The keyword that was broken is
  named once: a violation found inside a nested schema keeps the innermost keyword on its way
  out.
-/

import JsonSchema.Path

namespace JsonSchema

structure Violation where
  path : Path
  keyword : Option String
  expected : String
  got : String
  deriving DecidableEq

namespace Violation

def new (expected got : String) (path : Path := []) : Violation := ⟨path, none, expected, got⟩

/-- Names the keyword, unless one is named already. -/
def labelled (v : Violation) (keyword : String) : Violation :=
  { v with keyword := v.keyword.or (some keyword) }

def message (v : Violation) : String :=
  Path.label v.path ++ ": failed to validate " ++ v.keyword.getD "value" ++ "; got: " ++ v.got ++
    ", expected: " ++ v.expected

end Violation

abbrev Verdict := Except Violation Unit

namespace Verdict

def pass : Verdict := .ok ()

def fail (path : Path) (expected got : String) : Verdict := .error (.new expected got path)

def require (holds : Bool) (path : Path) (expected got : String) : Verdict :=
  if holds then pass else fail path expected got

def labelled (keyword : String) (v : Verdict) : Verdict := v.mapError (·.labelled keyword)

/-- The second counts only where the first passes, and is not looked at elsewhere. -/
@[macro_inline] def and (first second : Verdict) : Verdict :=
  match first with
  | .ok _ => second
  | .error e => .error e

theorem and_eq_pass {first second : Verdict} :
    first.and second = pass ↔ first = pass ∧ second = pass := by
  cases first <;> simp [and, pass]

def all : List Verdict → Verdict
  | [] => pass
  | v :: rest => v.and (all rest)

theorem all_eq_pass {verdicts : List Verdict} : all verdicts = pass ↔ ∀ v ∈ verdicts, v = pass := by
  induction verdicts with
  | nil => simp [all]
  | cons v rest ih => simp [all, and_eq_pass, ih]

end Verdict

end JsonSchema
