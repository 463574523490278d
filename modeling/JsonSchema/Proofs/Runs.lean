/-
  JsonSchema.Proofs.Runs — where a run of characters ends.

  A reader that takes characters of one kind takes all of them that come first. So it finds the run that a
  text was put together from, if what stands behind the run does not go on with it (`Stops`).

  Statements:
  - `stops_dropWhile`: nothing of the run is left behind it.
  - `takeWhile_of_stops`, `dropWhile_of_stops`: the run and what stands behind it.
  - `run_apart`: texts that are the same have the same run.
-/

import Mathlib.Data.List.Basic
import Mathlib.Data.List.TakeWhile

namespace JsonSchema

variable {α : Type} {p : α → Bool}

/-- The list does not start with such an element. -/
def Stops (p : α → Bool) (rest : List α) : Prop := ∀ c ∈ rest.head?, p c = false

theorem stops_nil : Stops p [] := nofun

theorem stops_cons {c : α} (h : p c = false) (rest : List α) : Stops p (c :: rest) := by
  intro d mem
  rwa [← Option.mem_some_iff.mp mem]

theorem stops_dropWhile (p : α → Bool) (list : List α) : Stops p (list.dropWhile p) := by
  intro c mem
  have first := List.head?_dropWhile_not p list
  rwa [Option.mem_def.mp mem] at first

section

variable {run rest : List α} (all : ∀ c ∈ run, p c = true) (stops : Stops p rest)

include all stops

theorem takeWhile_of_stops : (run ++ rest).takeWhile p = run := by
  rw [List.takeWhile_append_of_pos all]
  cases rest with
  | nil => rw [List.takeWhile_nil, List.append_nil]
  | cons c more =>
    have other : p c = false := stops c rfl
    rw [List.takeWhile_cons_of_neg (by simp [other]), List.append_nil]

theorem dropWhile_of_stops : (run ++ rest).dropWhile p = rest := by
  have whole := List.takeWhile_append_dropWhile (p := p) (l := run ++ rest)
  rw [takeWhile_of_stops all stops] at whole
  exact List.append_cancel_left whole

end

/-- A run ends at the first character that is none of its own. -/
theorem run_apart {a b rest rest' : List α} (ha : ∀ c ∈ a, p c = true) (hb : ∀ c ∈ b, p c = true)
    (stops : Stops p rest) (stops' : Stops p rest') (h : a ++ rest = b ++ rest') : a = b ∧ rest = rest' := by
  have same : a = b := by rw [← takeWhile_of_stops ha stops, h, takeWhile_of_stops hb stops']
  subst same
  exact ⟨rfl, List.append_cancel_left h⟩

theorem bne_of_not_mem [BEq α] [LawfulBEq α] {c : α} {run : List α} (none : c ∉ run) : ∀ d ∈ run, (d != c) = true :=
  fun _ mem => bne_iff_ne.mpr fun same => none (same ▸ mem)

end JsonSchema
