/-
  JsonSchema.Proofs.Equality — values by their marks.

  The marks of a value tell where it ends: an array and an object begin with their size. So what
  follows a value in a list of marks does not matter for what the value is, and two lists that go
  on after a value agree only if they begin with the same one.

  Statements:
  - `same_of_marks_append`: marks that agree come from values that are the same.
  - `marks_eq_iff`: two values have the same marks just when they are the same.
  - `firstRepeat?_eq`: looking marks up finds the first item that is the same as an earlier one.
-/

import JsonSchema.Json.Equality
import Std.Data.HashSet.Lemmas

namespace JsonSchema.Json

/-! ## Marks of values that are the same -/

mutual

theorem marks_of_same {a b : Json} (h : same a b) : marks a = marks b := by
  cases a <;> cases b <;> simp only [same, Bool.false_eq_true, beq_iff_eq, decide_eq_true_eq] at h
  case null.null => rfl
  case bool.bool => rw [h]
  case number.number => simp only [marks, h]
  case string.string => rw [h]
  case array.array =>
    obtain ⟨size, items⟩ := marksOfItems_of_same h
    simp only [marks, size, items]
  case object.object =>
    obtain ⟨size, members⟩ := marksOfMembers_of_same h
    simp only [marks, size, members]

theorem marksOfItems_of_same {as bs : List Json} (h : sameItems as bs) :
    as.length = bs.length ∧ marksOfItems as = marksOfItems bs := by
  match as, bs with
  | [], [] => exact ⟨rfl, rfl⟩
  | [], _ :: _ => simp [sameItems] at h
  | _ :: _, [] => simp [sameItems] at h
  | a :: as, b :: bs =>
    simp only [sameItems, Bool.and_eq_true] at h
    obtain ⟨size, rest⟩ := marksOfItems_of_same h.2
    simp only [List.length_cons, size, marksOfItems, marks_of_same h.1, rest, and_self]

theorem marksOfMembers_of_same {as bs : Members} (h : sameMembers as bs) :
    as.length = bs.length ∧ marksOfMembers as = marksOfMembers bs := by
  match as, bs with
  | [], [] => exact ⟨rfl, rfl⟩
  | [], _ :: _ => simp [sameMembers] at h
  | _ :: _, [] => simp [sameMembers] at h
  | (j, a) :: as, (k, b) :: bs =>
    simp only [sameMembers, Bool.and_eq_true, beq_iff_eq] at h
    obtain ⟨size, rest⟩ := marksOfMembers_of_same h.2
    simp only [List.length_cons, size, marksOfMembers, h.1.1, marks_of_same h.1.2, rest, and_self]

end

/-! ## Values of marks that agree -/

mutual

/-- A list of marks begins with those of one value only, and so goes on in one way. -/
theorem same_of_marks_append {a b : Json} {r r' : List Mark} (h : marks a ++ r = marks b ++ r') :
    same a b ∧ r = r' := by
  cases a <;> cases b <;>
    simp only [marks, List.cons_append, List.nil_append, List.cons.injEq, Mark.bool.injEq, Mark.number.injEq,
      Mark.string.injEq, Mark.array.injEq, Mark.object.injEq, reduceCtorEq, false_and, true_and] at h
  case null.null => exact ⟨rfl, h⟩
  case bool.bool => exact ⟨by simp [same, h.1], h.2⟩
  case number.number => exact ⟨by simp [same, h.1], h.2⟩
  case string.string => exact ⟨by simp [same, h.1], h.2⟩
  case array.array =>
    obtain ⟨items, rest⟩ := sameItems_of_marks_append h.1 h.2
    exact ⟨items, rest⟩
  case object.object =>
    obtain ⟨members, rest⟩ := sameMembers_of_marks_append h.1 h.2
    exact ⟨members, rest⟩

theorem sameItems_of_marks_append {as bs : List Json} {r r' : List Mark} (size : as.length = bs.length)
    (h : marksOfItems as ++ r = marksOfItems bs ++ r') : sameItems as bs ∧ r = r' := by
  match as, bs with
  | [], [] => exact ⟨rfl, h⟩
  | [], _ :: _ => cases size
  | _ :: _, [] => cases size
  | a :: as, b :: bs =>
    simp only [marksOfItems, List.append_assoc] at h
    obtain ⟨first, h⟩ := same_of_marks_append h
    obtain ⟨items, rest⟩ := sameItems_of_marks_append (Nat.succ.inj size) h
    exact ⟨by simp [sameItems, first, items], rest⟩

theorem sameMembers_of_marks_append {as bs : Members} {r r' : List Mark} (size : as.length = bs.length)
    (h : marksOfMembers as ++ r = marksOfMembers bs ++ r') : sameMembers as bs ∧ r = r' := by
  match as, bs with
  | [], [] => exact ⟨rfl, h⟩
  | [], _ :: _ => cases size
  | _ :: _, [] => cases size
  | (j, a) :: as, (k, b) :: bs =>
    simp only [marksOfMembers, List.cons_append, List.append_assoc, List.cons.injEq, Mark.key.injEq] at h
    obtain ⟨key, h⟩ := h
    obtain ⟨first, h⟩ := same_of_marks_append h
    obtain ⟨members, rest⟩ := sameMembers_of_marks_append (Nat.succ.inj size) h
    exact ⟨by simp [sameMembers, key, first, members], rest⟩

end

theorem marks_eq_iff {a b : Json} : marks a = marks b ↔ same a b := by
  constructor
  · intro h
    exact (same_of_marks_append (congrArg (· ++ []) h)).1
  · exact marks_of_same

/-! ## Repeated items -/

/-- The items that are the same as an earlier one, with their positions, in order. -/
def repeats (items : List Json) : List (Json × Nat) :=
  items.zipIdx.filter fun (v, i) => (items.take i).any (same v)

theorem firstRepeat_eq (seen : Std.HashSet (List Mark)) (before rest : List Json)
    (h : ∀ v, seen.contains (marks v) = before.any (same v)) :
    firstRepeat seen before.length rest =
      ((rest.zipIdx before.length).filter fun (v, i) => ((before ++ rest).take i).any (same v)).head?.map
        fun (v, i) => (i, v) := by
  induction rest generalizing seen before with
  | nil => rfl
  | cons v rest ih =>
    have here : (before ++ v :: rest).take before.length = before := List.take_left
    rw [List.zipIdx_cons, List.filter_cons]
    simp only [firstRepeat, h, here]
    by_cases repeated : before.any (same v)
    · simp [repeated]
    · have next : ∀ w, (seen.insert (marks v)).contains (marks w) = (before ++ [v]).any (same w) := by
        intro w
        have : (marks v == marks w) = same w v := by
          rw [Bool.eq_iff_iff, beq_iff_eq, eq_comm, marks_eq_iff]
        simp [Std.HashSet.contains_insert, h, this, Bool.or_comm]
      have later := ih (seen.insert (marks v)) (before ++ [v]) next
      simp only [List.length_append, List.length_singleton, List.append_assoc, List.singleton_append] at later
      simpa [repeated] using later

/-- Looking marks up finds the first repeated item. -/
theorem firstRepeat?_eq (items : List Json) :
    firstRepeat? items = (repeats items).head?.map fun (v, i) => (i, v) :=
  firstRepeat_eq ∅ [] items fun _ => by simp

theorem same_comm {a b : Json} : same a b ↔ same b a := by
  rw [← marks_eq_iff, ← marks_eq_iff, eq_comm]

/-- No item is repeated just when no two positions hold the same value. -/
theorem repeats_eq_nil_iff {items : List Json} : repeats items = [] ↔ items.Pairwise fun a b => ¬same a b := by
  unfold repeats
  rw [List.filter_eq_nil_iff, List.pairwise_iff_getElem]
  constructor
  · intro h i j hi hj lt equal
    refine h (items[j], j) (List.mem_zipIdx_iff_getElem?.mpr (List.getElem?_eq_getElem hj)) ?_
    refine List.any_eq_true.mpr ⟨items[i], List.mem_take_iff_getElem.mpr ⟨i, by omega, rfl⟩, same_comm.mp equal⟩
  · rintro h ⟨v, j⟩ mem earlier
    have found : items[j]? = some v := List.mem_zipIdx_iff_getElem?.mp mem
    obtain ⟨hj, rfl⟩ := List.getElem?_eq_some_iff.mp found
    obtain ⟨w, hw, equal⟩ := List.any_eq_true.mp earlier
    obtain ⟨i, hi, rfl⟩ := List.mem_take_iff_getElem.mp hw
    exact h i j (by omega) hj (by omega) (same_comm.mp equal)

end JsonSchema.Json
