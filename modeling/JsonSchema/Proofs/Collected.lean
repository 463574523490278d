/-
  JsonSchema.Proofs.Collected — what collecting defects keeps of them.

  A collection is known by the list of its defects (`toList_inj`). Putting two together appends their lists,
  so that the laws of appending are laws of collections. A collection from a list may as well be built one
  defect after the other (`gather?`).

  Leaving out repetitions keeps every defect where it first stands. The places of the first occurrences
  ascend along what is left (`pairwise_idxOf_eraseDups`): with the same defects in it, that determines it.

  Statements:
  - `toList_gather`: one defect after the other is all of them, in order.
  - `pairwise_idxOf_eraseDups`: what is left of a list stands in the order of the first occurrences.
  - `collection_laws`: collections from lists, put together, and without repetitions.
-/

import JsonSchema.Proofs.Defects
import Mathlib.Data.List.Basic

namespace JsonSchema

/-! ## First occurrences -/

section

variable {α : Type} [BEq α] [LawfulBEq α]

/-- In a part of a list an element stands behind what the part has of the elements before it. -/
theorem idxOf_filter {p : α → Bool} {x : α} {l : List α} (kept : p x = true) :
    (l.filter p).idxOf x = ((l.take (l.idxOf x)).filter p).length := by
  induction l with
  | nil => rfl
  | cons y rest ih =>
    by_cases same : y = x
    · subst same
      rw [List.filter_cons_of_pos kept, List.idxOf_cons_self, List.idxOf_cons_self]
      rfl
    · rw [List.idxOf_cons_ne _ same, List.take_succ_cons]
      by_cases there : p y = true
      · rw [List.filter_cons_of_pos there, List.filter_cons_of_pos there, List.idxOf_cons_ne _ same, ih,
          List.length_cons]
      · rw [List.filter_cons_of_neg there, List.filter_cons_of_neg there, ih]

/-- Taking a part of a list keeps the order of the first occurrences. -/
theorem idxOf_lt_of_filter {p : α → Bool} {x y : α} {l : List α} (hx : p x = true) (hy : p y = true)
    (h : (l.filter p).idxOf x < (l.filter p).idxOf y) : l.idxOf x < l.idxOf y := by
  by_cases less : l.idxOf x < l.idxOf y
  · exact less
  · have front : l.take (l.idxOf y) <+: l.take (l.idxOf x) := List.take_prefix_take_left (by omega)
    have fewer := (front.sublist.filter p).length_le
    rw [idxOf_filter hx, idxOf_filter hy] at h
    omega

/-- What is left of a list without repetitions stands in the order of the first occurrences. -/
theorem pairwise_idxOf_eraseDups (l : List α) : l.eraseDups.Pairwise fun x y => l.idxOf x < l.idxOf y := by
  match l with
  | [] => exact .nil
  | x :: rest =>
    have shorter : (rest.filter fun y => !y == x).length < rest.length + 1 :=
      Nat.lt_succ_of_le (List.length_filter_le _ _)
    have inner := pairwise_idxOf_eraseDups (rest.filter fun y => !y == x)
    have other {y : α} (mem : y ∈ (rest.filter fun y => !y == x).eraseDups) : (!y == x) = true :=
      (List.mem_filter.mp (List.mem_eraseDups.mp mem)).2
    have behind {y : α} (differs : (!y == x) = true) : (x :: rest).idxOf y = rest.idxOf y + 1 :=
      List.idxOf_cons_ne _ fun same => by simp [same] at differs
    rw [List.eraseDups_cons]
    refine List.pairwise_cons.mpr ⟨fun y mem => ?_, inner.imp_of_mem fun {y z} hy hz less => ?_⟩
    · rw [List.idxOf_cons_self, behind (other mem)]
      exact Nat.succ_pos _
    · rw [behind (other hy), behind (other hz)]
      exact Nat.succ_lt_succ (idxOf_lt_of_filter (other hy) (other hz) less)
termination_by l.length

end

/-! ## Collections -/

namespace Defects

def gather (first : Defect) (rest : List Defect) : Defects :=
  rest.foldl (fun ds d => ds.combine (single d)) (single first)

/-- As `ofList?`, one defect after the other. -/
def gather? : List Defect → Option Defects
  | [] => none
  | d :: rest => some (gather d rest)

/-- As `dedup`, the first defect apart from those that are kept of the others. -/
def gatherOnce (ds : Defects) : Defects :=
  gather ds.first ((ds.toList.drop 1).foldl
    (fun kept d => if d ≠ ds.first ∧ d ∉ kept then kept ++ [d] else kept) [])

theorem toList_foldl_combine (ds : Defects) (rest : List Defect) :
    (rest.foldl (fun ds d => ds.combine (single d)) ds).toList = ds.toList ++ rest := by
  induction rest generalizing ds with
  | nil => rw [List.foldl_nil, List.append_nil]
  | cons d rest ih => rw [List.foldl_cons, ih, toList_combine, toList_single, List.append_assoc, List.singleton_append]

theorem toList_gather (first : Defect) (rest : List Defect) : (gather first rest).toList = first :: rest :=
  toList_foldl_combine (single first) rest

theorem ofList?_eq_some {list : List Defect} {ds : Defects} : ofList? list = some ds ↔ ds.toList = list := by
  constructor
  · intro h
    cases list with
    | nil => cases h
    | cons d rest =>
      obtain rfl := Option.some.inj h
      rfl
  · rintro rfl
    rfl

theorem ofList?_eq_none {list : List Defect} : ofList? list = none ↔ list = [] := by
  cases list with
  | nil => exact ⟨fun _ => rfl, fun _ => rfl⟩
  | cons d rest => exact ⟨fun h => (nomatch h), fun h => (nomatch h)⟩

theorem gather?_eq (list : List Defect) : gather? list = ofList? list := by
  cases list with
  | nil => rfl
  | cons d rest => exact (ofList?_eq_some.mpr (toList_gather d rest)).symm

theorem gatherOnce_eq (ds : Defects) : gatherOnce ds = ds.dedup := by
  have kept : (fun (kept : List Defect) d => if d ≠ ds.first ∧ d ∉ kept then kept ++ [d] else kept) =
      fun kept d => if d ∈ ds.first :: kept then kept else kept ++ [d] := by
    funext kept d
    by_cases known : d ∈ ds.first :: kept
    · rw [if_pos known, if_neg]
      rintro ⟨head, tail⟩
      exact (List.mem_cons.mp known).elim head tail
    · have apart := not_or.mp fun either => known (List.mem_cons.mpr either)
      rw [if_neg known, if_pos apart]
  apply toList_inj
  rw [gatherOnce, toList_gather, kept]
  rfl

theorem nodup_dedup (ds : Defects) : ds.dedup.toList.Nodup := by
  rw [toList_dedup]
  refine (pairwise_idxOf_eraseDups ds.toList).imp fun {d e} less same => ?_
  subst same
  exact Nat.lt_irrefl _ less

theorem dedup_dedup (ds : Defects) : ds.dedup.dedup = ds.dedup := by
  apply toList_inj
  rw [toList_dedup, eraseDups_of_nodup (nodup_dedup ds)]

/-- Collections are lists that are not empty: they are built from such a list and give it back, putting two
    together appends their lists, and without repetitions each of the defects is there once, in the order in
    which they first stand. Building them one defect after the other is the same. -/
theorem collection_laws :
    (∀ list : List Defect, (ofList? list = none ↔ list = []) ∧ (∀ ds, ofList? list = some ds ↔ ds.toList = list) ∧
      gather? list = ofList? list) ∧
    (∀ a b c : Defects, (a.combine b).toList = a.toList ++ b.toList ∧
      (a.combine b).combine c = a.combine (b.combine c) ∧ (a.combine b).size = a.size + b.size ∧
      (a.combine b).first = a.first ∧ a.toList.head? = some a.first ∧
      ∀ place, (a.combine b).atPath place = a.atPath place ++ b.atPath place) ∧
    ∀ ds : Defects, (∀ d, d ∈ ds.dedup.toList ↔ d ∈ ds.toList) ∧ ds.dedup.toList.Nodup ∧
      (ds.dedup.toList.Pairwise fun d e => ds.toList.idxOf d < ds.toList.idxOf e) ∧
      ds.dedup.first = ds.first ∧ ds.dedup.dedup = ds.dedup ∧ gatherOnce ds = ds.dedup := by
  refine ⟨fun list => ⟨ofList?_eq_none, fun ds => ofList?_eq_some, gather?_eq list⟩, fun a b c => ?_, fun ds => ?_⟩
  · refine ⟨toList_combine a b, ?_, ?_, rfl, rfl, fun place => ?_⟩
    · apply toList_inj
      simp only [toList_combine, List.append_assoc]
    · rw [size, toList_combine, List.length_append, size, size]
    · rw [atPath, toList_combine, List.filter_append, atPath, atPath]
  · refine ⟨fun d => ?_, nodup_dedup ds, ?_, rfl, dedup_dedup ds, gatherOnce_eq ds⟩
    · rw [toList_dedup, List.mem_eraseDups]
    · rw [toList_dedup]
      exact pairwise_idxOf_eraseDups ds.toList

end Defects

end JsonSchema
