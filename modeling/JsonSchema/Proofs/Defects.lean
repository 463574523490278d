/-
  JsonSchema.Proofs.Defects — defects once each.

  Two lists agree when they are the same once each element is left only where it first stands.
  What is built from several parts is compared up to this agreement, so that a part that is
  looked at twice does not matter.

  Statements:
  - `Agree.append`, `Agree.flatMap`: lists that agree piece by piece agree.
  - `agree_of_subset`: a piece that only repeats what stands before it may be left out.
  - `toList_dedup`: keeping each defect once is `List.eraseDups`.
-/

import JsonSchema.Defect

namespace JsonSchema

variable {α β : Type} [BEq α]

/-- The same elements, first found in the same order. -/
def Agree (a b : List α) : Prop := a.eraseDups = b.eraseDups

theorem Agree.rfl {a : List α} : Agree a a := Eq.refl _

theorem Agree.trans {a b c : List α} (h : Agree a b) (h' : Agree b c) : Agree a c := Eq.trans h h'

variable [LawfulBEq α]

/-- What is removed only matters by its elements. -/
theorem removeAll_congr {a a' : List α} (h : ∀ x, x ∈ a ↔ x ∈ a') (b : List α) :
    b.removeAll a = b.removeAll a' := by
  refine List.filter_congr fun x _ => ?_
  have : (List.elem x a) = (List.elem x a') := Bool.eq_iff_iff.mpr (by simpa using h x)
  rw [this]

theorem eraseDups_removeAll (a b : List α) : (b.removeAll a).eraseDups = b.eraseDups.removeAll a := by
  match b with
  | [] => rfl
  | x :: rest =>
    have shorter : (rest.filter fun y => !y == x).length < rest.length + 1 :=
      Nat.lt_succ_of_le (List.length_filter_le _ _)
    have inner := eraseDups_removeAll a (rest.filter fun y => !y == x)
    rw [List.eraseDups_cons, List.cons_removeAll, List.cons_removeAll]
    by_cases hx : x ∈ a
    · have same : rest.removeAll a = (rest.filter fun y => !y == x).removeAll a := by
        simp only [List.removeAll, List.filter_filter]
        refine List.filter_congr fun y _ => ?_
        by_cases e : y = x <;> simp [e, hx]
      simp [hx, same, inner]
    · have swap : (rest.removeAll a).filter (fun y => !y == x) =
          (rest.filter fun y => !y == x).removeAll a := by
        simp only [List.removeAll, List.filter_filter, Bool.and_comm]
      simp [hx, List.eraseDups_cons, swap, inner]
termination_by b.length

theorem Agree.mem_iff {a b : List α} (h : Agree a b) (x : α) : x ∈ a ↔ x ∈ b := by
  rw [← List.mem_eraseDups, h, List.mem_eraseDups]

theorem Agree.append {a a' b b' : List α} (ha : Agree a a') (hb : Agree b b') : Agree (a ++ b) (a' ++ b') := by
  have hab := removeAll_congr ha.mem_iff
  unfold Agree at ha hb ⊢
  rw [List.eraseDups_append, List.eraseDups_append, eraseDups_removeAll, eraseDups_removeAll, ha, hb, hab]

theorem Agree.flatMap {l : List β} {f g : β → List α} (h : ∀ x ∈ l, Agree (f x) (g x)) :
    Agree (l.flatMap f) (l.flatMap g) := by
  induction l with
  | nil => exact .rfl
  | cons x rest ih =>
    rw [List.flatMap_cons, List.flatMap_cons]
    exact (h x List.mem_cons_self).append (ih fun y hy => h y (List.mem_cons_of_mem _ hy))

/-- What only repeats may be left out. -/
theorem agree_of_subset {a b : List α} (h : b ⊆ a) : Agree (a ++ b) a := by
  have none : b.removeAll a = [] := List.filter_eq_nil_iff.mpr fun x hx => by simp [h hx]
  unfold Agree
  rw [List.eraseDups_append, none, List.eraseDups_nil, List.append_nil]

/-- Two repetitions of a first piece, each behind a piece of its own. -/
theorem agree_skip {a b b' c c' : List α} (h : c ⊆ a) (h' : c' ⊆ a) :
    Agree (a ++ ((b ++ c) ++ (b' ++ c'))) (a ++ (b ++ b')) := by
  have first : Agree (a ++ b ++ c) (a ++ b) := agree_of_subset fun x hx => List.mem_append_left _ (h hx)
  have second : Agree (a ++ b ++ c ++ b' ++ c') (a ++ b ++ c ++ b') :=
    agree_of_subset fun x hx => List.mem_append_left _ (List.mem_append_left _ (List.mem_append_left _ (h' hx)))
  have both := second.trans (first.append .rfl)
  simpa only [List.append_assoc] using both

theorem eraseDups_of_nodup {a : List α} (h : a.Nodup) : a.eraseDups = a := by
  induction a with
  | nil => rfl
  | cons x rest ih =>
    obtain ⟨hx, hr⟩ := List.nodup_cons.mp h
    have all : rest.filter (fun y => !y == x) = rest := List.filter_eq_self.mpr fun y hy => by
      have : y ≠ x := fun e => hx (e ▸ hy)
      simpa using this
    rw [List.eraseDups_cons, all, ih hr]

namespace Defects

theorem toList_inj {a b : Defects} (h : a.toList = b.toList) : a = b := by
  cases a
  cases b
  simpa [Defects.toList] using h

/-- The elements that a pass adds to those that are kept already. -/
theorem foldl_kept (first : Defect) (rest kept : List Defect) :
    rest.foldl (fun kept d => if d ∈ first :: kept then kept else kept ++ [d]) kept =
      kept ++ (rest.removeAll (first :: kept)).eraseDups := by
  induction rest generalizing kept with
  | nil => simp
  | cons d rest ih =>
    rw [List.foldl_cons, ih, List.cons_removeAll]
    by_cases hd : d ∈ first :: kept
    · simp [hd]
    · have later : rest.removeAll (first :: (kept ++ [d])) =
          (rest.removeAll (first :: kept)).filter fun y => !y == d := by
        simp only [List.removeAll, List.filter_filter]
        refine List.filter_congr fun y _ => ?_
        by_cases e : y = d <;> simp [e]
      simp [hd, List.eraseDups_cons, later]

/-- Each defect once, where it first stands. -/
theorem toList_dedup (ds : Defects) : ds.dedup.toList = ds.toList.eraseDups := by
  unfold dedup toList
  rw [foldl_kept, List.eraseDups_cons]
  simp [List.removeAll, Bool.beq_eq_decide_eq]

end Defects

end JsonSchema
