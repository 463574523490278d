/-
  JsonSchema.Proofs.Repeats — which item of an array is reported as a repeated one.

  `Json.Equal` says when two values count as equal, without a canonical form: numbers by the doubles
  that they stand for, arrays item by item, objects key by key. It takes a value as it is meant, so the
  members of an object are looked up and their order does not matter.

  Where the members of every object stand in order, as they do in every document, this is what
  `Json.same` and the marks of a value decide; the one pass that looks marks up then finds the least
  position that holds a value equal to an earlier one.

  Statements:
  - `equal_equivalence`: an equivalence on all values.
  - `equal_iff_same`, `marks_eq_iff_equal`: the marks of two values agree just when they are equal.
  - `uniqueItems_reports_least`: what the keyword asks for and what it reports.
-/

import JsonSchema.Proofs.Keywords
import JsonSchema.Proofs.Plain

namespace JsonSchema

open Json (Members)

/-- Without the sign of a zero, doubles are their values. -/
theorem Double.unsignedZero_eq_iff {d e : Double} : d.unsignedZero = e.unsignedZero ↔ d.value = e.value := by
  constructor
  · intro h
    rw [← value_unsignedZero d, h, value_unsignedZero]
  · intro h
    by_cases zero : d.units = 0
    · have is : d.Is 0 := is_zero_iff.mpr zero
      have is' : e.Is 0 := by rw [Is, ← h]; exact is
      rw [unsignedZero, if_pos zero, unsignedZero, if_pos (is_zero_iff.mp is')]
    · rw [eq_of_value_eq h zero]

namespace Json

/-- Two values that count as the same item. -/
inductive Equal : Json → Json → Prop
  | null : Equal .null .null
  | bool (b : Bool) : Equal (.bool b) (.bool b)
  | number {m n : Number} (value : m.toDouble.value = n.toDouble.value) : Equal (.number m) (.number n)
  | string (text : String) : Equal (.string text) (.string text)
  | array {as bs : List Json} (size : as.length = bs.length)
      (items : ∀ (i : Nat) a b, as[i]? = some a → bs[i]? = some b → Equal a b) : Equal (.array as) (.array bs)
  | object {as bs : Members} (keys : ∀ k, (member? as k).isSome ↔ (member? bs k).isSome)
      (values : ∀ k a b, member? as k = some a → member? bs k = some b → Equal a b) : Equal (.object as) (.object bs)

/-! ## An equivalence -/

theorem Equal.refl (v : Json) : Equal v v := by
  match v with
  | .null => exact .null
  | .bool b => exact .bool b
  | .number n => exact .number rfl
  | .string text => exact .string text
  | .array items =>
    refine .array rfl fun i a b ha hb => ?_
    obtain rfl := Option.some.inj (ha.symm.trans hb)
    have smaller := List.sizeOf_lt_of_mem (List.mem_of_getElem? ha)
    exact Equal.refl a
  | .object members =>
    refine .object (fun k => Iff.rfl) fun k a b ha hb => ?_
    obtain rfl := Option.some.inj (ha.symm.trans hb)
    have smaller : sizeOf a < 1 + sizeOf members := Json.object.sizeOf_spec members ▸ sizeOf_lt_of_member? ha
    exact Equal.refl a
termination_by sizeOf v

theorem Equal.symm {a b : Json} (h : Equal a b) : Equal b a := by
  induction h with
  | null => exact .null
  | bool b => exact .bool b
  | number value => exact .number value.symm
  | string text => exact .string text
  | array size _ ih => exact .array size.symm fun i b a hb ha => ih i a b ha hb
  | object keys _ ih => exact .object (fun k => (keys k).symm) fun k b a hb ha => ih k a b ha hb

theorem Equal.trans {a b c : Json} (h : Equal a b) (h' : Equal b c) : Equal a c := by
  induction h generalizing c with
  | null => exact h'
  | bool b => exact h'
  | number value =>
    cases h' with
    | number value' => exact .number (value.trans value')
  | string text => exact h'
  | array size _ ih =>
    cases h' with
    | array size' items' =>
      refine .array (size.trans size') fun i a c ha hc => ?_
      -- the array between has an item there as well
      have between := (List.getElem?_eq_some_iff.mp ha).1
      rw [size] at between
      exact ih i a _ ha (List.getElem?_eq_getElem between) (items' i _ c (List.getElem?_eq_getElem between) hc)
  | object keys _ ih =>
    cases h' with
    | object keys' values' =>
      refine .object (fun k => (keys k).trans (keys' k)) fun k a c ha hc => ?_
      obtain ⟨b, hb⟩ := Option.isSome_iff_exists.mp ((keys k).mp (by rw [ha]; rfl))
      exact ih k a b ha hb (values' k b c hb hc)

theorem equal_equivalence : Equivalence Equal := ⟨.refl, .symm, .trans⟩

/-! ## Values that are the same are equal -/

theorem member?_cons (k : String) (v : Json) (members : Members) (j : String) :
    member? ((k, v) :: members) j = if j = k then some v else member? members j := by
  simp only [member?, List.lookup_cons]
  by_cases same : j = k
  · simp [same]
  · simp [same, beq_false_of_ne same]

theorem member?_head (k : String) (v : Json) (members : Members) : member? ((k, v) :: members) k = some v := by
  rw [member?_cons, if_pos rfl]

/-- Objects with one more member each, under the same key. -/
theorem Equal.cons {as bs : Members} {k : String} {a b : Json} (first : Equal a b)
    (rest : Equal (.object as) (.object bs)) : Equal (.object ((k, a) :: as)) (.object ((k, b) :: bs)) := by
  cases rest with
  | object keys values =>
    refine .object (fun j => ?_) fun j x y hx hy => ?_
    · rw [member?_cons, member?_cons]
      split
      · simp
      · exact keys j
    · rw [member?_cons] at hx hy
      split at hx
      · rename_i here
        rw [if_pos here] at hy
        obtain rfl := Option.some.inj hx
        obtain rfl := Option.some.inj hy
        exact first
      · rename_i elsewhere
        rw [if_neg elsewhere] at hy
        exact values j x y hx hy

mutual

theorem equal_of_same {a b : Json} (h : same a b) : Equal a b := by
  cases a <;> cases b <;> simp only [same, Bool.false_eq_true, beq_iff_eq, decide_eq_true_eq] at h
  case null.null => exact .null
  case bool.bool => exact h ▸ .bool _
  case number.number => exact .number (Double.unsignedZero_eq_iff.mp h)
  case string.string => exact h ▸ .string _
  case array.array =>
    obtain ⟨size, items⟩ := equalItems_of_same h
    exact .array size items
  case object.object => exact equalMembers_of_same h

theorem equalItems_of_same {as bs : List Json} (h : sameItems as bs) : as.length = bs.length ∧
    ∀ (i : Nat) a b, as[i]? = some a → bs[i]? = some b → Equal a b := by
  match as, bs with
  | [], [] => exact ⟨rfl, fun i a b ha => nomatch ha⟩
  | [], _ :: _ => simp [sameItems] at h
  | _ :: _, [] => simp [sameItems] at h
  | v :: as, w :: bs =>
    simp only [sameItems, Bool.and_eq_true] at h
    obtain ⟨size, items⟩ := equalItems_of_same h.2
    refine ⟨by rw [List.length_cons, List.length_cons, size], fun i a b ha hb => ?_⟩
    cases i with
    | zero =>
      obtain rfl := Option.some.inj ha
      obtain rfl := Option.some.inj hb
      exact equal_of_same h.1
    | succ i => exact items i a b ha hb

theorem equalMembers_of_same {as bs : Members} (h : sameMembers as bs) : Equal (.object as) (.object bs) := by
  match as, bs with
  | [], [] => exact .refl _
  | [], _ :: _ => simp [sameMembers] at h
  | _ :: _, [] => simp [sameMembers] at h
  | (j, v) :: as, (k, w) :: bs =>
    simp only [sameMembers, Bool.and_eq_true, beq_iff_eq] at h
    obtain ⟨⟨rfl, first⟩, rest⟩ := h
    exact (equal_of_same first).cons (equalMembers_of_same rest)

end

/-! ## Equal values are the same -/

theorem sameItems_of_getElem? {as bs : List Json} (size : as.length = bs.length)
    (items : ∀ (i : Nat) a b, as[i]? = some a → bs[i]? = some b → same a b) : sameItems as bs := by
  induction as generalizing bs with
  | nil =>
    obtain rfl := List.length_eq_zero_iff.mp size.symm
    rfl
  | cons a as ih =>
    cases bs with
    | nil => cases size
    | cons b bs =>
      have rest := ih (Nat.succ.inj size) fun i a b ha hb => items (i + 1) a b ha hb
      simp [sameItems, items 0 a b rfl rfl, rest]

/-- A key that comes before all keys is none of them. -/
theorem member?_of_before {members : Members} {k : String} (before : ∀ m ∈ members, k < m.1) :
    member? members k = none := by
  cases found : member? members k with
  | none => rfl
  | some v => exact absurd (before _ (mem_of_member? found)) (String.lt_irrefl k)

/-- A key that is found is the first one or comes after it. -/
theorem eq_or_lt_of_member? {members : Members} {k l : String} {u : Json} (before : ∀ m ∈ members, l < m.1)
    (there : (member? ((l, u) :: members) k).isSome) : k = l ∨ l < k := by
  rw [member?_cons] at there
  split at there
  · exact .inl ‹_›
  · obtain ⟨x, hx⟩ := Option.isSome_iff_exists.mp there
    exact .inr (before _ (mem_of_member? hx))

/-- Members in order that have the same keys begin with the same one. -/
theorem firstKey_eq {as bs : Members} {j k : String} {v w : Json} (ha : ∀ m ∈ as, j < m.1) (hb : ∀ m ∈ bs, k < m.1)
    (keys : ∀ l, (member? ((j, v) :: as) l).isSome ↔ (member? ((k, w) :: bs) l).isSome) : j = k := by
  have left := eq_or_lt_of_member? hb ((keys j).mp (by rw [member?_head]; rfl))
  have right := eq_or_lt_of_member? ha ((keys k).mpr (by rw [member?_head]; rfl))
  rcases left with same | after
  · exact same
  · rcases right with same | before
    · exact same.symm
    · exact absurd (String.lt_trans after before) (String.lt_irrefl k)

/-- Members in order are the same ones where the same keys are found, with values that are the same. -/
theorem sameMembers_of_member? {as bs : Members} (ha : Ordered as) (hb : Ordered bs)
    (keys : ∀ k, (member? as k).isSome ↔ (member? bs k).isSome)
    (values : ∀ k a b, member? as k = some a → member? bs k = some b → same a b) : sameMembers as bs := by
  induction as generalizing bs with
  | nil =>
    cases bs with
    | nil => rfl
    | cons m bs =>
      have there := (keys m.1).mpr (by rw [member?_head]; rfl)
      cases there
  | cons m as ih =>
    obtain ⟨j, v⟩ := m
    cases bs with
    | nil =>
      have there := (keys j).mp (by rw [member?_head]; rfl)
      cases there
    | cons n bs =>
      obtain ⟨k, w⟩ := n
      rw [ordered_cons] at ha hb
      obtain rfl : j = k := firstKey_eq ha.1 hb.1 keys
      have elsewhere (l : String) (ne : l ≠ j) (u : Json) (members : Members) :
          member? ((j, u) :: members) l = member? members l := by rw [member?_cons, if_neg ne]
      have rest : sameMembers as bs := by
        -- neither rest has the first key, and elsewhere nothing changes
        refine ih ha.2 hb.2 (fun l => ?_) fun l a b hla hlb => ?_
        · by_cases ne : l = j
          · rw [ne, member?_of_before ha.1, member?_of_before hb.1]
          · rw [← elsewhere l ne v as, ← elsewhere l ne w bs]
            exact keys l
        · have ne : l ≠ j := by
            rintro rfl
            rw [member?_of_before ha.1] at hla
            cases hla
          exact values l a b (by rw [elsewhere l ne]; exact hla) (by rw [elsewhere l ne]; exact hlb)
      have here := values j v w (member?_head j v as) (member?_head j w bs)
      simp [sameMembers, here, rest]

theorem same_of_equal {a b : Json} (h : Equal a b) (ha : a.WellFormed) (hb : b.WellFormed) : same a b := by
  induction h with
  | null => rfl
  | bool b => simp [same]
  | number value => exact decide_eq_true (Double.unsignedZero_eq_iff.mpr value)
  | string text => simp [same]
  | array size _ ih =>
    rw [same]
    refine sameItems_of_getElem? size fun i a b hia hib => ?_
    exact ih i a b hia hib (ha.item (List.mem_of_getElem? hia)) (hb.item (List.mem_of_getElem? hib))
  | object keys _ ih =>
    rw [same]
    have ordered {members : Members} (h : (Json.object members).WellFormed) : Ordered members := by
      rw [WellFormed] at h
      exact h.1
    refine sameMembers_of_member? (ordered ha) (ordered hb) keys fun k a b hka hkb => ?_
    exact ih k a b hka hkb (ha.member (mem_of_member? hka)) (hb.member (mem_of_member? hkb))

theorem equal_iff_same {a b : Json} (ha : a.WellFormed) (hb : b.WellFormed) : Equal a b ↔ same a b :=
  ⟨fun h => same_of_equal h ha hb, equal_of_same⟩

/-- Marks agree just when the values are equal. -/
theorem marks_eq_iff_equal {a b : Json} (ha : a.WellFormed) (hb : b.WellFormed) : marks a = marks b ↔ Equal a b := by
  rw [marks_eq_iff, equal_iff_same ha hb]

/-! ## The item that is reported -/

/-- The item at a position is equal to an earlier one. -/
def Repeated (items : List Json) (j : Nat) : Prop :=
  ∃ i < j, ∃ a b, items[i]? = some a ∧ items[j]? = some b ∧ Equal a b

theorem any_earlier_iff {items : List Json} (h : (Json.array items).WellFormed) {j : Nat} {v : Json}
    (here : items[j]? = some v) : (items.take j).any (same v) ↔ Repeated items j := by
  have wellFormed {i : Nat} {w : Json} (hw : items[i]? = some w) : w.WellFormed := h.item (List.mem_of_getElem? hw)
  rw [List.any_eq_true]
  constructor
  · rintro ⟨w, mem, equal⟩
    obtain ⟨i, hi, rfl⟩ := List.mem_take_iff_getElem.mp mem
    exact ⟨i, by omega, _, v, List.getElem?_eq_getElem (by omega), here, (equal_of_same equal).symm⟩
  · rintro ⟨i, lt, w, v', hw, hv, equal⟩
    obtain rfl := Option.some.inj (here.symm.trans hv)
    obtain ⟨hi, rfl⟩ := List.getElem?_eq_some_iff.mp hw
    obtain ⟨hj, -⟩ := List.getElem?_eq_some_iff.mp here
    refine ⟨_, List.mem_take_iff_getElem.mpr ⟨i, by omega, rfl⟩, ?_⟩
    exact same_of_equal equal.symm (wellFormed here) (wellFormed hw)

/-- What is found by marks is a repeated item, and none before it is one. -/
theorem firstRepeat?_eq_some {items : List Json} (h : (Json.array items).WellFormed) {j : Nat} {v : Json}
    (found : firstRepeat? items = some (j, v)) :
    items[j]? = some v ∧ Repeated items j ∧ ∀ k < j, ¬Repeated items k := by
  rw [firstRepeat?_eq, repeats, List.head?_filter, Option.map_eq_some_iff] at found
  obtain ⟨⟨w, i⟩, found, swapped⟩ := found
  obtain ⟨rfl, rfl⟩ := Prod.mk.inj swapped
  obtain ⟨earlier, k, hk, place, before⟩ := List.find?_eq_some_iff_getElem.mp found
  rw [List.getElem_zipIdx, Nat.zero_add] at place
  obtain ⟨value, rfl⟩ := Prod.mk.inj place
  rw [List.length_zipIdx] at hk
  have here : items[k]? = some w := List.getElem?_eq_some_iff.mpr ⟨hk, value⟩
  refine ⟨here, (any_earlier_iff h here).mp earlier, fun l lt repeated => ?_⟩
  have inside : l < items.length := by omega
  have there : items[l]? = some items[l] := List.getElem?_eq_getElem inside
  have passed := before l lt
  rw [List.getElem_zipIdx, Nat.zero_add, Bool.not_eq_true'] at passed
  exact Bool.false_ne_true (passed.symm.trans ((any_earlier_iff h there).mpr repeated))

theorem firstRepeat?_eq_none {items : List Json} (h : (Json.array items).WellFormed)
    (found : firstRepeat? items = none) (j : Nat) : ¬Repeated items j := by
  rw [firstRepeat?_eq, Option.map_eq_none_iff, repeats, List.head?_filter, List.find?_eq_none] at found
  intro repeated
  obtain ⟨-, -, -, v, -, here, -⟩ := id repeated
  exact found (v, j) (List.mem_zipIdx_iff_getElem?.mpr here) ((any_earlier_iff h here).mpr repeated)

end Json

/-- The rule of the keyword in a schema that compiles. -/
theorem uniqueItems_mem_rules {depth : Nat} {members : Members} {s : Schema} {on : Bool}
    (declared : declaredType members = some .array)
    (there : Json.member? members "uniqueItems" = some (.bool on))
    (h : Schema.compileWithin depth (.object members) = .ok s) :
    ∃ rules, s = .array rules ∧ .uniqueItems on ∈ rules := by
  have built := compileWithin_eq_ok.mp h
  simp only [compileNode, openNode, clear_of_declaredType declared] at built
  obtain ⟨rules, hr, rfl⟩ := Built.map_eq_ok.mp built
  refine ⟨rules, rfl, (mem_rules hr).mpr ⟨.one "uniqueItems" readBool .uniqueItems, ?_, .bool on, there, rfl⟩⟩
  simp [arrayTable]

/-- Values are equal by an equivalence that their marks decide. Of an array whose items are to be
    distinct the first repeated item is reported, and nothing where no two items are equal; switched off,
    the keyword accepts every array. -/
theorem uniqueItems_reports_least :
    Equivalence Json.Equal ∧
    (∀ a b : Json, a.WellFormed → b.WellFormed → (a.marks = b.marks ↔ a.Equal b)) ∧
    (∀ depth members s on, declaredType members = some .array →
      Json.member? members "uniqueItems" = some (.bool on) →
      Schema.compileWithin depth (.object members) = .ok s → ∃ rules, s = .array rules ∧ .uniqueItems on ∈ rules) ∧
    (∀ items path, (ArrayRule.uniqueItems false).check items path = .pass) ∧
    ∀ items path, (Json.array items).WellFormed →
      ((ArrayRule.uniqueItems true).check items path = .pass ↔ ∀ j, ¬Json.Repeated items j) ∧
      ∀ j, Json.Repeated items j → ∃ k ≤ j, ∃ v, items[k]? = some v ∧ Json.Repeated items k ∧
        (∀ l < k, ¬Json.Repeated items l) ∧ (ArrayRule.uniqueItems true).check items path =
          .fail (path.index k) "unique items" ("duplicate item " ++ v.render) := by
  refine ⟨Json.equal_equivalence, fun a b ha hb => Json.marks_eq_iff_equal ha hb,
    fun depth members s on declared there h => uniqueItems_mem_rules declared there h, fun _ _ => rfl,
    fun items path h => ?_⟩
  simp only [ArrayRule.check, if_true, checkUnique]
  cases found : Json.firstRepeat? items with
  | none =>
    have none := Json.firstRepeat?_eq_none h found
    exact ⟨iff_of_true rfl none, fun j repeated => absurd repeated (none j)⟩
  | some p =>
    obtain ⟨k, v⟩ := p
    obtain ⟨here, repeated, least⟩ := Json.firstRepeat?_eq_some h found
    refine ⟨iff_of_false (fun passed => nomatch passed) fun none => none k repeated, fun j hj => ?_⟩
    exact ⟨k, Nat.not_lt.mp fun lt => least j lt hj, v, here, repeated, least, rfl⟩

def holdingZero (negative : Bool) : Json :=
  .object [("a", .number (.float { Double.zero with negative := negative }))]

/-- The zeros make the last item a repeated one. -/
theorem uniqueItems_reports_least_zeros :
    let items := [.null, holdingZero false, holdingZero true]
    let members : Members := [("type", .string "array"), ("uniqueItems", .bool true)]
    (Json.array items).WellFormed ∧ (holdingZero false).Equal (holdingZero true) ∧
      (∃ s rules, Schema.compileWithin 0 (.object members) = .ok s ∧ s = .array rules ∧ .uniqueItems true ∈ rules) ∧
        (ArrayRule.uniqueItems true).check items [] =
          .fail [.index 2] "unique items" ("duplicate item " ++ (holdingZero true).render) := by
  intro items members
  have wellFormed : (Json.array items).WellFormed := by
    simp [items, holdingZero, Json.WellFormed, Json.WellFormedItems, Json.WellFormedMembers, Json.Ordered]
  obtain ⟨-, marks, rule, -, least⟩ := uniqueItems_reports_least
  have equal : (holdingZero false).Equal (holdingZero true) :=
    (marks _ _ (wellFormed.item (by simp [items])) (wellFormed.item (by simp [items]))).mp (by decide +kernel)
  have compiles : Schema.compileWithin 0 (.object members) = .ok (.array [.uniqueItems true]) := rfl
  obtain ⟨rules, array, mem⟩ := rule 0 members _ true rfl rfl compiles
  refine ⟨wellFormed, equal, ⟨_, rules, compiles, array, mem⟩, ?_⟩
  obtain ⟨k, le, v, here, ⟨i, lt, a, b, ha, hb, pair⟩, -, reported⟩ :=
    (least items [] wellFormed).2 2 ⟨1, by omega, _, _, rfl, rfl, equal⟩
  obtain rfl | rfl : k = 1 ∨ k = 2 := by omega
  · obtain rfl : i = 0 := by omega
    obtain rfl := Option.some.inj ha
    obtain rfl := Option.some.inj hb
    cases pair
  · obtain rfl := Option.some.inj here
    exact reported

end JsonSchema
