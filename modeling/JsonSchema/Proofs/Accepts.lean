/-
  JsonSchema.Proofs.Accepts — a compiled schema accepts exactly the valid values.

  Each keyword of a document is read into a rule, and the check of the rule passes just when the
  document's clause for the keyword holds. Nested schemas are compiled with fewer levels left, so
  the argument goes by induction on the levels; the path does not matter for whether a check
  passes.

  Statements:
  - `stringRules_iff`, `integerRules_iff`, `numberRules_iff`, `arrayRules_iff`, `objectRules_iff`:
    the rules of a type pass just when its keywords hold.
  - `validate_iff_valid`: a value passes the compiled schema just when it is valid for the document.
-/

import JsonSchema.Proofs.Compiled
import JsonSchema.Proofs.Equality
import JsonSchema.Proofs.Valid
import JsonSchema.Schema.Check

namespace JsonSchema

open Json (Members)

/-! ## Reading the values of keywords -/

section

variable {keyword : String} {path : Path} {v : Json}

theorem readCount_eq_ok {c : Nat} : readCount keyword path v = .ok c ↔ v.IsCount c := by
  unfold Json.IsCount
  simp only [← Number.toCount?_eq_some]
  cases v with
  | number n => cases h : n.toCount? <;> simp [readCount, badValue, h]
  | _ => simp [readCount, badValue]

theorem readInteger_eq_ok {i : Int} : readInteger keyword path v = .ok i ↔ v.IsInteger i := by
  unfold Json.IsInteger
  simp only [← Number.toInteger?_eq_some]
  cases v with
  | number n => cases h : n.toInteger? <;> simp [readInteger, badValue, h]
  | _ => simp [readInteger, badValue]

theorem readNumber_eq_ok {d : Double} : readNumber keyword path v = .ok d ↔ v.IsDouble d := by
  unfold Json.IsDouble
  cases v <;> simp [readNumber, badValue]

theorem readBool_eq_ok {b : Bool} : readBool keyword path v = .ok b ↔ v = .bool b := by
  cases v <;> simp [readBool, badValue]

/-- What is read is zero, or the divisor. -/
theorem nonzero_eq_ok {α : Type} {zero : Prop} [Decidable zero] {d e : α} {cause : Defect.Cause} :
    (if zero then Built.defect path cause else .ok e : Built α) = .ok d ↔ e = d ∧ ¬zero := by
  by_cases h : zero
  · simp [h]
  · simp [h]

theorem readIntegerDivisor_eq_ok {d : Int} :
    readIntegerDivisor keyword path v = .ok d ↔ v.IsInteger d ∧ d ≠ 0 := by
  have plain := @readInteger_eq_ok keyword path v d
  unfold readIntegerDivisor
  cases h : readInteger keyword path v with
  | error ds => simp [← plain, h]
  | ok e =>
    rw [h] at plain
    rw [nonzero_eq_ok, ← plain, Except.ok.injEq]
    exact and_congr_right fun e => by rw [e]

theorem readNumberDivisor_eq_ok {d : Double} :
    readNumberDivisor keyword path v = .ok d ↔ v.IsDouble d ∧ d.units ≠ 0 := by
  have plain := @readNumber_eq_ok keyword path v d
  unfold readNumberDivisor
  cases h : readNumber keyword path v with
  | error ds => simp [← plain, h]
  | ok e =>
    rw [h] at plain
    rw [nonzero_eq_ok, ← plain, Except.ok.injEq]
    exact and_congr_right fun e => by rw [e]

theorem readPattern_eq_ok {p : Pattern} :
    readPattern keyword path v = .ok p ↔ ∃ source, v = .string source ∧ Pattern.compile source = .ok p := by
  cases v <;> simp [readPattern, readString, compilePattern_eq_ok, badValue, Built.defect]

theorem readFormat_eq_ok {f : Format} :
    readFormat keyword path v = .ok f ↔ ∃ name, v = .string name ∧ Format.ofName? name = some f := by
  cases v with
  | string name => cases h : Format.ofName? name <;> simp [readFormat, readString, h]
  | _ => simp [readFormat, readString, badValue, Built.defect]

theorem mapM_eq_some {α β : Type} {f : α → Option β} {l : List α} {l' : List β} :
    l.mapM f = some l' ↔ l.map f = l'.map some := by
  induction l generalizing l' with
  | nil => cases l' <;> simp
  | cons x rest ih =>
    rw [List.mapM_cons]
    cases l' with
    | nil => cases f x <;> cases rest.mapM f <;> simp
    | cons y more =>
      cases hx : f x with
      | none => simp [hx]
      | some z =>
        have inner := @ih more
        cases hr : rest.mapM f with
        | none =>
          rw [hr] at inner
          simp [hx, ← inner]
        | some found =>
          rw [hr] at inner
          simp [hx, ← inner]

theorem strings?_eq_some {texts : List String} : strings? v = some texts ↔ v.IsTextList texts := by
  unfold Json.IsTextList
  cases v with
  | array items =>
    simp only [strings?, Json.array.injEq]
    rw [mapM_eq_some]
    induction items generalizing texts with
    | nil => cases texts <;> simp
    | cons item rest ih =>
      cases texts with
      | nil => simp
      | cons text more => cases item <;> simp [ih]
  | _ => simp [strings?]

theorem readStrings_eq_ok {texts : List String} : readStrings keyword path v = .ok texts ↔ v.IsTextList texts := by
  rw [← strings?_eq_some]
  unfold readStrings
  cases strings? v <;> simp [badValue]

/-- The names that keys call for. -/
theorem readDependent_eq_ok {triggers : List (String × List String)}
    (h : readDependent keyword path v = .ok triggers) : ∃ lists, v = .object lists ∧
      (∀ m ∈ lists, ∃ names, m.2.IsTextList names) ∧
        ∀ trigger names, (trigger, names) ∈ triggers ↔
          ∃ list, (trigger, list) ∈ lists ∧ list.IsTextList names := by
  cases v with
  | object lists =>
    simp only [readDependent, readObject] at h
    split at h
    · rename_i found read
      obtain rfl := Except.ok.inj h
      have same := mapM_eq_some.mp read
      refine ⟨lists, rfl, fun m hm => ?_, fun trigger names => ?_⟩
      · have read := List.mem_map_of_mem hm (f := fun x => (strings? x.2).map (x.1, ·))
        rw [same] at read
        obtain ⟨x, -, hx⟩ := List.mem_map.mp read
        obtain ⟨names, hs, -⟩ := Option.map_eq_some_iff.mp hx.symm
        exact ⟨names, strings?_eq_some.mp hs⟩
      have mem : (trigger, names) ∈ found ↔ some (trigger, names) ∈ found.map some := by
        simp
      rw [mem, ← same, List.mem_map]
      constructor
      · rintro ⟨⟨t, list⟩, hm, e⟩
        obtain ⟨ns, hs, e⟩ := Option.map_eq_some_iff.mp e
        obtain ⟨rfl, rfl⟩ := Prod.mk.inj e
        exact ⟨list, hm, strings?_eq_some.mp hs⟩
      · rintro ⟨list, hm, hs⟩
        exact ⟨(trigger, list), hm, by simp [strings?_eq_some.mpr hs]⟩
    · exact absurd h (Built.defect_ne_ok _ _ _)
  | _ => exact absurd h (Built.defect_ne_ok _ _ _)

end

/-! ## Checks that pass -/

section

variable {path : Path}

theorem isOk_iff {v : Verdict} : v.isOk ↔ v = .pass := by
  cases v with
  | ok u => exact ⟨fun _ => rfl, fun _ => rfl⟩
  | error e => simp [Except.isOk, Except.toBool, Verdict.pass]

theorem require_eq_pass {holds : Bool} {expected got : String} :
    Verdict.require holds path expected got = .pass ↔ holds := by
  cases holds <;> simp [Verdict.require, Verdict.fail, Verdict.pass]

theorem labelled_eq_pass {keyword : String} {v : Verdict} : v.labelled keyword = .pass ↔ v = .pass := by
  cases v with
  | ok u => exact Iff.rfl
  | error e =>
    constructor
    · intro h
      cases h
    · intro h
      cases h

/-- All rules of a list pass, whatever the keywords. -/
theorem all_labelled_eq_pass {ρ : Type} {rules : List ρ} {check : ρ → Verdict} {keyword : ρ → String} :
    Verdict.all (rules.map fun r => (check r).labelled (keyword r)) = .pass ↔ ∀ r ∈ rules, check r = .pass := by
  rw [Verdict.all_eq_pass, List.forall_mem_map]
  exact forall₂_congr fun r _ => labelled_eq_pass

theorem checkUnique_eq_pass {items : List Json} :
    checkUnique items path = .pass ↔ items.Pairwise fun a b => ¬Json.same a b := by
  rw [← Json.repeats_eq_nil_iff]
  unfold checkUnique
  rw [Json.firstRepeat?_eq]
  cases Json.repeats items <;> simp [Verdict.fail, Verdict.pass]

theorem checkPresent_eq_pass {members : Members} {reason : String} {names : List String} :
    checkPresent members path reason names = .pass ↔ ∀ name ∈ names, (Json.member? members name).isSome := by
  have none : (names.find? fun name => (Json.member? members name).isNone) = none ↔
      ∀ name ∈ names, (Json.member? members name).isSome := by
    simp [List.find?_eq_none, Option.isSome_iff_ne_none]
  rw [← none]
  unfold checkPresent
  cases names.find? fun name => (Json.member? members name).isNone <;> simp [Verdict.fail, Verdict.pass]

theorem checkDependent_eq_pass {members : Members} {triggers : List (String × List String)} :
    checkDependent members path triggers = .pass ↔
      ∀ trigger names, (trigger, names) ∈ triggers → (Json.member? members trigger).isSome →
        ∀ name ∈ names, (Json.member? members name).isSome := by
  unfold checkDependent
  rw [Verdict.all_eq_pass, List.forall_mem_map]
  constructor
  · intro h trigger names mem there
    have passed := h (trigger, names) mem
    dsimp only at passed
    rw [if_pos there] at passed
    exact checkPresent_eq_pass.mp passed
  · rintro h ⟨trigger, names⟩ mem
    dsimp only
    split
    · rename_i there
      exact checkPresent_eq_pass.mpr (h trigger names mem there)
    · rfl

theorem checkItems_eq_pass {check : Json → Path → Verdict} {p : Json → Prop}
    (h : ∀ v place, check v place = .pass ↔ p v) (position : Nat) (items : List Json) :
    checkItems check path position items = .pass ↔ ∀ v ∈ items, p v := by
  induction items generalizing position with
  | nil => simp [checkItems]
  | cons v rest ih => rw [checkItems, Verdict.and_eq_pass, h, ih, List.forall_mem_cons]

theorem forall_mem_cons_pair {α β : Type} {P : α → β → Prop} {a : α} {b : β} {l : List (α × β)} :
    (∀ x y, (x, y) ∈ (a, b) :: l → P x y) ↔ P a b ∧ ∀ x y, (x, y) ∈ l → P x y := by
  constructor
  · intro all
    exact ⟨all a b List.mem_cons_self, fun x y mem => all x y (List.mem_cons_of_mem _ mem)⟩
  · rintro ⟨first, others⟩ x y mem
    rcases List.mem_cons.mp mem with e | mem
    · obtain ⟨rfl, rfl⟩ := Prod.mk.inj e
      exact first
    · exact others x y mem

theorem checkMembers_eq_pass {check : String → Json → Path → Verdict} {p : String → Json → Prop}
    (h : ∀ key v place, check key v place = .pass ↔ p key v) (members : Members) :
    checkMembers check path members = .pass ↔ ∀ key v, (key, v) ∈ members → p key v := by
  induction members with
  | nil => simp [checkMembers]
  | cons m rest ih => rw [checkMembers, Verdict.and_eq_pass, h, ih, forall_mem_cons_pair]

theorem checkItemList_eq_pass {schemas : List Schema} {p : Nat → Json → Prop}
    (h : ∀ i s, schemas[i]? = some s → ∀ v place, s.check v place = .pass ↔ p i v) (position : Nat)
    (items : List Json) : checkItemList schemas path position items = .pass ↔
      ∀ (i : Nat) v, i < schemas.length → items[i]? = some v → p i v := by
  induction schemas generalizing position items p with
  | nil => simp [checkItemList]
  | cons s others ih =>
    cases items with
    | nil => simp [checkItemList]
    | cons v rest =>
      have later := ih (p := fun i v => p (i + 1) v) (fun i s hs => h (i + 1) s (by simpa using hs)) (position + 1) rest
      rw [checkItemList, Verdict.and_eq_pass, h 0 s rfl, later]
      constructor
      · rintro ⟨first, others⟩ i w hi hw
        cases i with
        | zero =>
          obtain rfl := Option.some.inj hw
          exact first
        | succ i => exact others i w (by simpa using hi) (by simpa using hw)
      · intro all
        exact ⟨all 0 v (by simp) rfl, fun i w hi hw => all (i + 1) w (by simpa using hi) (by simpa using hw)⟩

theorem checkPatterns_eq_pass {patterns : List (Pattern × Schema)} {key : String} {v : Json} :
    checkPatterns patterns key v path = .pass ↔
      ∀ p s, (p, s) ∈ patterns → p.matchesIn key → s.check v path = .pass := by
  induction patterns with
  | nil => simp [checkPatterns]
  | cons m rest ih =>
    obtain ⟨p, s⟩ := m
    rw [checkPatterns, Verdict.and_eq_pass, ih, forall_mem_cons_pair]
    by_cases matched : p.matchesIn key <;> simp [matched]

theorem checkProperties_eq_pass {properties : List (String × Schema)} {members : Members} :
    checkProperties properties members path = .pass ↔
      ∀ name s, (name, s) ∈ properties → ∀ v, Json.member? members name = some v →
        s.check v (path.key name) = .pass := by
  induction properties with
  | nil => simp [checkProperties]
  | cons m rest ih =>
    obtain ⟨name, s⟩ := m
    rw [checkProperties, Verdict.and_eq_pass, ih, forall_mem_cons_pair]
    cases Json.member? members name <;> simp

theorem checkArrayRules_eq_pass {rules : List ArrayRule} {items : List Json} :
    checkArrayRules rules items path = .pass ↔ ∀ r ∈ rules, r.check items path = .pass := by
  induction rules with
  | nil => simp [checkArrayRules]
  | cons r rest ih => rw [checkArrayRules, Verdict.and_eq_pass, labelled_eq_pass, ih, List.forall_mem_cons]

theorem checkObjectRules_eq_pass {rules : List ObjectRule} {members : Members} :
    checkObjectRules rules members path = .pass ↔ ∀ r ∈ rules, r.check members path = .pass := by
  induction rules with
  | nil => simp [checkObjectRules]
  | cons r rest ih => rw [checkObjectRules, Verdict.and_eq_pass, labelled_eq_pass, ih, List.forall_mem_cons]

end

/-! ## Rules and the keywords they come from -/

section

variable {path : Path} {members : Members}

/-- A keyword that looks at its own value only asks what its rule does. -/
theorem given_one {ρ α : Type} {keyword : String} {read : String → Path → Json → Built α} {rule : α → ρ}
    {P : ρ → Prop} {asks : Json → Prop} (h : ∀ v, (∃ a, read keyword path v = .ok a ∧ P (rule a)) ↔ asks v) :
    (∀ v, Json.member? members (Entry.one keyword read rule).keyword = some v →
      ∃ r, (Entry.one keyword read rule).build path members v = .ok r ∧ P r) ↔ Given members keyword asks := by
  refine forall₂_congr fun v _ => ?_
  rw [← h]
  constructor
  · rintro ⟨r, hr, holds⟩
    obtain ⟨a, ha, rfl⟩ := Built.map_eq_ok.mp hr
    exact ⟨a, ha, holds⟩
  · rintro ⟨a, ha, holds⟩
    exact ⟨rule a, Built.map_eq_ok.mpr ⟨a, ha, rfl⟩, holds⟩

/-- A keyword that builds a rule asks what that rule does. -/
theorem given_built {ρ : Type} {e : Entry ρ} {P : ρ → Prop} {asks : Json → Prop}
    (built : ∀ v, Json.member? members e.keyword = some v → ∃ r, e.build path members v = .ok r)
    (h : ∀ v r, e.build path members v = .ok r → (P r ↔ asks v)) :
    (∀ v, Json.member? members e.keyword = some v → ∃ r, e.build path members v = .ok r ∧ P r) ↔
      Given members e.keyword asks := by
  refine forall₂_congr fun v there => ?_
  obtain ⟨r, hr⟩ := built v there
  rw [← h v r hr, hr]
  simp

theorem stringRules_iff {rules : List StringRule} (h : Entry.rules stringTable path members = .ok rules)
    (text : String) (place : Path) : StringRule.checkAll text place rules = .pass ↔ StringHolds members text := by
  unfold StringRule.checkAll
  rw [all_labelled_eq_pass, rules_forall h, stringHolds_iff]
  simp only [stringTable, List.forall_mem_cons, List.not_mem_nil, false_imp_iff, implies_true, and_true]
  refine and_congr (given_one fun v => ?_) (and_congr (given_one fun v => ?_)
    (and_congr (given_one fun v => ?_) (given_one fun v => ?_)))
  · simp only [readCount_eq_ok, StringRule.check, require_eq_pass, decide_eq_true_iff]
  · simp only [readCount_eq_ok, StringRule.check, require_eq_pass, decide_eq_true_iff]
  · simp only [readPattern_eq_ok, StringRule.check, require_eq_pass]
  · simp only [readFormat_eq_ok, StringRule.check, require_eq_pass]

theorem integerRules_iff {rules : List IntegerRule} (h : Entry.rules integerTable path members = .ok rules)
    (i : Int) (place : Path) : IntegerRule.checkAll i place rules = .pass ↔ IntegerHolds members i := by
  unfold IntegerRule.checkAll
  rw [all_labelled_eq_pass, rules_forall h, integerHolds_iff, integerTable_eq]
  simp only [List.forall_mem_cons, List.not_mem_nil, false_imp_iff, implies_true, and_true]
  refine and_congr (given_one fun v => ?_) (and_congr (given_one fun v => ?_) (and_congr (given_one fun v => ?_)
    (and_congr (given_one fun v => ?_) (given_one fun v => ?_))))
  iterate 4 simp only [readInteger_eq_ok, IntegerRule.check, require_eq_pass, Bound.holds, decide_eq_true_iff]
  simp only [readIntegerDivisor_eq_ok, IntegerRule.check, require_eq_pass, decide_eq_true_iff, Int.dvd_iff_emod_eq_zero]

theorem divides_iff {d x : Double} : NumberRule.divides d x ↔ ∃ q i, x.quotient? d = some q ∧ q.Is i := by
  unfold NumberRule.divides
  rw [Option.any_eq_true]
  refine exists_congr fun q => ?_
  rw [exists_and_left, Double.isWhole_iff_exists]

theorem numberRules_iff {rules : List NumberRule} (h : Entry.rules numberTable path members = .ok rules)
    (x : Double) (place : Path) : NumberRule.checkAll x place rules = .pass ↔ NumberHolds members x := by
  unfold NumberRule.checkAll
  rw [all_labelled_eq_pass, rules_forall h, numberHolds_iff, numberTable_eq]
  simp only [List.forall_mem_cons, List.not_mem_nil, false_imp_iff, implies_true, and_true]
  refine and_congr (given_one fun v => ?_) (and_congr (given_one fun v => ?_) (and_congr (given_one fun v => ?_)
    (and_congr (given_one fun v => ?_) (given_one fun v => ?_))))
  iterate 4 simp only [readNumber_eq_ok, NumberRule.check, require_eq_pass, Bound.holds, decide_eq_true_iff]
  simp only [readNumberDivisor_eq_ok, NumberRule.check, require_eq_pass, divides_iff]

end

/-! ### Arrays and objects -/

section

variable {sub : Path → Json → Built Schema} {valid : Json → Json → Prop} {path : Path} {members : Members}
  (below : ∀ path raw s, sub path raw = .ok s → ∀ v place, s.check v place = .pass ↔ valid raw v)

include below

open Classical in
theorem countValid_eq {place at' : Path} {raw : Json} {s : Schema} (h : sub place raw = .ok s) (items : List Json) :
    countValid (fun v => s.check v at') items = items.countP fun v => decide (valid raw v) := by
  refine List.countP_congr fun v _ => ?_
  rw [isOk_iff, below _ _ _ h, decide_eq_true_iff]

theorem items_iff {r : ArrayRule} {v : Json} (h : readItems sub "items" path v = .ok r) (items : List Json)
    (place : Path) : r.check items place = .pass ↔
      (v.isObject → ∀ w ∈ items, valid v w) ∧ ∀ schemas, v = .array schemas →
        ∀ (i : Nat) s w, schemas[i]? = some s → items[i]? = some w → valid s w := by
  rcases readItems_eq_ok h with ⟨object, s, hs, rfl⟩ | ⟨list, schemas, rfl, rfl, size, each⟩
  · have no (schemas : List Json) : v ≠ .array schemas := by
      rintro rfl
      cases object
    simp only [ArrayRule.check, checkItems_eq_pass (below _ _ _ hs), object, no, forall_const, false_imp_iff,
      and_true]
  · have place_free (i : Nat) (s : Schema) (hs : schemas[i]? = some s) (w : Json) (place : Path) :
        s.check w place = .pass ↔ ∀ raw, list[i]? = some raw → valid raw w := by
      obtain ⟨raw, found, hs⟩ := (each i s).mp hs
      rw [below _ _ _ hs, found]
      simp
    simp only [ArrayRule.check]
    rw [checkItemList_eq_pass place_free, size]
    constructor
    · intro all
      refine ⟨fun object => (by cases object), fun schemas array i s w hs hw => ?_⟩
      obtain rfl := Json.array.inj array
      exact all i w (List.getElem?_eq_some_iff.mp hs).1 hw s hs
    · rintro ⟨-, all⟩ i w _ hw raw hr
      exact all list rfl i raw w hr hw

open Classical in
/-- The rules that count items by the schema of `contains`. -/
theorem countContained_iff (keyword : String) {rule : Nat → Schema → ArrayRule} (holds : Nat → Nat → Prop)
    (items : List Json) (place : Path)
    (check : ∀ n s, (rule n s).check items place = .pass ↔ holds n (countValid (fun v => s.check v place) items))
    (built : ∀ v, Json.member? members keyword = some v →
      ∃ r, (countContained sub keyword rule).build path members v = .ok r) :
    (∀ v, Json.member? members keyword = some v →
      ∃ r, (countContained sub keyword rule).build path members v = .ok r ∧ r.check items place = .pass) ↔
      Given members "contains" fun s => Given members keyword fun bound =>
        ∃ n, bound.IsCount n ∧ holds n (items.countP fun v => decide (valid s v)) := by
  have iff (v raw : Json) (found : Json.member? members "contains" = some raw) :
      (∃ r, (countContained sub keyword rule).build path members v = .ok r) →
      ((∃ r, (countContained sub keyword rule).build path members v = .ok r ∧ r.check items place = .pass) ↔
        ∃ n, v.IsCount n ∧ holds n (items.countP fun v => decide (valid raw v))) := by
    simp only [countContained, Entry.beside, found]
    rintro ⟨r, hr⟩
    obtain ⟨⟨n, s⟩, hb, rfl⟩ := Built.map_eq_ok.mp hr
    obtain ⟨hn, hs⟩ := Built.both_eq_ok.mp hb
    rw [hr]
    constructor
    · rintro ⟨_, e, passed⟩
      obtain rfl := Except.ok.inj e
      refine ⟨n, readCount_eq_ok.mp hn, ?_⟩
      rw [← countValid_eq below hs items]
      exact (check n s).mp passed
    · rintro ⟨m, hm, passed⟩
      obtain rfl := Except.ok.inj (hn.symm.trans (readCount_eq_ok.mpr hm))
      rw [← countValid_eq below hs items] at passed
      exact ⟨_, rfl, (check n s).mpr passed⟩
  constructor
  · intro all raw found v there
    exact (iff v raw found (built v there)).mp (all v there)
  · intro all v there
    obtain ⟨r, hr⟩ := built v there
    cases found : Json.member? members "contains" with
    | none => simp [countContained, Entry.beside, found] at hr
    | some raw => exact (iff v raw found ⟨r, hr⟩).mpr (all raw found v there)

theorem arrayRules_iff {rules : List ArrayRule} (h : Entry.rules (arrayTable sub) path members = .ok rules)
    (items : List Json) (place : Path) :
    checkArrayRules rules items place = .pass ↔ ArrayHolds valid members items := by
  have built : ∀ e ∈ arrayTable sub, ∀ v, Json.member? members e.keyword = some v →
      ∃ r, e.build path members v = .ok r := fun e he v hv => rules_built h he hv
  rw [checkArrayRules_eq_pass, rules_forall h]
  rw [arrayHolds_iff]
  simp only [arrayTable, List.forall_mem_cons, List.not_mem_nil, false_imp_iff, implies_true, and_true] at built ⊢
  obtain ⟨-, -, unique_built, items_built, contains_built, min_built, max_built⟩ := built
  have least := countContained_iff below "minContains" (fun n found => n ≤ found) items place
    (fun n s => by simp only [ArrayRule.check, require_eq_pass, decide_eq_true_iff]) min_built
  have most := countContained_iff below "maxContains" (fun n found => found ≤ n) items place
    (fun n s => by simp only [ArrayRule.check, require_eq_pass, decide_eq_true_iff]) max_built
  refine and_congr (given_one fun v => ?_) (and_congr (given_one fun v => ?_)
    (and_congr (given_built unique_built fun v r hr => ?_) (and_congr (given_built items_built fun v r hr => ?_)
      (and_congr (given_built contains_built fun v r hr => ?_) (and_congr least most)))))
  · simp only [readCount_eq_ok, ArrayRule.check, require_eq_pass, decide_eq_true_iff]
  · simp only [readCount_eq_ok, ArrayRule.check, require_eq_pass, decide_eq_true_iff]
  · obtain ⟨on, hon, rfl⟩ := Built.map_eq_ok.mp hr
    obtain rfl := readBool_eq_ok.mp hon
    cases on with
    | false => simp [ArrayRule.check]
    | true => simp [ArrayRule.check, checkUnique_eq_pass]
  · obtain ⟨_, hi, rfl⟩ := Built.map_eq_ok.mp hr
    exact items_iff below hi items place
  · obtain ⟨s, hs, rfl⟩ := Built.map_eq_ok.mp hr
    simp only [ArrayRule.check, require_eq_pass, List.any_eq_true, isOk_iff, below _ _ _ hs]

theorem properties_iff {properties : List (String × Schema)}
    (h : readProperties sub path members = .ok properties) (target : Members) (place : Path) :
    checkProperties properties target place = .pass ↔
      Given members "properties" fun all => ∀ declared, all = .object declared →
        ∀ name s v, (name, s) ∈ declared → s.isObject → Json.member? target name = some v → valid s v := by
  rw [checkProperties_eq_pass]
  constructor
  · rintro all _ found declared rfl name raw v mem object there
    obtain ⟨s, hs⟩ := readProperties_built h found mem object
    have passed := all name s ((readProperties_eq_ok h name s).mpr ⟨declared, raw, found, mem, object, hs⟩) v there
    exact (below _ _ _ hs v _).mp passed
  · intro holds name s mem v there
    obtain ⟨declared, raw, found, mem, object, hs⟩ := (readProperties_eq_ok h name s).mp mem
    exact (below _ _ _ hs v _).mpr (holds _ found declared rfl name raw v mem object there)

theorem patterns_iff {v : Json} {patterns : List (Pattern × Schema)}
    (h : readPatterns sub "patternProperties" path v = .ok patterns) (target : Members) (place : Path) :
    (ObjectRule.patternProperties patterns).check target place = .pass ↔
      ∀ sources, v = .object sources → ∀ source s key w, (source, s) ∈ sources → (key, w) ∈ target →
        (∃ p, Pattern.compile source = .ok p ∧ p.matchesIn key) → valid s w := by
  obtain ⟨sources, rfl, built, each⟩ := readPatterns_eq_ok h
  have member (key : String) (w : Json) (at' : Path) : checkPatterns patterns key w at' = .pass ↔
      ∀ source s, (source, s) ∈ sources → (∃ p, Pattern.compile source = .ok p ∧ p.matchesIn key) → valid s w := by
    rw [checkPatterns_eq_pass]
    constructor
    · rintro all source raw mem ⟨p, hp, matched⟩
      obtain ⟨s, hs⟩ := built source raw mem
      exact (below _ _ _ hs w _).mp (all p s ((each p s).mpr ⟨source, raw, mem, hp, hs⟩) matched)
    · intro holds p s mem matched
      obtain ⟨source, raw, mem, hp, hs⟩ := (each p s).mp mem
      exact (below _ _ _ hs w _).mpr (holds source raw mem ⟨p, hp, matched⟩)
  rw [ObjectRule.check, checkMembers_eq_pass member]
  constructor
  · intro all sources' array source s key w hs hw matched
    obtain rfl := Json.object.inj array
    exact all key w hw source s hs matched
  · intro holds key w hw source s hs matched
    exact holds sources rfl source s key w hs hw matched

theorem objectRules_iff {names : Path → Json → Built (List StringRule)}
    (texts : ∀ path raw rules, names path raw = .ok rules → ∃ members, raw = .object members ∧
      ∀ text place, StringRule.checkAll text place rules = .pass ↔ StringHolds members text)
    {properties : List (String × Schema)} {rules : List ObjectRule}
    (hp : readProperties sub path members = .ok properties)
    (h : Entry.rules (objectTable sub names) path members = .ok rules) (target : Members) (place : Path) :
    (checkProperties properties target place = .pass ∧ checkObjectRules rules target place = .pass) ↔
      ObjectHolds valid members target := by
  have built : ∀ e ∈ objectTable sub names, ∀ v, Json.member? members e.keyword = some v →
      ∃ r, e.build path members v = .ok r := fun e he v hv => rules_built h he hv
  rw [checkObjectRules_eq_pass, rules_forall h, objectHolds_iff]
  simp only [objectTable, List.forall_mem_cons, List.not_mem_nil, false_imp_iff, implies_true, and_true] at built ⊢
  obtain ⟨-, dependent_built, -, -, names_built, patterns_built⟩ := built
  refine and_congr (properties_iff below hp target place) (and_congr (given_one fun v => ?_)
    (and_congr (given_built dependent_built fun v r hr => ?_) (and_congr (given_one fun v => ?_)
      (and_congr (given_one fun v => ?_) (and_congr (given_built names_built fun v r hr => ?_)
        (given_built patterns_built fun v r hr => ?_))))))
  · simp only [readStrings_eq_ok, ObjectRule.check, checkPresent_eq_pass]
  · obtain ⟨triggers, ht, rfl⟩ := Built.map_eq_ok.mp hr
    obtain ⟨lists, rfl, texts, each⟩ := readDependent_eq_ok ht
    rw [ObjectRule.check, checkDependent_eq_pass]
    constructor
    · intro all
      refine ⟨lists, rfl, fun trigger list mem there => ?_⟩
      obtain ⟨names, hn⟩ := texts _ mem
      exact ⟨names, hn, all trigger names ((each trigger names).mpr ⟨list, mem, hn⟩) there⟩
    · rintro ⟨lists', array, holds⟩ trigger names mem there
      obtain rfl := Json.object.inj array
      obtain ⟨list, mem, hn⟩ := (each trigger names).mp mem
      obtain ⟨names', hn', all⟩ := holds trigger list mem there
      obtain rfl := Json.IsTextList.unique hn hn'
      exact all
  · simp only [readCount_eq_ok, ObjectRule.check, require_eq_pass, decide_eq_true_iff]
  · simp only [readCount_eq_ok, ObjectRule.check, require_eq_pass, decide_eq_true_iff]
  · obtain ⟨rules, hn, rfl⟩ := Built.map_eq_ok.mp hr
    obtain ⟨ms, rfl, accepts⟩ := texts _ _ _ hn
    rw [ObjectRule.check, checkMembers_eq_pass fun key _ place => accepts key place]
    constructor
    · intro all ms' object key w hw
      obtain rfl := Json.object.inj object
      exact all key w hw
    · intro holds key w hw
      exact holds ms rfl key w hw
  · obtain ⟨patterns, hq, rfl⟩ := Built.map_eq_ok.mp hr
    exact patterns_iff below hq target place

end

/-! ## Compiled schemas -/

/-- The type of a schema that compiles is the declared one. -/
theorem declaredType_of_clear {members : Members} {type : ValueType}
    (h : resolveType none (Json.member? members "type") = .ok type) : declaredType members = some type := by
  unfold declaredType
  cases found : Json.member? members "type" with
  | none => simp [found, resolveType, ValueType.classify] at h
  | some v =>
    cases v with
    | string name =>
      cases named : ValueType.ofName? name with
      | none => simp [found, resolveType, ValueType.classify, named] at h
      | some t => simpa [found, resolveType, ValueType.classify, named] using h
    | _ => simp [found, resolveType, ValueType.classify] at h

/-- What is compiled for keys accepts the texts for which the string keywords hold. -/
theorem compileNames_accepts {limit levels : Nat} {path : Path} {raw : Json} {rules : List StringRule}
    (h : compileNames limit levels path raw = .ok rules) : ∃ members, raw = .object members ∧
      ∀ text place, StringRule.checkAll text place rules = .pass ↔ StringHolds members text := by
  cases levels with
  | zero => exact absurd h (Built.defect_ne_ok _ _ _)
  | succ levels =>
    cases raw with
    | object members =>
      refine ⟨members, rfl, fun text place => ?_⟩
      simp only [compileNames, openNode] at h
      cases clear : resolveType (some .string) (Json.member? members "type") with
      | error cause => simp [clear, Built.defect] at h
      | ok type =>
        simp only [clear] at h
        exact stringRules_iff h text place
    | _ => simp [compileNames, openNode, Built.defect] at h

theorem mismatch_ne_pass (type : ValueType) (v : Json) (path : Path) : mismatch type v path ≠ .pass := by
  intro h
  cases h

/-- A compiled schema accepts what is valid for the document, wherever both stand. -/
theorem check_iff_valid {limit levels : Nat} {path : Path} {raw : Json} {s : Schema}
    (h : compileNode limit levels path raw = .ok s) (v : Json) (place : Path) :
    s.check v place = .pass ↔ Valid raw v := by
  induction levels generalizing path raw s v place with
  | zero => exact absurd h (Built.defect_ne_ok _ _ _)
  | succ levels ih =>
    have below (path : Path) (raw : Json) (s : Schema) (h : compileNode limit levels path raw = .ok s) (v : Json)
        (place : Path) : s.check v place = .pass ↔ Valid raw v := ih h v place
    cases raw with
    | object members =>
      simp only [compileNode, openNode] at h
      cases clear : resolveType none (Json.member? members "type") with
      | error cause => simp [clear, Built.defect] at h
      | ok type =>
        simp only [clear] at h
        rw [valid_iff]
        simp only [Holds, declaredType_of_clear clear]
        cases type with
        | string =>
          obtain ⟨rules, hr, rfl⟩ := Built.map_eq_ok.mp h
          cases v with
          | string text => exact stringRules_iff hr text place
          | _ => exact iff_of_false (mismatch_ne_pass _ _ _) id
        | integer =>
          obtain ⟨rules, hr, rfl⟩ := Built.map_eq_ok.mp h
          cases v with
          | number n =>
            simp only [Schema.check, ← Number.toInteger?_eq_some]
            cases n.toInteger? with
            | some i => simp [integerRules_iff hr]
            | none => simp [mismatch_ne_pass]
          | _ => exact iff_of_false (mismatch_ne_pass _ _ _) id
        | number =>
          obtain ⟨rules, hr, rfl⟩ := Built.map_eq_ok.mp h
          cases v with
          | number n => exact numberRules_iff hr n.toDouble place
          | _ => exact iff_of_false (mismatch_ne_pass _ _ _) id
        | boolean =>
          obtain rfl := Except.ok.inj h
          cases v with
          | bool _ => exact iff_of_true rfl trivial
          | _ => exact iff_of_false (mismatch_ne_pass _ _ _) id
        | null =>
          obtain rfl := Except.ok.inj h
          cases v with
          | null => exact iff_of_true rfl trivial
          | _ => exact iff_of_false (mismatch_ne_pass _ _ _) id
        | array =>
          obtain ⟨rules, hr, rfl⟩ := Built.map_eq_ok.mp h
          cases v with
          | array items => exact arrayRules_iff below hr items place
          | _ => exact iff_of_false (mismatch_ne_pass _ _ _) id
        | object =>
          obtain ⟨⟨properties, rules⟩, hb, rfl⟩ := Built.map_eq_ok.mp h
          obtain ⟨hp, hr⟩ := Built.both_eq_ok.mp hb
          cases v with
          | object target =>
            simp only [Schema.check]
            rw [Verdict.and_eq_pass, labelled_eq_pass]
            exact objectRules_iff below (fun _ _ _ hn => compileNames_accepts hn) hp hr target place
          | _ => exact iff_of_false (mismatch_ne_pass _ _ _) id
    | _ => simp [compileNode, openNode, Built.defect] at h

/-- Compiling a document and checking a value by the schema agree with what the document asks of the
    value, whatever the limit within which it compiles. -/
theorem validate_iff_valid {depth : Nat} {raw : Json} {s : Schema} (h : Schema.compileWithin depth raw = .ok s)
    (t : Json) : s.validate t = .ok () ↔ Valid raw t :=
  check_iff_valid (compileWithin_eq_ok.mp h) t []

/-- Numbers of which exactly one is at least five. -/
def oneLarge : Json :=
  .object [("contains", .object [("minimum", Json.ofNat 5), ("type", .string "integer")]),
    ("items", .object [("type", .string "number")]), ("maxContains", Json.ofNat 1), ("type", .string "array")]

/-- The document compiles, one value is valid for it, and another one is not. -/
theorem validate_iff_valid_oneLarge :
    (∃ s, Schema.compile oneLarge = .ok s) ∧ Valid oneLarge (.array [Json.ofNat 1, Json.ofNat 7]) ∧
      ¬Valid oneLarge (.array [Json.ofNat 6, Json.ofNat 7]) := by
  have outcome : (match Schema.compile oneLarge with
      | .ok s => (s.validate (.array [Json.ofNat 1, Json.ofNat 7])).isOk &&
        !(s.validate (.array [Json.ofNat 6, Json.ofNat 7])).isOk
      | .error _ => false) = true := by decide +kernel
  cases h : Schema.compile oneLarge with
  | error ds => simp [h] at outcome
  | ok s =>
    simp only [h, Bool.and_eq_true, Bool.not_eq_true'] at outcome
    obtain ⟨good, bad⟩ := outcome
    refine ⟨⟨s, rfl⟩, (validate_iff_valid h _).mp (isOk_iff.mp good), fun valid => ?_⟩
    have passed := isOk_iff.mpr ((validate_iff_valid h _).mpr valid)
    rw [bad] at passed
    cases passed

end JsonSchema
