/-
  JsonSchema.Json — JSON values.

  The members of an object stand in ascending order of their keys, each key once. Messages
  call a value by its kind (`kindName`).

  Statements: `insert` keeps the order (`ordered_insert`), gives the key its new value and no
  other key another one (`member?_insert`).
-/

import JsonSchema.Number.Basic

namespace JsonSchema

inductive Json where
  | null
  | bool (value : Bool)
  | number (value : Number)
  | string (text : String)
  | array (items : List Json)
  | object (members : List (String × Json))

namespace Json

def kindName : Json → String
  | .null => "null"
  | .bool _ => "boolean"
  | .number _ => "number"
  | .string _ => "string"
  | .array _ => "array"
  | .object _ => "object"

abbrev Members := List (String × Json)

def member? (members : Members) (key : String) : Option Json := members.lookup key

def Ordered : Members → Prop
  | [] => True
  | [_] => True
  | (k, _) :: (l, w) :: rest => k < l ∧ Ordered ((l, w) :: rest)

def insert (key : String) (value : Json) : Members → Members
  | [] => [(key, value)]
  | (k, v) :: rest =>
    if key < k then (key, value) :: (k, v) :: rest
    else if key = k then (key, value) :: rest
    else (k, v) :: insert key value rest

theorem member?_insert (key other : String) (value : Json) (members : Members) :
    member? (insert key value members) other = if other = key then some value else member? members other := by
  induction members with
  | nil => simp [insert, member?, List.lookup_cons]; split <;> simp_all
  | cons m rest ih =>
    obtain ⟨k, v⟩ := m
    unfold member? at ih
    unfold insert
    split
    · simp only [member?, List.lookup_cons]
      grind
    · split
      · simp only [member?, List.lookup_cons]
        grind
      · simp only [member?, List.lookup_cons]
        grind

theorem lt_of_not_lt {a b : String} (h : ¬a < b) (hne : ¬a = b) : b < a :=
  Std.lt_of_le_of_ne (String.not_lt.mp h) fun same => hne same.symm

theorem ordered_cons {k : String} {v : Json} {members : Members} :
    Ordered ((k, v) :: members) ↔ (∀ m ∈ members, k < m.1) ∧ Ordered members := by
  induction members generalizing k v with
  | nil => simp [Ordered]
  | cons m rest ih =>
    obtain ⟨l, w⟩ := m
    constructor
    · intro h
      refine ⟨fun n hn => ?_, h.2⟩
      rcases List.mem_cons.mp hn with rfl | hn
      · exact h.1
      · exact String.lt_trans h.1 ((ih.mp h.2).1 n hn)
    · exact fun h => ⟨h.1 _ List.mem_cons_self, h.2⟩

theorem fst_mem_insert {key : String} {value : Json} {members : Members} {m : String × Json}
    (h : m ∈ insert key value members) : m.1 = key ∨ m ∈ members := by
  induction members with
  | nil => simp_all [insert]
  | cons n rest ih =>
    obtain ⟨k, v⟩ := n
    unfold insert at h
    grind

theorem ordered_insert (key : String) (value : Json) {members : Members} (h : Ordered members) :
    Ordered (insert key value members) := by
  induction members with
  | nil => trivial
  | cons m rest ih =>
    obtain ⟨k, v⟩ := m
    unfold insert
    split
    · exact ⟨‹_›, h⟩
    · rw [ordered_cons] at h
      split
      · subst k
        exact ordered_cons.mpr h
      · refine ordered_cons.mpr ⟨fun m hm => ?_, ih h.2⟩
        rcases fst_mem_insert hm with hk | hm
        · rw [hk]
          exact lt_of_not_lt ‹_› ‹_›
        · exact h.1 m hm

/-- The members of a list of pairs; the last of equal keys stays. -/
def ofPairs (pairs : List (String × Json)) : Members :=
  pairs.foldl (fun members (key, value) => insert key value members) []

def ofNat (n : Nat) : Json :=
  match Number.ofNat? n with
  | some k => .number k
  | none => .null

mutual

/-- Every object in the value has its members in order. -/
def WellFormed : Json → Prop
  | .array items => WellFormedItems items
  | .object members => Ordered members ∧ WellFormedMembers members
  | _ => True

def WellFormedItems : List Json → Prop
  | [] => True
  | v :: rest => WellFormed v ∧ WellFormedItems rest

def WellFormedMembers : Members → Prop
  | [] => True
  | (_, v) :: rest => WellFormed v ∧ WellFormedMembers rest

end

theorem WellFormed.item {items : List Json} {v : Json} (h : (Json.array items).WellFormed) (hv : v ∈ items) :
    v.WellFormed := by
  rw [WellFormed] at h
  induction items with
  | nil => cases hv
  | cons w rest ih =>
    rcases List.mem_cons.mp hv with rfl | hv
    · exact h.1
    · exact ih h.2 hv

theorem WellFormed.member {members : Members} {key : String} {v : Json} (h : (Json.object members).WellFormed)
    (hv : (key, v) ∈ members) : v.WellFormed := by
  rw [WellFormed] at h
  replace h := h.2
  induction members with
  | nil => cases hv
  | cons m rest ih =>
    rcases List.mem_cons.mp hv with rfl | hv
    · exact h.1
    · exact ih hv h.2

theorem pairwise_of_ordered {members : Members} (h : Ordered members) :
    members.Pairwise fun m n => m.1 < n.1 := by
  induction members with
  | nil => exact .nil
  | cons m rest ih =>
    rw [ordered_cons] at h
    exact .cons h.1 (ih h.2)

theorem WellFormed.pairwise {members : Members} (h : (Json.object members).WellFormed) :
    members.Pairwise fun m n => m.1 < n.1 := by
  rw [WellFormed] at h
  exact pairwise_of_ordered h.1

end Json

end JsonSchema
