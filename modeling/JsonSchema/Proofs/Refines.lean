/-
  JsonSchema.Proofs.Refines — compiling with more levels left.

  One side refines another (`Refines`) when it builds whatever the other builds, and builds the
  same. All that a keyword does with the schemas below keeps this relation, so compiling does.

  Statements:
  - `compileNode_mono`: what compiles with some levels left compiles to the same with more.
-/

import JsonSchema.Proofs.Compiled
import Mathlib.Data.List.Forall2

namespace JsonSchema

open Json (Members)

/-- What one side builds, the other builds too. -/
def Refines {α : Type} (b b' : Built α) : Prop := ∀ a, b = .ok a → b' = .ok a

namespace Refines

variable {α β : Type}

theorem rfl {b : Built α} : Refines b b := fun _ h => h

theorem map {b b' : Built α} (h : Refines b b') (f : α → β) : Refines (b.map f) (b'.map f) := by
  intro c hc
  obtain ⟨a, ha, hf⟩ := Built.map_eq_ok.mp hc
  exact Built.map_eq_ok.mpr ⟨a, h a ha, hf⟩

theorem both {a a' : Built α} {b b' : Built β} (ha : Refines a a') (hb : Refines b b') :
    Refines (a.both b) (a'.both b') := by
  intro c hc
  obtain ⟨h, h'⟩ := Built.both_eq_ok.mp hc
  exact Built.both_eq_ok.mpr ⟨ha _ h, hb _ h'⟩

theorem all {parts parts' : List (Built α)} (h : List.Forall₂ Refines parts parts') :
    Refines (Built.all parts) (Built.all parts') := by
  induction h with
  | nil => exact rfl
  | cons first _ ih => exact (first.both ih).map _

theorem all_map {γ : Type} {f g : γ → Built α} (l : List γ) (h : ∀ x, Refines (f x) (g x)) :
    Refines (Built.all (l.map f)) (Built.all (l.map g)) :=
  all (List.forall₂_map_left_iff.mpr (List.forall₂_map_right_iff.mpr (List.forall₂_same.mpr fun x _ => h x)))

/-- Tables whose entries build alike have rules that do. -/
theorem rules {ρ : Type} {table table' : List (Entry ρ)} (path : Path) (members : Members)
    (h : List.Forall₂ (fun e e' => e.keyword = e'.keyword ∧
      ∀ v, Refines (e.build path members v) (e'.build path members v)) table table') :
    Refines (Entry.rules table path members) (Entry.rules table' path members) := by
  refine all ?_
  induction h with
  | nil => exact .nil
  | @cons e e' _ _ first _ ih =>
    obtain ⟨same, builds⟩ := first
    simp only [List.filterMap_cons, Entry.build?, same]
    cases Json.member? members e'.keyword with
    | none => exact ih
    | some v => exact .cons (builds v) ih

variable {sub sub' : Path → Json → Built Schema} (h : ∀ path raw, Refines (sub path raw) (sub' path raw))

include h

theorem readItems (keyword : String) (path : Path) (v : Json) :
    Refines (JsonSchema.readItems sub keyword path v) (JsonSchema.readItems sub' keyword path v) := by
  cases v with
  | object _ => exact (h _ _).map _
  | array schemas =>
    simp only [JsonSchema.readItems, List.mapIdx_eq_zipIdx_map]
    exact (all_map _ fun _ => h _ _).map _
  | _ => exact rfl

theorem countContained (keyword : String) (rule : Nat → Schema → ArrayRule) (path : Path) (members : Members)
    (v : Json) :
    Refines ((JsonSchema.countContained sub keyword rule).build path members v)
      ((JsonSchema.countContained sub' keyword rule).build path members v) := by
  simp only [JsonSchema.countContained, Entry.beside]
  cases Json.member? members "contains" with
  | none => exact rfl
  | some contained => exact (rfl.both (h _ _)).map _

theorem readPatterns (keyword : String) (path : Path) (v : Json) :
    Refines (JsonSchema.readPatterns sub keyword path v) (JsonSchema.readPatterns sub' keyword path v) := by
  cases v with
  | object sources => exact all_map _ fun _ => rfl.both (h _ _)
  | _ => exact rfl

theorem readProperties (path : Path) (members : Members) :
    Refines (JsonSchema.readProperties sub path members) (JsonSchema.readProperties sub' path members) := by
  cases found : Json.member? members "properties" with
  | none =>
    rw [JsonSchema.readProperties, JsonSchema.readProperties, found]
    exact rfl
  | some v =>
    cases v with
    | object declared =>
      rw [readProperties_object path found, readProperties_object path found]
      exact all_map _ fun _ => (h _ _).map _
    | _ =>
      rw [JsonSchema.readProperties, JsonSchema.readProperties, found]
      exact rfl

end Refines

theorem compileNames_mono {limit limit' levels levels' : Nat} (h : levels ≤ levels') (path : Path) (raw : Json) :
    Refines (compileNames limit levels path raw) (compileNames limit' levels' path raw) := by
  cases levels with
  | zero => exact fun _ h => (Built.defect_ne_ok _ _ _ h).elim
  | succ levels =>
    obtain ⟨more, rfl⟩ := Nat.exists_eq_add_of_le' h
    exact .rfl

/-- What compiles with some levels left compiles to the same with more of them. -/
theorem compileNode_mono {limit limit' levels levels' : Nat} (h : levels ≤ levels') (path : Path) (raw : Json) :
    Refines (compileNode limit levels path raw) (compileNode limit' levels' path raw) := by
  induction levels generalizing levels' path raw with
  | zero => exact fun _ h => (Built.defect_ne_ok _ _ _ h).elim
  | succ levels ih =>
    obtain ⟨more, rfl⟩ := Nat.exists_eq_add_of_le' h
    have more_levels : levels ≤ more + levels := Nat.le_add_left _ _
    have sub (path : Path) (raw : Json) :
        Refines (compileNode limit levels path raw) (compileNode limit' (more + levels) path raw) :=
      ih more_levels path raw
    have names (path : Path) (raw : Json) :
        Refines (compileNames limit levels path raw) (compileNames limit' (more + levels) path raw) :=
      compileNames_mono more_levels path raw
    simp only [compileNode]
    cases openNode none path raw with
    | error _ => exact .rfl
    | ok opened =>
      obtain ⟨type, members⟩ := opened
      cases type with
      | array =>
        refine (Refines.rules path members ?_).map _
        exact .cons ⟨rfl, fun _ => .rfl⟩ <| .cons ⟨rfl, fun _ => .rfl⟩ <| .cons ⟨rfl, fun _ => .rfl⟩ <|
          .cons ⟨rfl, fun v => (Refines.readItems sub _ path v).map _⟩ <|
          .cons ⟨rfl, fun v => (sub _ v).map _⟩ <|
          .cons ⟨rfl, Refines.countContained sub _ _ path members⟩ <|
          .cons ⟨rfl, Refines.countContained sub _ _ path members⟩ .nil
      | object =>
        refine ((Refines.readProperties sub path members).both (Refines.rules path members ?_)).map _
        exact .cons ⟨rfl, fun _ => .rfl⟩ <| .cons ⟨rfl, fun _ => .rfl⟩ <| .cons ⟨rfl, fun _ => .rfl⟩ <|
          .cons ⟨rfl, fun _ => .rfl⟩ <| .cons ⟨rfl, fun v => (names _ v).map _⟩ <|
          .cons ⟨rfl, fun v => (Refines.readPatterns sub _ path v).map _⟩ .nil
      | _ => exact .rfl

end JsonSchema
