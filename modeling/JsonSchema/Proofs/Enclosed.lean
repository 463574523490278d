/-
  JsonSchema.Proofs.Enclosed — a schema inside another one has the defects that it has by itself.

  Of a schema that holds others, the parts stay the same, and stay in their order, when another object
  is put in the place of one of these (`frame_of_below`). So what is reported before and behind
  a place does not depend on what stands there (`report_replace`): nothing, where the document
  compiles with some schema in that place. What is reported of the place itself is what is reported of
  the schema alone, behind the path of the place, and at a level that does not matter as long as
  nothing lies beyond the limit (`report_under`, `report_level`).

  Statements:
  - `contents_replace`: the parts of a schema around one of the schemas below it.
  - `report_replace`: the report of a document around one of its places.
  - `compileWithin_enclosed`: the defects of a document that has them in one place only.
  - `outcomes_under_base`: validating and compiling behind a base.
-/

import JsonSchema.Proofs.Depth
import JsonSchema.Proofs.Described
import JsonSchema.Proofs.Relocated

namespace JsonSchema

open Json (Members)

/-! ## Another value in a place -/

namespace Json

/-- The document with another value at the end of a path, where the path leads somewhere. -/
def replace : Json → Path → Json → Json
  | _, [], other => other
  | .object members, .key name :: rest, other =>
    match member? members name with
    | some v => .object (insert name (v.replace rest other) members)
    | none => .object members
  | .array items, .index i :: rest, other =>
    match items[i]? with
    | some v => .array (items.set i (v.replace rest other))
    | none => .array items
  | v, _ :: _, _ => v

section

variable {t v other : Json}

theorem replace_nil : t.replace [] other = other := by
  cases t <;> rfl

theorem replace_key {members : Members} {name : String} (there : member? members name = some v) (rest : Path) :
    (Json.object members).replace (.key name :: rest) other = .object (insert name (v.replace rest other) members) := by
  rw [replace, there]

theorem replace_index {items : List Json} {i : Nat} (there : items[i]? = some v) (rest : Path) :
    (Json.array items).replace (.index i :: rest) other = .array (items.set i (v.replace rest other)) := by
  rw [replace, there]

/-- Replacing further down is replacing in what stands above. -/
theorem replace_append {p : Path} (here : t.descend? p = some v) (q : Path) :
    t.replace (p ++ q) other = t.replace p (v.replace q other) := by
  induction p generalizing t with
  | nil =>
    obtain rfl := Option.some.inj here
    rw [replace_nil, List.nil_append]
  | cons step rest ih =>
    cases step with
    | key name =>
      cases t with
      | object members =>
        obtain ⟨w, there, here⟩ := Option.bind_eq_some_iff.mp here
        rw [List.cons_append, replace_key there, replace_key there, ih here]
      | _ => cases here
    | index i =>
      cases t with
      | array items =>
        obtain ⟨w, there, here⟩ := Option.bind_eq_some_iff.mp here
        rw [List.cons_append, replace_index there, replace_index there, ih here]
      | _ => cases here

/-- A key that is there keeps its place among the members. -/
theorem insert_between {before after : Members} {name : String}
    (ascending : (before ++ (name, v) :: after).Pairwise fun a b => a.1 < b.1) :
    insert name other (before ++ (name, v) :: after) = before ++ (name, other) :: after := by
  induction before with
  | nil =>
    rw [List.nil_append, insert, if_neg (String.lt_irrefl _), if_pos rfl]
    rfl
  | cons m rest ih =>
    obtain ⟨first, later⟩ := List.pairwise_cons.mp ascending
    have less : m.1 < name := first (name, v) (List.mem_append_right _ List.mem_cons_self)
    have differs : name ≠ m.1 := fun same => String.lt_irrefl _ (same ▸ less)
    rw [List.cons_append, insert, if_neg (String.lt_asymm less), if_neg differs, ih later, List.cons_append]

/-- A document with the value that is there already is the document. -/
theorem replace_self {p : Path} (h : t.WellFormed) (here : t.descend? p = some v) : t.replace p v = t := by
  induction p generalizing t with
  | nil =>
    obtain rfl := Option.some.inj here
    exact replace_nil
  | cons step rest ih =>
    cases step with
    | key name =>
      cases t with
      | object members =>
        obtain ⟨w, there, here⟩ := Option.bind_eq_some_iff.mp here
        have mem := mem_of_member? there
        rw [replace_key there, ih (h.member mem) here]
        have ascending := h.pairwise
        obtain ⟨before, after, rfl⟩ := List.append_of_mem mem
        rw [insert_between ascending]
      | _ => cases here
    | index i =>
      cases t with
      | array items =>
        obtain ⟨w, there, here⟩ := Option.bind_eq_some_iff.mp here
        obtain ⟨bound, rfl⟩ := List.getElem?_eq_some_iff.mp there
        rw [replace_index there, ih (h.item (List.getElem_mem bound)) here, List.set_getElem_self]
      | _ => cases here

end

end Json

/-! ## The parts around a schema -/

/-- Whatever object stands at the end of the path in the value of a keyword, it is a schema among the
    parts of the keyword, and the other parts stay. -/
def Reading.Frame (reading : Reading) (keyword : String) (path : Path) (v : Json) (steps : Path)
    (needed : Option ValueType) : Prop :=
  ∃ before after, ∀ other, other.isObject → ∀ members, reading keyword path members (v.replace steps other) =
    before ++ .schema needed (path.key keyword ++ steps) other :: after

section

variable {keyword : String} {path : Path} {v : Json}

theorem frame_schema (needed : Option ValueType) : (Reading.schema needed).Frame keyword path v [] needed := by
  refine ⟨[], [], fun other _ members => ?_⟩
  rw [Json.replace_nil, List.append_nil]
  rfl

theorem frame_items : Reading.items.Frame keyword path v [] none := by
  refine ⟨[], [], fun other object members => ?_⟩
  cases other with
  | object inner =>
    rw [Json.replace_nil, List.append_nil]
    rfl
  | _ => cases object

theorem frame_item {schemas : List Json} {i : Nat} {raw : Json} (mem : schemas[i]? = some raw) :
    Reading.items.Frame keyword path (.array schemas) [.index i] none := by
  obtain ⟨bound, -⟩ := List.getElem?_eq_some_iff.mp mem
  let part (i : Nat) (s : Json) : Part := .schema none ((path.key keyword).index i) s
  refine ⟨(schemas.take i).mapIdx part, (schemas.drop (i + 1)).mapIdx fun j => part (j + 1 + i),
    fun other _ members => ?_⟩
  have parts : (schemas.set i other).mapIdx part = (schemas.take i).mapIdx part ++
      part i other :: (schemas.drop (i + 1)).mapIdx fun j => part (j + 1 + i) := by
    rw [List.set_eq_take_append_cons_drop, if_pos bound, List.mapIdx_append, List.mapIdx_cons,
      List.length_take_of_le (Nat.le_of_lt bound), Nat.zero_add]
  rw [Json.replace_index mem, Json.replace_nil]
  exact parts

theorem frame_property {declared : Members} {name : String} {raw : Json} (h : (Json.object declared).WellFormed)
    (mem : (name, raw) ∈ declared) : Reading.properties.Frame keyword path (.object declared) [.key name] none := by
  have there := member?_of_mem h mem
  have ascending := h.pairwise
  obtain ⟨before, after, rfl⟩ := List.append_of_mem mem
  let part (m : String × Json) : Part := .schema none ((path.key keyword).key m.1) m.2
  refine ⟨(before.filter (·.2.isObject)).map part, (after.filter (·.2.isObject)).map part,
    fun other object members => ?_⟩
  have parts : ((before ++ (name, other) :: after).filter (·.2.isObject)).map part =
      (before.filter (·.2.isObject)).map part ++ part (name, other) :: (after.filter (·.2.isObject)).map part := by
    have kept := List.filter_cons_of_pos (p := fun m : String × Json => m.2.isObject) (a := (name, other)) (l := after)
      object
    rw [List.filter_append, kept, List.map_append, List.map_cons]
  rw [Json.replace_key there, Json.replace_nil, Json.insert_between ascending]
  exact parts

theorem frame_pattern {sources : Members} {source : String} {raw : Json} (h : (Json.object sources).WellFormed)
    (mem : (source, raw) ∈ sources) : Reading.patterns.Frame keyword path (.object sources) [.key source] none := by
  have there := member?_of_mem h mem
  have ascending := h.pairwise
  obtain ⟨before, after, rfl⟩ := List.append_of_mem mem
  let own (m : String × Json) : List Part := Reading.badPattern keyword ((path.key keyword).key m.1) m.1
  let part (m : String × Json) : Part := .schema none ((path.key keyword).key m.1) m.2
  let all (m : String × Json) : List Part := own m ++ [part m]
  refine ⟨before.flatMap all ++ own (source, raw), after.flatMap all, fun other _ members => ?_⟩
  have parts : (before ++ (source, other) :: after).flatMap all =
      before.flatMap all ++ own (source, raw) ++ part (source, other) :: after.flatMap all := by
    rw [List.flatMap_append, List.flatMap_cons, List.append_assoc, List.append_assoc]
    rfl
  rw [Json.replace_key there, Json.replace_nil, Json.insert_between ascending]
  exact parts

end

section

variable {path place : Path} {members : Members} {type : ValueType} {needed wanted : Option ValueType} {raw : Json}

/-- A schema below another one stands in the value of a keyword. -/
theorem frame_of_below (h : (Json.object members).WellFormed) (below : Below path members type wanted place raw) :
    ∃ keyword reading v steps, (keyword, reading) ∈ keywordReadings type ∧ Json.member? members keyword = some v ∧
      place = path.key keyword ++ steps ∧ reading.Frame keyword path v steps wanted := by
  cases below with
  | property found mem _ =>
    exact ⟨_, _, _, [.key _], Nesting.properties.mem, found, rfl, frame_property (h.member (mem_of_member? found)) mem⟩
  | items found _ => exact ⟨_, _, _, [], Nesting.items.mem, found, (List.append_nil _).symm, frame_items⟩
  | item found mem => exact ⟨_, _, _, [.index _], Nesting.items.mem, found, rfl, frame_item mem⟩
  | contains found => exact ⟨_, _, _, [], Nesting.contains.mem, found, (List.append_nil _).symm, frame_schema none⟩
  | names found => exact ⟨_, _, _, [], Nesting.names.mem, found, (List.append_nil _).symm, frame_schema _⟩
  | pattern found mem =>
    exact ⟨_, _, _, [.key _], Nesting.patterns.mem, found, rfl, frame_pattern (h.member (mem_of_member? found)) mem⟩

end

/-- Of the members of the schema it only matters whether they are there. -/
def Reading.Separate (reading : Reading) : Prop :=
  ∀ keyword path members members' v, (∀ k, (Json.member? members' k).isSome = (Json.member? members k).isSome) →
    reading keyword path members' v = reading keyword path members v

theorem separate_beside {reading : Reading} (h : reading.Separate) (sibling : String) :
    (Reading.beside sibling reading).Separate := by
  intro keyword path members members' v same
  unfold Reading.beside
  rw [same, h keyword path members members' v same]

theorem separate_keywords (type : ValueType) : ∀ k ∈ keywordReadings type, k.2.Separate := by
  have count : Reading.count.Separate := fun _ _ _ _ _ _ => rfl
  cases type with
  | array =>
    simp only [keywordReadings, List.forall_mem_cons, List.not_mem_nil, false_imp_iff, implies_true, and_true]
    refine ⟨?_, ?_, ?_, ?_, ?_, separate_beside count _, separate_beside count _⟩ <;> exact fun _ _ _ _ _ _ => rfl
  | boolean => exact fun _ mem => absurd mem List.not_mem_nil
  | null => exact fun _ mem => absurd mem List.not_mem_nil
  | _ =>
    simp only [keywordReadings, List.forall_mem_cons, List.not_mem_nil, false_imp_iff, implies_true, and_true]
    and_intros <;> exact fun _ _ _ _ _ _ => rfl

section

variable {path place : Path} {members : Members} {type : ValueType} {needed wanted : Option ValueType} {raw : Json}

/-- The parts of a keyword that is there stand between those of the keywords before it and behind it, and
    these stay whatever it is set to. -/
theorem parts_insert (path : Path) {keyword : String} {reading : Reading} (known : (keyword, reading) ∈ keywordReadings type)
    (there : (Json.member? members keyword).isSome) : ∃ before after, ∀ v,
      parts type path (Json.insert keyword v members) =
        before ++ reading keyword path (Json.insert keyword v members) v ++ after := by
  have split : (keywordReadings type).Pairwise fun k l => k.1 ≠ l.1 := keyword_ne
  have separate := separate_keywords type
  unfold parts
  obtain ⟨first, last, table⟩ := List.append_of_mem known
  rw [table] at split separate ⊢
  obtain ⟨-, later, earlier⟩ := List.pairwise_append.mp split
  refine ⟨first.flatMap (partsOf path members), last.flatMap (partsOf path members), fun v => ?_⟩
  have presence (k : String) :
      (Json.member? (Json.insert keyword v members) k).isSome = (Json.member? members k).isSome := by
    rw [Json.member?_insert]
    split
    · subst k
      exact there.symm
    · rfl
  have stays {k : String × Reading} (other : k.1 ≠ keyword) (mem : k ∈ first ++ (keyword, reading) :: last) :
      partsOf path (Json.insert keyword v members) k = partsOf path members k := by
    unfold partsOf
    rw [Json.member?_insert, if_neg other]
    cases Json.member? members k.1 with
    | none => rfl
    | some w => exact separate k mem k.1 path members _ w presence
  have own : partsOf path (Json.insert keyword v members) (keyword, reading) =
      reading keyword path (Json.insert keyword v members) v := by
    refine partsOf_some ?_
    rw [Json.member?_insert, if_pos rfl]
  rw [List.flatMap_append, List.flatMap_cons, own, List.append_assoc]
  congr 1
  · refine List.flatMap_congr fun k mem => stays ?_ (List.mem_append_left _ mem)
    exact earlier k mem (keyword, reading) List.mem_cons_self
  · congr 1
    refine List.flatMap_congr fun k mem => stays ?_ (List.mem_append_right _ (List.mem_cons_of_mem _ mem))
    exact ((List.pairwise_cons.mp later).1 k mem).symm

/-- Whatever object stands in the place of a schema, it is a schema among the parts of the one above, and the
    other parts stay. -/
theorem contents_replace (h : (Json.object members).WellFormed)
    (clear : resolveType needed (Json.member? members "type") = .ok type)
    (below : Below path members type wanted place raw) : ∃ steps before after, place = path ++ steps ∧
      ∀ other, other.isObject → ((Json.object members).replace steps other).isObject ∧
        contents needed path ((Json.object members).replace steps other) =
          before ++ .schema wanted place other :: after := by
  obtain ⟨keyword, reading, v, steps, known, there, rfl, before, after, frame⟩ := frame_of_below h below
  obtain ⟨first, last, around⟩ := parts_insert path known (Option.isSome_iff_exists.mpr ⟨v, there⟩)
  refine ⟨.key keyword :: steps, first ++ before, after ++ last, List.append_assoc _ _ _, fun other object => ?_⟩
  rw [Json.replace_key there]
  have untyped : "type" ≠ keyword := by
    rintro rfl
    exact type_not_mem_keywords type (List.mem_map.mpr ⟨_, known, rfl⟩)
  refine ⟨rfl, ?_⟩
  unfold contents
  simp only [Json.member?_insert, if_neg untyped, clear]
  rw [around, frame other object]
  simp only [List.append_assoc, List.cons_append]

end

/-! ## The report around a place -/

/-- What is reported before and behind a place does not depend on the object that stands there. -/
theorem report_replace {limit level : Nat} {document raw : Json} {needed : Option ValueType} {place : Path}
    (h : document.WellFormed) (position : Position document level needed place raw) (within : level ≤ limit) :
    ∃ before after, ∀ other, other.isObject → report limit 0 none [] (document.replace place other) =
      before ++ report limit level needed place other ++ after := by
  -- one step down, what is reported before the place grows by the parts before it, and so behind it
  induction position with
  | root =>
    refine ⟨[], [], fun other _ => ?_⟩
    rw [Json.replace_nil, List.nil_append, List.append_nil]
  | @down level needed wanted path place members type raw above clear below ih =>
    obtain ⟨before, after, around⟩ := ih (by omega)
    obtain ⟨here, wellFormed⟩ := descend?_of_position h above
    obtain ⟨steps, first, last, rfl, parts⟩ := contents_replace wellFormed clear below
    let found := Part.defects (report limit (level + 1))
    refine ⟨before ++ first.flatMap found, last.flatMap found ++ after, fun other object => ?_⟩
    obtain ⟨inner, contents⟩ := parts other object
    rw [Json.replace_append here, around _ inner, report_within (by omega), contents, List.flatMap_append,
      List.flatMap_cons]
    simp only [List.append_assoc]
    rfl

/-! ## The report of a place -/

theorem Defect.under_injective (base : Path) : Function.Injective (Defect.under base) := by
  rintro ⟨path, cause⟩ ⟨path', cause'⟩ same
  obtain ⟨paths, rfl⟩ := Defect.mk.inj same
  obtain rfl := List.append_cancel_left paths
  rfl

theorem eraseDups_map {α β : Type} [BEq α] [LawfulBEq α] [BEq β] [LawfulBEq β] {f : α → β} (h : f.Injective)
    (l : List α) : (l.map f).eraseDups = l.eraseDups.map f := by
  match l with
  | [] => rfl
  | x :: rest =>
    have shorter : (rest.filter fun y => !y == x).length < rest.length + 1 :=
      Nat.lt_succ_of_le (List.length_filter_le _ _)
    have others : (rest.map f).filter (fun y => !y == f x) = (rest.filter fun y => !y == x).map f := by
      rw [List.filter_map]
      refine congrArg (List.map f) (List.filter_congr fun y _ => ?_)
      by_cases same : y = x
      · simp [same]
      · simp [same, h.ne same]
    rw [List.map_cons, List.eraseDups_cons, others, eraseDups_map h, List.eraseDups_cons, List.map_cons]
termination_by l.length

theorem Built.defects_under {α : Type} (base : Path) (b : Built α) :
    (b.under base).defects = b.defects.map (Defect.under base) := by
  cases b <;> rfl

/-- The report of a place is the one of what stands there, behind its path. -/
theorem report_under {limit level : Nat} (le : level ≤ limit) (base path : Path) {raw : Json} (h : raw.WellFormed) :
    report limit level none (base ++ path) raw = (report limit level none path raw).map (Defect.under base) := by
  obtain ⟨levels, room⟩ : ∃ levels, levels + level = limit + 1 := ⟨limit + 1 - level, by omega⟩
  have agrees (place : Path) :
      (compileNode limit levels place raw).defects.eraseDups = report limit level none place raw := by
    have once : (report limit level none place raw).Nodup := nodup_report h
    rw [← eraseDups_of_nodup once]
    exact compileDefects_agree limit levels level room none (Or.inl rfl) place raw
  rw [← agrees, ← agrees, compileNode_under, Built.defects_under, eraseDups_map (Defect.under_injective base)]

/-- What is visited at another level is the same, further down. -/
theorem visits_shift (k level : Nat) (needed : Option ValueType) (path : Path) (raw : Json) :
    visits (level + k) needed path raw = (visits level needed path raw).map fun e => (e.1 + k, e.2) := by
  rw [visits_eq, visits_eq, List.map_cons, List.map_flatMap]
  congr 1
  refine List.flatMap_congr fun part hp => ?_
  cases part with
  | problem d => rfl
  | schema needed' place raw' =>
    have smaller := sizeOf_lt_of_mem_contents hp
    have further := visits_shift k (level + 1) needed' place raw'
    rw [Nat.add_right_comm] at further
    exact further
termination_by sizeOf raw

/-- The level of a schema does not matter where no schema below it lies beyond the limit. -/
theorem report_level {limit level : Nat} {raw : Json} (room : level + deepest raw ≤ limit) :
    report limit level none [] raw = report limit 0 none [] raw := by
  have shift := visits_shift level 0 none [] raw
  rw [Nat.zero_add] at shift
  rw [report_eq_cut (by omega), report_eq_found (by omega), shift, List.filterMap_map]
  refine List.filterMap_congr fun e he => ?_
  have deep : e.1 ≤ deepest raw := foldr_max_le.mp (Nat.le_refl _) e he
  have within : e.1 + level ≤ limit := by omega
  have whole : cut limit (e.1 + level, e.2) = found (e.1 + level, e.2) := cut_within within
  rw [Function.comp_apply, whole]
  obtain ⟨_, _ | _⟩ := e <;> rfl

/-! ## Behind a base -/

theorem defects_once (depth : Nat) {raw : Json} (h : raw.WellFormed) :
    Built.defects (Schema.compileWithin depth raw) = report depth 0 none [] raw := by
  rw [compileWithin_defects, eraseDups_of_nodup (nodup_report h)]

theorem report_of_compiled {depth : Nat} {raw : Json} {s : Schema} (h : Schema.compileWithin depth raw = .ok s) :
    report depth 0 none [] raw = [] := by
  have nothing : (report depth 0 none [] raw).eraseDups = [] := by
    rw [← compileWithin_defects, h]
    rfl
  cases reported : report depth 0 none [] raw with
  | nil => rfl
  | cons d rest =>
    rw [reported, List.eraseDups_cons] at nothing
    cases nothing

theorem eq_error_of_defects {α : Type} {b : Built α} {ds : Defects} (h : b.defects = ds.toList) : b = .error ds := by
  cases b with
  | ok a => exact absurd h.symm (List.cons_ne_nil _ _)
  | error es => exact congrArg Except.error (Defects.toList_inj h)

/-- A schema inside a document that has no other defects. -/
theorem compileWithin_enclosed {depth level : Nat} {document raw other : Json} {place : Path} {s : Schema}
    {own : Defects} (h : document.WellFormed) (position : Position document level none place raw)
    (object : raw.isObject) (room : level + deepest raw ≤ depth) (object' : other.isObject)
    (sound : Schema.compileWithin depth (document.replace place other) = .ok s)
    (broken : Schema.compileWithin depth raw = .error own) :
    Schema.compileWithin depth document = .error (own.under place) := by
  obtain ⟨here, wellFormed⟩ := descend?_of_position h position
  obtain ⟨before, after, around⟩ := report_replace h position (by omega : level ≤ depth)
  have quiet : before ++ report depth level none place other ++ after = [] := by
    rw [← around other object']
    exact report_of_compiled sound
  obtain ⟨⟨rfl, -⟩, rfl⟩ := And.imp_left List.append_eq_nil_iff.mp (List.append_eq_nil_iff.mp quiet)
  have same : document.replace place raw = document := Json.replace_self h here
  refine eq_error_of_defects ?_
  calc Built.defects (Schema.compileWithin depth document)
      = report depth 0 none [] document := defects_once depth h
    _ = report depth level none place raw := by
        rw [← same, around raw object, List.nil_append, List.append_nil]
    _ = (report depth level none [] raw).map (Defect.under place) := by
        rw [← report_under (by omega) place [] wellFormed, List.append_nil]
    _ = (report depth 0 none [] raw).map (Defect.under place) := by rw [report_level room]
    _ = own.toList.map (Defect.under place) := by
        rw [← defects_once depth wellFormed, broken]
        rfl

/-- Validating and compiling do not depend on where they take place. A schema judges a value alike behind any
    base, and a violation has the base before its path. The defects of a schema by itself, in their order
    and with the path of a place before theirs, are those of a document that has it in this place, if the
    document compiles with some other schema there and no schema below the place lies too deep. -/
theorem outcomes_under_base :
    (∀ (s : Schema) (t : Json) (p q : Path), (s.validateAt t (p ++ q) = .ok () ↔ s.validateAt t q = .ok ()) ∧
      ∀ e, s.validateAt t q = .error e → s.validateAt t (p ++ q) = .error { e with path := p ++ e.path }) ∧
    ∀ (depth level : Nat) (document raw : Json) (place : Path) (own : Defects), document.WellFormed →
      Position document level none place raw → raw.isObject → level + deepest raw ≤ depth →
      (∃ other s, other.isObject ∧ Schema.compileWithin depth (document.replace place other) = .ok s) →
      Schema.compileWithin depth raw = .error own →
      ∃ ds, Schema.compileWithin depth document = .error ds ∧
        ds.toList = own.toList.map fun d => { d with path := place ++ d.path } := by
  constructor
  · intro s t p q
    have moved : s.validateAt t (p ++ q) = (s.validateAt t q).under p := check_under s t p q
    rw [moved]
    cases s.validateAt t q with
    | ok _ => exact ⟨Iff.rfl, fun e failed => nomatch failed⟩
    | error e =>
      refine ⟨⟨fun passed => (nomatch passed), fun passed => (nomatch passed)⟩, fun e' failed => ?_⟩
      obtain rfl := Except.error.inj failed
      rfl
  · rintro depth level document raw place own h position object room ⟨other, s, object', sound⟩ broken
    exact ⟨own.under place, compileWithin_enclosed h position object room object' sound broken, rfl⟩

def unlimited : Json :=
  .object [("maxLength", .string "two"), ("minLength", .bool true), ("type", .string "string")]

def nullOnly : Json := .object [("type", .string "null")]

/-- A property that is a pair, and this its second item. -/
def pairOf (item : Json) : Json :=
  .object [("properties", .object [("pair", .object [("items", .array [nullOnly, item]), ("type", .string "array")])]),
    ("type", .string "object")]

def secondItem : Path := [.key "properties", .key "pair", .key "items", .index 1]

/-- The item keeps both defects, and a value of another type is refused further down as it is at the root. -/
theorem outcomes_under_base_pair :
    (∃ ds, Schema.compileWithin 2 (pairOf unlimited) = .error ds ∧ ds.toList =
      [⟨secondItem ++ [.key "minLength"], .invalidKeyword "minLength" "a non-negative integer" "true"⟩,
       ⟨secondItem ++ [.key "maxLength"], .invalidKeyword "maxLength" "a non-negative integer" "\"two\""⟩]) ∧
    Schema.null.validateAt (.bool true) (secondItem ++ []) = .error ⟨secondItem, some "type", "null", "boolean"⟩ := by
  obtain ⟨validating, compiling⟩ := outcomes_under_base
  have wellFormed : (pairOf unlimited).WellFormed := by
    simp only [pairOf, nullOnly, unlimited, Json.WellFormed, Json.WellFormedMembers, Json.WellFormedItems, Json.Ordered,
      and_true]
    decide
  have position : Position (pairOf unlimited) 2 none secondItem unlimited :=
    ((Position.root).down rfl (.property rfl List.mem_cons_self rfl)).down rfl (.item rfl rfl)
  have sound : Schema.compileWithin 2 ((pairOf unlimited).replace secondItem nullOnly) =
      .ok (.object [("pair", .array [.itemList [.null, .null]])] []) := by rfl
  have broken : Schema.compileWithin 2 unlimited = .error
      ⟨⟨[.key "minLength"], .invalidKeyword "minLength" "a non-negative integer" "true"⟩,
        [⟨[.key "maxLength"], .invalidKeyword "maxLength" "a non-negative integer" "\"two\""⟩]⟩ := by
    refine eq_error_of_defects ?_
    decide +kernel
  have room : 2 + deepest unlimited ≤ 2 := by decide +kernel
  exact ⟨compiling 2 2 _ _ secondItem _ wellFormed position rfl room ⟨nullOnly, _, rfl, sound⟩ broken,
    (validating .null (.bool true) secondItem []).2 _ rfl⟩

end JsonSchema
