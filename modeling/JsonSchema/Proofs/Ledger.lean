/-
  JsonSchema.Proofs.Ledger — a registry is a ledger that only grows.

  A ledger lists names with what bound them, oldest first: the document, and the depth of the
  handle it came through. An action offers names with their documents, one for `register` and one
  for each readable schema file of a directory; an offer is entered where the name is free and the
  document compiles within the depth, and nothing is ever struck out or written over. The ledger
  knows of no compiled schema and of no order: both are what a registry makes of it.

  Statements:
  - `keeps_register`, `keeps_loadFiles`: registering, once or file by file, enters what is offered.
  - `keeps_run`: after any actions through any handles, the registry is what the ledger says.
  - `lookup_grown`: what a ledger says of a name stays true when it grows.
  - `session_keeps_ledger`: all answers about names, through all handles, come from the ledger.
-/

import JsonSchema.Proofs.ByteOrder
import JsonSchema.Proofs.Parts
import JsonSchema.Registry.Session

namespace JsonSchema

structure Origin where
  raw : Json
  depth : Nat

abbrev Ledger := List (String × Origin)

namespace Ledger

def schema? (l : Ledger) (name : String) : Option Schema :=
  match l.lookup name with
  | some o => (Schema.compileWithin o.depth o.raw).toOption
  | none => none

def register (l : Ledger) (depth : Nat) (name : String) (raw : Json) : Except RegistryError Schema :=
  match l.lookup name with
  | some _ => .error (.nameTaken name)
  | none => (Schema.compileWithin depth raw).mapError (.badSchema name)

/-- What checking a value by a name answers: the document that bound the name is compiled within the
    depth that it was bound with. -/
def validate (l : Ledger) (name : String) (target : Json) : Except Failure Unit :=
  match l.lookup name with
  | none => .error (.registry (.unknownName name))
  | some o =>
    match Schema.compileWithin o.depth o.raw with
    | .ok s => (s.validate target).mapError .violation
    | .error defects => .error (.schema defects)

def enter (depth : Nat) (l : Ledger) (offer : String × Json) : Ledger :=
  match l.lookup offer.1, Schema.compileWithin depth offer.2 with
  | none, .ok _ => l ++ [(offer.1, ⟨offer.2, depth⟩)]
  | _, _ => l

def enterAll (depth : Nat) (l : Ledger) (offers : List (String × Json)) : Ledger := offers.foldl (enter depth) l

end Ledger

/-- The name and the document of a schema file, where both can be read. -/
def FileSystem.document? (fs : FileSystem) (directory : FilePath) (file : Bytes) : Option (String × Json) :=
  match Bytes.decode? (FilePath.splitName file).1, (Source.path (directory.join file)).load fs with
  | some name, .ok raw => some (name, raw)
  | _, _ => none

namespace Session

def Action.offers : Action → List (String × Json)
  | .register name raw => [(name, raw)]
  | .loadDirectory fs directory =>
    match Registry.schemaFiles fs directory with
    | .ok files => files.filterMap (fs.document? directory)
    | .error _ => []
  | _ => []

def run (s : Session) : List (Nat × Action) → Session
  | [] => s
  | (handle, a) :: rest => (s.step handle a).2.run rest

def ledger (s : Session) (l : Ledger) : List (Nat × Action) → Ledger
  | [] => l
  | (handle, a) :: rest => (s.step handle a).2.ledger (l.enterAll (s.depth handle) a.offers) rest

end Session

/-! ## Bindings in their order -/

section

variable {name : String} {s : Schema} {bindings : List (String × Schema)}

theorem mem_keys_iff_lookup {α : Type} {l : List (String × α)} {key : String} :
    key ∈ l.map (·.1) ↔ (l.lookup key).isSome := by
  rw [List.lookup_isSome_iff, List.mem_map]
  constructor
  · rintro ⟨p, hp, rfl⟩
    exact ⟨p, hp, beq_self_eq_true _⟩
  · rintro ⟨p, hp, same⟩
    exact ⟨p, hp, (beq_iff_eq.mp same).symm⟩

/-- A free name that is bound gets its schema, and no other name another one. -/
theorem lookup_bind (free : bindings.lookup name = none) (other : String) :
    (Registry.bind name s bindings).lookup other = if other = name then some s else bindings.lookup other := by
  induction bindings with
  | nil =>
    by_cases h : other = name
    · simp [Registry.bind, h]
    · simp [Registry.bind, h, List.lookup_cons, beq_eq_false_iff_ne.mpr h]
  | cons b rest ih =>
    obtain ⟨n, t⟩ := b
    have apart : name ≠ n := by
      intro same
      simp [same] at free
    have later : rest.lookup name = none := by
      rwa [List.lookup_cons, beq_eq_false_iff_ne.mpr apart] at free
    by_cases less : name < n
    · rw [Registry.bind, if_pos less, List.lookup_cons]
      by_cases h : other = name
      · simp [h]
      · simp [h, beq_eq_false_iff_ne.mpr h]
    · rw [Registry.bind, if_neg less, List.lookup_cons, List.lookup_cons, ih later]
      by_cases h : other = n
      · have hn : ¬n = name := fun e => apart e.symm
        simp [h, hn]
      · simp [beq_eq_false_iff_ne.mpr h]

theorem mem_keys_bind {m : String} (h : m ∈ (Registry.bind name s bindings).map (·.1)) :
    m = name ∨ m ∈ bindings.map (·.1) := by
  induction bindings with
  | nil => exact Or.inl (List.mem_singleton.mp h)
  | cons b rest ih =>
    by_cases less : name < b.1
    · rw [Registry.bind, if_pos less] at h
      exact List.mem_cons.mp h
    · rw [Registry.bind, if_neg less, List.map_cons] at h
      rcases List.mem_cons.mp h with rfl | h
      · exact Or.inr List.mem_cons_self
      · rcases ih h with h | h
        · exact Or.inl h
        · exact Or.inr (List.mem_cons_of_mem _ h)

/-- A free name is bound in its place. -/
theorem ascending_bind (free : bindings.lookup name = none) (h : (bindings.map (·.1)).Pairwise (· < ·)) :
    ((Registry.bind name s bindings).map (·.1)).Pairwise (· < ·) := by
  induction bindings with
  | nil => exact List.pairwise_singleton _ _
  | cons b rest ih =>
    obtain ⟨n, t⟩ := b
    obtain ⟨first, others⟩ := List.pairwise_cons.mp h
    by_cases less : name < n
    · rw [Registry.bind, if_pos less]
      refine List.pairwise_cons.mpr ⟨fun m hm => ?_, h⟩
      rcases List.mem_cons.mp hm with rfl | hm
      · exact less
      · exact String.lt_trans less (first m hm)
    · have apart : ¬name = n := by
        intro same
        simp [same] at free
      have later : rest.lookup name = none := by
        rwa [List.lookup_cons, beq_eq_false_iff_ne.mpr apart] at free
      rw [Registry.bind, if_neg less]
      refine List.pairwise_cons.mpr ⟨fun m hm => ?_, ih later others⟩
      rcases mem_keys_bind hm with rfl | hm
      · exact Json.lt_of_not_lt less apart
      · exact first m hm

end

/-! ## A registry and its ledger -/

/-- The registry is what the ledger says: its names in ascending order, each with the schema of the
    document that bound it. -/
structure Registry.Keeps (r : Registry) (l : Ledger) : Prop where
  ascending : r.names.Pairwise (· < ·)
  get : ∀ name, r.get? name = l.schema? name
  compiled : ∀ entry ∈ l, ∃ s, Schema.compileWithin entry.2.depth entry.2.raw = .ok s

section

variable {r : Registry} {l : Ledger}

/-- A name of the ledger stands for a schema. -/
theorem schema?_isSome (compiled : ∀ entry ∈ l, ∃ s, Schema.compileWithin entry.2.depth entry.2.raw = .ok s)
    (name : String) : (l.schema? name).isSome = (l.lookup name).isSome := by
  unfold Ledger.schema?
  cases h : l.lookup name with
  | none => rfl
  | some o =>
    obtain ⟨s, hs⟩ := compiled _ (mem_of_lookup h)
    simp only [hs]
    rfl

/-- The registry knows the names of the ledger. -/
theorem Registry.Keeps.get_eq_none (h : r.Keeps l) (name : String) : r.get? name = none ↔ l.lookup name = none := by
  rw [h.get, ← Option.not_isSome_iff_eq_none, ← Option.not_isSome_iff_eq_none, schema?_isSome h.compiled]

theorem schema?_append (name : String) (o : Origin) (other : String) (free : l.lookup name = none) :
    Ledger.schema? (l ++ [(name, o)]) other =
      if other = name then (Schema.compileWithin o.depth o.raw).toOption else l.schema? other := by
  unfold Ledger.schema?
  rw [List.lookup_append]
  by_cases h : other = name
  · simp [h, free]
  · have other_entry : List.lookup other [(name, o)] = none := by
      simp [List.lookup_cons, beq_eq_false_iff_ne.mpr h]
    rw [other_entry, Option.or_none, if_neg h]

/-- A name that was free before compiling is so when it is bound: nothing else happens in between. -/
theorem Registry.register_eq (r : Registry) (depth : Nat) (name : String) (raw : Json) :
    r.register depth name raw =
      match r.get? name with
      | some _ => .error (.nameTaken name)
      | none =>
        match Schema.compileWithin depth raw with
        | .ok s => .ok (s, ⟨bind name s r.bindings⟩)
        | .error defects => .error (.badSchema name defects) := by
  unfold register
  cases bound : r.get? name with
  | some s => rfl
  | none =>
    cases Schema.compileWithin depth raw with
    | error defects => rfl
    | ok s => simp only [insert, bound]

/-- Registering a document is what the ledger answers, and enters what is offered. -/
theorem keeps_register (h : r.Keeps l) (depth : Nat) (name : String) (raw : Json) :
    match r.register depth name raw with
    | .ok (s, next) => l.register depth name raw = .ok s ∧ next.Keeps (l.enter depth (name, raw)) ∧
        ∀ other, next.get? other = if other = name then some s else r.get? other
    | .error e => l.register depth name raw = .error e ∧ l.enter depth (name, raw) = l := by
  have known := h.get_eq_none name
  rw [Registry.register_eq]
  unfold Ledger.register Ledger.enter
  cases bound : r.get? name with
  | some s =>
    cases found : l.lookup name with
    | none => exact absurd (known.mpr found) (by simp [bound])
    | some o => exact ⟨rfl, rfl⟩
  | none =>
    have free : l.lookup name = none := known.mp bound
    cases built : Schema.compileWithin depth raw with
    | error ds =>
      simp only [free]
      exact ⟨rfl, trivial⟩
    | ok s =>
      simp only [free]
      have lookups (other : String) :
          Registry.get? ⟨Registry.bind name s r.bindings⟩ other = if other = name then some s else r.get? other :=
        lookup_bind bound other
      refine ⟨rfl, ⟨ascending_bind bound h.ascending, fun other => ?_, fun entry mem => ?_⟩, lookups⟩
      · rw [lookups, schema?_append name _ other free, built, h.get]
        rfl
      · rcases List.mem_append.mp mem with mem | mem
        · exact h.compiled entry mem
        · rw [List.mem_singleton.mp mem]
          exact ⟨s, built⟩

/-- A file that is loaded enters its document, and one that is not leaves everything as it is. -/
theorem keeps_loadFile (h : r.Keeps l) (depth : Nat) (fs : FileSystem) (directory : FilePath) (file : Bytes) :
    match r.loadFile depth fs directory file with
    | .ok next => next.Keeps (l.enterAll depth (fs.document? directory file).toList)
    | .error _ => l.enterAll depth (fs.document? directory file).toList = l := by
  unfold Registry.loadFile FileSystem.document?
  cases Bytes.decode? (FilePath.splitName file).1 with
  | none => rfl
  | some name =>
    cases read : (Source.path (directory.join file)).load fs with
    | error e =>
      simp only [read]
      rfl
    | ok raw =>
      have registered := keeps_register h depth name raw
      simp only [read]
      cases built : r.register depth name raw with
      | error e =>
        rw [built] at registered
        exact registered.2
      | ok result =>
        rw [built] at registered
        exact registered.2.1

theorem keeps_loadFiles (h : r.Keeps l) (depth : Nat) (fs : FileSystem) (directory : FilePath) (files : List Bytes) :
    (r.loadFiles depth fs directory files).1.Keeps (l.enterAll depth (files.filterMap (fs.document? directory))) := by
  induction files generalizing r l with
  | nil => exact h
  | cons file rest ih =>
    have first := keeps_loadFile h depth fs directory file
    have offers : l.enterAll depth ((file :: rest).filterMap (fs.document? directory)) =
        (l.enterAll depth (fs.document? directory file).toList).enterAll depth
          (rest.filterMap (fs.document? directory)) := by
      unfold Ledger.enterAll
      rw [← List.foldl_append, List.filterMap_cons]
      cases fs.document? directory file <;> rfl
    rw [offers]
    unfold Registry.loadFiles
    cases loaded : r.loadFile depth fs directory file with
    | ok next =>
      rw [loaded] at first
      exact ih first
    | error e =>
      rw [loaded] at first
      rw [first]
      exact ih h

end

/-! ## Sessions -/

/-- One action enters its offers. -/
theorem keeps_step {s : Session} {l : Ledger} (h : s.registry.Keeps l) (handle : Nat) (a : Session.Action) :
    (s.step handle a).2.registry.Keeps (l.enterAll (s.depth handle) a.offers) := by
  cases a with
  | register name raw =>
    have registered := keeps_register h (s.depth handle) name raw
    simp only [Session.step]
    cases built : s.registry.register (s.depth handle) name raw with
    | ok result =>
      rw [built] at registered
      exact registered.2.1
    | error e =>
      rw [built] at registered
      have same : l.enterAll (s.depth handle) [(name, raw)] = l := registered.2
      simp only [Session.Action.offers]
      rw [same]
      exact h
  | get name => exact h
  | validate name target => exact h
  | clone depth => exact h
  | loadDirectory fs directory =>
    simp only [Session.step, Registry.loadDirectory, Session.Action.offers]
    cases Registry.schemaFiles fs directory with
    | error e => exact h
    | ok files => exact keeps_loadFiles h (s.depth handle) fs directory files

theorem keeps_run {s : Session} {l : Ledger} (h : s.registry.Keeps l) (steps : List (Nat × Session.Action)) :
    (s.run steps).registry.Keeps (s.ledger l steps) := by
  induction steps generalizing s l with
  | nil => exact h
  | cons first rest ih => exact ih (keeps_step h first.1 first.2)

theorem keeps_start (depth : Nat) : (Session.start depth).registry.Keeps [] :=
  ⟨.nil, fun _ => rfl, fun _ mem => nomatch mem⟩

/-! ## Nothing is struck out -/

theorem prefix_enterAll (depth : Nat) (l : Ledger) (offers : List (String × Json)) :
    l <+: l.enterAll depth offers := by
  induction offers generalizing l with
  | nil => exact List.prefix_rfl
  | cons offer rest ih =>
    have one : l <+: l.enter depth offer := by
      unfold Ledger.enter
      split
      · exact List.prefix_append _ _
      · exact List.prefix_rfl
    exact one.trans (ih _)

theorem prefix_ledger (s : Session) (l : Ledger) (steps : List (Nat × Session.Action)) : l <+: s.ledger l steps := by
  induction steps generalizing s l with
  | nil => exact List.prefix_rfl
  | cons first rest ih => exact (prefix_enterAll _ _ _).trans (ih _ _)

/-- What a ledger says of a name stays true when it grows. -/
theorem lookup_grown {l l' : Ledger} (h : l <+: l') {name : String} {o : Origin} (found : l.lookup name = some o) :
    l'.lookup name = some o := by
  obtain ⟨more, rfl⟩ := h
  rw [List.lookup_append, found, Option.some_or]

theorem ledger_append (s : Session) (l : Ledger) (steps later : List (Nat × Session.Action)) :
    s.ledger l (steps ++ later) = (s.run steps).ledger (s.ledger l steps) later := by
  induction steps generalizing s l with
  | nil => rfl
  | cons first rest ih => exact ih _ _

/-! ## What the handles see -/

/-- What is seen of the names, through any handle. -/
structure Session.Shows (s : Session) (l : Ledger) : Prop where
  ascending : s.registry.names.Pairwise fun m n => Bytes.ofText m < Bytes.ofText n
  names : ∀ name, name ∈ s.registry.names ↔ name ∈ l.map (·.1)
  size : s.registry.size = s.registry.names.length
  isEmpty : s.registry.isEmpty ↔ s.registry.names = []
  get : ∀ handle name, s.step handle (.get name) = (.got (l.schema? name), s)
  found : ∀ name, (l.schema? name).isSome ↔ name ∈ s.registry.names
  compiled : ∀ entry ∈ l, ∃ schema, Schema.compileWithin entry.2.depth entry.2.raw = .ok schema
  validate : ∀ handle name target, s.step handle (.validate name target) = (.validated (l.validate name target), s)
  unknown : ∀ name target, l.validate name target = .error (.registry (.unknownName name)) ↔ name ∉ s.registry.names

structure Session.Registers (s : Session) (l : Ledger) (handle : Nat) (name : String) (raw : Json) : Prop where
  answer : (s.step handle (.register name raw)).1 = .registered (l.register (s.depth handle) name raw)
  taken : l.register (s.depth handle) name raw = .error (.nameTaken name) ↔ name ∈ s.registry.names
  refused : ∀ e, l.register (s.depth handle) name raw = .error e → (s.step handle (.register name raw)).2 = s
  bound : ∀ schema, l.register (s.depth handle) name raw = .ok schema →
    ∀ other, (s.step handle (.register name raw)).2.registry.get? other =
      if other = name then some schema else s.registry.get? other

/-- Errors of one kind are not turned into one of another kind. -/
theorem mapError_ne {α ε ε' : Type} {x : Except ε α} {f : ε → ε'} {e : ε'} (h : ∀ d, f d ≠ e) :
    x.mapError f ≠ .error e := by
  intro same
  cases x with
  | ok _ => cases same
  | error d => exact h d (Except.error.inj same)

section

variable {s : Session} {l : Ledger} (h : s.registry.Keeps l)

include h

theorem mem_names_iff (name : String) : name ∈ s.registry.names ↔ (l.lookup name).isSome := by
  rw [← schema?_isSome h.compiled, ← h.get, Registry.names, mem_keys_iff_lookup]
  rfl

theorem validate_eq (name : String) (target : Json) : s.registry.validate name target = l.validate name target := by
  have known := h.get name
  unfold Ledger.schema? at known
  unfold Registry.validate Ledger.validate
  cases found : l.lookup name with
  | none => simp only [known, found]
  | some o =>
    obtain ⟨t, ht⟩ := h.compiled _ (mem_of_lookup found)
    have got : s.registry.get? name = some t := by
      simp only [known, found, ht]
      rfl
    simp only [got, ht]

theorem validate_unknown (name : String) (target : Json) :
    l.validate name target = .error (.registry (.unknownName name)) ↔ name ∉ s.registry.names := by
  rw [mem_names_iff h]
  unfold Ledger.validate
  cases found : l.lookup name with
  | none => simp
  | some o =>
    obtain ⟨t, ht⟩ := h.compiled _ (mem_of_lookup found)
    simp only [ht]
    exact iff_of_false (mapError_ne nofun) (by simp)

theorem register_taken (depth : Nat) (name : String) (raw : Json) :
    l.register depth name raw = .error (.nameTaken name) ↔ name ∈ s.registry.names := by
  rw [mem_names_iff h]
  unfold Ledger.register
  cases l.lookup name with
  | none =>
    exact iff_of_false (mapError_ne nofun) (by simp)
  | some o => simp

theorem shows_of_keeps : s.Shows l where
  ascending := h.ascending.imp fun less => Bytes.ofText_lt_iff.mpr less
  names name := by rw [mem_names_iff h, mem_keys_iff_lookup]
  size := (List.length_map _).symm
  isEmpty := by rw [Registry.isEmpty, List.isEmpty_iff, Registry.names, List.map_eq_nil_iff]
  get handle name := by simp only [Session.step, h.get]
  found name := by rw [mem_names_iff h, schema?_isSome h.compiled]
  compiled := h.compiled
  validate handle name target := by simp only [Session.step, validate_eq h]
  unknown := validate_unknown h

theorem registers_of_keeps (handle : Nat) (name : String) (raw : Json) : s.Registers l handle name raw := by
  have registered := keeps_register h (s.depth handle) name raw
  have taken := register_taken h (s.depth handle) name raw
  cases built : s.registry.register (s.depth handle) name raw with
  | ok result =>
    rw [built] at registered
    obtain ⟨answer, -, lookups⟩ := registered
    have stepped : s.step handle (.register name raw) =
        (.registered (.ok result.1), { s with registry := result.2 }) := by
      simp only [Session.step, built]
    refine ⟨by rw [stepped, answer], taken, fun e refused => ?_, fun schema bound other => ?_⟩
    · rw [answer] at refused
      cases refused
    · rw [answer] at bound
      obtain rfl := Except.ok.inj bound
      rw [stepped]
      exact lookups other
  | error e =>
    rw [built] at registered
    obtain ⟨answer, -⟩ := registered
    have stepped : s.step handle (.register name raw) = (.registered (.error e), s) := by
      simp only [Session.step, built]
    refine ⟨by rw [stepped, answer], taken, fun _ _ => by rw [stepped], fun schema bound => ?_⟩
    rw [answer] at bound
    cases bound

end

/-- A handle keeps its depth, whatever is done through it or through others. -/
theorem depth_step (s : Session) (handle : Nat) (a : Session.Action) {other : Nat} (h : other < s.depths.length) :
    (s.step handle a).2.depth other = s.depth other := by
  cases a with
  | register name raw =>
    simp only [Session.step]
    split <;> rfl
  | clone depth =>
    simp only [Session.step, Session.depth, List.getElem?_append_left h]
  | _ => rfl

/-- After any actions through any handles, everything that is answered about names comes from a ledger
    that later actions only extend, and a clone with a depth of its own is no more than that. -/
theorem session_keeps_ledger (depth : Nat) (steps : List (Nat × Session.Action)) (handle : Nat) :
    let s := (Session.start depth).run steps
    let l := (Session.start depth).ledger [] steps
    s.Shows l ∧
      (∀ later, l <+: (Session.start depth).ledger [] (steps ++ later) ∧
        ∀ name schema, s.registry.get? name = some schema →
          ((Session.start depth).run (steps ++ later)).registry.get? name = some schema) ∧
      (∀ name raw, s.Registers l handle name raw) ∧
      (∀ a other, other < s.depths.length → (s.step handle a).2.depth other = s.depth other) ∧
      ∀ own, (s.step handle (.clone own)).1 = .cloned s.depths.length ∧
        (s.step handle (.clone own)).2.registry = s.registry ∧
        (s.step handle (.clone own)).2.depth s.depths.length = own.getD (s.depth handle) := by
  intro s l
  have keeps : s.registry.Keeps l := keeps_run (keeps_start depth) steps
  refine ⟨shows_of_keeps keeps, fun later => ?_, registers_of_keeps keeps handle,
    fun a other inside => depth_step s handle a inside, fun own => ⟨rfl, rfl, ?_⟩⟩
  · have grown : l <+: (Session.start depth).ledger [] (steps ++ later) := by
      rw [ledger_append]
      exact prefix_ledger _ _ _
    refine ⟨grown, fun name schema got => ?_⟩
    have after := keeps_run (keeps_start depth) (steps ++ later)
    rw [keeps.get] at got
    rw [after.get]
    unfold Ledger.schema? at got ⊢
    cases found : l.lookup name with
    | none => simp [found] at got
    | some o =>
      rw [lookup_grown grown found]
      rwa [found] at got
  · simp [Session.step, Session.depth]

def oneDown : Json := .object [("items", .object [("type", .string "null")]), ("type", .string "array")]

def flagFile : FileSystem :=
  ⟨[([Bytes.ofText "Flag.json"], .file (Bytes.ofText "\x7b\"type\":\"boolean\"\x7d"))]⟩

/-- The document is too deep for the first handle, but not for its clone, which also loads a directory. -/
def twoHandles : List (Nat × Session.Action) :=
  [(0, .register "Nested" oneDown), (0, .clone (some 1)), (1, .register "Nested" oneDown),
   (1, .loadDirectory flagFile [FilePath.point])]

/-- The names stand in the order of their bytes, whatever the order of binding, and are taken for the
    first handle too, even for a document that does not compile. -/
theorem session_keeps_ledger_twoHandles :
    ((Session.start 0).ledger [] twoHandles).map (fun entry => (entry.1, entry.2.depth)) =
        [("Nested", 1), ("Flag", 1)] ∧
      ((Session.start 0).run twoHandles).registry.names = ["Flag", "Nested"] ∧
      (((Session.start 0).run twoHandles).step 0 (.register "Nested" .null)).1 =
        .registered (.error (.nameTaken "Nested")) := by
  have names : ((Session.start 0).run twoHandles).registry.names = ["Flag", "Nested"] := by decide +kernel
  obtain ⟨-, -, registers, -⟩ := session_keeps_ledger 0 twoHandles 0
  have nested := registers "Nested" .null
  refine ⟨by decide +kernel, names, ?_⟩
  rw [nested.answer, nested.taken.mpr (by simp [names])]

end JsonSchema
