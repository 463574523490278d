/-
  JsonSchema.Proofs.Directory — loading a directory, file by file.

  What becomes of a schema file hangs on the file and on what the registry knew before any was loaded:
  its name is no text, or its content is no document, or its name is taken, or its document is no schema,
  the first of these that is so; or it is bound. Two files of one directory never have the same name to
  be bound to, so that no file gets in the way of another, and the order does not matter.

  A second time nothing is bound: the names of the files that were bound are taken now, and with the
  others is wrong what was wrong before.

  Statements:
  - `answer_eq_ok`, `answer_eq_error`: when a file is bound, and which error it is refused with if not.
  - `loadFiles_eq`: what a run over files with names of their own binds and refuses, file by file.
  - `answer_again`: what becomes of a file when the directory is loaded once more.
  - `loadDirectory_account`: loading a directory, all of it.
-/

import JsonSchema.Proofs.FileNames
import JsonSchema.Proofs.Ledger
import Mathlib.Data.List.Pairwise

namespace JsonSchema

open FilePath (splitName point)

namespace Registry

/-! ## One file -/

/-- What becomes of a file: the name and the schema that are bound, or the first thing that is wrong. -/
def answer (r : Registry) (depth : Nat) (fs : FileSystem) (directory : FilePath) (file : Bytes) :
    Except RegistryError (String × Schema) := do
  let path := directory.join file
  let name ← (Bytes.decode? (splitName file).1).elim (.error (.badFileName path)) .ok
  let raw ← ((Source.path path).load fs).mapError (.badSource path)
  if (r.get? name).isSome then .error (.nameTaken name)
  else ((Schema.compileWithin depth raw).mapError (.badSchema name)).map (name, ·)

def again : Except RegistryError (String × Schema) → Except RegistryError (String × Schema)
  | .ok (name, _) => .error (.nameTaken name)
  | .error e => .error e

def bound (r : Registry) (depth : Nat) (fs : FileSystem) (directory : FilePath) (files : List Bytes) :
    List (String × Schema) :=
  files.filterMap fun file => (r.answer depth fs directory file).toOption

def refused (r : Registry) (depth : Nat) (fs : FileSystem) (directory : FilePath) (files : List Bytes) :
    List RegistryError :=
  files.filterMap fun file =>
    match r.answer depth fs directory file with
    | .ok _ => none
    | .error e => some e

def bindAll (r : Registry) (more : List (String × Schema)) : Registry :=
  more.foldl (fun r b => ⟨bind b.1 b.2 r.bindings⟩) r

variable {r r' : Registry} {depth : Nat} {fs : FileSystem} {directory : FilePath} {file : Bytes} {name : String}
  {raw : Json} {s : Schema}

section

variable (named : Bytes.decode? (splitName file).1 = some name)

include named

theorem answer_unread {e : SourceError} (wrong : (Source.path (directory.join file)).load fs = .error e) :
    r.answer depth fs directory file = .error (.badSource (directory.join file) e) := by
  simp only [answer, named, wrong]
  rfl

theorem answer_read (read : (Source.path (directory.join file)).load fs = .ok raw) :
    r.answer depth fs directory file =
      if (r.get? name).isSome then .error (.nameTaken name)
      else ((Schema.compileWithin depth raw).mapError (.badSchema name)).map (name, ·) := by
  simp only [answer, named, read]
  rfl

end

theorem answer_unnamed (unnamed : Bytes.decode? (splitName file).1 = none) :
    r.answer depth fs directory file = .error (.badFileName (directory.join file)) := by
  simp only [answer, unnamed]
  rfl

/-- A file is bound where its name is text and free, and its content is a document that compiles. -/
theorem answer_eq_ok : r.answer depth fs directory file = .ok (name, s) ↔
    ∃ raw, Bytes.decode? (splitName file).1 = some name ∧ (Source.path (directory.join file)).load fs = .ok raw ∧
      r.get? name = none ∧ Schema.compileWithin depth raw = .ok s := by
  constructor
  · intro h
    cases named : Bytes.decode? (splitName file).1 with
    | none => cases (answer_unnamed named).symm.trans h
    | some own =>
      cases read : (Source.path (directory.join file)).load fs with
      | error e => cases (answer_unread named read).symm.trans h
      | ok raw =>
        rw [answer_read named read] at h
        split at h
        · cases h
        · rename_i free
          cases compiled : Schema.compileWithin depth raw with
          | error ds =>
            rw [compiled] at h
            cases h
          | ok own' =>
            rw [compiled] at h
            obtain ⟨rfl, rfl⟩ := Prod.mk.inj (Except.ok.inj h)
            exact ⟨raw, rfl, rfl, by simpa using free, compiled⟩
  · rintro ⟨raw, named, read, free, compiled⟩
    rw [answer_read named read, free, compiled]
    rfl

/-- Of the registry only one name matters. -/
theorem answer_congr (h : ∀ name, Bytes.decode? (splitName file).1 = some name →
    (r'.get? name).isSome = (r.get? name).isSome) :
    r'.answer depth fs directory file = r.answer depth fs directory file := by
  cases named : Bytes.decode? (splitName file).1 with
  | none => rw [answer_unnamed named, answer_unnamed named]
  | some name =>
    cases read : (Source.path (directory.join file)).load fs with
    | error e => rw [answer_unread named read, answer_unread named read]
    | ok raw => rw [answer_read named read, answer_read named read, h name named]

/-- A file is refused for its name, if that is no text; else for its content, if that is no document; else
    for the name, if it is taken; else for the defects of the document. -/
theorem answer_eq_error {e : RegistryError} : r.answer depth fs directory file = .error e ↔
    (Bytes.decode? (splitName file).1 = none ∧ e = .badFileName (directory.join file)) ∨
      ∃ name, Bytes.decode? (splitName file).1 = some name ∧
        ((∃ cause, (Source.path (directory.join file)).load fs = .error cause ∧
            e = .badSource (directory.join file) cause) ∨
          ∃ raw, (Source.path (directory.join file)).load fs = .ok raw ∧
            ((∃ t, r.get? name = some t) ∧ e = .nameTaken name ∨
              r.get? name = none ∧ ∃ ds, Schema.compileWithin depth raw = .error ds ∧ e = .badSchema name ds)) := by
  cases named : Bytes.decode? (splitName file).1 with
  | none => simp [answer_unnamed named, eq_comm]
  | some name =>
    cases read : (Source.path (directory.join file)).load fs with
    | error cause => simp [answer_unread named read, eq_comm]
    | ok raw =>
      rw [answer_read named read]
      cases there : r.get? name with
      | some t => simp [there, eq_comm]
      | none =>
        cases compiled : Schema.compileWithin depth raw <;>
          simp [there, compiled, Except.mapError, Except.map, eq_comm]

/-- Loading a file does what becomes of it. -/
theorem loadFile_eq : r.loadFile depth fs directory file =
    (r.answer depth fs directory file).map fun b => ⟨bind b.1 b.2 r.bindings⟩ := by
  unfold loadFile
  cases named : Bytes.decode? (splitName file).1 with
  | none =>
    rw [answer_unnamed named]
    rfl
  | some name =>
    cases read : (Source.path (directory.join file)).load fs with
    | error e =>
      rw [answer_unread named read]
      simp only [read]
      rfl
    | ok raw =>
      rw [answer_read named read]
      simp only [read, register_eq]
      cases r.get? name with
      | some t => rfl
      | none => cases Schema.compileWithin depth raw <;> rfl

/-! ## Many bindings -/

theorem perm_bind (name : String) (s : Schema) (bindings : List (String × Schema)) :
    (bind name s bindings).Perm ((name, s) :: bindings) := by
  induction bindings with
  | nil => exact .rfl
  | cons b rest ih =>
    unfold bind
    split
    · exact .rfl
    · exact (ih.cons b).trans (.swap _ _ _)

theorem perm_bindAll (more : List (String × Schema)) : (r.bindAll more).bindings.Perm (r.bindings ++ more) := by
  induction more generalizing r with
  | nil => rw [List.append_nil]; exact .rfl
  | cons b rest ih =>
    have first := (perm_bind b.1 b.2 r.bindings).append_right rest
    exact (ih.trans first).trans List.perm_middle.symm

/-- Free names that are bound get their schemas, and no other name another one. -/
theorem get?_bindAll {more : List (String × Schema)} (free : ∀ b ∈ more, r.get? b.1 = none)
    (apart : (more.map (·.1)).Nodup) : (r.bindAll more).get? name = some s ↔
      r.get? name = some s ∨ (name, s) ∈ more := by
  induction more generalizing r with
  | nil => simp [bindAll]
  | cons b rest ih =>
    obtain ⟨own, t⟩ := b
    obtain ⟨here, later⟩ := List.forall_mem_cons.mp free
    obtain ⟨fresh, apart⟩ := List.nodup_cons.mp apart
    have lookups (other : String) : Registry.get? ⟨bind own t r.bindings⟩ other =
        if other = own then some t else r.get? other := lookup_bind here other
    have other_name : ∀ b ∈ rest, b.1 ≠ own := fun b mem e => fresh (List.mem_map.mpr ⟨b, mem, e⟩)
    have next : ∀ b ∈ rest, Registry.get? ⟨bind own t r.bindings⟩ b.1 = none := fun b mem => by
      rw [lookups, if_neg (other_name b mem), later b mem]
    show (bindAll ⟨bind own t r.bindings⟩ rest).get? name = some s ↔ _
    rw [ih next apart, lookups, List.mem_cons, Prod.mk.injEq]
    by_cases same : name = own
    · subst name
      have gone : (own, s) ∉ rest := fun mem => other_name _ mem rfl
      have taken : r.get? own ≠ some s := by simp [here]
      simp [gone, taken, eq_comm]
    · simp [same]

/-! ## Many files -/

/-- The files have names of their own to be bound to. -/
def Apart (files : List Bytes) : Prop := files.Pairwise fun f g => (splitName f).1 ≠ (splitName g).1

section

variable {files : List Bytes}

theorem toOption_eq_some {ε α : Type} {x : Except ε α} {a : α} : x.toOption = some a ↔ x = .ok a := by
  cases x <;> simp [Except.toOption]

theorem mem_bound : (name, s) ∈ r.bound depth fs directory files ↔
    ∃ file ∈ files, r.answer depth fs directory file = .ok (name, s) := by
  unfold bound
  simp only [List.mem_filterMap, toOption_eq_some]

theorem free_bound : ∀ b ∈ r.bound depth fs directory files, r.get? b.1 = none := by
  intro b mem
  obtain ⟨file, -, answered⟩ := mem_bound.mp mem
  obtain ⟨raw, -, -, free, -⟩ := answer_eq_ok.mp answered
  exact free

/-- No two files are bound to one name. -/
theorem nodup_bound (apart : Apart files) : ((r.bound depth fs directory files).map (·.1)).Nodup := by
  refine List.pairwise_map.mpr (List.Pairwise.filterMap _ ?_ apart)
  intro f g stems b bound b' bound' same
  obtain ⟨_, named, -⟩ := answer_eq_ok.mp (toOption_eq_some.mp bound)
  obtain ⟨_, named', -⟩ := answer_eq_ok.mp (toOption_eq_some.mp bound')
  exact stems (Bytes.decode?_inj named (same ▸ named'))

/-- A run over files binds and refuses each of them as if it were alone. -/
theorem loadFiles_eq (apart : Apart files) : r.loadFiles depth fs directory files =
    (r.bindAll (r.bound depth fs directory files), (r.bound depth fs directory files).length,
      r.refused depth fs directory files) := by
  induction files generalizing r with
  | nil => rfl
  | cons file rest ih =>
    obtain ⟨own, apart⟩ := List.pairwise_cons.mp apart
    unfold loadFiles
    rw [loadFile_eq]
    cases answered : r.answer depth fs directory file with
    | error e =>
      simp only [Except.map, ih apart, bound, refused, List.filterMap_cons, answered, Except.toOption]
    | ok b =>
      obtain ⟨name, s⟩ := b
      obtain ⟨raw, named, -, free, -⟩ := answer_eq_ok.mp answered
      -- the name that is bound is not the name of a later file
      have others : ∀ g ∈ rest,
          answer ⟨bind name s r.bindings⟩ depth fs directory g = r.answer depth fs directory g := by
        intro g mem
        refine answer_congr fun other named' => ?_
        have differs : other ≠ name := fun e => own g mem (Bytes.decode?_inj named (e ▸ named'))
        rw [get?, lookup_bind free, if_neg differs]
        rfl
      have bound_rest : bound ⟨bind name s r.bindings⟩ depth fs directory rest = r.bound depth fs directory rest :=
        List.filterMap_congr fun g mem => by rw [others g mem]
      have refused_rest : refused ⟨bind name s r.bindings⟩ depth fs directory rest =
          r.refused depth fs directory rest :=
        List.filterMap_congr fun g mem => by rw [others g mem]
      simp only [Except.map, ih apart, bound_rest, refused_rest]
      simp only [bound, refused, List.filterMap_cons, answered, Except.toOption, List.length_cons]
      rfl

/-- Every file is bound or refused. -/
theorem length_bound_add (files : List Bytes) : (r.bound depth fs directory files).length +
    (r.refused depth fs directory files).length = files.length := by
  unfold bound refused Except.toOption
  induction files with
  | nil => rfl
  | cons file rest ih =>
    simp only [List.filterMap_cons]
    cases r.answer depth fs directory file <;> simp only [List.length_cons] <;> omega

theorem Apart.eq (apart : Apart files) {f g : Bytes} (hf : f ∈ files) (hg : g ∈ files)
    (same : (splitName f).1 = (splitName g).1) : f = g := by
  have symm : Std.Symm fun f g : Bytes => (splitName f).1 ≠ (splitName g).1 := ⟨fun _ _ ne => ne.symm⟩
  by_contra other
  exact apart.forall hf hg other same

/-- Once the files are loaded, those that were bound are refused for their names, and the others for
    what was wrong with them before. -/
theorem answer_again (apart : Apart files) (mem : file ∈ files) :
    (r.bindAll (r.bound depth fs directory files)).answer depth fs directory file =
      again (r.answer depth fs directory file) := by
  have known (name : String) (s : Schema) : (r.bindAll (r.bound depth fs directory files)).get? name = some s ↔
      r.get? name = some s ∨ (name, s) ∈ r.bound depth fs directory files :=
    get?_bindAll free_bound (nodup_bound apart)
  cases answered : r.answer depth fs directory file with
  | ok b =>
    obtain ⟨raw, named, read, -, -⟩ := answer_eq_ok.mp answered
    have taken := (known b.1 b.2).mpr (Or.inr (mem_bound.mpr ⟨file, mem, answered⟩))
    rw [answer_read named read, taken]
    rfl
  | error e =>
    rw [again, ← answered]
    refine answer_congr fun name named => ?_
    cases there : r.get? name with
    | some t => rw [(known name t).mpr (Or.inl there)]
    | none =>
      -- only a file of this name could bind it, which is this file
      rw [Option.isSome_none, Option.isSome_eq_false_iff, Option.isNone_iff_eq_none]
      by_contra bound
      obtain ⟨s, found⟩ := Option.ne_none_iff_exists'.mp bound
      rcases (known name s).mp found with old | new
      · cases there.symm.trans old
      · obtain ⟨g, mem', answered'⟩ := mem_bound.mp new
        obtain ⟨_, named', -⟩ := answer_eq_ok.mp answered'
        obtain rfl := apart.eq mem mem' (Bytes.decode?_inj named named')
        cases answered.symm.trans answered'

end

/-! ## Schema files -/

/-- A schema file ends with `.json` and has something before. -/
theorem splitName_eq_fileEnding : (splitName file).2 = some fileEnding ↔
    ∃ stem, stem ≠ [] ∧ file = stem ++ point :: fileEnding := by
  have plain : point ∉ fileEnding := by decide +kernel
  constructor
  · intro h
    obtain ⟨some, -, e⟩ := FilePath.splitName_eq_some.mp (Prod.ext rfl h : splitName file = (_, some fileEnding))
    exact ⟨_, some, e⟩
  · rintro ⟨stem, some, rfl⟩
    rw [FilePath.splitName_eq_some.mpr ⟨some, plain, rfl⟩]

theorem ascending_mergeSort {names : List Bytes} (once : names.Nodup) : names.mergeSort.Pairwise (· < ·) := by
  have sorted : names.mergeSort.Pairwise fun a b => decide (a ≤ b) = true :=
    List.pairwise_mergeSort (fun a b c h h' => by simpa using List.le_trans (by simpa using h) (by simpa using h'))
      (fun a b => by simpa using List.le_total a b) names
  have nodup : names.mergeSort.Nodup := (List.mergeSort_perm _ _).nodup_iff.mpr once
  exact (sorted.and nodup).imp fun ⟨le, ne⟩ => Std.lt_of_le_of_ne (of_decide_eq_true le) ne

/-- The schema files of a directory in the order of their names. -/
theorem schemaFiles_spec (distinct : fs.Distinct) {names : List Bytes}
    (readable : fs.readDirectory directory = .ok names) :
    ∃ files, schemaFiles fs directory = .ok files ∧ files.Pairwise (· < ·) ∧
      ∀ file, file ∈ files ↔ file ∈ names ∧ fs.isFile (directory.join file) ∧
        ∃ stem, stem ≠ [] ∧ file = stem ++ point :: fileEnding := by
  refine ⟨_, by rw [schemaFiles, readable]; rfl, ?_, fun file => ?_⟩
  · exact ascending_mergeSort ((FileSystem.nodup_readDirectory distinct readable).filter _)
  · rw [List.mem_mergeSort, List.mem_filter, Bool.and_eq_true, beq_iff_eq, splitName_eq_fileEnding]

theorem apart_of_schemaFiles {files : List Bytes} (ascending : files.Pairwise (· < ·))
    (ending : ∀ file ∈ files, ∃ stem, stem ≠ [] ∧ file = stem ++ point :: fileEnding) : Apart files := by
  refine ascending.imp_of_mem fun {f g} hf hg less same => ?_
  obtain ⟨stem, some, rfl⟩ := ending f hf
  obtain ⟨stem', some', rfl⟩ := ending g hg
  have plain : point ∉ fileEnding := by decide +kernel
  rw [FilePath.splitName_eq_some.mpr ⟨some, plain, rfl⟩, FilePath.splitName_eq_some.mpr ⟨some', plain, rfl⟩] at same
  obtain rfl : stem = stem' := same
  exact List.lt_irrefl _ less

/-- The name of a schema file is text where its stem is. -/
theorem decode?_schemaFile {stem : Bytes} (some : stem ≠ []) (e : file = stem ++ point :: fileEnding) :
    Bytes.decode? file = none ↔ Bytes.decode? (splitName file).1 = none := by
  have plain : point ∉ fileEnding := by decide +kernel
  have ascii : ∀ b ∈ point :: fileEnding, b < 0x80 := by decide +kernel
  rw [FilePath.splitName_eq_some.mpr ⟨some, plain, e⟩, e, ← Option.not_isSome_iff_eq_none,
    ← Option.not_isSome_iff_eq_none, Bytes.isSome_decode?_append ascii]

/-! ## Directories -/

/-- What it means that a directory with these schema files is loaded: the registry that comes of it, and
    the answer. -/
structure Loaded (r : Registry) (depth : Nat) (fs : FileSystem) (directory : FilePath) (files : List Bytes)
    (next : Registry) (result : Except RegistryError Nat) : Prop where
  /-- Bound are the files whose names are text and free, and whose documents compile. -/
  bound : ∀ name s, (name, s) ∈ r.bound depth fs directory files ↔
    ∃ file ∈ files, ∃ raw, Bytes.decode? (splitName file).1 = some name ∧
      (Source.path (directory.join file)).load fs = .ok raw ∧ r.get? name = none ∧
        Schema.compileWithin depth raw = .ok s
  /-- No two files have one name to be bound to. -/
  apart : ∀ f ∈ files, ∀ g ∈ files, ∀ name, Bytes.decode? (splitName f).1 = some name →
    Bytes.decode? (splitName g).1 = some name → f = g
  once : ((r.bound depth fs directory files).map (·.1)).Nodup
  /-- What was bound before stays, and these are bound beside it. -/
  store : next.bindings.Perm (r.bindings ++ r.bound depth fs directory files)
  get : ∀ name s, next.get? name = some s ↔ r.get? name = some s ∨ (name, s) ∈ r.bound depth fs directory files
  /-- The others are refused for the first thing that is wrong with them. -/
  refused : ∀ file ∈ files, ∀ e, r.answer depth fs directory file = .error e ↔
    (Bytes.decode? file = none ∧ e = .badFileName (directory.join file)) ∨
      ∃ name, Bytes.decode? (splitName file).1 = some name ∧
        ((∃ cause, (Source.path (directory.join file)).load fs = .error cause ∧
            e = .badSource (directory.join file) cause) ∨
          ∃ raw, (Source.path (directory.join file)).load fs = .ok raw ∧
            ((∃ t, r.get? name = some t) ∧ e = .nameTaken name ∨
              r.get? name = none ∧ ∃ ds, Schema.compileWithin depth raw = .error ds ∧ e = .badSchema name ds))
  total : (r.bound depth fs directory files).length + (r.refused depth fs directory files).length = files.length
  all : ∀ n, result = .ok n ↔ r.refused depth fs directory files = [] ∧ n = files.length
  single : ∀ e, r.refused depth fs directory files = [e] → result = .error e
  several : 2 ≤ (r.refused depth fs directory files).length →
    result = .error (.several (r.refused depth fs directory files))

section

variable {files : List Bytes}

theorem outcome_eq_ok {loaded n : Nat} {errors : List RegistryError} :
    outcome loaded errors = .ok n ↔ errors = [] ∧ n = loaded := by
  match errors with
  | [] => simp [outcome, eq_comm]
  | [e] => simp [outcome]
  | _ :: _ :: _ => simp [outcome]

theorem outcome_several {loaded : Nat} {errors : List RegistryError} (h : 2 ≤ errors.length) :
    outcome loaded errors = .error (.several errors) := by
  match errors with
  | [] => simp at h
  | [e] => simp at h
  | _ :: _ :: _ => rfl

theorem loaded_files (apart : Apart files)
    (ending : ∀ file ∈ files, ∃ stem, stem ≠ [] ∧ file = stem ++ point :: fileEnding) :
    r.Loaded depth fs directory files (r.bindAll (r.bound depth fs directory files))
      (outcome (r.bound depth fs directory files).length (r.refused depth fs directory files)) where
  bound name s := by
    rw [mem_bound]
    exact exists_congr fun file => and_congr_right fun _ => answer_eq_ok
  apart f hf g hg name named named' := apart.eq hf hg (Bytes.decode?_inj named named')
  once := nodup_bound apart
  store := perm_bindAll _
  get name s := get?_bindAll free_bound (nodup_bound apart)
  refused file mem e := by
    obtain ⟨stem, some, split⟩ := ending file mem
    rw [answer_eq_error, decode?_schemaFile some split]
  total := length_bound_add files
  all n := by
    have total : (r.bound depth fs directory files).length + (r.refused depth fs directory files).length =
      files.length := length_bound_add files
    rw [outcome_eq_ok]
    refine and_congr_right fun none => ?_
    rw [← total, none]
    rfl
  single e one := by rw [one]; rfl
  several := outcome_several

/-- The order of the files does not matter to what is bound. -/
theorem loadFiles_perm (apart : Apart files) {order : List Bytes} (h : order.Perm files) :
    ∃ last, r.loadFiles depth fs directory order =
        (last, (r.bound depth fs directory files).length, r.refused depth fs directory order) ∧
      last.get? = (r.bindAll (r.bound depth fs directory files)).get? := by
  have apart' : Apart order := (h.pairwise_iff fun ne => ne.symm).mpr apart
  have same : (r.bound depth fs directory order).Perm (r.bound depth fs directory files) := h.filterMap _
  refine ⟨_, by rw [loadFiles_eq apart', same.length_eq], funext fun name => Option.ext fun s => ?_⟩
  rw [get?_bindAll free_bound (nodup_bound apart'), get?_bindAll free_bound (nodup_bound apart), same.mem_iff]

/-- Nothing is bound a second time. -/
theorem bound_again (apart : Apart files) :
    (r.bindAll (r.bound depth fs directory files)).bound depth fs directory files = [] := by
  refine List.filterMap_eq_nil_iff.mpr fun file mem => ?_
  rw [answer_again apart mem]
  cases r.answer depth fs directory file <;> rfl

end

/-- Loading a directory goes through all of its schema files in the order of their names, and does with each
    what it would do with that file alone, in whatever order they come; a second time it binds nothing and
    refuses those that were bound for their names. -/
theorem loadDirectory_account (r : Registry) (depth : Nat) (fs : FileSystem) (directory : FilePath)
    (distinct : fs.Distinct) {names : List Bytes} (readable : fs.readDirectory directory = .ok names) :
    ∃ files next result, r.loadDirectory depth fs directory = (next, result) ∧
      files.Pairwise (· < ·) ∧
      (∀ file, file ∈ files ↔ file ∈ names ∧ fs.isFile (directory.join file) ∧
        ∃ stem, stem ≠ [] ∧ file = stem ++ point :: fileEnding) ∧
      r.Loaded depth fs directory files next result ∧
      (∀ order, order.Perm files → ∃ last, r.loadFiles depth fs directory order =
          (last, (r.bound depth fs directory files).length, r.refused depth fs directory order) ∧
        last.get? = next.get?) ∧
      (next.loadDirectory depth fs directory).1 = next ∧
      ∀ file ∈ files, next.answer depth fs directory file = again (r.answer depth fs directory file) := by
  obtain ⟨files, listed, ascending, schema⟩ := schemaFiles_spec distinct readable
  have ending := fun file mem => ((schema file).mp mem).2.2
  have apart : Apart files := apart_of_schemaFiles ascending ending
  have loads (r : Registry) : r.loadDirectory depth fs directory =
      (r.bindAll (r.bound depth fs directory files),
        outcome (r.bound depth fs directory files).length (r.refused depth fs directory files)) := by
    simp only [loadDirectory, listed, loadFiles_eq apart]
  refine ⟨files, _, _, loads r, ascending, schema, loaded_files apart ending, fun order perm =>
    loadFiles_perm apart perm, ?_, fun file mem => answer_again apart mem⟩
  rw [loads, bound_again apart]
  rfl

def sheet (letter : UInt8) : Bytes := [letter, 0x2e, 0x6a, 0x73, 0x6f, 0x6e]

def drawer : FilePath := [0x64]

/-- A directory with a schema and with a file that is no text. -/
def shelf : FileSystem :=
  ⟨[([drawer], .directory), ([drawer, sheet 0x62], .file [0xff]),
    ([drawer, sheet 0x61], .file (Bytes.ofText "\x7b\"type\":\"null\"\x7d"))]⟩

/-- The schema is bound although the other file is refused, and is refused itself a second time. -/
theorem loadDirectory_account_shelf :
    shelf.Distinct ∧ shelf.readDirectory drawer = .ok [sheet 0x62, sheet 0x61] ∧
      ∃ next result, empty.loadDirectory 1 shelf drawer = (next, result) ∧
        (∃ s, next.get? "a" = some s) ∧ (∀ n, result ≠ .ok n) ∧
        next.answer 1 shelf drawer (sheet 0x61) = .error (.nameTaken "a") := by
  have distinct : shelf.Distinct := by
    unfold FileSystem.Distinct
    decide
  have readable : shelf.readDirectory drawer = .ok [sheet 0x62, sheet 0x61] := rfl
  have ending : ∀ letter ∈ [0x61, 0x62], ∃ stem, stem ≠ [] ∧ sheet letter = stem ++ point :: fileEnding := by
    intro letter _
    exact ⟨[letter], by simp, by rw [show fileEnding = [0x6a, 0x73, 0x6f, 0x6e] by decide +kernel]; rfl⟩
  have good : (empty.answer 1 shelf drawer (sheet 0x61)).toOption.map (·.1) = some "a" := by decide +kernel
  have bad : (empty.answer 1 shelf drawer (sheet 0x62)).toOption.map (·.1) = none := by decide +kernel
  obtain ⟨files, next, result, loaded, -, schema, account, -, -, later⟩ :=
    loadDirectory_account empty 1 shelf drawer distinct readable
  have here := (schema (sheet 0x61)).mpr ⟨by simp, rfl, ending _ (by simp)⟩
  have there := (schema (sheet 0x62)).mpr ⟨by simp, rfl, ending _ (by simp)⟩
  obtain ⟨⟨_, s⟩, bound, rfl⟩ := Option.map_eq_some_iff.mp good
  have answered : empty.answer 1 shelf drawer (sheet 0x61) = .ok (_, s) := toOption_eq_some.mp bound
  refine ⟨distinct, readable, next, result, loaded, ⟨s, ?_⟩, fun n done => ?_, ?_⟩
  · exact (account.get _ _).mpr (Or.inr (mem_bound.mpr ⟨_, here, answered⟩))
  · have none := List.filterMap_eq_nil_iff.mp ((account.all n).mp done).1 _ there
    cases refusal : empty.answer 1 shelf drawer (sheet 0x62) with
    | ok b => simp [refusal, Except.toOption] at bad
    | error e => simp [refusal] at none
  · rw [later _ here, answered]
    rfl

end Registry

end JsonSchema
