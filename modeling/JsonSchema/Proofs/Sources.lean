/-
  JsonSchema.Proofs.Sources — one document, whatever it is read from.

  A text, its bytes, and a file with these bytes are read to the same document or fail with the same error,
  which only says in which file it was found. Bytes that are no text are no document either, wherever the
  bad ones stand; in a file they are refused before anything is read from them.

  Checking one source by another hangs on what the two are read to. The schema is read first, and what is
  wrong with it hides what is wrong with the value; what is wrong with either hides the defects of the
  schema. So a source can stand for another one with the same document.

  Statements:
  - `load_of_text?`: what a source with a text is read to, up to where an error was found.
  - `load_of_decode?`, `load_of_undecoded`: how bytes are read, alone and from files.
  - `ofString_eq`: when a string is the name of a file.
  - `validateSource_eq_ok`, `validateSource_eq_error`: what checking one source by another answers.
  - `Same.load`, `validateSource_congr`: a source can stand for another with the same document.
  - `sources_account`: all of it.
-/

import JsonSchema.Validation
import JsonSchema.Proofs.TextDocuments

namespace JsonSchema

/-! ## Files -/

namespace FileSystem

variable {fs : FileSystem} {path : FilePath} {content : Bytes}

def HasFile (fs : FileSystem) (path : FilePath) : Prop :=
  ∃ place content, fs.resolve path = .ok place ∧ fs.entry? place = some (.file content)

theorem isFile_iff : fs.isFile path ↔ fs.HasFile path := by
  unfold isFile HasFile
  cases resolved : fs.resolve path with
  | error e => simp
  | ok place =>
    cases there : fs.entry? place with
    | none => simp [there]
    | some entry => cases entry <;> simp [there]

theorem readText_of_readFile (read : fs.readFile path = .ok content) :
    fs.readText path = content.decode?.elim (.error .invalidData) .ok := by
  simp only [readText, read]
  cases content.decode? <;> rfl

end FileSystem

/-! ## Errors -/

/-- The error, without the file it was found in. -/
def SourceError.anywhere : SourceError → SourceError
  | .malformedFile _ e => .malformed e
  | e => e

def Failure.anywhere : Failure → Failure
  | .source e => .source e.anywhere
  | f => f

/-! ## Reading -/

namespace Source

variable {fs : FileSystem} {S S' : Source} {text : String} {bytes : Bytes}

/-- The text that is read as the document; a value is none, and some bytes and files have none. -/
def text? (fs : FileSystem) : Source → Option String
  | .value _ => none
  | .text content => some content
  | .bytes content => content.decode?
  | .path file => (fs.readText file).toOption

/-- The sources have the same document: the same value, or the same text, be it a document or not. -/
def Same (fs : FileSystem) (S S' : Source) : Prop :=
  (∃ v, S.load fs = .ok v ∧ S'.load fs = .ok v) ∨ ∃ text, S.text? fs = some text ∧ S'.text? fs = some text

theorem ofBytes_of_decode? (h : bytes.decode? = some text) : Json.ofBytes bytes = Json.ofText text := by
  rw [Json.ofText, Bytes.decode?_eq_some.mp h]

theorem load_path_of_readFile {file : FilePath} (read : fs.readFile file = .ok bytes) :
    (Source.path file).load fs =
      bytes.decode?.elim (.error (.unreadable file .invalidData)) fun text =>
        (Json.ofText text).mapError (.malformedFile file) := by
  simp only [load, FileSystem.readText_of_readFile read]
  cases bytes.decode? <;> rfl

/-- A source with a text is read as that text is; only the place of an error is its own. -/
theorem load_of_text? (h : S.text? fs = some text) :
    (S.load fs).mapError SourceError.anywhere = (Json.ofText text).mapError .malformed := by
  cases S with
  | value v => cases h
  | text content =>
    obtain rfl := Option.some.inj h
    simp only [load]
    cases Json.ofText content <;> rfl
  | bytes content =>
    simp only [load, ofBytes_of_decode? h]
    cases Json.ofText text <;> rfl
  | path file =>
    simp only [text?] at h
    simp only [load]
    cases read : fs.readText file with
    | error e =>
      rw [read] at h
      cases h
    | ok content =>
      rw [read] at h
      obtain rfl := Option.some.inj h
      cases outcome : Json.ofText content <;> simp [outcome, Except.mapError, SourceError.anywhere]

/-- Bytes that are a text, alone, as that text, and from any file: one document or one error. -/
theorem load_of_decode? (fs : FileSystem) (h : bytes.decode? = some text) :
    (∃ v, (Source.bytes bytes).load fs = .ok v ∧ (Source.text text).load fs = .ok v ∧
      ∀ file, fs.readFile file = .ok bytes → (Source.path file).load fs = .ok v) ∨
    ∃ e, (Source.bytes bytes).load fs = .error (.malformed e) ∧
      (Source.text text).load fs = .error (.malformed e) ∧
      ∀ file, fs.readFile file = .ok bytes → (Source.path file).load fs = .error (.malformedFile file e) := by
  have alone : (Source.bytes bytes).load fs = (Json.ofText text).mapError .malformed :=
    congrArg (Except.mapError _) (ofBytes_of_decode? h)
  have filed (file : FilePath) (read : fs.readFile file = .ok bytes) :
      (Source.path file).load fs = (Json.ofText text).mapError (.malformedFile file) := by
    rw [load_path_of_readFile read, h, Option.elim_some]
  have plain : (Source.text text).load fs = (Json.ofText text).mapError .malformed := rfl
  cases outcome : Json.ofText text with
  | ok v =>
    rw [outcome] at alone filed plain
    exact Or.inl ⟨v, alone, plain, filed⟩
  | error e =>
    rw [outcome] at alone filed plain
    exact Or.inr ⟨e, alone, plain, filed⟩

/-- Bytes that are no text are no document, and a file with them cannot be read. -/
theorem load_of_undecoded (fs : FileSystem) (h : bytes.decode? = none) :
    (∃ e, (Source.bytes bytes).load fs = .error (.malformed e)) ∧
      ∀ file, fs.readFile file = .ok bytes → (Source.path file).load fs = .error (.unreadable file .invalidData) := by
  constructor
  · cases outcome : Json.ofBytes bytes with
    | ok v =>
      obtain ⟨text, decoded⟩ := Bytes.isText_iff.mp (Json.isText_of_ofBytes outcome)
      cases h.symm.trans decoded
    | error e => exact ⟨e, congrArg (Except.mapError _) outcome⟩
  · intro file read
    rw [load_path_of_readFile read, h, Option.elim_none]

/-- A string is the name of a file where there is that file, and else the document itself. -/
theorem ofString_eq (fs : FileSystem) (content : String) :
    (fs.HasFile (.ofText content) → ofString fs content = .path (.ofText content)) ∧
      (¬ fs.HasFile (.ofText content) → ofString fs content = .text content) := by
  rw [← FileSystem.isFile_iff]
  exact ⟨fun there => if_pos there, fun missing => if_neg missing⟩

/-- Sources with the same document are read to the same value, or fail alike. -/
theorem Same.load (h : Same fs S S') :
    (S.load fs).mapError SourceError.anywhere = (S'.load fs).mapError SourceError.anywhere := by
  rcases h with ⟨v, own, other⟩ | ⟨text, own, other⟩
  · rw [own, other]
  · rw [load_of_text? own, load_of_text? other]

end Source

/-! ## Checking one source by another -/

section

variable {fs : FileSystem} {S S' T T' : Source}

/-- The value is found valid where both are read, and the schema compiles and accepts it. -/
theorem validateSource_eq_ok : validateSource fs T S = .ok () ↔
    ∃ raw value s, S.load fs = .ok raw ∧ T.load fs = .ok value ∧ Schema.compile raw = .ok s ∧
      s.validate value = .ok () := by
  unfold validateSource validate
  cases first : S.load fs with
  | error e => simp
  | ok raw =>
    cases second : T.load fs with
    | error e => simp
    | ok value =>
      cases compiled : Schema.compile raw with
      | error ds => simp [compiled]
      | ok s => cases checked : s.validate value <;> simp [compiled, checked, Except.mapError]

/-- It is refused for the schema, if that is not read; else for the value, if that is not read; else for the
    defects of the schema; else for what the schema finds in the value. -/
theorem validateSource_eq_error {f : Failure} : validateSource fs T S = .error f ↔
    (∃ e, S.load fs = .error e ∧ f = .source e) ∨
      ∃ raw, S.load fs = .ok raw ∧
        ((∃ e, T.load fs = .error e ∧ f = .source e) ∨
          ∃ value, T.load fs = .ok value ∧
            ((∃ ds, Schema.compile raw = .error ds ∧ f = .schema ds) ∨
              ∃ s v, Schema.compile raw = .ok s ∧ s.validate value = .error v ∧ f = .violation v)) := by
  unfold validateSource validate
  cases first : S.load fs with
  | error e => simp [eq_comm]
  | ok raw =>
    cases second : T.load fs with
    | error e => simp [eq_comm]
    | ok value =>
      cases compiled : Schema.compile raw with
      | error ds => simp [compiled, eq_comm]
      | ok s => cases checked : s.validate value <;> simp [compiled, checked, Except.mapError, eq_comm]

/-- Only what the two are read to matters, and of an error not where it was found. -/
theorem validateSource_congr
    (schema : (S.load fs).mapError SourceError.anywhere = (S'.load fs).mapError SourceError.anywhere)
    (target : (T.load fs).mapError SourceError.anywhere = (T'.load fs).mapError SourceError.anywhere) :
    (validateSource fs T S).mapError Failure.anywhere = (validateSource fs T' S').mapError Failure.anywhere := by
  have spread (T S : Source) : (validateSource fs T S).mapError Failure.anywhere =
      (do
        let raw ← ((S.load fs).mapError SourceError.anywhere).mapError Failure.source
        let value ← ((T.load fs).mapError SourceError.anywhere).mapError Failure.source
        (validate raw value).mapError Failure.anywhere) := by
    unfold validateSource
    cases S.load fs with
    | error e => rfl
    | ok raw => cases T.load fs <;> rfl
  rw [spread, spread, schema, target]

end

/-- A document is the same whatever it is read from, and bytes that are no text are none; a string is read
    from the file it names, if it names one. One source is checked by another as the two are read: the schema
    first, then the value, then the schema is compiled and the value checked; and either can be replaced by a
    source with the same document. -/
theorem sources_account (fs : FileSystem) :
    (∀ (bytes : Bytes) (text : String), bytes.decode? = some text →
      (∃ v, (Source.bytes bytes).load fs = .ok v ∧ (Source.text text).load fs = .ok v ∧
        ∀ file, fs.readFile file = .ok bytes → (Source.path file).load fs = .ok v) ∨
      ∃ e, (Source.bytes bytes).load fs = .error (.malformed e) ∧
        (Source.text text).load fs = .error (.malformed e) ∧
        ∀ file, fs.readFile file = .ok bytes → (Source.path file).load fs = .error (.malformedFile file e)) ∧
    (∀ bytes : Bytes, bytes.decode? = none →
      (∃ e, (Source.bytes bytes).load fs = .error (.malformed e)) ∧
        ∀ file, fs.readFile file = .ok bytes →
          (Source.path file).load fs = .error (.unreadable file .invalidData)) ∧
    (∀ content, (fs.HasFile (.ofText content) → Source.ofString fs content = .path (.ofText content)) ∧
      (¬ fs.HasFile (.ofText content) → Source.ofString fs content = .text content)) ∧
    (∀ T S, validateSource fs T S = .ok () ↔
      ∃ raw value s, S.load fs = .ok raw ∧ T.load fs = .ok value ∧ Schema.compile raw = .ok s ∧
        s.validate value = .ok ()) ∧
    (∀ T S f, validateSource fs T S = .error f ↔
      (∃ e, S.load fs = .error e ∧ f = .source e) ∨
        ∃ raw, S.load fs = .ok raw ∧
          ((∃ e, T.load fs = .error e ∧ f = .source e) ∨
            ∃ value, T.load fs = .ok value ∧
              ((∃ ds, Schema.compile raw = .error ds ∧ f = .schema ds) ∨
                ∃ s v, Schema.compile raw = .ok s ∧ s.validate value = .error v ∧ f = .violation v))) ∧
    (∀ T S S', Source.Same fs S S' →
      (validateSource fs T S).mapError Failure.anywhere = (validateSource fs T S').mapError Failure.anywhere) ∧
    ∀ T T' S, Source.Same fs T T' →
      (validateSource fs T S).mapError Failure.anywhere = (validateSource fs T' S).mapError Failure.anywhere :=
  ⟨fun _ _ => Source.load_of_decode? fs, fun _ => Source.load_of_undecoded fs, Source.ofString_eq fs,
    fun _ _ => validateSource_eq_ok, fun _ _ _ => validateSource_eq_error,
    fun _ _ _ same => validateSource_congr same.load rfl, fun _ _ _ same => validateSource_congr rfl same.load⟩

def nullSchema : String := "\x7b\"type\":\"null\"\x7d"

/-- A file with a schema, and one that is no text. -/
def desk : FileSystem := ⟨[([[0x61]], .file (Bytes.ofText nullSchema)), ([[0x62]], .file [0xff])]⟩

/-- The schema is read from its file as from its bytes and its text, and accepts and refuses the same; the
    other file cannot be read. -/
theorem sources_account_desk :
    Bytes.decode? (Bytes.ofText nullSchema) = some nullSchema ∧ desk.readFile [0x61] = .ok (Bytes.ofText nullSchema) ∧
      Bytes.decode? [0xff] = none ∧ desk.readFile [0x62] = .ok [0xff] ∧
      Source.Same desk (.path [0x61]) (.text nullSchema) ∧
      (∃ v, (Source.bytes (Bytes.ofText nullSchema)).load desk = .ok v ∧ (Source.path [0x61]).load desk = .ok v) ∧
      (Source.path [0x62]).load desk = .error (.unreadable [0x62] .invalidData) ∧
      Source.ofString desk "a" = .path (.ofText "a") ∧ Source.ofString desk nullSchema = .text nullSchema ∧
      (validateSource desk (.text "null") (.path [0x61])).mapError Failure.anywhere =
        (validateSource desk (.text "null") (.text nullSchema)).mapError Failure.anywhere ∧
      (validateSource desk (.path [0x61]) (.text nullSchema)).mapError Failure.anywhere =
        (validateSource desk (.text nullSchema) (.text nullSchema)).mapError Failure.anywhere := by
  have decoded : Bytes.decode? (Bytes.ofText nullSchema) = some nullSchema := Bytes.decode?_eq_some.mpr rfl
  have undecoded : Bytes.decode? [0xff] = none := by decide +kernel
  have document : ((Source.text nullSchema).load desk).toOption.isSome = true := by decide +kernel
  have here : desk.readFile [0x61] = .ok (Bytes.ofText nullSchema) := rfl
  have there : desk.readFile [0x62] = .ok [0xff] := rfl
  have same : Source.Same desk (.path [0x61]) (.text nullSchema) := by
    refine Or.inr ⟨nullSchema, ?_, rfl⟩
    simp only [Source.text?, FileSystem.readText_of_readFile here, decoded]
    rfl
  have named : desk.HasFile (.ofText "a") := FileSystem.isFile_iff.mp (by decide +kernel)
  have unnamed : ¬ desk.HasFile (.ofText nullSchema) := fun h =>
    absurd (FileSystem.isFile_iff.mpr h) (by decide +kernel)
  obtain ⟨text, other, string, -, -, schema, target⟩ := sources_account desk
  refine ⟨decoded, here, undecoded, there, same, ?_, (other _ undecoded).2 _ there, (string "a").1 named,
    (string nullSchema).2 unnamed, schema _ _ _ same, target _ _ _ same⟩
  rcases text _ _ decoded with ⟨v, own, -, filed⟩ | ⟨e, -, wrong, -⟩
  · exact ⟨v, own, filed _ here⟩
  · rw [wrong] at document
    cases document

end JsonSchema
