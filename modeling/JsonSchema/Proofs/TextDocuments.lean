/-
  JsonSchema.Proofs.TextDocuments — bytes that are a document are a text.

  A document is read from bytes, of which only the content of strings is decoded. So bytes that are no text
  have to be found wherever they stand: outside of strings, since every token there is made of plain bytes;
  inside of one, although its content is not what stands in the document, since the escapes in it are
  replaced. What a text has around a whole character is text on both sides (`isText_cut`), so that putting an
  escape back in the place of its character keeps the rest as it was.

  Statements:
  - `isText_cut`: the two sides of a character in a text are texts.
  - `stringBody_isText`: a string is a text if its content is.
  - `scan_isText`: every token that is not broken is a text.
  - `isText_of_ofBytes`: bytes that are read as a document are a text.
-/

import JsonSchema.Json.Reader
import JsonSchema.Proofs.FileNames

namespace JsonSchema

/-! ## Bytes of characters -/

namespace Bytes

/-- The bytes of some characters. -/
def IsText (bytes : Bytes) : Prop := ∃ chars : List Char, chars.flatMap String.utf8EncodeChar = bytes

theorem isText_iff {bytes : Bytes} : bytes.IsText ↔ ∃ text, decode? bytes = some text := by
  constructor
  · rintro ⟨chars, rfl⟩
    refine ⟨String.ofList chars, ?_⟩
    rw [decode?_eq_some, ofText_eq_flatMap, String.toList_ofList]
  · rintro ⟨text, h⟩
    rw [decode?_eq_some, ofText_eq_flatMap] at h
    exact ⟨text.toList, h⟩

theorem isText_nil : IsText [] := ⟨[], rfl⟩

theorem isText_char (c : Char) : IsText (String.utf8EncodeChar c) := ⟨[c], List.flatMap_singleton _ _⟩

theorem IsText.append {a b : Bytes} (ha : a.IsText) (hb : b.IsText) : (a ++ b).IsText := by
  obtain ⟨front, rfl⟩ := ha
  obtain ⟨back, rfl⟩ := hb
  exact ⟨front ++ back, List.flatMap_append⟩

/-- Bytes that are characters of their own. -/
def Plain (bytes : Bytes) : Prop := ∀ b ∈ bytes, b < 0x80

instance (bytes : Bytes) : Decidable bytes.Plain := List.decidableBAll _ _

theorem plain_nil : Plain [] := List.forall_mem_nil _

theorem Plain.isText {bytes : Bytes} (h : bytes.Plain) : bytes.IsText := by
  induction bytes with
  | nil => exact isText_nil
  | cons b rest ih =>
    obtain ⟨first, others⟩ := List.forall_mem_cons.mp h
    have one : IsText [b] := encode_plain first ▸ isText_char _
    exact one.append (ih others)

theorem Plain.append {a b : Bytes} (ha : a.Plain) (hb : b.Plain) : (a ++ b).Plain := by
  intro x mem
  rcases List.mem_append.mp mem with mem | mem
  · exact ha x mem
  · exact hb x mem

/-- The bytes of a character show where they end. -/
theorem encode_apart {c d : Char} {rest rest' : Bytes}
    (h : String.utf8EncodeChar c ++ rest = String.utf8EncodeChar d ++ rest') : c = d ∧ rest = rest' := by
  have first (c : Char) (rest : Bytes) :
      (String.utf8EncodeChar c ++ rest).toByteArray.utf8DecodeChar? 0 = some c := by
    rw [List.toByteArray_append]
    exact ByteArray.utf8DecodeChar?_utf8EncodeChar_append
  have same : c = d := by
    have both := first c rest
    rw [h, first d rest'] at both
    exact (Option.some.inj both).symm
  subst same
  exact ⟨rfl, List.append_cancel_left h⟩

/-- Of the bytes of a character only the first one can start a character. -/
theorem starts_iff {c : Char} {i : Nat} {b : UInt8} (h : (String.utf8EncodeChar c)[i]? = some b) :
    b.IsUTF8FirstByte ↔ i = 0 := by
  obtain ⟨bound, rfl⟩ := List.getElem?_eq_some_iff.mp h
  exact UInt8.isUTF8FirstByte_getElem_utf8EncodeChar

/-- What stands within a character is the start of no other one. -/
theorem not_within {c d : Char} {before after rest rest' : Bytes} (some : before ≠ []) (more : after ≠ [])
    (split : String.utf8EncodeChar d = before ++ after) : String.utf8EncodeChar c ++ rest ≠ after ++ rest' := by
  intro same
  obtain ⟨b, later, rfl⟩ := List.exists_cons_of_ne_nil more
  obtain ⟨x, others, bytes⟩ := List.exists_cons_of_ne_nil (String.utf8EncodeChar_ne_nil (c := c))
  rw [bytes] at same
  obtain rfl : x = b := (List.cons.inj same).1
  have first : x.IsUTF8FirstByte := (starts_iff (c := c) (i := 0) (by rw [bytes]; rfl)).mpr rfl
  have place : (String.utf8EncodeChar d)[before.length]? = Option.some x := by
    rw [split, List.getElem?_append_right (Nat.le_refl _), Nat.sub_self]
    rfl
  exact some (List.eq_nil_of_length_eq_zero ((starts_iff place).mp first))

/-- The two sides of a character in a text are texts. -/
theorem isText_cut {c : Char} {a b : Bytes} (h : (a ++ (String.utf8EncodeChar c ++ b)).IsText) :
    a.IsText ∧ b.IsText := by
  obtain ⟨chars, h⟩ := h
  induction chars generalizing a with
  | nil =>
    obtain ⟨-, none⟩ := List.append_eq_nil_iff.mp h.symm
    exact absurd (List.append_eq_nil_iff.mp none).1 String.utf8EncodeChar_ne_nil
  | cons d more ih =>
    rw [List.flatMap_cons] at h
    by_cases empty : a = []
    · subst empty
      obtain ⟨-, rfl⟩ := encode_apart h
      exact ⟨isText_nil, more, rfl⟩
    · rcases List.append_eq_append_iff.mp h with ⟨t, rfl, rest⟩ | ⟨t, whole, rest⟩
      · obtain ⟨front, back⟩ := ih rest
        exact ⟨(isText_char d).append front, back⟩
      · by_cases ends : t = []
        · subst ends
          rw [List.append_nil] at whole
          have behind := ih (a := []) rest.symm
          exact ⟨whole ▸ isText_char d, behind.2⟩
        · exact absurd rest (not_within empty ends whole)

end Bytes

/-! ## Strings -/

namespace Json.Token

open Bytes

theorem plain_of_hexDigit? {b : UInt8} {n : Nat} (h : hexDigit? b = some n) : b < 0x80 := by
  by_cases plain : b < 0x80
  · exact plain
  · have out : ¬isDigit b = true ∧ ¬(0x61 ≤ b ∧ b ≤ 0x66) ∧ ¬(0x41 ≤ b ∧ b ≤ 0x46) := by
      simp only [isDigit, Bool.and_eq_true, decide_eq_true_eq, UInt8.le_iff_toNat_le, UInt8.lt_iff_toNat_lt] at plain ⊢
      have values : (0x80 : UInt8).toNat = 128 ∧ (0x39 : UInt8).toNat = 57 ∧ (0x66 : UInt8).toNat = 102 ∧
          (0x46 : UInt8).toNat = 70 := by decide
      omega
    rw [hexDigit?, if_neg out.1, if_neg out.2.1, if_neg out.2.2] at h
    cases h

theorem unit_plain {bytes : Bytes} {n : Nat} (h : unit bytes = .ok n) : Plain (bytes.take 4) := by
  unfold unit at h
  split at h
  · rename_i a b c d _
    split at h
    · rename_i ha hb hc hd
      intro x mem
      simp only [List.take_succ_cons, List.take_zero, List.mem_cons, List.not_mem_nil, or_false] at mem
      rcases mem with rfl | rfl | rfl | rfl
      · exact plain_of_hexDigit? ha
      · exact plain_of_hexDigit? hb
      · exact plain_of_hexDigit? hc
      · exact plain_of_hexDigit? hd
    · cases h
  · cases h

theorem unitEscape_plain {bytes : Bytes} {c : Char} {size : Nat} (h : unitEscape bytes = .ok (c, size)) :
    Plain (bytes.take size) := by
  unfold unitEscape at h
  cases first : unit bytes with
  | error e =>
    rw [first] at h
    cases h
  | ok n =>
    have plain := unit_plain first
    rw [first] at h
    simp only [bind, Except.bind] at h
    split at h
    · cases h
    split at h
    · cases h
      exact plain
    split at h
    · cases h
    rename_i backslash more behind
    split at h
    · cases h
    split at h
    · cases h
    rename_i u last
    split at h
    · cases h
    cases next : unit last with
    | error e =>
      rw [next] at h
      cases h
    | ok m =>
      rw [next] at h
      dsimp only at h
      split at h
      · obtain ⟨-, rfl⟩ := Prod.mk.inj (Except.ok.inj h)
        obtain rfl : backslash = 0x5c := Decidable.not_not.mp ‹_›
        obtain rfl : u = 0x75 := Decidable.not_not.mp ‹_›
        have whole : bytes.take (4 + 6) = bytes.take 4 ++ (0x5c :: 0x75 :: last.take 4) := by
          rw [List.take_add, behind]
          rfl
        show Plain (bytes.take (4 + 6))
        rw [whole]
        refine plain.append (List.forall_mem_cons.mpr ⟨by decide, List.forall_mem_cons.mpr ⟨by decide, ?_⟩⟩)
        exact unit_plain next
      · cases h

/-- An escape is made of plain bytes and stands for one character. -/
theorem escape_eq_ok {bytes meant : Bytes} {size : Nat} (h : escape bytes = .ok (meant, size)) :
    Plain (bytes.take size) ∧ ∃ c, meant = String.utf8EncodeChar c := by
  have single {b c : UInt8} (rest : Bytes) (hb : b < 0x80) (hc : c < 0x80) :
      Plain ((b :: rest).take 1) ∧ ∃ d, [c] = String.utf8EncodeChar d :=
    ⟨fun x mem => (List.mem_singleton.mp mem) ▸ hb, _, (encode_plain hc).symm⟩
  unfold escape at h
  cases bytes with
  | nil => cases h
  | cons b rest =>
    dsimp only at h
    split at h
    · rename_i itself
      have plain : b < 0x80 := by
        rcases itself with rfl | rfl | rfl <;> decide
      cases h
      exact single rest plain plain
    iterate 5
      split at h
      · subst b
        cases h
        exact single rest (by decide) (by decide)
    split at h
    · subst b
      cases unit : unitEscape rest with
      | error e =>
        rw [unit] at h
        cases h
      | ok read =>
        rw [unit] at h
        cases h
        refine ⟨List.forall_mem_cons.mpr ⟨by decide, unitEscape_plain unit⟩, read.1, ?_⟩
        rw [ofText_eq_flatMap]
        simp
    · cases h

/-- What is read of a string is a text behind what stands before it, if its content is. -/
theorem stringBody_isText {content bytes full : Bytes} {taken total : Nat}
    (h : stringBody content taken bytes = .ok (full, total)) :
    ∃ size meant, total = taken + size ∧ full = content.reverse ++ meant ∧
      ∀ before : Bytes, (before ++ meant).IsText → IsText (before ++ bytes.take size) := by
  match bytes with
  | [] =>
    rw [stringBody] at h
    cases h
  | b :: rest =>
    rw [stringBody] at h
    split at h
    · subst b
      cases h
      refine ⟨1, [], rfl, (List.append_nil _).symm, fun before text => ?_⟩
      rw [List.append_nil] at text
      have quote : Plain [0x22] := by decide
      exact text.append quote.isText
    split at h
    · subst b
      split at h
      · cases h
      · rename_i meant size escaped
        obtain ⟨plain, c, rfl⟩ := escape_eq_ok escaped
        have shorter : (rest.drop size).length < rest.length + 1 := by
          rw [List.length_drop]
          omega
        obtain ⟨more, later, rfl, rfl, behind⟩ := stringBody_isText h
        refine ⟨size + more + 1, String.utf8EncodeChar c ++ later, by omega, by simp, fun before text => ?_⟩
        obtain ⟨front, back⟩ := isText_cut text
        have backslash : Plain [0x5c] := by decide
        have whole := (front.append backslash.isText).append (plain.isText.append (behind [] back))
        rw [List.nil_append, ← List.take_add, List.append_assoc] at whole
        exact whole
    split at h
    · cases h
    · obtain ⟨more, later, rfl, rfl, behind⟩ := stringBody_isText h
      refine ⟨more + 1, b :: later, by omega, by simp, fun before text => ?_⟩
      rw [List.append_cons] at text
      rw [List.take_succ_cons, List.append_cons]
      exact behind _ text
termination_by bytes.length

/-! ## Numbers -/

theorem plain_of_isDigit {b : UInt8} (h : isDigit b = true) : b < 0x80 := by
  unfold isDigit at h
  simp only [Bool.and_eq_true, decide_eq_true_eq] at h
  exact UInt8.lt_of_le_of_lt h.2 (by decide)

theorem someDigits_plain {bytes digits : Bytes} (h : someDigits bytes = .ok digits) :
    Plain (bytes.take digits.length) := by
  have read : digits = bytes.takeWhile isDigit := by
    unfold someDigits at h
    split at h
    · cases h
    · exact (Except.ok.inj h).symm
  subst read
  rw [← List.prefix_iff_eq_take.mp (List.takeWhile_prefix isDigit)]
  exact fun b mem => plain_of_isDigit (List.mem_takeWhile_imp mem)

theorem wholeDigits_plain {bytes digits : Bytes} (h : wholeDigits bytes = .ok digits) :
    Plain (bytes.take digits.length) := by
  unfold wholeDigits at h
  cases read : someDigits bytes with
  | error e =>
    rw [read] at h
    cases h
  | ok found =>
    rw [read] at h
    simp only [bind, Except.bind] at h
    split at h
    · cases h
    · obtain rfl := Except.ok.inj h
      exact someDigits_plain read

theorem fractionDigits_plain {bytes : Bytes} {fraction : Option Bytes} (h : fractionDigits bytes = .ok fraction) :
    Plain (bytes.take ((fraction.map (·.length + 1)).getD 0)) := by
  unfold fractionDigits at h
  split at h
  · rename_i b rest
    split at h
    · subst b
      cases read : someDigits rest with
      | error e =>
        rw [read] at h
        cases h
      | ok digits =>
        rw [read] at h
        cases h
        exact List.forall_mem_cons.mpr ⟨by decide, someDigits_plain read⟩
    · cases h
      exact plain_nil
  · cases h
    exact plain_nil

/-- The digits of an exponent behind its letter and its sign. -/
theorem power_plain {b : UInt8} {rest : Bytes} {value : Bytes → Int} {power : Option (Int × Nat)} (size : Nat)
    (letter : b < 0x80) (sign : Plain (rest.take size))
    (h : (someDigits (rest.drop size)).map (fun digits => some (value digits, digits.length + size + 1)) = .ok power) :
    Plain ((b :: rest).take ((power.map (·.2)).getD 0)) := by
  cases read : someDigits (rest.drop size) with
  | error e =>
    rw [read] at h
    cases h
  | ok digits =>
    rw [read] at h
    cases h
    have behind := sign.append (someDigits_plain read)
    rw [← List.take_add, Nat.add_comm] at behind
    exact List.forall_mem_cons.mpr ⟨letter, behind⟩

theorem exponent_plain {bytes : Bytes} {power : Option (Int × Nat)} (h : exponent bytes = .ok power) :
    Plain (bytes.take ((power.map (·.2)).getD 0)) := by
  unfold exponent at h
  split at h
  · cases h
    exact plain_nil
  · rename_i b rest
    split at h
    · cases h
      exact plain_nil
    · rename_i letter
      have plain : b < 0x80 := by
        by_cases small : b = 0x65
        · exact small ▸ by decide
        · by_cases large : b = 0x45
          · exact large ▸ by decide
          · exact absurd ⟨small, large⟩ letter
      have minusSign : Plain [0x2d] := by decide
      have plusSign : Plain [0x2b] := by decide
      cases rest with
      | nil => exact power_plain 0 plain plain_nil h
      | cons s more =>
        by_cases minus : s = 0x2d
        · subst s
          exact power_plain 1 plain minusSign h
        · by_cases plus : s = 0x2b
          · subst s
            exact power_plain 1 plain plusSign h
          · simp only [if_neg minus, if_neg plus] at h
            exact power_plain 0 plain plain_nil h

theorem numberAt_plain {negative : Bool} {bytes : Bytes} {n : Number} {size : Nat}
    (h : numberAt negative bytes = .ok (n, size)) : Plain (bytes.take size) := by
  unfold numberAt at h
  cases whole : wholeDigits bytes with
  | error e =>
    rw [whole] at h
    cases h
  | ok digits =>
    rw [whole] at h
    simp only [bind, Except.bind] at h
    cases fractional : fractionDigits (bytes.drop digits.length) with
    | error e =>
      rw [fractional] at h
      cases h
    | ok fraction =>
      rw [fractional] at h
      dsimp only at h
      split at h
      · cases h
      · rename_i power powered
        split at h
        · obtain ⟨-, rfl⟩ := Prod.mk.inj (Except.ok.inj h)
          have front := (wholeDigits_plain whole).append (fractionDigits_plain fractional)
          rw [← List.take_add] at front
          rw [List.take_add]
          exact front.append (exponent_plain powered)
        · cases h

/-! ## All tokens -/

/-- A token that is not broken is a text, up to its end. -/
def Whole (rest : Bytes) (read : Token × Nat) : Prop := read.1.isBroken = false → IsText (rest.take read.2)

theorem whole_scanString (rest : Bytes) : Whole rest (scanString rest) := by
  intro whole
  unfold scanString at whole ⊢
  split at whole
  · cases whole
  · rename_i content taken body
    obtain ⟨size, meant, rfl, rfl, behind⟩ := stringBody_isText body
    split at whole
    · rename_i text decoded
      have content := behind [] (isText_iff.mpr ⟨text, decoded⟩)
      rwa [List.nil_append, ← Nat.zero_add size] at content
    · cases whole

/-- A number some bytes of which are taken already. -/
theorem whole_scanNumber (negative : Bool) (before rest : Bytes) :
    Whole rest (scanNumber negative (before ++ rest) before.length) := by
  intro whole
  unfold scanNumber at whole ⊢
  split at whole
  · rename_i n size read
    have plain := numberAt_plain read
    rw [List.take_append] at plain
    exact Plain.isText fun b mem => plain b (List.mem_append_right _ mem)
  · cases whole

theorem whole_scanWord {letters : Bytes} (plain : letters.Plain) (value : Json) (rest : Bytes) :
    Whole rest (scanWord letters value rest) := by
  intro whole
  unfold scanWord at whole ⊢
  split at whole
  · rename_i starts
    rw [if_pos starts, ← List.prefix_iff_eq_take.mp (List.isPrefixOf_iff_prefix.mp starts)]
    exact plain.isText
  · split at whole
    · cases whole
    · cases whole

theorem whole_scan (b : UInt8) (rest : Bytes) : Whole rest (scan b rest) := by
  have ite {p : Prop} [Decidable p] {x y : Token × Nat} (hx : Whole rest x) (hy : Whole rest y) :
      Whole rest (if p then x else y) := by
    by_cases h : p
    · rwa [if_pos h]
    · rwa [if_neg h]
  have mark (token : Token) : Whole rest (token, 0) := fun _ => isText_nil
  -- punctuation first, then texts, numbers and the three words
  unfold scan
  iterate 6 refine ite (mark _) ?_
  refine ite (whole_scanString rest) ?_
  refine ite (whole_scanNumber true [] rest) ?_
  refine ite (whole_scanNumber false [b] rest) ?_
  iterate 3 refine ite (whole_scanWord (by decide) _ rest) ?_
  exact mark _

/-- Every token starts with a plain byte. -/
theorem plain_of_scan {b : UInt8} {rest : Bytes} (whole : (scan b rest).1.isBroken = false) : b < 0x80 := by
  by_cases plain : b < 0x80
  · exact plain
  · have other {c : UInt8} (hc : c < 0x80) : b ≠ c := fun same => plain (same ▸ hc)
    have digit : ¬isDigit b = true := fun digit => plain (plain_of_isDigit digit)
    unfold scan at whole
    iterate 8 rw [if_neg (other (by decide))] at whole
    rw [if_neg digit] at whole
    iterate 3 rw [if_neg (other (by decide))] at whole
    cases whole

/-- Every token that is not broken is a text. -/
theorem scan_isText {b : UInt8} {rest : Bytes} (whole : (scan b rest).1.isBroken = false) :
    IsText (b :: rest.take (scan b rest).2) := by
  have first : Plain [b] := List.forall_mem_cons.mpr ⟨plain_of_scan whole, plain_nil⟩
  exact first.isText.append (whole_scan b rest whole)

end Token

theorem isText_of_tokens {bytes : Bytes} (whole : ∀ t ∈ tokens bytes, t.isBroken = false) : bytes.IsText := by
  match bytes with
  | [] => exact Bytes.isText_nil
  | b :: rest =>
    rw [tokens] at whole
    split at whole
    · rename_i blank
      have plain : Bytes.Plain [b] := by
        simp only [Token.isBlank, Bool.or_eq_true, beq_iff_eq] at blank
        rcases blank with ((rfl | rfl) | rfl) | rfl
        all_goals decide
      exact plain.isText.append (isText_of_tokens whole)
    · dsimp only at whole
      split at whole
      · rename_i broken
        rw [whole _ List.mem_cons_self] at broken
        cases broken
      · obtain ⟨first, others⟩ := List.forall_mem_cons.mp whole
        have shorter : (rest.drop (Token.scan b rest).2).length < rest.length + 1 := by
          rw [List.length_drop]
          omega
        have text := (Token.scan_isText first).append (isText_of_tokens others)
        rwa [List.cons_append, List.take_append_drop] at text
termination_by bytes.length

/-! ## Documents -/

namespace Reader

/-- The machine takes no broken token. -/
theorem step_broken {s s' : State} {t : Token} (h : step s t = .ok s') : t.isBroken = false := by
  cases t with
  | broken inString error =>
    obtain ⟨frames, phase⟩ := s
    cases phase <;> cases inString <;> cases h
  | _ => rfl

theorem run_broken {s s' : State} {input : List Token} (h : run s input = .ok s') :
    ∀ t ∈ input, t.isBroken = false := by
  induction input generalizing s with
  | nil => exact fun t mem => nomatch mem
  | cons t rest ih =>
    rw [run] at h
    split at h
    · cases h
    · rename_i next stepped
      exact List.forall_mem_cons.mpr ⟨step_broken stepped, ih h⟩

end Reader

/-- Bytes that are read as a document are a text. -/
theorem isText_of_ofBytes {bytes : Bytes} {v : Json} (h : ofBytes bytes = .ok v) : bytes.IsText := by
  unfold ofBytes at h
  split at h
  · cases h
  · rename_i s ran
    exact isText_of_tokens (Reader.run_broken ran)

end Json

end JsonSchema
