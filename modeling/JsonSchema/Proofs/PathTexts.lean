/-
  JsonSchema.Proofs.PathTexts — a path is known by its text.

  The text of a path is made of pieces, one for each segment, and each piece shows where it ends: a plain key
  before the first character that no plain key has, a quoted key at the first quote without a backslash, an
  index at its bracket. So nothing that starts with the piece of one segment starts with the piece of
  another, and two paths with one text have the same segments, one after the other.

  Statements:
  - `Escape.apart`: the escapes of two characters differ before either ends.
  - `escaped_apart`: a quoted text ends at its closing quote.
  - `Piece.apart`: a segment by the text that starts with it.
  - `render_unambiguous`: a path by its text, in and out of a message.
-/

import JsonSchema.Path
import JsonSchema.Proofs.Runs

namespace JsonSchema

namespace Text

/-! ## Digits -/

theorem digitChar_inj : ∀ m < 16, ∀ n < 16, Nat.digitChar m = Nat.digitChar n → m = n := by decide

/-- The last digit, and those of the quotient before it if there is one. -/
theorem toDigits_split (n : Nat) :
    Nat.toDigits 16 n = (if n < 16 then [] else Nat.toDigits 16 (n / 16)) ++ [Nat.digitChar (n % 16)] := by
  by_cases small : n < 16
  · rw [if_pos small, Nat.toDigits_of_lt_base small, Nat.mod_eq_of_lt small, List.nil_append]
  · rw [if_neg small, Nat.toDigits_of_base_le (by decide) (by omega)]

/-- A number by its hexadecimal digits. -/
theorem toDigits_inj {m n : Nat} (h : Nat.toDigits 16 m = Nat.toDigits 16 n) : m = n := by
  rw [toDigits_split m, toDigits_split n] at h
  obtain ⟨front, last⟩ := List.append_inj' h rfl
  have remainders : m % 16 = n % 16 :=
    digitChar_inj _ (Nat.mod_lt m (by decide)) _ (Nat.mod_lt n (by decide)) (List.cons.inj last).1
  by_cases hm : m < 16 <;> by_cases hn : n < 16
  · omega
  · rw [if_pos hm, if_neg hn] at front
    exact absurd front.symm Nat.toDigits_ne_nil
  · rw [if_neg hm, if_pos hn] at front
    exact absurd front Nat.toDigits_ne_nil
  · rw [if_neg hm, if_neg hn] at front
    have quotients : m / 16 = n / 16 := toDigits_inj front
    omega
termination_by m

theorem ne_brace_of_mem_toDigits (n : Nat) : ∀ c ∈ Nat.toDigits 16 n, (c != '\x7d') = true := by
  intro c mem
  rw [toDigits_split, List.mem_append, List.mem_singleton] at mem
  rcases mem with mem | rfl
  · by_cases small : n < 16
    · rw [if_pos small] at mem
      cases mem
    · rw [if_neg small] at mem
      exact ne_brace_of_mem_toDigits (n / 16) c mem
  · exact bne_iff_ne.mpr (Nat.digitChar_ne _ rfl)
termination_by n

/-! ## Quoted texts -/

/-- The characters that are escaped by a letter, with the letter. -/
def letters : List (Char × Char) :=
  [('\x00', '0'), ('\t', 't'), ('\r', 'r'), ('\n', 'n'), ('"', '"'), ('\\', '\\')]

/-- How a character stands between quotes. -/
inductive Escape : Char → List Char → Prop
  | plain {c : Char} (quote : c ≠ '"') (backslash : c ≠ '\\') : Escape c [c]
  | letter {c l : Char} (h : (c, l) ∈ letters) : Escape c ['\\', l]
  | code (c : Char) : Escape c ('\\' :: 'u' :: '\x7b' :: (Nat.toDigits 16 c.toNat ++ ['\x7d']))

theorem escape_escapeChar (c : Char) : Escape c (escapeChar c).toList := by
  have code : (codeEscape c).toList = '\\' :: 'u' :: '\x7b' :: (Nat.toDigits 16 c.toNat ++ ['\x7d']) := by
    simp [codeEscape, hex]
  unfold escapeChar
  iterate 6
    split
    · subst c
      exact .letter (by decide)
  split
  · rw [code]
    exact .code c
  split
  · simpa using Escape.plain ‹_› ‹_›
  · rw [code]
    exact .code c

/-- The escapes of two characters differ before either ends. -/
theorem Escape.apart {c d : Char} {t u rest rest' : List Char} (hc : Escape c t) (hd : Escape d u)
    (h : t ++ rest = u ++ rest') : c = d ∧ rest = rest' := by
  have letters_inj : ∀ p ∈ letters, ∀ q ∈ letters, p.2 = q.2 → p.1 = q.1 := by decide
  have letters_ne : ∀ p ∈ letters, p.2 ≠ 'u' := by decide
  cases hc with
  | plain quote backslash =>
    cases hd with
    | plain => exact List.cons.inj h
    | letter => exact absurd (List.cons.inj h).1 backslash
    | code => exact absurd (List.cons.inj h).1 backslash
  | @letter l mem =>
    cases hd with
    | plain _ backslash => exact absurd (List.cons.inj h).1.symm backslash
    | @letter l' mem' =>
      obtain ⟨same, rests⟩ := List.cons.inj (List.cons.inj h).2
      exact ⟨letters_inj _ mem _ mem' same, rests⟩
    | code => exact absurd (List.cons.inj (List.cons.inj h).2).1 (letters_ne _ mem)
  | code =>
    cases hd with
    | plain _ backslash => exact absurd (List.cons.inj h).1.symm backslash
    | letter mem => exact absurd (List.cons.inj (List.cons.inj h).2).1.symm (letters_ne _ mem)
    | code =>
      simp only [List.cons_append, List.append_assoc, List.cons.injEq, true_and, List.nil_append] at h
      obtain ⟨digits, rests⟩ := run_apart (ne_brace_of_mem_toDigits _) (ne_brace_of_mem_toDigits _)
        (stops_cons rfl _) (stops_cons rfl _) h
      exact ⟨Char.toNat_inj.mp (toDigits_inj digits), (List.cons.inj rests).2⟩

/-- No escape starts with a quote. -/
theorem Escape.ne_quote {c : Char} {t : List Char} (h : Escape c t) (rest rest' : List Char) :
    t ++ rest ≠ '"' :: rest' := by
  intro same
  cases h with
  | plain quote _ => exact quote (List.cons.inj same).1
  | letter _ => exact absurd (List.cons.inj same).1 (by decide)
  | code => exact absurd (List.cons.inj same).1 (by decide)

def escaped (text : List Char) : List Char := text.flatMap fun c => (escapeChar c).toList

theorem escaped_cons (c : Char) (more rest : List Char) :
    escaped (c :: more) ++ rest = (escapeChar c).toList ++ (escaped more ++ rest) := by
  rw [escaped, List.flatMap_cons, List.append_assoc]
  rfl

theorem toList_quoted (text : String) : (quoted text).toList = '"' :: (escaped text.toList ++ ['"']) := by
  simp [quoted, escaped, List.flatMap_map]

/-- A quoted text ends at its closing quote. -/
theorem escaped_apart {a b rest rest' : List Char} (h : escaped a ++ '"' :: rest = escaped b ++ '"' :: rest') :
    a = b ∧ rest = rest' := by
  induction a generalizing b with
  | nil =>
    cases b with
    | nil => exact ⟨rfl, (List.cons.inj h).2⟩
    | cons d others =>
      rw [escaped_cons] at h
      exact absurd h.symm ((escape_escapeChar d).ne_quote _ _)
  | cons c more ih =>
    cases b with
    | nil =>
      rw [escaped_cons] at h
      exact absurd h ((escape_escapeChar c).ne_quote _ _)
    | cons d others =>
      rw [escaped_cons, escaped_cons] at h
      obtain ⟨rfl, later⟩ := (escape_escapeChar c).apart (escape_escapeChar d) h
      obtain ⟨rfl, rests⟩ := ih later
      exact ⟨rfl, rests⟩

end Text

/-! ## Segments -/

namespace Path

open Text

def point (first : Bool) : List Char := if first then [] else ['.']

/-- The text of a segment, first in its path or not. -/
inductive Piece (first : Bool) : Segment → List Char → Prop
  | plain {name : String} (some : name.toList ≠ []) (all : ∀ c ∈ name.toList, isPlainChar c = true) :
      Piece first (.key name) (point first ++ name.toList)
  | quoted (name : String) : Piece first (.key name) ('[' :: '"' :: (escaped name.toList ++ ['"', ']']))
  | index (i : Nat) : Piece first (.index i) ('[' :: (Nat.toDigits 10 i ++ [']']))

theorem piece_renderSegment (first : Bool) (s : Segment) : Piece first s (renderSegment first s).toList := by
  cases s with
  | key name =>
    by_cases plain : isPlain name = true
    · have written : (renderSegment first (.key name)).toList = point first ++ name.toList := by
        cases first <;> simp [renderSegment, plain, point]
      rw [written]
      obtain ⟨some, all⟩ := Bool.and_eq_true_iff.mp plain
      exact .plain (by simpa using some) (List.all_eq_true.mp all)
    · have written : (renderSegment first (.key name)).toList = '[' :: '"' :: (escaped name.toList ++ ['"', ']']) := by
        simp [renderSegment, plain, toList_quoted]
      rw [written]
      exact .quoted name
  | index i =>
    have written : (renderSegment first (.index i)).toList = '[' :: (Nat.toDigits 10 i ++ [']']) := by
      simp [renderSegment]
    rw [written]
    exact .index i

/-- What a piece starts with: the point or the first character of a plain key, or a bracket. -/
theorem Piece.exists_head {first : Bool} {s : Segment} {t : List Char} (h : Piece first s t) :
    ∃ c more, t = c :: more ∧ (c = '[' ∨ if first then isPlainChar c = true else c = '.') := by
  cases h with
  | @plain name some all =>
    cases first with
    | false => exact ⟨'.', name.toList, rfl, Or.inr rfl⟩
    | true =>
      obtain ⟨c, more, chars⟩ := List.exists_cons_of_ne_nil some
      exact ⟨c, more, chars, Or.inr (all c (by simp [chars]))⟩
  | quoted name => exact ⟨_, _, rfl, Or.inl rfl⟩
  | index i => exact ⟨_, _, rfl, Or.inl rfl⟩

/-- A plain key does not start as one in brackets. -/
theorem plain_ne_bracket {first : Bool} {name : List Char} (some : name ≠ []) (all : ∀ c ∈ name, isPlainChar c = true)
    (rest rest' : List Char) : point first ++ name ++ rest ≠ '[' :: rest' := by
  intro same
  cases first with
  | false => exact absurd (List.cons.inj same).1 (by decide)
  | true =>
    obtain ⟨c, more, rfl⟩ := List.exists_cons_of_ne_nil some
    have plain := all c List.mem_cons_self
    rw [(List.cons.inj same).1] at plain
    exact absurd plain (by decide)

theorem isDigit_of_mem (i : Nat) : ∀ c ∈ Nat.toDigits 10 i, c.isDigit = true := fun _ mem =>
  Nat.isDigit_of_mem_toDigits (by decide) (by decide) mem

/-- An index does not start as a quoted key. -/
theorem digits_ne_quote (i : Nat) (rest rest' : List Char) : Nat.toDigits 10 i ++ rest ≠ '"' :: rest' := by
  intro same
  obtain ⟨c, more, digits⟩ := List.exists_cons_of_ne_nil (Nat.toDigits_ne_nil (n := i) (b := 10))
  have digit : c.isDigit = true := isDigit_of_mem i c (digits ▸ List.mem_cons_self)
  rw [digits] at same
  rw [(List.cons.inj same).1] at digit
  exact absurd digit (by decide)

/-- A segment by the text that starts with it, where no plain key goes on behind it. -/
theorem Piece.apart {first : Bool} {s s' : Segment} {t t' rest rest' : List Char} (hs : Piece first s t)
    (hs' : Piece first s' t') (stops : Stops isPlainChar rest) (stops' : Stops isPlainChar rest')
    (h : t ++ rest = t' ++ rest') : s = s' ∧ rest = rest' := by
  cases hs with
  | @plain name some all =>
    cases hs' with
    | @plain name' _ all' =>
      rw [List.append_assoc, List.append_assoc] at h
      obtain ⟨names, rests⟩ := run_apart all all' stops stops' (List.append_cancel_left h)
      exact ⟨congrArg Segment.key (String.toList_inj.mp names), rests⟩
    | quoted => exact absurd h (plain_ne_bracket some all _ _)
    | index => exact absurd h (plain_ne_bracket some all _ _)
  | quoted name =>
    cases hs' with
    | plain some all => exact absurd h.symm (plain_ne_bracket some all _ _)
    | quoted name' =>
      simp only [List.cons_append, List.append_assoc, List.cons.injEq, true_and, List.nil_append] at h
      obtain ⟨names, rests⟩ := escaped_apart h
      exact ⟨congrArg Segment.key (String.toList_inj.mp names), (List.cons.inj rests).2⟩
    | index i =>
      simp only [List.cons_append, List.append_assoc, List.cons.injEq, true_and] at h
      exact absurd h.symm (digits_ne_quote i _ _)
  | index i =>
    cases hs' with
    | plain some all => exact absurd h.symm (plain_ne_bracket some all _ _)
    | quoted name =>
      simp only [List.cons_append, List.append_assoc, List.cons.injEq, true_and] at h
      exact absurd h (digits_ne_quote i _ _)
    | index j =>
      simp only [List.cons_append, List.append_assoc, List.cons.injEq, true_and, List.nil_append] at h
      obtain ⟨digits, rests⟩ := run_apart (isDigit_of_mem i) (isDigit_of_mem j) (stops_cons rfl _)
        (stops_cons rfl _) h
      have same : i = j := by
        rw [← Nat.ofDigitChars_ten_toDigits (n := i), digits, Nat.ofDigitChars_ten_toDigits]
      exact ⟨congrArg Segment.index same, (List.cons.inj rests).2⟩

/-! ## Paths -/

/-- The text of the segments, the first of which is the first of the whole path or not. -/
def text (first : Bool) : Path → List Char
  | [] => []
  | s :: rest => (renderSegment first s).toList ++ text false rest

theorem toList_render (p : Path) : p.render.toList = text true p := by
  have later (q : Path) : (String.join (q.map (renderSegment false))).toList = text false q := by
    induction q with
    | nil => rfl
    | cons s rest ih => rw [List.map_cons, String.join_cons, String.toList_append, ih, text]
  cases p with
  | nil => rfl
  | cons s rest => rw [render, String.toList_append, later, text]

/-- A path that is not at its end starts with a point, a plain character or a bracket. -/
theorem text_cons (first : Bool) (s : Segment) (rest : Path) :
    ∃ c more, text first (s :: rest) = c :: more ∧ (c = '[' ∨ if first then isPlainChar c = true else c = '.') := by
  obtain ⟨c, more, chars, start⟩ := (piece_renderSegment first s).exists_head
  refine ⟨c, more ++ text false rest, ?_, start⟩
  rw [text, chars, List.cons_append]

/-- No plain key goes on behind a segment. -/
theorem stops_text (p : Path) : Stops isPlainChar (text false p) := by
  cases p with
  | nil => exact fun c mem => nomatch mem
  | cons s rest =>
    obtain ⟨c, more, chars, start⟩ := text_cons false s rest
    have other : isPlainChar c = false := by
      rcases start with rfl | rfl
      · decide
      · decide
    rw [chars]
    exact stops_cons other more

theorem text_eq_nil {first : Bool} {p : Path} (h : text first p = []) : p = [] := by
  cases p with
  | nil => rfl
  | cons s rest =>
    obtain ⟨c, more, chars, -⟩ := text_cons first s rest
    rw [chars] at h
    cases h

/-- Two paths with one text have the same segments, one after the other. -/
theorem text_inj {first : Bool} {p q : Path} (h : text first p = text first q) : p = q := by
  induction p generalizing first q with
  | nil => exact (text_eq_nil h.symm).symm
  | cons s rest ih =>
    cases q with
    | nil => exact text_eq_nil h
    | cons s' rest' =>
      obtain ⟨rfl, later⟩ :=
        (piece_renderSegment first s).apart (piece_renderSegment first s') (stops_text rest) (stops_text rest') h
      rw [ih later]

theorem render_inj {p q : Path} (h : p.render = q.render) : p = q := by
  have texts : text true p = text true q := by rw [← toList_render, ← toList_render, h]
  exact text_inj texts

/-- No path is shown as the root is in a message. -/
theorem render_ne_root (p : Path) : p.render ≠ "(root)" := by
  intro same
  have chars : text true p = "(root)".toList := by rw [← toList_render, same]
  cases p with
  | nil => cases chars
  | cons s rest =>
    obtain ⟨c, more, start, first⟩ := text_cons true s rest
    rw [start] at chars
    rw [(List.cons.inj chars).1] at first
    exact absurd first (by decide)

theorem label_inj {p q : Path} (h : p.label = q.label) : p = q := by
  cases p with
  | nil =>
    cases q with
    | nil => rfl
    | cons s rest => exact absurd h.symm (render_ne_root (s :: rest))
  | cons s rest =>
    cases q with
    | nil => exact absurd h (render_ne_root (s :: rest))
    | cons s' rest' => exact render_inj h

/-- A path is known by its text, in and out of a message. Only the root has no text, and no path has the text
    that stands for the root in a message. -/
theorem render_unambiguous (p q : Path) :
    (p.render = q.render ↔ p = q) ∧ (p.render = "" ↔ p = []) ∧ p.render ≠ "(root)" ∧ (p.label = q.label ↔ p = q) := by
  refine ⟨⟨render_inj, fun same => same ▸ rfl⟩, ?_, render_ne_root p, ⟨label_inj, fun same => same ▸ rfl⟩⟩
  constructor
  · exact fun empty => render_inj (q := []) empty
  · rintro rfl
    rfl

end Path

end JsonSchema
