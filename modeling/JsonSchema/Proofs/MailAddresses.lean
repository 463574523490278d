/-
  JsonSchema.Proofs.MailAddresses — the grammar of mail addresses.

  An address is a local part and a domain around an at sign (`Address`). It may stand by itself or in angle
  brackets behind a name. Which of the two is read is decided before anything else, by the last character
  and the last opening angle bracket. No address ends with a closing angle bracket, so that one that stands
  by itself is never cut. A quoted local part and a domain in brackets may have opening angle brackets of
  their own; an address with one is found by itself but not behind a name, since it is cut in the middle
  (`isEmail_cut_in_quotes`).

  A program that takes a text by its bytes cuts it at byte offsets, which have to lie within it and between
  two characters. `isEmailByOffset?` decides the same that way, and cannot go wrong.

  Statements:
  - `isDotAtom_iff`, `afterQuoted?_eq_some`, `isDomain_iff`: the parts of an address.
  - `isAddress_iff`: addresses by themselves.
  - `isEmailByOffset?_eq`: every cut is at the bounds of characters.
  - `isEmail_iff`: addresses by themselves or behind a name.
-/

import JsonSchema.Format.Email
import JsonSchema.Proofs.Runs

namespace JsonSchema.Format.Email

/-! ## Grammar -/

def IsAtom (text : List Char) : Prop := text ≠ [] ∧ ∀ c ∈ text, isAtomChar c

inductive DotAtom : List Char → Prop
  | atom {text : List Char} (h : IsAtom text) : DotAtom text
  | join {first rest : List Char} (h : IsAtom first) (others : DotAtom rest) : DotAtom (first ++ '.' :: rest)

/-- What may stand between quotes: no line ends, and a quote or a backslash only behind a backslash, behind
    which anything may stand but a line feed. -/
inductive QuotedText : List Char → Prop
  | nil : QuotedText []
  | plain {c : Char} {rest : List Char} (allowed : c ≠ '"' ∧ c ≠ '\\' ∧ c ≠ '\r' ∧ c ≠ '\n')
      (others : QuotedText rest) : QuotedText (c :: rest)
  | escaped {c : Char} {rest : List Char} (allowed : c ≠ '\n') (others : QuotedText rest) :
      QuotedText ('\\' :: c :: rest)

inductive LocalPart : List Char → Prop
  | atoms {text : List Char} (h : DotAtom text) : LocalPart text
  | quoted {inner : List Char} (h : QuotedText inner) : LocalPart ('"' :: (inner ++ ['"']))

inductive Domain : List Char → Prop
  | atoms {text : List Char} (h : DotAtom text) : Domain text
  | literal {inner : List Char} (h : ∀ c ∈ inner, isLiteralChar c) : Domain ('[' :: (inner ++ [']']))

inductive Address : List Char → Prop
  | intro {l d : List Char} (localPart : LocalPart l) (domain : Domain d) : Address (l ++ '@' :: d)

/-! ## Atoms joined by points -/

/-- After an atom one is inside an atom. -/
theorem isDotAtomFrom_append {first : List Char} (h : IsAtom first) (inAtom : Bool) (rest : List Char) :
    isDotAtomFrom inAtom (first ++ rest) = isDotAtomFrom true rest := by
  obtain ⟨some, atom⟩ := h
  induction first generalizing inAtom with
  | nil => exact absurd rfl some
  | cons c more ih =>
    obtain ⟨here, atom⟩ := List.forall_mem_cons.mp atom
    rw [List.cons_append, isDotAtomFrom, if_pos here]
    by_cases last : more = []
    · rw [last]
      rfl
    · exact ih true last atom

/-- What is read inside an atom goes on with it. -/
theorem dotAtom_of_isDotAtomFrom (text : List Char) :
    (∀ before, IsAtom before → isDotAtomFrom true text = true → DotAtom (before ++ text)) ∧
      (isDotAtomFrom false text = true → DotAtom text) := by
  induction text with
  | nil =>
    refine ⟨fun before h _ => ?_, fun h => ?_⟩
    · rw [List.append_nil]
      exact .atom h
    · cases h
  | cons c rest ih =>
    obtain ⟨inside, outside⟩ := ih
    by_cases atom : isAtomChar c = true
    · refine ⟨fun before h read => ?_, fun read => ?_⟩
      · rw [isDotAtomFrom, if_pos atom] at read
        rw [List.append_cons]
        refine inside (before ++ [c]) ⟨by simp, fun d mem => ?_⟩ read
        rcases List.mem_append.mp mem with mem | mem
        · exact h.2 d mem
        · rwa [List.mem_singleton.mp mem]
      · rw [isDotAtomFrom, if_pos atom] at read
        refine inside [c] ⟨by simp, fun d mem => ?_⟩ read
        rwa [List.mem_singleton.mp mem]
    · refine ⟨fun before h read => ?_, fun read => ?_⟩
      · rw [isDotAtomFrom, if_neg atom, Bool.and_true, Bool.and_eq_true, beq_iff_eq] at read
        obtain ⟨rfl, read⟩ := read
        exact .join h (outside read)
      · rw [isDotAtomFrom, if_neg atom, Bool.and_false, Bool.false_and] at read
        cases read

theorem isDotAtom_iff (text : List Char) : isDotAtom text = true ↔ DotAtom text := by
  constructor
  · exact (dotAtom_of_isDotAtomFrom text).2
  · intro h
    unfold isDotAtom
    induction h with
    | @atom text h =>
      have all := isDotAtomFrom_append h false []
      rw [List.append_nil] at all
      exact all
    | @join first rest h others ih =>
      have point : ¬isAtomChar '.' = true := by decide
      rw [isDotAtomFrom_append h, isDotAtomFrom, if_neg point, ih]
      rfl

theorem DotAtom.ne_nil {text : List Char} (h : DotAtom text) : text ≠ [] := by
  cases h with
  | atom h => exact h.1
  | join h _ => simp

/-- Only atoms and points. -/
theorem DotAtom.chars {text : List Char} (h : DotAtom text) : ∀ c ∈ text, isAtomChar c ∨ c = '.' := by
  induction h with
  | atom h => exact fun c mem => Or.inl (h.2 c mem)
  | join h _ ih =>
    intro c mem
    rcases List.mem_append.mp mem with mem | mem
    · exact Or.inl (h.2 c mem)
    · rcases List.mem_cons.mp mem with rfl | mem
      · exact Or.inr rfl
      · exact ih c mem

theorem DotAtom.not_mem {text : List Char} (h : DotAtom text) {c : Char} (other : ¬(isAtomChar c ∨ c = '.')) :
    c ∉ text := fun mem => other (h.chars c mem)

/-! ## Quoted texts and domains -/

/-- A quoted text is read up to the first quote that no backslash takes. -/
theorem afterQuoted?_eq_some {text rest : List Char} :
    afterQuoted? text = some rest ↔ ∃ inner, QuotedText inner ∧ text = inner ++ '"' :: rest := by
  constructor
  · intro h
    fun_induction afterQuoted? text with
    | case1 => cases h
    | case2 after =>
      obtain rfl := Option.some.inj h
      exact ⟨[], .nil, rfl⟩
    | case3 after => cases h
    | case4 c after allowed ih =>
      obtain ⟨inner, quoted, rfl⟩ := ih h
      exact ⟨'\\' :: c :: inner, .escaped allowed quoted, rfl⟩
    | case5 => cases h
    | case6 => cases h
    | case7 c after quote escape backslash allowed ih =>
      obtain ⟨inner, quoted, rfl⟩ := ih h
      refine ⟨c :: inner, .plain ⟨quote, fun same => ?_, not_or.mp allowed⟩ quoted, rfl⟩
      cases inner with
      | nil => exact escape _ _ same rfl
      | cons d more => exact escape _ _ same rfl
  · rintro ⟨inner, quoted, rfl⟩
    induction quoted with
    | nil => rfl
    | @plain c more allowed others ih =>
      obtain ⟨quote, backslash, cr, lf⟩ := allowed
      rw [List.cons_append]
      unfold afterQuoted?
      split
      · cases ‹_ :: _ = []›
      · rename_i same
        exact absurd (List.cons.inj same).1 quote
      · rename_i same
        exact absurd (List.cons.inj same).1 backslash
      · rename_i same
        exact absurd (List.cons.inj same).1 backslash
      · rename_i same
        obtain ⟨rfl, rfl⟩ := List.cons.inj same
        rw [if_neg (not_or.mpr ⟨cr, lf⟩)]
        exact ih
    | @escaped c more allowed others ih =>
      rw [List.cons_append, List.cons_append, afterQuoted?, if_neg allowed]
      exact ih

theorem isDomain_iff (text : List Char) : isDomain text = true ↔ Domain text := by
  unfold isDomain
  constructor
  · intro h
    split at h
    · rename_i rest
      rw [Bool.and_eq_true, beq_iff_eq, List.all_eq_true] at h
      obtain ⟨last, inner⟩ := h
      rw [← List.dropLast_append_getLast? _ last]
      exact .literal inner
    · exact .atoms ((isDotAtom_iff _).mp h)
  · intro h
    cases h with
    | atoms h =>
      split
      · exact absurd List.mem_cons_self (h.not_mem (by decide))
      · exact (isDotAtom_iff _).mpr h
    | @literal inner h =>
      simp only [List.getLast?_concat, List.dropLast_concat, beq_self_eq_true, Bool.true_and]
      exact List.all_eq_true.mpr h

/-! ## Addresses -/

theorem isAddress_iff (text : List Char) : isAddress text = true ↔ Address text := by
  unfold isAddress
  constructor
  · intro h
    split at h
    · rename_i rest
      split at h
      · rename_i domain quoted
        obtain ⟨inner, body, rfl⟩ := afterQuoted?_eq_some.mp quoted
        have whole : '"' :: (inner ++ '"' :: '@' :: domain) = '"' :: (inner ++ ['"']) ++ '@' :: domain := by simp
        rw [whole]
        exact .intro (.quoted body) ((isDomain_iff _).mp h)
      · cases h
    · split at h
      · rename_i at_sign domain behind
        rw [Bool.and_eq_true] at h
        have mark : at_sign = '@' := by simpa [behind, Stops] using stops_dropWhile (· != '@') text
        subst mark
        rw [← List.takeWhile_append_dropWhile (p := (· != '@')) (l := text), behind]
        exact .intro (.atoms ((isDotAtom_iff _).mp h.1)) ((isDomain_iff _).mp h.2)
      · cases h
  · rintro ⟨localPart, domain⟩
    rename_i l d
    replace domain := (isDomain_iff d).mpr domain
    cases localPart with
    | @quoted inner h =>
      have behind : afterQuoted? (inner ++ ['"'] ++ '@' :: d) = some ('@' :: d) :=
        afterQuoted?_eq_some.mpr ⟨inner, h, by simp⟩
      simp only [List.cons_append, behind]
      exact domain
    | atoms h =>
      have before := bne_of_not_mem (h.not_mem (c := '@') (by decide))
      have stops : Stops (· != '@') ('@' :: d) := stops_cons rfl d
      have front := takeWhile_of_stops before stops
      have behind := dropWhile_of_stops before stops
      split
      · rename_i rest quote
        have first : l.head? = some '"' := by
          have whole := congrArg List.head? quote
          rwa [List.head?_append_of_ne_nil _ h.ne_nil] at whole
        exact absurd (List.mem_of_mem_head? first) (h.not_mem (by decide))
      · rw [front, behind]
        exact Bool.and_eq_true_iff.mpr ⟨(isDotAtom_iff l).mpr h, domain⟩

/-- No address ends with a closing angle bracket. -/
theorem Address.getLast?_ne {text : List Char} (h : Address text) : text.getLast? ≠ some '>' := by
  intro last
  obtain ⟨localPart, domain⟩ := h
  rename_i l d
  cases domain with
  | atoms h =>
    rw [List.append_cons, List.getLast?_append_of_ne_nil _ h.ne_nil] at last
    exact h.not_mem (by decide) (List.mem_of_getLast? last)
  | @literal inner h =>
    have ends : l ++ '@' :: '[' :: (inner ++ [']']) = l ++ '@' :: '[' :: inner ++ [']'] := by simp
    rw [ends, List.getLast?_concat] at last
    cases last

/-! ## Behind a name -/

theorem afterLastAngle_append {a : List Char} (last : '<' ∉ a) (name : List Char) :
    afterLastAngle (name ++ '<' :: a) = a := by
  have first : '<' ∉ a.reverse := fun mem => last (List.mem_reverse.mp mem)
  have turned : (name ++ '<' :: a).reverse = a.reverse ++ '<' :: name.reverse := by simp
  have stops : Stops (· != '<') ('<' :: name.reverse) := stops_cons rfl _
  rw [afterLastAngle, turned, takeWhile_of_stops (bne_of_not_mem first) stops, List.reverse_reverse]

/-- A text with an opening angle bracket has a last one. -/
theorem exists_last {c : Char} {text : List Char} (mem : c ∈ text) :
    ∃ before after, c ∉ after ∧ text = before ++ c :: after := by
  obtain ⟨after, before, turned, first⟩ := List.eq_append_cons_of_mem (List.mem_reverse.mpr mem)
  refine ⟨before.reverse, after.reverse, fun mem => first (List.mem_reverse.mp mem), ?_⟩
  rw [← List.reverse_reverse text, turned]
  simp

/-- The last opening angle bracket and the closing one at the end, if both are there. -/
theorem bracketed_or (text : List Char) :
    (∃ name a, '<' ∉ a ∧ text = name ++ '<' :: (a ++ ['>'])) ∨ ¬(text.getLast? = some '>' ∧ '<' ∈ text) := by
  by_cases h : text.getLast? = some '>' ∧ '<' ∈ text
  · left
    obtain ⟨last, mem⟩ := h
    have split := List.dropLast_append_getLast? _ last
    rw [← split] at mem
    rcases List.mem_append.mp mem with mem | mem
    · obtain ⟨name, a, only, front⟩ := exists_last mem
      refine ⟨name, a, only, ?_⟩
      rw [← split, front, List.append_assoc, List.cons_append]
    · exact absurd (List.mem_singleton.mp mem) (by decide)
  · exact Or.inr h

theorem isEmail_bracketed {text : String} {name a : List Char} (last : '<' ∉ a)
    (h : text.toList = name ++ '<' :: (a ++ ['>'])) : isEmail text = isAddress a := by
  have whole : text.toList = name ++ '<' :: a ++ ['>'] := by rw [h]; simp
  have both : text.toList.getLast? = some '>' ∧ '<' ∈ text.toList := by
    rw [whole]
    exact ⟨List.getLast?_concat, by simp⟩
  unfold isEmail
  simp only [if_pos both]
  rw [whole, List.dropLast_concat, afterLastAngle_append last]

theorem isEmail_bare {text : String} (h : ¬(text.toList.getLast? = some '>' ∧ '<' ∈ text.toList)) :
    isEmail text = isAddress text.toList := by
  unfold isEmail
  simp only [if_neg h]

/-! ## Byte offsets -/

def byteSize : List Char → Nat
  | [] => 0
  | c :: rest => c.utf8Size + byteSize rest

/-- The byte offset where the character last stands. -/
def lastOffset? (c : Char) : List Char → Option Nat
  | [] => none
  | d :: rest =>
    match lastOffset? c rest with
    | some offset => some (d.utf8Size + offset)
    | none => if d = c then some 0 else none

def withoutLast? (c : Char) (text : List Char) : Option (List Char) :=
  if text.getLast? = some c then some text.dropLast else none

/-- What stands from a byte offset on; none if the offset is beyond the end or within a character. -/
def fromOffset? (offset : Nat) : List Char → Option (List Char)
  | [] => if offset = 0 then some [] else none
  | c :: rest =>
    if offset = 0 then some (c :: rest)
    else if c.utf8Size ≤ offset then fromOffset? (offset - c.utf8Size) rest
    else none

/-- As `isEmail`, where the text is cut at a byte offset: none if that is no place to cut. -/
def isEmailByOffset? (text : String) : Option Bool :=
  match lastOffset? '<' text.toList, withoutLast? '>' text.toList with
  | some offset, some inner =>
    if offset < byteSize inner then (fromOffset? (offset + 1) inner).map isAddress
    else some (isAddress text.toList)
  | _, _ => some (isAddress text.toList)

theorem byteSize_append (front rest : List Char) : byteSize (front ++ rest) = byteSize front + byteSize rest := by
  induction front with
  | nil => rw [List.nil_append, byteSize, Nat.zero_add]
  | cons c front ih => rw [List.cons_append, byteSize, byteSize, ih, Nat.add_assoc]

theorem lastOffset?_eq_none {c : Char} {text : List Char} (h : c ∉ text) : lastOffset? c text = none := by
  induction text with
  | nil => rfl
  | cons d rest ih =>
    have other : d ≠ c := fun same => h (same ▸ List.mem_cons_self)
    rw [lastOffset?, ih fun mem => h (List.mem_cons_of_mem _ mem)]
    exact if_neg other

theorem lastOffset?_append {c : Char} {after : List Char} (last : c ∉ after) (before : List Char) :
    lastOffset? c (before ++ c :: after) = some (byteSize before) := by
  induction before with
  | nil =>
    rw [List.nil_append, lastOffset?, lastOffset?_eq_none last]
    exact if_pos rfl
  | cons d before ih =>
    rw [List.cons_append, lastOffset?, ih]
    rfl

/-- Behind whole characters a text may be cut. -/
theorem fromOffset?_byteSize (front rest : List Char) : fromOffset? (byteSize front) (front ++ rest) = some rest := by
  induction front with
  | nil =>
    cases rest with
    | nil => rfl
    | cons c more => exact if_pos rfl
  | cons c front ih =>
    have size : byteSize (c :: front) = c.utf8Size + byteSize front := rfl
    have some := c.utf8Size_pos
    rw [List.cons_append, fromOffset?, if_neg (by omega), if_pos (by omega), size, Nat.add_sub_cancel_left]
    exact ih

/-- Cutting at byte offsets never fails and decides the same. -/
theorem isEmailByOffset?_eq (text : String) : isEmailByOffset? text = some (isEmail text) := by
  unfold isEmailByOffset?
  rcases bracketed_or text.toList with ⟨name, a, only, h⟩ | none
  · have whole : text.toList = name ++ '<' :: a ++ ['>'] := by rw [h]; simp
    have last : '<' ∉ a ++ ['>'] := by simp [only]
    have offset : lastOffset? '<' text.toList = some (byteSize name) := by rw [h, lastOffset?_append last]
    have inner : withoutLast? '>' text.toList = some (name ++ '<' :: a) := by
      rw [withoutLast?, whole, if_pos List.getLast?_concat, List.dropLast_concat]
    have angle : byteSize (name ++ ['<']) = byteSize name + 1 := byteSize_append name ['<']
    have rest : fromOffset? (byteSize name + 1) (name ++ '<' :: a) = some a := by
      have cut := fromOffset?_byteSize (name ++ ['<']) a
      rwa [angle, List.append_assoc] at cut
    have room : byteSize name < byteSize (name ++ '<' :: a) := by
      rw [List.append_cons, byteSize_append, angle]
      omega
    simp only [offset, inner, if_pos room, rest, Option.map_some, isEmail_bracketed only h]
  · rw [isEmail_bare none]
    split
    · rename_i offset inner found ends
      -- a bracket at the end and one before it are both there
      have last : text.toList.getLast? = some '>' := by
        unfold withoutLast? at ends
        split at ends
        · assumption
        · cases ends
      refine absurd ⟨last, ?_⟩ none
      apply Classical.byContradiction
      intro missing
      rw [lastOffset?_eq_none missing] at found
      cases found
    · rfl

/-! ## Mail addresses -/

theorem toList_bracketed (text name a : String) :
    text = name ++ "<" ++ a ++ ">" ↔ text.toList = name.toList ++ '<' :: (a.toList ++ ['>']) := by
  rw [← String.toList_inj]
  simp [String.toList_append]

/-- A text is taken for a mail address just when it is an address, or one that has no opening angle bracket
    of its own and stands in angle brackets behind any text; and a program that cuts the text by bytes cuts
    it within its bounds and between two characters. -/
theorem isEmail_iff (text : String) :
    (isEmail text = true ↔ Address text.toList ∨
      ∃ name a : String, Address a.toList ∧ '<' ∉ a.toList ∧ text = name ++ "<" ++ a ++ ">") ∧
    isEmailByOffset? text = some (isEmail text) := by
  refine ⟨?_, isEmailByOffset?_eq text⟩
  constructor
  · intro h
    rcases bracketed_or text.toList with ⟨name, a, only, split⟩ | none
    · rw [isEmail_bracketed only split, isAddress_iff] at h
      refine Or.inr ⟨String.ofList name, String.ofList a, ?_, ?_, ?_⟩
      · rwa [String.toList_ofList]
      · rwa [String.toList_ofList]
      · rw [toList_bracketed, String.toList_ofList, String.toList_ofList, split]
    · rw [isEmail_bare none, isAddress_iff] at h
      exact Or.inl h
  · rintro (bare | ⟨name, a, address, only, split⟩)
    · rw [isEmail_bare fun both => bare.getLast?_ne both.1]
      exact (isAddress_iff _).mpr bare
    · rw [isEmail_bracketed only ((toList_bracketed _ _ _).mp split)]
      exact (isAddress_iff _).mpr address

def angled : String := "\"a<b\"@example.com"

/-- It is taken by itself, but not behind a name, where it is cut at its own bracket. -/
theorem isEmail_cut_in_quotes : Address angled.toList ∧ isEmail angled = true ∧
    isEmail ("Ada " ++ "<" ++ angled ++ ">") = false := by
  refine ⟨?_, ?_, ?_⟩
  · exact (isAddress_iff _).mp (by decide +kernel)
  · decide +kernel
  · decide +kernel

end JsonSchema.Format.Email
