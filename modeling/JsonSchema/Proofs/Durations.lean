/-
  JsonSchema.Proofs.Durations — the grammar of lengths of time.

  A duration is `P` with the components of a date, which may be followed by `T` and the components of a
  time. The grammar says so of a text as a whole (`IsDuration`): components are numbers with a unit, each
  unit at most once and in its order, of which there has to be one, and one behind `T` if there is a `T`.

  The reader goes from unit to unit and takes a component where the digits are followed by that unit. The
  digits before a unit are all digits there are, so a text starts with a component of one unit at most
  (`Component.unit_eq`): what is passed over for one unit is still there for a later one, and the `M` of
  months is not taken for that of minutes, which stands behind `T`. The last character of components is a
  unit and never `T`, so that a text without components behind `T` is known by its end.

  Statements:
  - `exists_components`: what is read are components, whatever the text.
  - `readAll_append`: components are read as a whole, up to where no digit follows.
  - `isComponents_iff`: components, with `T` or without.
  - `isDuration_iff`: the durations are the texts of the grammar.
-/

import JsonSchema.Format.Duration
import JsonSchema.Proofs.Runs

namespace JsonSchema.Format.Duration

/-! ## Grammar -/

def IsNumber (text : List Char) : Prop := text ≠ [] ∧ ∀ c ∈ text, Unicode.isDecimalDigit c

/-- A number and its unit. Seconds may have a fraction. -/
inductive Component : Char → List Char → Prop
  | whole {unit : Char} {digits : List Char} (number : IsNumber digits) : Component unit (digits ++ [unit])
  | fraction {mark : Char} {digits more : List Char} (number : IsNumber digits) (marked : mark = '.' ∨ mark = ',')
      (decimals : IsNumber more) : Component 'S' (digits ++ mark :: (more ++ ['S']))

/-- Components of some of the units, in their order, each unit at most once. -/
inductive Components : List Char → List Char → Prop
  | nil : Components [] []
  | without {unit : Char} {units text : List Char} (others : Components units text) : Components (unit :: units) text
  | next {unit : Char} {units first text : List Char} (component : Component unit first)
      (others : Components units text) : Components (unit :: units) (first ++ text)

def dateUnits : List Char := ['Y', 'M', 'W', 'D']

def timeUnits : List Char := ['H', 'M', 'S']

/-- A duration, with components behind `T` or without `T`. -/
inductive IsDuration : List Char → Prop
  | date {d : List Char} (components : Components dateUnits d) (some : d ≠ []) : IsDuration ('P' :: d)
  | time {d t : List Char} (components : Components dateUnits d) (timed : Components timeUnits t) (some : t ≠ []) :
      IsDuration ('P' :: (d ++ 'T' :: t))

/-! ## Digits -/

theorem IsNumber.not_stops {digits : List Char} (number : IsNumber digits) (rest : List Char) :
    ¬Stops Unicode.isDecimalDigit (digits ++ rest) := by
  obtain ⟨some, digit⟩ := number
  cases digits with
  | nil => exact absurd rfl some
  | cons c more =>
    intro stops
    have none : Unicode.isDecimalDigit c = false := stops c rfl
    rw [digit c List.mem_cons_self] at none
    cases none

/-- All digits are passed over. -/
theorem afterDigits?_append {digits rest : List Char} (number : IsNumber digits)
    (stops : Stops Unicode.isDecimalDigit rest) :
    afterDigits? (digits ++ rest) = some rest := by
  have first : (digits ++ rest).head?.any Unicode.isDecimalDigit = true := by
    obtain ⟨c, more, rfl⟩ := List.exists_cons_of_ne_nil number.1
    exact number.2 c List.mem_cons_self
  rw [afterDigits?, if_pos first, dropWhile_of_stops number.2 stops]

theorem exists_number {text rest : List Char} (h : afterDigits? text = some rest) :
    ∃ digits, IsNumber digits ∧ text = digits ++ rest := by
  unfold afterDigits? at h
  split at h
  · rename_i first
    obtain rfl := Option.some.inj h
    refine ⟨text.takeWhile Unicode.isDecimalDigit, ⟨?_, fun c => List.mem_takeWhile_imp⟩,
      List.takeWhile_append_dropWhile.symm⟩
    cases text with
    | nil => cases first
    | cons c more =>
      have digit : Unicode.isDecimalDigit c = true := first
      rw [List.takeWhile_cons_of_pos digit]
      exact List.cons_ne_nil _ _
  · cases h

/-! ## Units -/

structure IsUnit (unit : Char) : Prop where
  letter : Unicode.isDecimalDigit unit = false
  unmarked : unit ≠ '.' ∧ unit ≠ ','

theorem isUnit_of_mem {unit : Char} (h : unit ∈ dateUnits ∨ unit ∈ timeUnits) : IsUnit unit := by
  have date : ∀ u ∈ dateUnits, Unicode.isDecimalDigit u = false ∧ u ≠ '.' ∧ u ≠ ',' := by
    simp only [dateUnits, List.forall_mem_cons, List.not_mem_nil, false_imp_iff, implies_true, and_true]
    decide
  have time : ∀ u ∈ timeUnits, Unicode.isDecimalDigit u = false ∧ u ≠ '.' ∧ u ≠ ',' := by
    simp only [timeUnits, List.forall_mem_cons, List.not_mem_nil, false_imp_iff, implies_true, and_true]
    decide
  obtain ⟨letter, unmarked⟩ := h.elim (date unit) (time unit)
  exact ⟨letter, unmarked⟩

theorem isUnit_seconds : IsUnit 'S' := isUnit_of_mem (Or.inr (by decide))

theorem stops_mark {mark : Char} {rest : List Char} (marked : mark = '.' ∨ mark = ',') :
    Stops Unicode.isDecimalDigit (mark :: rest) := by
  rcases marked with rfl | rfl
  · exact stops_cons (by decide) _
  · exact stops_cons (by decide) _

/-- A component starts with digits, and behind all of them comes its unit or the mark of a fraction. -/
theorem Component.afterDigits? {unit : Char} {first : List Char} (u : IsUnit unit) (h : Component unit first)
    (rest : List Char) : ∃ c more, Duration.afterDigits? (first ++ rest) = some (c :: more) ∧
      (c = unit ∨ unit = 'S' ∧ (c = '.' ∨ c = ',')) := by
  cases h with
  | whole number =>
    refine ⟨unit, rest, ?_, Or.inl rfl⟩
    rw [List.append_assoc]
    exact afterDigits?_append number (stops_cons u.letter _)
  | @fraction mark digits more number marked decimals =>
    refine ⟨mark, more ++ ['S'] ++ rest, ?_, Or.inr ⟨rfl, marked⟩⟩
    rw [List.append_assoc]
    exact afterDigits?_append number (stops_mark marked)

/-- A text starts with a component of one unit at most. -/
theorem Component.unit_eq {unit unit' : Char} (u : IsUnit unit) (u' : IsUnit unit')
    {first first' rest rest' : List Char} (h : Component unit first) (h' : Component unit' first')
    (same : first ++ rest = first' ++ rest') : unit = unit' := by
  obtain ⟨c, more, after, what⟩ := h.afterDigits? u rest
  obtain ⟨c', more', after', what'⟩ := h'.afterDigits? u' rest'
  rw [same, after'] at after
  obtain ⟨rfl, -⟩ := List.cons.inj (Option.some.inj after)
  rcases what with rfl | ⟨rfl, mark⟩
  · rcases what' with rfl | ⟨-, mark⟩
    · rfl
    · exact absurd mark (not_or.mpr u.unmarked)
  · rcases what' with rfl | ⟨rfl, -⟩
    · exact absurd mark (not_or.mpr u'.unmarked)
    · rfl

/-- A component is not empty, and a digit stands at its front. -/
theorem Component.not_stops {unit : Char} {first : List Char} (h : Component unit first) (rest : List Char) :
    ¬Stops Unicode.isDecimalDigit (first ++ rest) := by
  cases h with
  | whole number =>
    rw [List.append_assoc]
    exact number.not_stops _
  | fraction number _ _ =>
    rw [List.append_assoc]
    exact number.not_stops _

theorem Component.getLast? {unit : Char} {first : List Char} (h : Component unit first) :
    first.getLast? = some unit := by
  cases h with
  | whole number => exact List.getLast?_concat
  | @fraction mark digits more number marked decimals =>
    rw [List.getLast?_append_of_ne_nil _ (List.cons_ne_nil _ _), ← List.cons_append]
    exact List.getLast?_concat

/-! ## One unit -/

/-- The step passes over a component of the unit, and over nothing else. -/
structure Reads (unit : Char) (step : List Char → List Char) : Prop where
  component {first rest : List Char} (h : Component unit first) : step (first ++ rest) = rest
  nothing_else (text : List Char) : step text = text ∨ ∃ first, Component unit first ∧ text = first ++ step text

theorem component_reads {unit : Char} (u : IsUnit unit) (other : unit ≠ 'S') : Reads unit (component unit) where
  component {first rest} h := by
    cases h with
    | whole number =>
      rw [component, List.append_assoc, List.singleton_append, afterDigits?_append number (stops_cons u.letter _)]
      exact if_pos rfl
    | fraction => exact absurd rfl other
  nothing_else text := by
    unfold component
    split
    · rename_i c rest after
      split
      · rename_i here
        obtain ⟨digits, number, rfl⟩ := exists_number after
        refine Or.inr ⟨digits ++ [c], here ▸ .whole number, ?_⟩
        rw [List.append_assoc]
        rfl
      · exact Or.inl rfl
    · exact Or.inl rfl

theorem seconds_reads : Reads 'S' seconds where
  component {first rest} h := by
    cases h with
    | whole number =>
      rw [seconds, List.append_assoc, List.singleton_append,
        afterDigits?_append number (stops_cons isUnit_seconds.letter _)]
      exact if_pos rfl
    | @fraction mark digits more number marked decimals =>
      have behind : afterDigits? (more ++ ['S'] ++ rest) = some ('S' :: rest) := by
        rw [List.append_assoc]
        exact afterDigits?_append decimals (stops_cons isUnit_seconds.letter _)
      have no_unit : mark ≠ 'S' := by
        rcases marked with rfl | rfl
        · decide
        · decide
      rw [seconds, List.append_assoc, List.cons_append, afterDigits?_append number (stops_mark marked)]
      simp only [if_neg no_unit, if_pos marked, behind]
  nothing_else text := by
    unfold seconds
    split
    · rename_i c rest after
      obtain ⟨digits, number, rfl⟩ := exists_number after
      split
      · rename_i here
        refine Or.inr ⟨digits ++ [c], here ▸ .whole number, ?_⟩
        rw [List.append_assoc]
        rfl
      · split
        · rename_i marked
          split
          · rename_i behind after_fraction
            obtain ⟨more, decimals, rfl⟩ := exists_number after_fraction
            refine Or.inr ⟨digits ++ c :: (more ++ ['S']), .fraction number marked decimals, ?_⟩
            simp only [List.append_assoc, List.cons_append, List.nil_append]
          · exact Or.inl rfl
        · exact Or.inl rfl
    · exact Or.inl rfl

/-! ## All units -/

def read (unit : Char) (text : List Char) : List Char := if unit = 'S' then seconds text else component unit text

def readAll (units text : List Char) : List Char := units.foldl (fun text unit => read unit text) text

theorem read_of_ne {unit : Char} (other : unit ≠ 'S') : read unit = component unit := funext fun _ => if_neg other

theorem readAll_of_ne {units : List Char} (others : ∀ u ∈ units, u ≠ 'S') (text : List Char) :
    units.foldl (fun text unit => component unit text) text = readAll units text := by
  refine List.foldl_ext _ _ text fun text unit mem => ?_
  rw [read_of_ne (others unit mem)]

theorem dateComponents_eq (text : List Char) : dateComponents text = readAll dateUnits text :=
  readAll_of_ne (by simp) text

theorem timeComponents_eq (text : List Char) : timeComponents text = readAll timeUnits text := by
  have last : readAll timeUnits text = seconds (readAll ['H', 'M'] text) := by
    unfold readAll timeUnits
    simp only [List.foldl_cons, List.foldl_nil]
    exact if_pos rfl
  rw [last, ← readAll_of_ne (by simp)]
  rfl

theorem read_reads {unit : Char} (u : IsUnit unit) : Reads unit (read unit) := by
  by_cases h : unit = 'S'
  · subst h
    exact seconds_reads
  · rw [read_of_ne h]
    exact component_reads u h

/-- What is read are components. -/
theorem exists_components {units : List Char} (isUnit : ∀ u ∈ units, IsUnit u) (text : List Char) :
    ∃ front, Components units front ∧ text = front ++ readAll units text := by
  induction units generalizing text with
  | nil => exact ⟨[], .nil, rfl⟩
  | cons unit units ih =>
    obtain ⟨first_unit, others⟩ := List.forall_mem_cons.mp isUnit
    obtain ⟨front, components, split⟩ := ih others (read unit text)
    rcases (read_reads first_unit).nothing_else text with none | ⟨first, component, here⟩
    · refine ⟨front, .without components, ?_⟩
      rw [none] at split
      rw [readAll, List.foldl_cons, none]
      exact split
    · refine ⟨first ++ front, .next component components, ?_⟩
      rw [List.append_assoc]
      exact here.trans (congrArg (first ++ ·) split)

/-- Components of some units do not start with a component of another one. -/
theorem Components.not_component {unit : Char} {units text rest first rest' : List Char} (u : IsUnit unit)
    (isUnit : ∀ v ∈ units, IsUnit v) (h : Components units text) (other : unit ∉ units)
    (stops : Stops Unicode.isDecimalDigit rest)
    (here : Component unit first) : text ++ rest ≠ first ++ rest' := by
  induction h with
  | nil =>
    intro same
    rw [List.nil_append] at same
    exact here.not_stops rest' (same ▸ stops)
  | without _ ih =>
    exact ih (List.forall_mem_cons.mp isUnit).2 (fun mem => other (List.mem_cons_of_mem _ mem))
  | @next v units first' text component others ih =>
    intro same
    rw [List.append_assoc] at same
    have found : v = unit := component.unit_eq (isUnit v List.mem_cons_self) u here same
    exact other (found ▸ List.mem_cons_self)

/-- Components are read as a whole, where no digit follows them. -/
theorem readAll_append {units text rest : List Char} (isUnit : ∀ u ∈ units, IsUnit u) (once : units.Nodup)
    (h : Components units text) (stops : Stops Unicode.isDecimalDigit rest) : readAll units (text ++ rest) = rest := by
  induction h with
  | nil => rfl
  | @without unit units text others ih =>
    obtain ⟨u, isUnit⟩ := List.forall_mem_cons.mp isUnit
    obtain ⟨other, once⟩ := List.nodup_cons.mp once
    have passed : read unit (text ++ rest) = text ++ rest := by
      rcases (read_reads u).nothing_else (text ++ rest) with none | ⟨first, component, same⟩
      · exact none
      · exact absurd same (others.not_component u isUnit other stops component)
    rw [readAll, List.foldl_cons, passed]
    exact ih isUnit once
  | @next unit units first text component others ih =>
    obtain ⟨u, isUnit⟩ := List.forall_mem_cons.mp isUnit
    obtain ⟨-, once⟩ := List.nodup_cons.mp once
    rw [readAll, List.foldl_cons, List.append_assoc, (read_reads u).component component]
    exact ih isUnit once

/-- The last character of components is one of the units. -/
theorem Components.getLast?_mem {units text : List Char} (h : Components units text) {c : Char}
    (last : text.getLast? = some c) : c ∈ units := by
  induction h with
  | nil => cases last
  | without _ ih => exact List.mem_cons_of_mem _ (ih last)
  | @next unit units first text component others ih =>
    by_cases none : text = []
    · subst none
      rw [List.append_nil, component.getLast?] at last
      obtain rfl := Option.some.inj last
      exact List.mem_cons_self
    · rw [List.getLast?_append_of_ne_nil _ none] at last
      exact List.mem_cons_of_mem _ (ih last)

/-! ## Durations -/

theorem isUnit_date : ∀ u ∈ dateUnits, IsUnit u := fun _ mem => isUnit_of_mem (Or.inl mem)

theorem isUnit_time : ∀ u ∈ timeUnits, IsUnit u := fun _ mem => isUnit_of_mem (Or.inr mem)

theorem dateComponents_append {d rest : List Char} (h : Components dateUnits d)
    (stops : Stops Unicode.isDecimalDigit rest) :
    dateComponents (d ++ rest) = rest := readAll_append isUnit_date (by decide) h stops

theorem timeComponents_of_components {t : List Char} (h : Components timeUnits t) : timeComponents t = [] := by
  have all : readAll timeUnits (t ++ []) = [] := readAll_append isUnit_time (by decide) h stops_nil
  rwa [List.append_nil] at all

/-- Components only, then perhaps `T` and more components, of which there may be none. -/
theorem isComponents_iff (text : List Char) : isComponents text = true ↔
    Components dateUnits text ∨
      ∃ d t, text = d ++ 'T' :: t ∧ Components dateUnits d ∧ Components timeUnits t := by
  constructor
  · intro h
    obtain ⟨d, date, split⟩ := exists_components isUnit_date text
    rw [← dateComponents_eq] at split
    unfold isComponents at h
    split at h
    · rename_i none
      rw [none, List.append_nil] at split
      rw [split]
      exact Or.inl date
    · rename_i rest behind
      obtain ⟨t, time, split'⟩ := exists_components isUnit_time rest
      rw [← timeComponents_eq, List.isEmpty_iff.mp h, List.append_nil] at split'
      rw [behind] at split
      rw [← split'] at time
      exact Or.inr ⟨d, rest, split, date, time⟩
    · cases h
  · rintro (date | ⟨d, t, rfl, date, time⟩)
    · have all : dateComponents (text ++ []) = [] := dateComponents_append date stops_nil
      rw [List.append_nil] at all
      unfold isComponents
      simp only [all]
    · have front : dateComponents (d ++ 'T' :: t) = 'T' :: t := dateComponents_append date (stops_cons (by decide) _)
      unfold isComponents
      simp only [front, timeComponents_of_components time, List.isEmpty_nil]

/-- The texts that are taken for durations are those of the grammar. -/
theorem isDuration_iff (text : String) : isDuration text = true ↔ IsDuration text.toList := by
  unfold isDuration
  constructor
  · intro h
    split at h
    · rename_i rest start
      simp only [Bool.and_eq_true, Bool.not_eq_true', bne_iff_ne, isComponents_iff] at h
      obtain ⟨⟨some, last⟩, date | ⟨d, t, rfl, date, time⟩⟩ := h
      · rw [start]
        exact .date date fun none => by simp [none] at some
      · rw [start]
        refine .time date time fun none => last ?_
        rw [none]
        exact List.getLast?_concat
    · cases h
  · intro h
    generalize text.toList = chars at h
    cases h with
    | @date d date some =>
      have last : d.getLast? ≠ Option.some 'T' := fun t => absurd (date.getLast?_mem t) (by decide)
      have parts := (isComponents_iff d).mpr (Or.inl date)
      simp [parts, last, some]
    | @time d t date time some =>
      have last : (d ++ 'T' :: t).getLast? ≠ Option.some 'T' := by
        intro ends
        rw [List.append_cons, List.getLast?_append_of_ne_nil _ some] at ends
        exact absurd (time.getLast?_mem ends) (by decide)
      have parts := (isComponents_iff _).mpr (Or.inr ⟨d, t, rfl, date, time⟩)
      show (!(d ++ 'T' :: t).isEmpty && (d ++ 'T' :: t).getLast? != Option.some 'T' &&
        isComponents (d ++ 'T' :: t)) = true
      rw [Bool.and_eq_true, Bool.and_eq_true, bne_iff_ne]
      exact ⟨⟨by simp, last⟩, parts⟩

end JsonSchema.Format.Duration
