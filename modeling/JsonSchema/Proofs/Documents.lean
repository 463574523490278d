/-
  JsonSchema.Proofs.Documents — documents that are read have their keys in order.

  Every value that stands in an open array or object while a document is read is well-formed, and so
  are the members that an open object has so far: a member goes to its place among the others. So
  what is read is well-formed, as the statements about what a document reports ask for.

  Statements:
  - `step_wellFormed`: one token keeps it so.
  - `ofBytes_wellFormed`: a document that is read is well-formed.
-/

import JsonSchema.Json.Reader

namespace JsonSchema.Json

/-! ## Arrays and objects -/

theorem wellFormed_array {items : List Json} : (Json.array items).WellFormed ↔ ∀ v ∈ items, v.WellFormed := by
  constructor
  · exact fun h v hv => h.item hv
  · intro h
    rw [WellFormed]
    induction items with
    | nil => trivial
    | cons v rest ih => exact ⟨h v List.mem_cons_self, ih fun w hw => h w (List.mem_cons_of_mem _ hw)⟩

theorem wellFormed_object {members : Members} :
    (Json.object members).WellFormed ↔ Ordered members ∧ ∀ m ∈ members, m.2.WellFormed := by
  constructor
  · intro h
    refine ⟨?_, fun m hm => h.member hm⟩
    rw [WellFormed] at h
    exact h.1
  · rintro ⟨ordered, h⟩
    rw [WellFormed]
    refine ⟨ordered, ?_⟩
    clear ordered
    induction members with
    | nil => trivial
    | cons m rest ih => exact ⟨h m List.mem_cons_self, ih fun n hn => h n (List.mem_cons_of_mem _ hn)⟩

theorem mem_insert {key : String} {value : Json} {members : Members} {m : String × Json}
    (h : m ∈ insert key value members) : m = (key, value) ∨ m ∈ members := by
  induction members with
  | nil => exact Or.inl (List.mem_singleton.mp h)
  | cons n rest ih =>
    obtain ⟨k, v⟩ := n
    unfold insert at h
    split at h
    · rcases List.mem_cons.mp h with rfl | h
      · exact Or.inl rfl
      · exact Or.inr h
    · split at h
      · rcases List.mem_cons.mp h with rfl | h
        · exact Or.inl rfl
        · exact Or.inr (List.mem_cons_of_mem _ h)
      · rcases List.mem_cons.mp h with rfl | h
        · exact Or.inr List.mem_cons_self
        · rcases ih h with h | h
          · exact Or.inl h
          · exact Or.inr (List.mem_cons_of_mem _ h)

theorem wellFormed_insert {key : String} {value : Json} {members : Members} (hv : value.WellFormed)
    (h : (Json.object members).WellFormed) : (Json.object (insert key value members)).WellFormed := by
  rw [wellFormed_object] at h ⊢
  refine ⟨ordered_insert key value h.1, fun m hm => ?_⟩
  rcases mem_insert hm with rfl | hm
  · exact hv
  · exact h.2 m hm

/-! ## Tokens -/

/-- A number or a word has nothing in it that could be out of order. -/
def Token.WellFormed : Token → Prop
  | .scalar value => value.WellFormed
  | _ => True

theorem Token.wellFormed_scan (b : UInt8) (rest : Bytes) : (Token.scan b rest).1.WellFormed := by
  have string : (scanString rest).1.WellFormed := by
    unfold scanString
    split
    · trivial
    · split <;> trivial
  have number (negative : Bool) (bytes : Bytes) (skipped : Nat) :
      (scanNumber negative bytes skipped).1.WellFormed := by
    unfold scanNumber
    split <;> simp [Token.WellFormed, Json.WellFormed]
  have word (letters : Bytes) (value : Json) (h : value.WellFormed) : (scanWord letters value rest).1.WellFormed := by
    unfold scanWord
    split
    · exact h
    · split <;> trivial
  have ite {p : Prop} [Decidable p] {a b : Token × Nat} (ha : a.1.WellFormed) (hb : b.1.WellFormed) :
      (if p then a else b).1.WellFormed := by
    by_cases h : p
    · rwa [if_pos h]
    · rwa [if_neg h]
  -- punctuation first, then texts, numbers and the three words
  unfold scan
  iterate 6 refine ite trivial ?_
  refine ite string ?_
  iterate 2 refine ite (number _ _ _) ?_
  iterate 3 refine ite (word _ _ trivial) ?_
  trivial

theorem wellFormed_tokens (bytes : Bytes) : ∀ t ∈ tokens bytes, t.WellFormed := by
  match bytes with
  | [] => simp [tokens]
  | b :: rest =>
    intro t ht
    have first := Token.wellFormed_scan b rest
    rw [tokens] at ht
    split at ht
    · exact wellFormed_tokens rest t ht
    · dsimp only at ht
      split at ht
      · obtain rfl := List.mem_singleton.mp ht
        exact first
      · rcases List.mem_cons.mp ht with rfl | ht
        · exact first
        · have shorter : (rest.drop (Token.scan b rest).2).length < rest.length + 1 := by
            rw [List.length_drop]
            omega
          exact wellFormed_tokens _ t ht
termination_by bytes.length

/-! ## The machine -/

namespace Reader

def Frame.WellFormed : Frame → Prop
  | .array items => ∀ v ∈ items, v.WellFormed
  | .object members _ => (Json.object members).WellFormed

def Phase.WellFormed : Phase → Prop
  | .nothing result => result.WellFormed
  | _ => True

structure State.WellFormed (s : State) : Prop where
  frames : ∀ f ∈ s.frames, f.WellFormed
  phase : s.phase.WellFormed

theorem complete_wellFormed {frames : List Frame} {value : Json} (h : ∀ f ∈ frames, f.WellFormed)
    (hv : value.WellFormed) : (complete frames value).WellFormed := by
  match frames with
  | [] => exact ⟨h, hv⟩
  | .array items :: outer =>
    obtain ⟨first, others⟩ := List.forall_mem_cons.mp h
    exact ⟨List.forall_mem_cons.mpr ⟨List.forall_mem_cons.mpr ⟨hv, first⟩, others⟩, trivial⟩
  | .object members key :: outer =>
    obtain ⟨first, others⟩ := List.forall_mem_cons.mp h
    exact ⟨List.forall_mem_cons.mpr ⟨wellFormed_insert hv first, others⟩, trivial⟩

theorem startValue_wellFormed {frames : List Frame} {t : Token} {s : State} (h : ∀ f ∈ frames, f.WellFormed)
    (ht : t.WellFormed) (hs : startValue frames t = .ok s) : s.WellFormed := by
  cases t with
  | scalar value =>
    obtain rfl := Except.ok.inj hs
    exact complete_wellFormed h ht
  | string text =>
    obtain rfl := Except.ok.inj hs
    exact complete_wellFormed h trivial
  | openArray =>
    simp only [startValue] at hs
    split at hs
    · obtain rfl := Except.ok.inj hs
      exact ⟨List.forall_mem_cons.mpr ⟨fun _ h => (nomatch h), h⟩, trivial⟩
    · cases hs
  | openObject =>
    simp only [startValue] at hs
    split at hs
    · obtain rfl := Except.ok.inj hs
      have empty : (Json.object []).WellFormed := wellFormed_object.mpr ⟨trivial, fun _ h => nomatch h⟩
      exact ⟨List.forall_mem_cons.mpr ⟨empty, h⟩, trivial⟩
    · cases hs
  | _ => cases hs

theorem startKey_wellFormed {frames : List Frame} {t : Token} {s : State} (h : ∀ f ∈ frames, f.WellFormed)
    (hs : startKey frames t = .ok s) : s.WellFormed := by
  unfold startKey at hs
  split at hs
  · split at hs
    · obtain rfl := Except.ok.inj hs
      obtain ⟨first, others⟩ := List.forall_mem_cons.mp h
      exact ⟨List.forall_mem_cons.mpr ⟨first, others⟩, trivial⟩
    · cases hs
  · cases hs
  · cases hs

theorem close_wellFormed {frames : List Frame} {t : Token} {s : State} (h : ∀ f ∈ frames, f.WellFormed)
    (hs : close frames t = .ok s) : s.WellFormed := by
  unfold close at hs
  split at hs
  · split at hs
    · obtain rfl := Except.ok.inj hs
      obtain ⟨first, others⟩ := List.forall_mem_cons.mp h
      exact complete_wellFormed others (wellFormed_array.mpr fun v hv => first v (List.mem_reverse.mp hv))
    · cases hs
  · split at hs
    · obtain rfl := Except.ok.inj hs
      obtain ⟨first, others⟩ := List.forall_mem_cons.mp h
      exact complete_wellFormed others first
    · cases hs
  · cases hs

theorem afterComma_wellFormed {frames : List Frame} {s : State} (h : ∀ f ∈ frames, f.WellFormed)
    (hs : afterComma frames = .ok s) : s.WellFormed := by
  unfold afterComma at hs
  split at hs
  · obtain rfl := Except.ok.inj hs
    exact ⟨h, trivial⟩
  · obtain rfl := Except.ok.inj hs
    exact ⟨h, trivial⟩
  · cases hs

/-- A token keeps everything that is open well-formed. -/
theorem step_wellFormed {s s' : State} {t : Token} (h : s.WellFormed) (ht : t.WellFormed)
    (hs : step s t = .ok s') : s'.WellFormed := by
  unfold step at hs
  split at hs
  · exact startValue_wellFormed h.frames ht hs
  · exact close_wellFormed h.frames hs
  · exact startValue_wellFormed h.frames ht hs
  · exact close_wellFormed h.frames hs
  · exact startKey_wellFormed h.frames hs
  · exact startKey_wellFormed h.frames hs
  · obtain rfl := Except.ok.inj hs
    exact ⟨h.frames, trivial⟩
  · cases hs
  · exact afterComma_wellFormed h.frames hs
  · exact close_wellFormed h.frames hs
  · cases hs

theorem run_wellFormed {s s' : State} {input : List Token} (h : s.WellFormed) (ht : ∀ t ∈ input, t.WellFormed)
    (hs : run s input = .ok s') : s'.WellFormed := by
  induction input generalizing s with
  | nil =>
    obtain rfl := Except.ok.inj hs
    exact h
  | cons t rest ih =>
    obtain ⟨first, others⟩ := List.forall_mem_cons.mp ht
    rw [run] at hs
    split at hs
    · cases hs
    · rename_i next stepped
      exact ih (step_wellFormed h first stepped) others hs

end Reader

/-- A document that is read has its keys in order, each once, throughout. -/
theorem ofBytes_wellFormed {bytes : Bytes} {v : Json} (h : ofBytes bytes = .ok v) : v.WellFormed := by
  have start : Reader.start.WellFormed := ⟨fun _ h => (nomatch h), trivial⟩
  unfold ofBytes at h
  split at h
  · cases h
  · rename_i s ran
    have done := (Reader.run_wellFormed start (wellFormed_tokens bytes) ran).phase
    split at h
    · rename_i value phase
      rw [phase] at done
      obtain rfl := Except.ok.inj h
      exact done
    · cases h

end JsonSchema.Json
