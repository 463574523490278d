/-
  JsonSchema.Proofs.FileNames — the names of files in a directory.

  A name is split at its last point, so that what stands before and after it can be read off the name,
  and two names with the same ending differ before it. Bytes are the bytes of one text at most, and a
  plain ending behind them does not change whether they are the bytes of a text.

  A file system has one entry for each place; so a directory lists each of its names once.

  Statements:
  - `decode?_eq_some`: decoding undoes encoding.
  - `isSome_decode?_append`: a name is text where its stem is.
  - `splitName_eq_some`: the stem and the ending of a name.
  - `distinct_makeDirectory`, `distinct_writeFile`: there is one entry for each place, however files are made.
  - `nodup_readDirectory`: no name is listed twice.
-/

import JsonSchema.FileSystem
import JsonSchema.Proofs.ByteOrder
import JsonSchema.Proofs.Runs

namespace JsonSchema

/-! ## Texts -/

namespace Bytes

theorem ofText_eq_data (text : String) : ofText text = text.toByteArray.data.toList := by
  show text.toByteArray.toList = _
  rw [ByteArray.toList, toList_loop]
  rfl

/-- The bytes that are a text are the bytes of that text. -/
theorem decode?_eq_some {bytes : Bytes} {text : String} : decode? bytes = some text ↔ ofText text = bytes := by
  rw [ofText_eq_data]
  constructor
  · intro h
    unfold decode? String.fromUTF8? at h
    split at h
    · obtain rfl := Option.some.inj h
      rfl
    · cases h
  · rintro rfl
    exact dif_pos text.isValidUTF8

theorem decode?_inj {a b : Bytes} {text : String} (ha : decode? a = some text) (hb : decode? b = some text) : a = b :=
  (decode?_eq_some.mp ha).symm.trans (decode?_eq_some.mp hb)

theorem encode_plain {b : UInt8} (plain : b < 0x80) : String.utf8EncodeChar (Char.ofNat b.toNat) = [b] := by
  have less : b.toNat < 128 := UInt8.lt_iff_toNat_lt.mp plain
  have valid : b.toNat.isValidChar := Or.inl (by omega)
  have digits : (Char.ofNat b.toNat).val.toNat = b.toNat := by
    rw [Char.ofNat, dif_pos valid]
    rfl
  unfold String.utf8EncodeChar
  simp only [digits]
  rw [if_pos (by omega)]
  simp

/-- The bytes of a character that end with a plain byte are that byte. -/
theorem encode_eq_of_plain {c : Char} {before : Bytes} {b : UInt8} (plain : b < 0x80)
    (h : String.utf8EncodeChar c = before ++ [b]) : before = [] := by
  obtain ⟨x, y, z, w, -, -, -, hw, bytes⟩ := encode_cases c
  have last : (String.utf8EncodeChar c).getLast? = some b := by simp [h]
  have high (n : Nat) (hn : n < 64) (e : UInt8.ofNat (n + 128) = b) : before = [] := by
    subst e
    have less := UInt8.lt_iff_toNat_lt.mp plain
    simp at less
    omega
  rcases bytes with ⟨-, -, -, e⟩ | ⟨-, -, -, -, e⟩ | ⟨-, -, -, e⟩ | ⟨-, -, e⟩
  · rw [e] at h
    simpa using congrArg List.length h
  all_goals
    rw [e] at last
    exact high w hw (by simpa using last)

/-- A plain byte behind others does not change whether they are a text. -/
theorem isSome_decode?_concat {bytes : Bytes} {b : UInt8} (plain : b < 0x80) :
    (decode? (bytes ++ [b])).isSome = (decode? bytes).isSome := by
  rw [Bool.eq_iff_iff, Option.isSome_iff_exists, Option.isSome_iff_exists]
  constructor
  · rintro ⟨text, h⟩
    rw [decode?_eq_some, ofText_eq_flatMap] at h
    rcases List.eq_nil_or_concat text.toList with none | ⟨chars, c, split⟩
    · simp [none] at h
    · rw [split, List.concat_eq_append, List.flatMap_append, List.flatMap_singleton] at h
      have ends := List.dropLast_concat_getLast (String.utf8EncodeChar_ne_nil (c := c))
      rw [← ends, ← List.append_assoc] at h
      obtain ⟨front, last⟩ := List.append_inj' h rfl
      rw [last] at ends
      rw [encode_eq_of_plain plain ends.symm, List.append_nil] at front
      refine ⟨String.ofList chars, ?_⟩
      rw [decode?_eq_some, ofText_eq_flatMap, String.toList_ofList, front]
  · rintro ⟨text, h⟩
    refine ⟨text.push (Char.ofNat b.toNat), ?_⟩
    rw [decode?_eq_some, ofText_eq_flatMap] at h ⊢
    rw [String.toList_push, List.flatMap_append, h, List.flatMap_singleton, encode_plain plain]

theorem isSome_decode?_append {bytes ending : Bytes} (plain : ∀ b ∈ ending, b < 0x80) :
    (decode? (bytes ++ ending)).isSome = (decode? bytes).isSome := by
  induction ending generalizing bytes with
  | nil => rw [List.append_nil]
  | cons b rest ih =>
    obtain ⟨first, others⟩ := List.forall_mem_cons.mp plain
    rw [List.append_cons, ih others, isSome_decode?_concat first]

end Bytes

/-! ## Stems and endings -/

namespace FilePath

theorem splitName_append {stem ending : Bytes} (last : point ∉ ending) :
    splitName (stem ++ point :: ending) =
      if stem.isEmpty then (stem ++ point :: ending, none) else (stem, some ending) := by
  have after : ((stem ++ point :: ending).reverse.takeWhile (· ≠ point)).reverse = ending := by
    have plain : ∀ b ∈ ending.reverse, decide (b ≠ point) = true := by
      intro b mem
      refine decide_eq_true fun e => last ?_
      rwa [← e, ← List.mem_reverse]
    rw [List.reverse_append, List.reverse_cons, List.append_assoc, List.singleton_append,
      takeWhile_of_stops plain (stops_cons (by simp) _), List.reverse_reverse]
  have before : (stem ++ point :: ending).take ((stem ++ point :: ending).length - ending.length - 1) = stem := by
    rw [List.length_append, List.length_cons, Nat.add_sub_assoc (by omega), Nat.add_sub_cancel_left,
      Nat.add_sub_cancel, List.take_left]
  unfold splitName
  simp only [after, before]

theorem splitName_of_not_mem {name : Bytes} (pointless : point ∉ name) : splitName name = (name, none) := by
  have whole : name.reverse.takeWhile (· ≠ point) = name.reverse := by
    refine List.takeWhile_eq_self_iff.mpr fun b mem => decide_eq_true fun e => pointless ?_
    rwa [← e, ← List.mem_reverse]
  unfold splitName
  simp only [whole, List.reverse_reverse, Nat.sub_self, Nat.zero_sub, List.take_zero, List.isEmpty_nil, if_true]

/-- A name is split at its last point, where something stands before it. -/
theorem splitName_eq_some {name stem ending : Bytes} : splitName name = (stem, some ending) ↔
    stem ≠ [] ∧ point ∉ ending ∧ name = stem ++ point :: ending := by
  constructor
  · intro h
    by_cases pointed : point ∈ name.reverse
    · obtain ⟨after, before, split, last⟩ := List.eq_append_cons_of_mem pointed
      obtain rfl : name = before.reverse ++ point :: after.reverse := by
        rw [← List.reverse_reverse name, split]
        simp
      have last : point ∉ after.reverse := by rwa [List.mem_reverse]
      rw [splitName_append last] at h
      split at h
      · cases h
      · rename_i some
        obtain ⟨rfl, rfl⟩ : before.reverse = stem ∧ after.reverse = ending := by simpa using h
        exact ⟨by simpa using some, last, rfl⟩
    · rw [splitName_of_not_mem (by simpa using pointed)] at h
      cases h
  · rintro ⟨some, last, rfl⟩
    rw [splitName_append last, if_neg (by simpa using some)]

end FilePath

/-! ## Places of a file system -/

namespace FileSystem

/-- There is at most one entry for each place. -/
def Distinct (fs : FileSystem) : Prop := (fs.entries.map (·.1)).Nodup

theorem distinct_empty : empty.Distinct := List.nodup_nil

variable {fs : FileSystem}

theorem distinct_put (h : fs.Distinct) (names : List Bytes) (e : Entry) : (fs.put names e).Distinct := by
  refine List.nodup_cons.mpr ⟨fun mem => ?_, (List.filter_sublist.map _).nodup h⟩
  obtain ⟨entry, kept, same⟩ := List.mem_map.mp mem
  exact of_decide_eq_true (List.mem_filter.mp kept).2 same

theorem distinct_makeWay {place : Place} {names : List Bytes} {next : FileSystem} (h : fs.Distinct)
    (made : fs.makeWay place names = .ok next) : next.Distinct := by
  induction names generalizing fs place with
  | nil =>
    unfold makeWay at made
    split at made
    · obtain rfl := Except.ok.inj made
      exact h
    · cases made
  | cons name rest ih =>
    unfold makeWay at made
    split at made
    · split at made
      · exact ih h made
      · exact ih (distinct_put h _ _) made
      · cases made
    · cases made

theorem distinct_makeDirectory {path : FilePath} {next : FileSystem} (h : fs.Distinct)
    (made : fs.makeDirectory path = .ok next) : next.Distinct := by
  unfold makeDirectory at made
  split at made
  · obtain rfl := Except.ok.inj made
    exact h
  · exact distinct_makeWay h made

theorem distinct_writeFile {path : FilePath} {content : Bytes} {next : FileSystem} (h : fs.Distinct)
    (written : fs.writeFile path content = .ok next) : next.Distinct := by
  unfold writeFile at written
  dsimp only at written
  split at written
  · split at written
    · cases written
    · obtain rfl := Except.ok.inj written
      exact distinct_put h _ _
    · cases written
  all_goals cases written

theorem nodup_namesAt (h : fs.Distinct) (place : Place) : (fs.namesAt place).Nodup := by
  cases place with
  | below names =>
    refine List.Pairwise.filterMap _ ?_ (List.pairwise_map.mp h)
    rintro ⟨own, e⟩ ⟨other, e'⟩ apart name there name' there' rfl
    simp only [Option.ite_none_right_eq_some] at there there'
    have place : own = names ++ [name] := by
      rw [← there.1, List.dropLast_append_getLast? name there.2]
    have place' : other = names ++ [name] := by
      rw [← there'.1, List.dropLast_append_getLast? name there'.2]
    exact apart (place.trans place'.symm)
  | elsewhere => exact List.nodup_nil

theorem nodup_readDirectory {path : FilePath} {names : List Bytes} (h : fs.Distinct)
    (readable : fs.readDirectory path = .ok names) : names.Nodup := by
  unfold readDirectory at readable
  split at readable
  · split at readable
    · obtain rfl := Except.ok.inj readable
      exact nodup_namesAt h _
    · cases readable
    · cases readable
  · cases readable

end FileSystem

end JsonSchema
