import GoCoverage.Proofs.Text.Position
import GoCoverage.Text.Split
import Mathlib.Data.List.Basic

/-! # Lines of an encoded text

A line break is one byte that no other character has in its encoding.  So the lines of encoded bytes
are the encoded lines of the text (`linesOf_encode`), and bytes whose lines are all encoded texts
are an encoded text themselves (`exists_decode?_of_lines`).  Bytes that are no text have a first
line that is none (`exists_undecodableAfter`). -/

namespace GoCoverage.Text

/-! ## Encoded texts -/

section Encoding

variable {bytes : List UInt8} {text : String} {line : List Char}

/-- The encoding of a line. -/
def encodeLine (line : List Char) : List UInt8 := encode (String.ofList line)

theorem encodeLine_eq (line : List Char) :
    encodeLine line = line.flatMap String.utf8EncodeChar := encode_ofList line

theorem encode_eq (text : String) : encode text = encodeLine text.toList := by
  rw [encodeLine, String.ofList_toList]

/-- Bytes are decoded exactly to the text that they encode. -/
theorem decode?_eq_some_iff : decode? bytes = some text ↔ encode text = bytes := by
  constructor
  · intro h
    unfold decode? String.fromUTF8? at h
    split at h
    · cases h
      show (String.fromUTF8 _ _).toUTF8.data.toList = bytes
      rfl
    · cases h
  · rintro rfl
    exact decode?_encode text

theorem decode?_encodeLine (line : List Char) :
    (decode? (encodeLine line)).map String.toList = some line := by
  rw [encodeLine, decode?_encode, Option.map_some, String.toList_ofList]

theorem encodeLine_eq_nil_iff : encodeLine line = [] ↔ line = [] := by
  rw [encodeLine_eq, List.flatMap_eq_nil_iff]
  constructor
  · intro none
    refine List.eq_nil_iff_forall_not_mem.mpr fun c member => ?_
    have length := String.length_utf8EncodeChar c
    rw [none c member, List.length_nil] at length
    exact absurd length.symm (Nat.ne_of_gt c.utf8Size_pos)
  · rintro rfl
    simp

theorem lineBreakByte_not_mem_encodeLine (h : '\n' ∉ line) :
    lineBreakByte ∉ encodeLine line := by
  rw [encodeLine_eq]
  intro member
  obtain ⟨c, isChar, inEncoding⟩ := List.mem_flatMap.mp member
  exact ne_lineBreakByte_of_mem (fun same => h (same ▸ isChar)) inEncoding rfl

/-- Lines with breaks between them are encoded one by one. -/
theorem encodeLine_intercalate (lines : List (List Char)) :
    encodeLine (['\n'].intercalate lines) = [lineBreakByte].intercalate (lines.map encodeLine) := by
  have lineBreak : ['\n'].flatMap String.utf8EncodeChar = [lineBreakByte] := rfl
  induction lines with
  | nil => rfl
  | cons line lines ih =>
    cases lines with
    | nil => simp [List.intercalate]
    | cons other lines =>
      rw [List.intercalate_cons_cons, encodeLine_eq, List.flatMap_append, List.flatMap_append,
        lineBreak, ← encodeLine_eq, ← encodeLine_eq, ih]
      simp only [List.map_cons, List.intercalate_cons_cons]

end Encoding

/-! ## Lines -/

section Lines

variable {bytes : List UInt8}

/-- No piece of a list that is split holds what it was split at. -/
theorem not_mem_of_mem_splitOn {α : Type} [BEq α] [LawfulBEq α] {mark : α} {list piece : List α}
    (member : piece ∈ list.splitOn mark) : mark ∉ piece := by
  induction list generalizing piece with
  | nil =>
    rw [List.splitOn_nil, List.mem_singleton] at member
    simp [member]
  | cons a list ih =>
    rw [List.splitOn_cons_eq_if_modifyHead] at member
    split at member
    · rcases List.mem_cons.mp member with rfl | member
      · simp
      · exact ih member
    · rename_i other
      obtain ⟨first, others, split⟩ :=
        List.exists_cons_of_ne_nil (List.splitOn_ne_nil mark list)
      rw [split, List.modifyHead_cons] at member
      rcases List.mem_cons.mp member with rfl | member
      · have notFirst : mark ∉ first := ih (split ▸ List.mem_cons_self)
        simp only [beq_iff_eq] at other
        simp [notFirst, Ne.symm other]
      · exact ih (split ▸ List.mem_cons_of_mem first member)

/-- A piece of a split list stands between two marks, or between a mark and an end of the list. -/
theorem exists_around_of_mem_splitOn {α : Type} [BEq α] [LawfulBEq α] {mark : α}
    {list piece : List α} (member : piece ∈ list.splitOn mark) :
    ∃ before after, list = before ++ piece ++ after ∧ (∀ a ∈ before.getLast?, a = mark) ∧
      ∀ a ∈ after.head?, a = mark := by
  induction n : list.length using Nat.strongRecOn generalizing list with
  | _ n ih =>
  subst n
  by_cases marked : mark ∈ list
  · -- the pieces are those before one of the marks and those after it
    obtain ⟨first, last, rfl⟩ := List.append_of_mem marked
    rw [List.splitOn_append_cons_self] at member
    rcases List.mem_append.mp member with member | member
    · obtain ⟨before, after, rfl, ends, begins⟩ := ih first.length (by simp) member rfl
      refine ⟨before, after ++ mark :: last, by simp, ends, ?_⟩
      cases after with
      | nil => simp
      | cons a after => exact begins
    · obtain ⟨before, after, rfl, ends, begins⟩ := ih last.length (by simp; omega) member rfl
      refine ⟨first ++ mark :: before, after, by simp, ?_, begins⟩
      cases before with
      | nil => simp
      | cons b before => simpa using ends
  · rw [List.splitOn_eq_singleton marked, List.mem_singleton] at member
    exact ⟨[], [], by simp [member], by simp, by simp⟩

/-- **The pieces of a split list are what stands between two marks**, or between a mark and an end
of the list, and holds no mark. -/
theorem mem_splitOn_iff {α : Type} [BEq α] [LawfulBEq α] {mark : α} {list piece : List α} :
    piece ∈ list.splitOn mark ↔
      mark ∉ piece ∧ ∃ before after, list = before ++ piece ++ after ∧
        (∀ a ∈ before.getLast?, a = mark) ∧ ∀ a ∈ after.head?, a = mark := by
  refine ⟨fun member => ⟨not_mem_of_mem_splitOn member, exists_around_of_mem_splitOn member⟩, ?_⟩
  rintro ⟨free, before, after, rfl, ends, begins⟩
  -- nothing of what is after the piece belongs to it, and what is before it brings other pieces
  have alone : piece ∈ (piece ++ after).splitOn mark := by
    cases after with
    | nil => simp [List.splitOn_eq_singleton free]
    | cons a after =>
      obtain rfl := begins a rfl
      simp [List.splitOn_append_cons_self, List.splitOn_eq_singleton free]
  rcases List.eq_nil_or_concat' before with rfl | ⟨before, a, rfl⟩
  · exact alone
  · obtain rfl := ends a (by simp)
    rw [List.append_assoc, List.append_assoc, List.singleton_append,
      List.splitOn_append_cons_self]
    exact List.mem_append_right _ alone

theorem splitOn_encodeLine (text : List Char) :
    (encodeLine text).splitOn lineBreakByte = (text.splitOn '\n').map encodeLine := by
  have joined : ['\n'].intercalate (text.splitOn '\n') = text := List.intercalate_splitOn '\n'
  conv_lhs => rw [← joined, encodeLine_intercalate]
  refine List.splitOn_intercalate lineBreakByte ?_ ?_
  · intro bytes member
    obtain ⟨line, isLine, rfl⟩ := List.mem_map.mp member
    exact lineBreakByte_not_mem_encodeLine (not_mem_of_mem_splitOn isLine)
  · simp

/-- **The lines of an encoded text are its encoded lines.** -/
theorem linesOf_encode (text : String) :
    linesOf lineBreakByte (encode text) = (linesOf '\n' text.toList).map encodeLine := by
  rw [encode_eq, linesOf, linesOf, splitOn_encodeLine, List.getLast?_map]
  cases (text.toList.splitOn '\n').getLast? with
  | none => rfl
  | some last =>
    cases last with
    | nil => exact List.map_dropLast.symm
    | cons c last =>
      obtain ⟨byte, bytes, filled⟩ := List.exists_cons_of_ne_nil
        fun empty => List.cons_ne_nil c last (encodeLine_eq_nil_iff.mp empty)
      rw [Option.map_some, filled]

/-- The pieces between line breaks are the lines and perhaps an empty one. -/
theorem splitOn_eq_linesOf {α : Type} [BEq α] (lineBreak : α) (text : List α) :
    text.splitOn lineBreak = linesOf lineBreak text ∨
      text.splitOn lineBreak = linesOf lineBreak text ++ [[]] := by
  rw [linesOf]
  split
  · rename_i last
    exact .inr (List.dropLast_append_getLast? [] last).symm
  · exact .inl rfl

/-- A line that is not empty is a piece between line breaks. -/
theorem mem_linesOf_iff {α : Type} [BEq α] {lineBreak : α} {text line : List α}
    (nonempty : line ≠ []) : line ∈ linesOf lineBreak text ↔ line ∈ text.splitOn lineBreak := by
  rcases splitOn_eq_linesOf lineBreak text with same | broken
  · rw [same]
  · simp [broken, nonempty]

/-- Bytes whose lines are encoded are an encoded text. -/
theorem exists_decode?_of_lines {lines : List (List Char)}
    (h : linesOf lineBreakByte bytes = lines.map encodeLine) :
    ∃ text, decode? bytes = some text := by
  obtain ⟨pieces, split⟩ : ∃ pieces : List (List Char),
      bytes.splitOn lineBreakByte = pieces.map encodeLine := by
    rcases splitOn_eq_linesOf lineBreakByte bytes with same | broken
    · exact ⟨lines, same.trans h⟩
    · refine ⟨lines ++ [[]], ?_⟩
      rw [broken, h, List.map_append]
      rfl
  refine ⟨String.ofList (['\n'].intercalate pieces), decode?_eq_some_iff.mpr ?_⟩
  show encodeLine _ = bytes
  rw [encodeLine_intercalate, ← split, List.intercalate_splitOn]

/-- Some lines of bytes are encoded texts, and the one after them is the first that is no text. -/
def UndecodableAfter (texts : List (List Char)) (lines : List (List UInt8)) : Prop :=
  ∃ bad after, lines = texts.map encodeLine ++ bad :: after ∧ decode? bad = none

theorem encoded_or_undecodableAfter (lines : List (List UInt8)) :
    (∃ texts : List (List Char), lines = texts.map encodeLine) ∨
      ∃ texts, UndecodableAfter texts lines := by
  induction lines with
  | nil => exact .inl ⟨[], rfl⟩
  | cons line lines ih =>
    cases decoded : decode? line with
    | none => exact .inr ⟨[], line, lines, rfl, decoded⟩
    | some text =>
      have first : encodeLine text.toList = line := by
        rw [← encode_eq]
        exact decode?_eq_some_iff.mp decoded
      rcases ih with ⟨texts, rfl⟩ | ⟨texts, bad, after, rfl, isBad⟩
      · exact .inl ⟨text.toList :: texts, by rw [List.map_cons, first]⟩
      · exact .inr ⟨text.toList :: texts, bad, after,
          by rw [List.map_cons, first, List.cons_append], isBad⟩

/-- **Bytes that are no text have a first line that is none.** -/
theorem exists_undecodableAfter (h : decode? bytes = none) :
    ∃ texts, UndecodableAfter texts (linesOf lineBreakByte bytes) := by
  rcases encoded_or_undecodableAfter (linesOf lineBreakByte bytes) with ⟨texts, all⟩ | first
  · obtain ⟨text, decoded⟩ := exists_decode?_of_lines all
    rw [h] at decoded
    cases decoded
  · exact first

end Lines

end GoCoverage.Text
