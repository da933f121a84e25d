import GoCoverage.Proofs.Outcome
import GoCoverage.Proofs.Profile.BlockLine
import Mathlib.Data.List.Induction
import Mathlib.Data.List.TakeWhile

/-! # Block lines as they are read

A line is read as a block only if it is written as one: a file that has a name, a colon, and
numerals of numbers in range, with the marks of a block line between them (`blockOfLine_eq_ok_iff`).
Nothing is lost on the way back, since the parts of a line put together again are the line
(`BlockText.ofLine?_eq_some_iff`), and a text that is read as a number is a numeral of that number
(`isNumeral_of_natural?`).  So digits that are no ASCII digits, which a block line may have by its
form, are refused as numbers. -/

namespace GoCoverage.Profile

open Text

/-! ## Numerals that are read -/

section Numerals

variable {value : Nat} {text : List Char} {quantity : Quantity} {c : Char}

/-- A character that has a value is the digit for it. -/
theorem eq_digitChar_of_digitValue? (h : digitValue? c = some value) :
    value < 10 ∧ c = value.digitChar := by
  unfold digitValue? at h
  split at h
  · rename_i bounds
    have low : 48 ≤ c.toNat := bounds.1
    have high : c.toNat ≤ 57 := bounds.2
    cases h
    have small : c.toNat - '0'.toNat < 10 := by
      show c.toNat - 48 < 10
      omega
    have code : ∀ digit : Fin 10, digit.val.digitChar.toNat = 48 + digit.val := by decide
    refine ⟨small, Char.toNat_inj.mp ?_⟩
    rw [code ⟨_, small⟩]
    show c.toNat = 48 + (c.toNat - 48)
    omega
  · cases h

/-- **A text that is read as a number is a numeral of it.**  The induction is on the digits from the
last one on: zeros stay in front as long as the number is zero. -/
theorem isNumeral_of_natural? (nonempty : text ≠ []) (h : natural? text = some value) :
    IsNumeral value text := by
  induction text using List.reverseRecOn generalizing value with
  | nil => exact absurd rfl nonempty
  | append_singleton text c ih =>
    rw [natural?_concat] at h
    obtain ⟨before, isBefore, last⟩ := Option.bind_eq_some_iff.mp h
    obtain ⟨digit, isDigit, rfl⟩ := Option.map_eq_some_iff.mp last
    obtain ⟨small, rfl⟩ := eq_digitChar_of_digitValue? isDigit
    by_cases first : text = []
    · subst first
      obtain rfl : 0 = before := Option.some.inj isBefore
      refine ⟨0, ?_⟩
      rw [Nat.mul_zero, Nat.zero_add, Nat.toDigits_of_lt_base small]
      rfl
    · obtain ⟨zeros, rfl⟩ := ih first isBefore
      rcases Nat.eq_zero_or_pos before with rfl | positive
      · refine ⟨zeros + 1, ?_⟩
        rw [Nat.mul_zero, Nat.zero_add, Nat.toDigits_of_lt_base small, List.replicate_succ']
        rfl
      · refine ⟨zeros, ?_⟩
        have quotient : (10 * before + digit) / 10 = before := by omega
        have remainder : (10 * before + digit) % 10 = digit := by omega
        rw [Nat.toDigits_of_base_le (by decide) (by omega : 10 ≤ 10 * before + digit), quotient,
          remainder, List.append_assoc]

theorem of_number_eq_ok (h : number quantity text = .ok value) :
    natural? text = some value ∧ value ≤ largestCount := by
  unfold number at h
  split at h
  · rename_i read
    split at h
    · rename_i le
      cases h
      exact ⟨read, le⟩
    · cases h
  · cases h

theorem of_position_eq_ok (h : position quantity text = .ok value) :
    natural? text = some value ∧ 1 ≤ value ∧ value ≤ largestPosition := by
  obtain ⟨number, isNumber, h⟩ := bind_eq_ok.mp h
  split at h
  · cases h
  · rename_i nonzero
    split at h
    · rename_i le
      cases h
      exact ⟨(of_number_eq_ok isNumber).1, Nat.one_le_iff_ne_zero.mpr nonzero, le⟩
    · cases h

end Numerals

/-! ## Block lines that are read -/

section Splitting

variable {text digits rest before last : List Char} {mark : Char}

/-- A list is what is taken of it and what is left, and what is left does not begin with anything
that would have been taken. -/
theorem takeWhile_drop_length {α : Type} (p : α → Bool) (list : List α) :
    list.takeWhile p ++ list.drop (list.takeWhile p).length = list ∧
      ∀ a ∈ (list.drop (list.takeWhile p).length).head?, ¬ p a := by
  induction list with
  | nil => simp
  | cons a list ih =>
    by_cases taken : p a
    · rw [List.takeWhile_cons_of_pos taken, List.length_cons, List.drop_succ_cons, List.cons_append]
      exact ⟨congrArg (a :: ·) ih.1, ih.2⟩
    · rw [List.takeWhile_cons_of_neg taken]
      simpa using taken

theorem of_digitsUpTo? (h : digitsUpTo? mark text = some (digits, rest)) :
    allDigits digits ∧ digits ++ mark :: rest = text := by
  obtain ⟨whole, -⟩ := takeWhile_drop_length isDecimalDigit text
  unfold digitsUpTo? at h
  dsimp only at h
  split at h
  · cases h
  · cases h
  · rename_i c behind left nonempty
    split at h
    · rename_i isMark
      cases h
      rw [left, isMark] at whole
      exact ⟨allDigits_iff.mpr ⟨nonempty, fun _ member => List.mem_takeWhile_imp member⟩, whole⟩
    · cases h

theorem of_splitLast? (h : splitLast? mark text = some (before, last)) :
    before ++ mark :: last = text := by
  obtain ⟨whole, ends⟩ := takeWhile_drop_length (· ≠ mark) text.reverse
  unfold splitLast? at h
  dsimp only at h
  split at h
  · cases h
  · rename_i c behind left
    cases h
    have isMark : c = mark := by
      rw [left] at ends
      simpa using ends c rfl
    rw [left, isMark] at whole
    have back := congrArg List.reverse whole
    rw [List.reverse_reverse, List.reverse_append, List.reverse_cons, List.append_assoc] at back
    exact back

end Splitting

section Reading

variable {text : BlockText} {line : List Char} {entry : String × Block}

/-- **A line has the form of a block exactly if it is laid out as one**, and then its parts are
those of the layout. -/
theorem BlockText.ofLine?_eq_some_iff :
    ofLine? line = some text ↔ text.WellFormed ∧ text.line = line := by
  constructor
  · intro h
    obtain ⟨⟨file, range⟩, named, h⟩ := Option.bind_eq_some_iff.mp h
    obtain ⟨_, nonempty, h⟩ := Option.bind_eq_some_iff.mp h
    obtain ⟨⟨startLine, afterStartLine⟩, isStartLine, h⟩ := Option.bind_eq_some_iff.mp h
    obtain ⟨⟨startColumn, afterStartColumn⟩, isStartColumn, h⟩ := Option.bind_eq_some_iff.mp h
    obtain ⟨⟨endLine, afterEndLine⟩, isEndLine, h⟩ := Option.bind_eq_some_iff.mp h
    obtain ⟨⟨endColumn, afterEndColumn⟩, isEndColumn, h⟩ := Option.bind_eq_some_iff.mp h
    obtain ⟨⟨statements, executions⟩, isStatements, h⟩ := Option.bind_eq_some_iff.mp h
    obtain ⟨_, isExecutions, h⟩ := Option.bind_eq_some_iff.mp h
    cases h
    -- from the last part to the first, each is put back before what followed it
    obtain ⟨statementsDigits, rfl⟩ := of_digitsUpTo? isStatements
    obtain ⟨endColumnDigits, rfl⟩ := of_digitsUpTo? isEndColumn
    obtain ⟨endLineDigits, rfl⟩ := of_digitsUpTo? isEndLine
    obtain ⟨startColumnDigits, rfl⟩ := of_digitsUpTo? isStartColumn
    obtain ⟨startLineDigits, rfl⟩ := of_digitsUpTo? isStartLine
    have nonempty : (!file.isEmpty) = true := by
      by_contra none
      rw [guard, if_neg none] at nonempty
      cases nonempty
    have executionsDigits : allDigits executions = true := by
      by_contra none
      rw [guard, if_neg none] at isExecutions
      cases isExecutions
    refine ⟨⟨by simpa using nonempty, startLineDigits, startColumnDigits, endLineDigits,
      endColumnDigits, statementsDigits, executionsDigits⟩, of_splitLast? named⟩
  · rintro ⟨wellFormed, rfl⟩
    exact ofLine?_line wellFormed

/-- The numbers of a block are those that its parts are numerals of. -/
theorem BlockText.writes_of_block_eq {block : Block} (wellFormed : text.WellFormed)
    (h : text.block = .ok block) :
    text.Writes (String.ofList text.file, block) ∧ block.InRange := by
  obtain ⟨startLine, isStartLine, h⟩ := bind_eq_ok.mp h
  obtain ⟨startColumn, isStartColumn, h⟩ := bind_eq_ok.mp h
  obtain ⟨endLine, isEndLine, h⟩ := bind_eq_ok.mp h
  obtain ⟨endColumn, isEndColumn, h⟩ := bind_eq_ok.mp h
  obtain ⟨statements, isStatements, h⟩ := bind_eq_ok.mp h
  split at h
  · cases h
  · rename_i few
    obtain ⟨executions, isExecutions, h⟩ := bind_eq_ok.mp h
    cases h
    have numeral : ∀ {digits : List Char} {value : Nat}, allDigits digits →
        natural? digits = some value → IsNumeral value digits :=
      fun digits read => isNumeral_of_natural? (allDigits_iff.mp digits).1 read
    have startLine := of_position_eq_ok isStartLine
    have startColumn := of_position_eq_ok isStartColumn
    have endLine := of_position_eq_ok isEndLine
    have endColumn := of_position_eq_ok isEndColumn
    have statements := of_number_eq_ok isStatements
    have executions := of_number_eq_ok isExecutions
    constructor
    · exact {
        file := String.toList_ofList.symm
        startLine := numeral wellFormed.startLine startLine.1
        startColumn := numeral wellFormed.startColumn startColumn.1
        endLine := numeral wellFormed.endLine endLine.1
        endColumn := numeral wellFormed.endColumn endColumn.1
        statements := numeral wellFormed.statements statements.1
        executions := numeral wellFormed.executions executions.1 }
    · exact {
        startLine := startLine.2
        startColumn := startColumn.2
        endLine := endLine.2
        endColumn := endColumn.2
        statements := Nat.not_lt.mp few
        hits := executions.2 }

/-- **A line is read as a block exactly if it is written as one**: a file that has a name, a colon,
and numerals of numbers in range. -/
theorem blockOfLine_eq_ok_iff :
    blockOfLine line = .ok entry ↔
      ∃ text : BlockText, text.Writes entry ∧ entry.1 ≠ "" ∧ entry.2.InRange ∧
        text.line = line := by
  constructor
  · intro h
    unfold blockOfLine at h
    split at h
    · cases h
    · rename_i text formed
      obtain ⟨block, isBlock, rfl⟩ := map_eq_ok.mp h
      obtain ⟨wellFormed, rfl⟩ := BlockText.ofLine?_eq_some_iff.mp formed
      obtain ⟨writes, inRange⟩ := BlockText.writes_of_block_eq wellFormed isBlock
      refine ⟨text, writes, fun empty => wellFormed.file ?_, inRange, rfl⟩
      exact String.ofList_eq_empty_iff.mp empty
  · rintro ⟨text, writes, named, inRange, rfl⟩
    exact blockOfLine_line writes named inRange

end Reading

end GoCoverage.Profile
