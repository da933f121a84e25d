import GoCoverage.Profile.Reader
import Mathlib.Data.List.Basic

/-! # Block lines as they are written

A block line is the name of a file, a colon, and six numerals with marks between them
(`BlockText.line`).  A numeral is what stands for a number in decimal, perhaps with zeros before it
(`IsNumeral`).  Reading such a line gives back the file and the block (`blockOfLine_line`): no mark
is a digit, so every numeral is read to its end, and no numeral holds a colon, so the last colon of
the line is the one after the file, whatever the file is called. -/

namespace GoCoverage.Profile

open Text

/-! ## Digits -/

section Digits

variable {c : Char}

theorem isDecimalDigit_of_isDigit (h : c.isDigit) : isDecimalDigit c := by
  rw [Char.isDigit_iff_toNat] at h
  refine List.any_eq_true.mpr ⟨(0x30, 0x39), List.mem_cons_self, ?_⟩
  simpa using h

theorem not_isBlank_of_isDigit (h : c.isDigit) : ¬ isBlank c := by
  have bounds : 48 ≤ c.toNat ∧ c.toNat ≤ 57 := Char.isDigit_iff_toNat.mp h
  simp only [isBlank, CodeRanges.contains, blanks, List.any_cons, List.any_nil, Bool.or_eq_true,
    Bool.and_eq_true, decide_eq_true_eq, Bool.false_eq_true, or_false]
  omega

theorem allDigits_iff {text : List Char} :
    allDigits text ↔ text ≠ [] ∧ ∀ c ∈ text, isDecimalDigit c := by
  simp [allDigits]

end Digits

/-! ## Numerals -/

/-- A decimal numeral of a number, perhaps with zeros before it. -/
def IsNumeral (value : Nat) (text : List Char) : Prop :=
  ∃ zeros, text = List.replicate zeros '0' ++ Nat.toDigits 10 value

section Numerals

variable {value : Nat} {text : List Char} {quantity : Quantity}

theorem natural?_concat (text : List Char) (c : Char) :
    natural? (text ++ [c]) =
      (natural? text).bind fun value => (digitValue? c).map (10 * value + ·) := by
  simp [natural?, List.foldlM_append, Option.bind_eq_bind]

theorem digitValue?_digitChar {digit : Nat} (h : digit < 10) :
    digitValue? digit.digitChar = some digit := by
  revert digit
  decide

/-- The digits of a number are read as the number. -/
theorem natural?_toDigits (value : Nat) : natural? (Nat.toDigits 10 value) = some value := by
  induction value using Nat.strongRecOn with
  | ind value ih =>
    rcases Nat.lt_or_ge value 10 with small | large
    · rw [Nat.toDigits_of_lt_base small, ← List.nil_append [_], natural?_concat,
        digitValue?_digitChar small]
      simp [natural?]
    · have last : value % 10 < 10 := Nat.mod_lt value (by decide)
      rw [Nat.toDigits_of_base_le (by decide) large, natural?_concat, ih (value / 10) (by omega),
        digitValue?_digitChar last]
      simp [Nat.div_add_mod]

/-- Zeros before a number change nothing. -/
theorem IsNumeral.natural?_eq (h : IsNumeral value text) : natural? text = some value := by
  obtain ⟨zeros, rfl⟩ := h
  induction zeros with
  | zero => exact natural?_toDigits value
  | succ zeros ih => exact ih

theorem IsNumeral.isDigit (h : IsNumeral value text) {c : Char} (member : c ∈ text) :
    c.isDigit := by
  obtain ⟨zeros, rfl⟩ := h
  rcases List.mem_append.mp member with zero | digit
  · rw [List.eq_of_mem_replicate zero]
    rfl
  · exact Nat.isDigit_of_mem_toDigits (by decide) (by decide) digit

theorem IsNumeral.ne_nil (h : IsNumeral value text) : text ≠ [] := by
  obtain ⟨zeros, rfl⟩ := h
  exact List.append_ne_nil_of_right_ne_nil _ Nat.toDigits_ne_nil

theorem IsNumeral.allDigits (h : IsNumeral value text) : allDigits text :=
  allDigits_iff.mpr ⟨h.ne_nil, fun _ member => isDecimalDigit_of_isDigit (h.isDigit member)⟩

theorem IsNumeral.number_eq (h : IsNumeral value text) (le : value ≤ largestCount) :
    number quantity text = .ok value := by
  rw [number, h.natural?_eq]
  exact if_pos le

theorem IsNumeral.position_eq (h : IsNumeral value text) (positive : 1 ≤ value)
    (le : value ≤ largestPosition) : position quantity text = .ok value := by
  have fits : value ≤ largestCount := Nat.le_trans le (by decide)
  rw [position, h.number_eq fits]
  show (if value = 0 then _ else if value ≤ largestPosition then _ else _) = _
  rw [if_neg (by omega), if_pos le]

end Numerals

/-! ## Splitting lines -/

section Splitting

variable {digits rest before last : List Char} {mark : Char}

theorem not_mem_of_allDigits (h : allDigits digits) (notDigit : ¬ isDecimalDigit mark) :
    mark ∉ digits :=
  fun member => notDigit ((allDigits_iff.mp h).2 mark member)

/-- Digits are read up to the first mark that is no digit. -/
theorem digitsUpTo?_append (h : allDigits digits) (notDigit : ¬ isDecimalDigit mark) :
    digitsUpTo? mark (digits ++ mark :: rest) = some (digits, rest) := by
  obtain ⟨nonempty, all⟩ := allDigits_iff.mp h
  have taken : (digits ++ mark :: rest).takeWhile isDecimalDigit = digits := by
    rw [List.takeWhile_append_of_pos all, List.takeWhile_cons_of_neg notDigit, List.append_nil]
  rw [digitsUpTo?, taken, List.drop_left]
  cases digits with
  | nil => exact absurd rfl nonempty
  | cons digit digits => exact if_pos rfl

/-- A text is split at its last mark: what stands before it may hold more of them. -/
theorem splitLast?_append (h : mark ∉ last) :
    splitLast? mark (before ++ mark :: last) = some (before, last) := by
  have reversed : (before ++ mark :: last).reverse = last.reverse ++ mark :: before.reverse := by
    simp
  have others : ∀ c ∈ last.reverse, decide (c ≠ mark) = true := by
    intro c member
    have member : c ∈ last := List.mem_reverse.mp member
    simpa using fun same : c = mark => h (same ▸ member)
  have taken : (last.reverse ++ mark :: before.reverse).takeWhile (· ≠ mark) = last.reverse := by
    rw [List.takeWhile_append_of_pos others, List.takeWhile_cons_of_neg (by simp), List.append_nil]
  rw [splitLast?, reversed, taken, List.drop_left]
  simp

end Splitting

/-! ## Block lines -/

namespace BlockText

/-- What stands after the file in a block line. -/
def range (text : BlockText) : List Char :=
  text.startLine ++ '.' :: (text.startColumn ++ ',' :: (text.endLine ++ '.' ::
    (text.endColumn ++ ' ' :: (text.statements ++ ' ' :: text.executions))))

/-- The line that has the given parts. -/
def line (text : BlockText) : List Char := text.file ++ ':' :: text.range

/-- The number of executions stands at the end of the line. -/
theorem executions_isSuffix_line (text : BlockText) : text.executions <:+ text.line := by
  refine ⟨text.file ++ ':' :: (text.startLine ++ '.' :: (text.startColumn ++ ',' ::
    (text.endLine ++ '.' :: (text.endColumn ++ ' ' :: (text.statements ++ [' ']))))), ?_⟩
  simp [line, range]

/-- The parts of a line that has the form of a block: there is a file, and all numbers are written
in digits. -/
structure WellFormed (text : BlockText) : Prop where
  file : text.file ≠ []
  startLine : allDigits text.startLine
  startColumn : allDigits text.startColumn
  endLine : allDigits text.endLine
  endColumn : allDigits text.endColumn
  statements : allDigits text.statements
  executions : allDigits text.executions

variable {text : BlockText}

/-- Behind the file, a line has digits and the marks between numbers, and nothing else. -/
theorem not_mem_range (h : text.WellFormed) {c : Char} (notDigit : ¬ isDecimalDigit c)
    (notMark : c ∉ ['.', ',', ' ']) : c ∉ text.range := by
  have none : ∀ {digits : List Char}, allDigits digits → c ∉ digits :=
    fun all => not_mem_of_allDigits all notDigit
  simp only [List.mem_cons, List.not_mem_nil, or_false, not_or] at notMark
  simp [range, notMark, none h.startLine, none h.startColumn, none h.endLine, none h.endColumn,
    none h.statements, none h.executions]

/-- **The parts of a line are found again**, also if the file has colons in its name. -/
theorem ofLine?_line (h : text.WellFormed) : ofLine? text.line = some text := by
  have nonempty : !text.file.isEmpty := by simpa using h.file
  have named : splitLast? ':' text.line = some (text.file, text.range) :=
    splitLast?_append (not_mem_range h (by decide) (by decide))
  refine Option.bind_eq_some_iff.mpr ⟨_, named, ?_⟩
  refine Option.bind_eq_some_iff.mpr ⟨(), if_pos nonempty, ?_⟩
  -- each numeral is read up to the mark behind it
  refine Option.bind_eq_some_iff.mpr ⟨_, digitsUpTo?_append h.startLine (by decide), ?_⟩
  refine Option.bind_eq_some_iff.mpr ⟨_, digitsUpTo?_append h.startColumn (by decide), ?_⟩
  refine Option.bind_eq_some_iff.mpr ⟨_, digitsUpTo?_append h.endLine (by decide), ?_⟩
  refine Option.bind_eq_some_iff.mpr ⟨_, digitsUpTo?_append h.endColumn (by decide), ?_⟩
  refine Option.bind_eq_some_iff.mpr ⟨_, digitsUpTo?_append h.statements (by decide), ?_⟩
  exact Option.bind_eq_some_iff.mpr ⟨(), if_pos h.executions, rfl⟩

/-- The parts of a block line are those of a file and a block: the name of the file, and numerals of
the numbers. -/
structure Writes (text : BlockText) (entry : String × Block) : Prop where
  file : text.file = entry.1.toList
  startLine : IsNumeral entry.2.start.line text.startLine
  startColumn : IsNumeral entry.2.start.column text.startColumn
  endLine : IsNumeral entry.2.finish.line text.endLine
  endColumn : IsNumeral entry.2.finish.column text.endColumn
  statements : IsNumeral entry.2.statements text.statements
  executions : IsNumeral entry.2.hits text.executions

end BlockText

/-- The numbers of a block are such as a profile can hold: lines and columns from one up to the
largest position, at most as many statements, and executions up to the largest count. -/
structure Block.InRange (block : Block) : Prop where
  startLine : 1 ≤ block.start.line ∧ block.start.line ≤ largestPosition
  startColumn : 1 ≤ block.start.column ∧ block.start.column ≤ largestPosition
  endLine : 1 ≤ block.finish.line ∧ block.finish.line ≤ largestPosition
  endColumn : 1 ≤ block.finish.column ∧ block.finish.column ≤ largestPosition
  statements : block.statements ≤ largestPosition
  hits : block.hits ≤ largestCount

section Reading

variable {text : BlockText} {entry : String × Block}

theorem BlockText.Writes.wellFormed (writes : text.Writes entry) (named : entry.1 ≠ "") :
    text.WellFormed where
  file := by
    rw [writes.file]
    exact fun empty => named (String.toList_eq_nil_iff.mp empty)
  startLine := writes.startLine.allDigits
  startColumn := writes.startColumn.allDigits
  endLine := writes.endLine.allDigits
  endColumn := writes.endColumn.allDigits
  statements := writes.statements.allDigits
  executions := writes.executions.allDigits

theorem BlockText.Writes.block_eq (writes : text.Writes entry) (inRange : entry.2.InRange) :
    text.block = .ok entry.2 := by
  have statements : entry.2.statements ≤ largestCount :=
    Nat.le_trans inRange.statements (by decide)
  rw [BlockText.block,
    writes.startLine.position_eq inRange.startLine.1 inRange.startLine.2,
    writes.startColumn.position_eq inRange.startColumn.1 inRange.startColumn.2,
    writes.endLine.position_eq inRange.endLine.1 inRange.endLine.2,
    writes.endColumn.position_eq inRange.endColumn.1 inRange.endColumn.2,
    writes.statements.number_eq statements,
    writes.executions.number_eq inRange.hits]
  exact if_neg (Nat.not_lt.mpr inRange.statements)

/-- **A block line gives back its file and its block.** -/
theorem blockOfLine_line (writes : text.Writes entry) (named : entry.1 ≠ "")
    (inRange : entry.2.InRange) : blockOfLine text.line = .ok entry := by
  rw [blockOfLine, BlockText.ofLine?_line (writes.wellFormed named)]
  show text.block.map (String.ofList text.file, ·) = .ok entry
  rw [writes.block_eq inRange, writes.file, String.ofList_toList]
  rfl

end Reading

end GoCoverage.Profile
