import GoCoverage.Ignore
import GoCoverage.Proofs.Pattern.Matching
import GoCoverage.Proofs.Text.EncodedLines

/-! # Files that say they are generated

The pattern for generated files is found in a text exactly if one of the lines of the text begins
with the one fixed part and ends with the other one behind it (`occursIn_generated_iff`).  Between
the two anything may stand that stays on the line, the fixed parts themselves included.  A line ends
at a line feed or at the end of the text, so a carriage return before a line feed belongs to the
line and spoils it. -/

namespace GoCoverage

namespace Pattern

variable {text word line : List Char} {first : Pattern} {patterns others : List Pattern}
  {i j k : Nat}

/-- The line of a generated file that says so. -/
def SaysGenerated (line : List Char) : Prop :=
  ∃ between, line = "// Code generated ".toList ++ between ++ " DO NOT EDIT.".toList

/-! ## What the parts of the pattern match -/

theorem matches_sequenceOf_cons : (sequenceOf (first :: others)).Matches text i k ↔
    ∃ j, first.Matches text i j ∧ (sequenceOf others).Matches text j k := by
  cases others with
  | nil => simp [sequenceOf, Matches]
  | cons second others => rfl

theorem matches_sequenceOf_append : (sequenceOf (patterns ++ others)).Matches text i k ↔
    ∃ j, (sequenceOf patterns).Matches text i j ∧ (sequenceOf others).Matches text j k := by
  induction patterns generalizing i with
  | nil => simp [sequenceOf, Matches]
  | cons first patterns ih =>
    simp only [List.cons_append, matches_sequenceOf_cons, ih]
    constructor
    · rintro ⟨l, one, j, rest, last⟩
      exact ⟨j, ⟨l, one, rest⟩, last⟩
    · rintro ⟨j, ⟨l, one, rest⟩, last⟩
      exact ⟨l, one, j, rest, last⟩

/-- How parts in a row are grouped does not matter. -/
theorem matches_sequenceOf_flatten {rows : List (List Pattern)} :
    (sequenceOf rows.flatten).Matches text i k ↔
      (sequenceOf (rows.map sequenceOf)).Matches text i k := by
  induction rows generalizing i with
  | nil => rfl
  | cons row rows ih =>
    simp only [List.flatten_cons, List.map_cons, matches_sequenceOf_append, matches_sequenceOf_cons,
      ih]

/-- A literal matches itself. -/
theorem matches_literal_iff : (literal word).Matches text i j ↔ Spells text i j word := by
  induction word generalizing i with
  | nil => exact spells_nil_iff.symm
  | cons c word ih =>
    rw [literal, List.map_cons, matches_sequenceOf_cons, spells_cons_iff]
    constructor
    · rintro ⟨_, ⟨rfl, d, isChar, isSingle⟩, rest⟩
      obtain rfl : d = c := by simpa using isSingle
      exact ⟨isChar, ih.mp rest⟩
    · rintro ⟨isChar, rest⟩
      exact ⟨i + 1, ⟨rfl, c, isChar, by simp⟩, ih.mpr rest⟩

theorem contains_notLineFeed (c : Char) : notLineFeed.contains c = true ↔ c ≠ '\n' := by
  show (!(CharSet.single '\n').contains c) = true ↔ c ≠ '\n'
  simp

/-- Any number of characters other than line feeds. -/
theorem matches_unbroken_iff : (repeated (one notLineFeed) 0 none).Matches text i j ↔
    ∃ between, Spells text i j between ∧ '\n' ∉ between := by
  have chains : (repeated (one notLineFeed) 0 none).Matches text i j ↔
      ∃ n, Chain ((one notLineFeed).Matches text) n i j := by
    simp [Matches]
  rw [chains, exists_chain_one_iff, Within]
  simp only [contains_notLineFeed]
  refine exists_congr fun between => and_congr_right fun _ => ?_
  exact ⟨fun none member => none '\n' member rfl, fun free c member same => free (same ▸ member)⟩

/-! ## Lines by their places -/

theorem holds_startOfLine_iff (inside : i ≤ text.length) :
    Assertion.startOfLine.holds (around text i).1 (around text i).2 = true ↔
      ∀ c ∈ (text.take i).getLast?, c = '\n' := by
  cases i with
  | zero => simp [Assertion.holds, around]
  | succ i =>
    have isBefore : text[i]? = some text[i] := List.getElem?_eq_getElem inside
    simp [Assertion.holds, around, List.getLast?_take, isBefore]

theorem holds_endOfLine_iff :
    Assertion.endOfLine.holds (around text j).1 (around text j).2 = true ↔
      ∀ c ∈ (text.drop j).head?, c = '\n' := by
  cases isAfter : text[j]? <;> simp [Assertion.holds, around, List.head?_drop, isAfter]

theorem Spells.le_length (spelt : Spells text i j line) (nonempty : line ≠ []) :
    i ≤ text.length := by
  have left : text.drop i ≠ [] := by simp [spelt.2, nonempty]
  exact Nat.le_of_not_le fun outside => left (List.drop_eq_nil_of_le outside)

/-- **A line stands between a place where a line begins and a place where one ends**, with no line
feed in between. -/
theorem mem_splitOn_iff_spells (nonempty : line ≠ []) : line ∈ text.splitOn '\n' ↔
    '\n' ∉ line ∧ ∃ i j, Spells text i j line ∧
      Assertion.startOfLine.holds (around text i).1 (around text i).2 = true ∧
      Assertion.endOfLine.holds (around text j).1 (around text j).2 = true := by
  rw [Text.mem_splitOn_iff]
  refine and_congr_right fun _ => ?_
  constructor
  · rintro ⟨before, after, rfl, begins, ends⟩
    have inside : before.length ≤ (before ++ line ++ after).length := by simp
    refine ⟨before.length, before.length + line.length, ⟨rfl, ?_⟩, ?_, ?_⟩
    · simp [← List.drop_drop]
    · rw [holds_startOfLine_iff inside]
      simpa using begins
    · rw [holds_endOfLine_iff]
      simpa [← List.drop_drop] using ends
  · rintro ⟨i, j, spelt, begins, ends⟩
    refine ⟨text.take i, text.drop j, ?_, ?_, ?_⟩
    · rw [List.append_assoc, ← spelt.2, List.take_append_drop]
    · exact (holds_startOfLine_iff (spelt.le_length nonempty)).mp begins
    · exact holds_endOfLine_iff.mp ends

/-! ## The pattern for generated files -/

theorem matches_generated_iff : generated.Matches text i j ↔
    ∃ line, Spells text i j line ∧ SaysGenerated line ∧ '\n' ∉ line ∧
      Assertion.startOfLine.holds (around text i).1 (around text i).2 = true ∧
      Assertion.endOfLine.holds (around text j).1 (around text j).2 = true := by
  have unbroken : ∀ between : List Char,
      '\n' ∉ bannerStart ++ between ++ bannerEnd ↔ '\n' ∉ between := by
    have start : '\n' ∉ bannerStart := by decide
    have ending : '\n' ∉ bannerEnd := by decide
    simp [start, ending]
  simp only [generated, matches_sequenceOf_cons, matches_literal_iff, matches_unbroken_iff]
  constructor
  · rintro ⟨_, ⟨rfl, begins⟩, k, start, l, ⟨between, spelt, free⟩, m, ending, _, ⟨rfl, ends⟩, rfl⟩
    refine ⟨bannerStart ++ between ++ bannerEnd, ?_, ⟨between, rfl⟩, (unbroken between).mpr free,
      begins, ends⟩
    exact spells_append_iff.mpr ⟨l, spells_append_iff.mpr ⟨k, start, spelt⟩, ending⟩
  · rintro ⟨_, spelt, ⟨between, rfl⟩, free, begins, ends⟩
    obtain ⟨l, spelt, ending⟩ := spells_append_iff.mp spelt
    obtain ⟨k, start, spelt⟩ := spells_append_iff.mp spelt
    exact ⟨i, ⟨rfl, begins⟩, k, start, l, ⟨between, spelt, (unbroken between).mp free⟩, j, ending,
      j, ⟨rfl, ends⟩, rfl⟩

theorem SaysGenerated.ne_nil (h : SaysGenerated line) : line ≠ [] := by
  rintro rfl
  obtain ⟨between, same⟩ := h
  exact absurd (congrArg List.length same) (by simp)

/-- **The pattern for generated files is found in the texts that have a line that says so.** -/
theorem occursIn_generated_iff :
    generated.OccursIn text ↔ ∃ line ∈ text.splitOn '\n', SaysGenerated line := by
  simp only [OccursIn, matches_generated_iff]
  constructor
  · rintro ⟨i, j, -, line, spelt, banner, free, places⟩
    exact ⟨line, (mem_splitOn_iff_spells banner.ne_nil).mpr ⟨free, i, j, spelt, places⟩, banner⟩
  · rintro ⟨line, member, banner⟩
    obtain ⟨free, i, j, spelt, places⟩ := (mem_splitOn_iff_spells banner.ne_nil).mp member
    exact ⟨i, j, spelt.le_length banner.ne_nil, line, spelt, banner, free, places⟩

theorem bounded_sequenceOf {patterns : List Pattern} (h : ∀ pattern ∈ patterns, pattern.Bounded) :
    (sequenceOf patterns).Bounded := by
  induction patterns with
  | nil => trivial
  | cons first others ih =>
    obtain ⟨ofFirst, ofOthers⟩ := List.forall_mem_cons.mp h
    cases others with
    | nil => exact ofFirst
    | cons second others => exact ⟨ofFirst, ih ofOthers⟩

theorem bounded_literal (word : List Char) : (literal word).Bounded := by
  refine bounded_sequenceOf fun pattern member => ?_
  obtain ⟨c, _, rfl⟩ := List.mem_map.mp member
  trivial

theorem bounded_generated : generated.Bounded := by
  refine bounded_sequenceOf ?_
  simp [Bounded, bounded_literal]

theorem isIn_generated_iff (text : String) : generated.isIn text = true ↔
    ∃ line ∈ Text.linesOf '\n' text.toList, SaysGenerated line := by
  rw [isIn_iff_occursIn bounded_generated, occursIn_generated_iff]
  refine exists_congr fun line => and_congr_left fun banner => ?_
  exact (Text.mem_linesOf_iff banner.ne_nil).symm

/-- Nothing between the parts, one blank that would have to belong to both, a carriage return
behind, and a last line without an end. -/
example : ["// Code generated  DO NOT EDIT.", "// Code generated DO NOT EDIT.",
    "// Code generated x DO NOT EDIT.\r\n", "package p\n// Code generated x DO NOT EDIT."].map
      generated.isIn = [true, false, false, true] := by
  decide +kernel

end Pattern

namespace Ignore

/-- **A file is left out for being generated exactly if one of its lines says so.**  The settings
that ask for nothing else can always be met, and then the path does not matter. -/
theorem leavesOut_generated_iff (path content : String) :
    ∃ ignore, ofSettings { Settings.none with generated := true } = .ok ignore ∧
      (ignore.matchesContent content = true ↔
        ∃ line ∈ Text.linesOf '\n' content.toList, Pattern.SaysGenerated line) ∧
      ignore.leavesOut path content = ignore.matchesContent content := by
  refine ⟨_, rfl, ?_, rfl⟩
  show (Pattern.generated.isIn content || false) = true ↔ _
  rw [Bool.or_false, Pattern.isIn_generated_iff]

end Ignore

end GoCoverage
