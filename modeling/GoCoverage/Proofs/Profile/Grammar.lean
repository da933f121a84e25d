import GoCoverage.Proofs.Profile.BlockForm
import GoCoverage.Proofs.Profile.Written

/-! # The grammar of profiles

Whether a line of a profile is as it should be depends on the line and on the lines above it
(`Fits`): blank lines fit anywhere, the first line that is not blank declares the mode, and every
line after that is a block.  A text all of whose lines fit is accepted as soon as one of them is not
blank.  Of any other text the first line that does not fit is blamed, by its number, and nothing
below that line matters, since it is not even looked at (`parse_judges_lines`).

All of this is carried by one fact about the reading so far: it has a mode exactly if a line above
was not blank (`Reading.Knows`).  So a line is read if it fits, and refused if it does not
(`line_of_fits`, `line_of_not_fits`), and the induction is on the lines from the last one up. -/

namespace GoCoverage.Profile

open Text

/-! ## Lines that fit -/

/-- There is nothing on the line but blanks. -/
def IsBlankLine (line : List Char) : Prop := trim line = []

instance (line : List Char) : Decidable (IsBlankLine line) :=
  inferInstanceAs (Decidable (trim line = []))

/-- The line declares the mode: it begins with `mode:`, and what follows is the word for a mode,
perhaps with blanks around it. -/
def IsHeader (line : List Char) : Prop :=
  ∃ (mode : Mode) (word : List Char), trim line = modeMark ++ word ∧ trim word = mode.name.toList

/-- The line is a block: a file that has a name, a colon, and decimal numerals of numbers in range,
with the marks of a block line between them. -/
def IsBlockLine (line : List Char) : Prop :=
  ∃ (text : BlockText) (entry : String × Block), text.Writes entry ∧ entry.1 ≠ "" ∧
    entry.2.InRange ∧ trim line = text.line

/-- A line fits below others: it is blank; or it declares the mode, below blank lines; or it is a
block that does not begin as a declaration does, and not all lines above it are blank. -/
inductive Fits (above : List (List Char)) (line : List Char) : Prop where
  | blank (h : IsBlankLine line)
  | header (first : ∀ other ∈ above, IsBlankLine other) (h : IsHeader line)
  | block (later : ∃ other ∈ above, ¬ IsBlankLine other) (unmarked : ¬ modeMark <+: trim line)
      (h : IsBlockLine line)

/-- Each line fits below those above it. -/
def AllFit (lines : List (List Char)) : Prop :=
  ∀ above line below, lines = above ++ line :: below → Fits above line

/-- The number of the line that is to blame: the first one that does not fit, or the last one if all
are blank, and one if there is none. -/
inductive Blames (lines : List (List Char)) : Nat → Prop where
  | unfit {above below : List (List Char)} {line : List Char}
      (split : lines = above ++ line :: below) (fit : AllFit above) (unfit : ¬ Fits above line) :
      Blames lines (above.length + 1)
  | missing (blank : ∀ line ∈ lines, IsBlankLine line) : Blames lines (max 1 lines.length)

section Fitting

variable {above lines : List (List Char)} {line : List Char}

theorem allFit_nil : AllFit [] := by
  intro above line below split
  exact absurd split.symm (List.append_ne_nil_of_right_ne_nil _ (List.cons_ne_nil _ _))

theorem allFit_concat : AllFit (lines ++ [line]) ↔ AllFit lines ∧ Fits lines line := by
  constructor
  · intro fit
    refine ⟨fun above other below split => fit above other (below ++ [line]) ?_,
      fit lines line [] rfl⟩
    rw [split, List.append_assoc, List.cons_append]
  · rintro ⟨fit, last⟩ above other below split
    rcases List.eq_nil_or_concat' below with rfl | ⟨below, bottom, rfl⟩
    · obtain ⟨rfl, rfl⟩ := List.concat_inj.mp (by simpa using split)
      exact last
    · rw [← List.cons_append, ← List.append_assoc] at split
      exact fit above other below (List.append_inj_left' split rfl)

/-- If not all lines fit, there is a first one that does not. -/
theorem exists_first_unfit (h : ¬ AllFit lines) :
    ∃ above line below, lines = above ++ line :: below ∧ AllFit above ∧ ¬ Fits above line := by
  induction lines using List.reverseRecOn with
  | nil => exact absurd allFit_nil h
  | append_singleton lines line ih =>
    by_cases fit : AllFit lines
    · exact ⟨lines, line, [], rfl, fit, fun last => h (allFit_concat.mpr ⟨fit, last⟩)⟩
    · obtain ⟨above, other, below, rfl, fit, unfit⟩ := ih fit
      exact ⟨above, other, below ++ [line], by simp, fit, unfit⟩

end Fitting

/-! ## Lines that are read -/

section Lines

variable {above lines : List (List Char)} {line : List Char} {reading : Reading} {number : Nat}

/-- The reading has a mode exactly if a line above was not blank. -/
def Reading.Knows (reading : Reading) (above : List (List Char)) : Prop :=
  reading.mode = none ↔ ∀ other ∈ above, IsBlankLine other

theorem ofLine_of_blank (blank : IsBlankLine line) : Item.ofLine line = .blank := by
  rw [Item.ofLine, show trim line = [] from blank]

theorem ofLine_of_marked {word : List Char} (marked : trim line = modeMark ++ word) :
    Item.ofLine line = .mode (String.ofList (trim word)) := by
  have begins : modeMark.isPrefixOf (modeMark ++ word) :=
    List.isPrefixOf_iff_prefix.mpr (List.prefix_append _ _)
  rw [Item.ofLine, marked]
  split
  · rename_i empty
    exact absurd empty (List.append_ne_nil_of_left_ne_nil (by decide) _)
  · rw [if_pos begins, List.drop_left]

theorem ofLine_of_unmarked (filled : ¬ IsBlankLine line) (unmarked : ¬ modeMark <+: trim line) :
    Item.ofLine line = .block (trim line) := by
  rw [Item.ofLine]
  split
  · rename_i empty
    exact absurd empty filled
  · rw [if_neg fun begins => unmarked (List.isPrefixOf_iff_prefix.mp begins)]

/-- Below a line that is not blank, the reading has to have a mode. -/
theorem Reading.knows_concat_of_filled (filled : ¬ IsBlankLine line)
    (declared : reading.mode ≠ none) : reading.Knows (above ++ [line]) :=
  iff_of_false declared fun blank => filled (blank line (by simp))

/-- **A line that fits is read.** -/
theorem line_of_fits (knows : reading.Knows above) (fits : Fits above line) :
    ∃ next, reading.line (some line, number) = .ok next ∧ next.Knows (above ++ [line]) := by
  cases fits with
  | blank h =>
    refine ⟨reading, ?_, ?_⟩
    · rw [line_eq, ofLine_of_blank h]
      rfl
    · refine Iff.trans knows ?_
      rw [List.forall_mem_append, List.forall_mem_singleton]
      exact (and_iff_left h).symm
  | header first h =>
    obtain ⟨mode, word, marked, named⟩ := h
    have filled : ¬ IsBlankLine line := by
      rw [IsBlankLine, marked]
      exact List.append_ne_nil_of_left_ne_nil (by decide) _
    refine ⟨{ reading with mode := some mode }, ?_, Reading.knows_concat_of_filled filled (by simp)⟩
    rw [line_eq, ofLine_of_marked marked, named, String.ofList_toList, Reading.item,
      Mode.ofName?_eq_some_iff.mpr rfl, knows.mpr first]
    rfl
  | block later unmarked h =>
    obtain ⟨text, entry, writes, named, inRange, laidOut⟩ := h
    have read : blockOfLine (trim line) = .ok entry :=
      blockOfLine_eq_ok_iff.mpr ⟨text, writes, named, inRange, laidOut.symm⟩
    have filled : ¬ IsBlankLine line := by
      rw [IsBlankLine, laidOut]
      exact List.append_ne_nil_of_right_ne_nil _ (List.cons_ne_nil _ _)
    obtain ⟨mode, declared⟩ : ∃ mode, reading.mode = some mode := by
      obtain ⟨other, member, filled⟩ := later
      exact Option.ne_none_iff_exists'.mp fun none => filled (knows.mp none other member)
    refine ⟨{ reading with entries := entry :: reading.entries }, ?_,
      Reading.knows_concat_of_filled filled (by simp [declared])⟩
    rw [line_eq, ofLine_of_unmarked filled unmarked, Reading.item, declared, read]
    rfl

/-- **A line that does not fit is refused**, by its number. -/
theorem line_of_not_fits (knows : reading.Knows above) (unfit : ¬ Fits above line) :
    ∃ cause, reading.line (some line, number) = .error (.malformed number cause) := by
  have filled : ¬ IsBlankLine line := fun blank => unfit (.blank blank)
  -- whatever item the line is, a cause to refuse it is a cause to refuse the line
  suffices refused : ∃ cause, reading.item (.ofLine line) = .error cause by
    obtain ⟨cause, refused⟩ := refused
    exact ⟨cause, by rw [line_eq, refused]; rfl⟩
  by_cases marked : modeMark <+: trim line
  · obtain ⟨word, split⟩ := marked
    rw [ofLine_of_marked split.symm, Reading.item]
    cases named : Mode.ofName? (String.ofList (trim word)) with
    | none => exact ⟨_, rfl⟩
    | some mode =>
      cases declared : reading.mode with
      | some _ => exact ⟨_, rfl⟩
      | none =>
        have word_eq : trim word = mode.name.toList := by
          rw [← Mode.ofName?_eq_some_iff.mp named, String.toList_ofList]
        exact absurd (.header (knows.mp declared) ⟨mode, word, split.symm, word_eq⟩) unfit
  · rw [ofLine_of_unmarked filled marked, Reading.item]
    cases declared : reading.mode with
    | none => exact ⟨_, rfl⟩
    | some mode =>
      cases read : blockOfLine (trim line) with
      | error cause => exact ⟨cause, rfl⟩
      | ok entry =>
        obtain ⟨text, writes, named, inRange, laidOut⟩ := blockOfLine_eq_ok_iff.mp read
        have later : ∃ other ∈ above, ¬ IsBlankLine other := by
          by_contra none
          push Not at none
          rw [knows.mpr none] at declared
          cases declared
        exact absurd (.block later marked ⟨text, entry, writes, named, inRange, laidOut.symm⟩) unfit

/-- Lines that fit are read one after the other. -/
theorem readFrom_of_allFit (fit : AllFit lines) (number : Nat) :
    ∃ reading, readFrom number Reading.start lines = .ok reading ∧ reading.Knows lines := by
  induction lines using List.reverseRecOn with
  | nil => exact ⟨Reading.start, rfl, iff_of_true rfl (by simp)⟩
  | append_singleton lines line ih =>
    obtain ⟨fit, last⟩ := allFit_concat.mp fit
    obtain ⟨reading, read, knows⟩ := ih fit
    obtain ⟨next, step, knows⟩ := line_of_fits knows last
    refine ⟨next, ?_, knows⟩
    rw [readFrom_append, read]
    exact readFrom_cons step

/-- The first line that does not fit is refused, whatever stands below it. -/
theorem readFrom_of_not_fits (fit : AllFit above) (unfit : ¬ Fits above line) :
    ∃ cause, ∀ below, readFrom 1 Reading.start (above ++ line :: below) =
      .error (.malformed (above.length + 1) cause) := by
  obtain ⟨reading, read, knows⟩ := readFrom_of_allFit fit 1
  obtain ⟨cause, refused⟩ : ∃ cause, reading.line (some line, 1 + above.length) =
      .error (.malformed (1 + above.length) cause) := line_of_not_fits knows unfit
  refine ⟨cause, fun below => ?_⟩
  rw [readFrom_append, read, Nat.add_comm above.length 1]
  show readFrom (1 + above.length) reading (line :: below) = _
  rw [readFrom, List.map_cons, List.zipIdx_cons, List.foldlM_cons, refused]
  rfl

end Lines

/-! ## Whole texts -/

/-- The lines of a text. -/
def linesIn (text : String) : List (List Char) := linesOf '\n' text.toList

/-- A text is read line by line, and then its mode is looked at. -/
theorem parse_eq (text : String) :
    parse text = readFrom 1 Reading.start (linesIn text) >>=
      fun reading => reading.finish (linesIn text).length := by
  rw [parse, ofLines, List.length_map]
  rfl

variable {text : String}

/-- Each line fits below those above it, and not all are blank. -/
def IsProfile (lines : List (List Char)) : Prop :=
  AllFit lines ∧ ∃ line ∈ lines, ¬ IsBlankLine line

theorem exists_parse_of_isProfile (h : IsProfile (linesIn text)) :
    ∃ profiles, parse text = .ok profiles := by
  obtain ⟨fit, line, member, filled⟩ := h
  obtain ⟨reading, read, knows⟩ := readFrom_of_allFit fit 1
  obtain ⟨mode, declared⟩ : ∃ mode, reading.mode = some mode :=
    Option.ne_none_iff_exists'.mp fun none => filled (knows.mp none line member)
  refine ⟨group mode reading.entries.reverse, ?_⟩
  rw [parse_eq, read]
  show reading.finish _ = _
  rw [Reading.finish, declared]

theorem parse_of_blank (blank : ∀ line ∈ linesIn text, IsBlankLine line) :
    parse text = .error (.malformed (max 1 (linesIn text).length) .missingMode) := by
  have fit : AllFit (linesIn text) :=
    fun above line below split => .blank (blank line (by simp [split]))
  obtain ⟨reading, read, knows⟩ := readFrom_of_allFit fit 1
  rw [parse_eq, read, Nat.max_comm]
  show reading.finish _ = _
  rw [Reading.finish, knows.mpr blank]

theorem parse_of_not_fits {above : List (List Char)} {line : List Char} (fit : AllFit above)
    (unfit : ¬ Fits above line) :
    ∃ cause, ∀ text below, linesIn text = above ++ line :: below →
      parse text = .error (.malformed (above.length + 1) cause) := by
  obtain ⟨cause, refused⟩ := readFrom_of_not_fits fit unfit
  refine ⟨cause, fun text below split => ?_⟩
  rw [parse_eq, split, refused]
  rfl

/-- The line that is to blame is named. -/
theorem exists_malformed_of_blames {number : Nat} (h : Blames (linesIn text) number) :
    ∃ cause, parse text = .error (.malformed number cause) := by
  cases h with
  | unfit split fit unfit =>
    obtain ⟨cause, refused⟩ := parse_of_not_fits fit unfit
    exact ⟨cause, refused text _ split⟩
  | missing blank => exact ⟨_, parse_of_blank blank⟩

/-- A text that is no profile has a line that is to blame. -/
theorem exists_blames (h : ¬ IsProfile (linesIn text)) :
    ∃ number, Blames (linesIn text) number := by
  by_cases fit : AllFit (linesIn text)
  · have blank : ∀ line ∈ linesIn text, IsBlankLine line := by
      by_contra filled
      push Not at filled
      exact h ⟨fit, filled⟩
    exact ⟨_, .missing blank⟩
  · obtain ⟨above, line, below, split, fit, unfit⟩ := exists_first_unfit fit
    exact ⟨_, .unfit split fit unfit⟩

/-- **Profiles are accepted, and of any other text the first line that does not fit is blamed.**  A
text is accepted exactly if each line fits below those above it and not all of them are blank.  A
text that is not accepted is malformed in one line, and the number given is that of the line to
blame; whatever else stands below a line that does not fit, the fault is the same. -/
theorem parse_judges_lines (text : String) :
    ((∃ profiles, parse text = .ok profiles) ↔ IsProfile (linesIn text)) ∧
      (¬ IsProfile (linesIn text) →
        ∃ number cause, parse text = .error (.malformed number cause)) ∧
      (∀ number, (∃ cause, parse text = .error (.malformed number cause)) ↔
        Blames (linesIn text) number) ∧
      ∀ above line below, linesIn text = above ++ line :: below → AllFit above →
        ¬ Fits above line → ∀ other below', linesIn other = above ++ line :: below' →
          parse other = parse text := by
  have rejected : ¬ IsProfile (linesIn text) → ∃ number cause,
      Blames (linesIn text) number ∧ parse text = .error (.malformed number cause) := by
    intro h
    obtain ⟨number, blames⟩ := exists_blames h
    obtain ⟨cause, malformed⟩ := exists_malformed_of_blames blames
    exact ⟨number, cause, blames, malformed⟩
  refine ⟨⟨?_, exists_parse_of_isProfile⟩, ?_, fun number => ⟨?_, exists_malformed_of_blames⟩, ?_⟩
  · rintro ⟨profiles, accepted⟩
    by_contra h
    obtain ⟨_, _, _, malformed⟩ := rejected h
    rw [accepted] at malformed
    cases malformed
  · intro h
    obtain ⟨number, cause, _, malformed⟩ := rejected h
    exact ⟨number, cause, malformed⟩
  · rintro ⟨cause, malformed⟩
    by_cases h : IsProfile (linesIn text)
    · obtain ⟨profiles, accepted⟩ := exists_parse_of_isProfile h
      rw [accepted] at malformed
      cases malformed
    · obtain ⟨_, _, blames, malformed'⟩ := rejected h
      rw [malformed] at malformed'
      cases malformed'
      exact blames
  · intro above line below split fit unfit other below' split'
    obtain ⟨cause, refused⟩ := parse_of_not_fits fit unfit
    rw [refused other below' split', refused text below split]

theorem parse_judges_lines_zeroColumn :
    let above := ["".toList, " mode:  set".toList]
    let line := "a.go:1.0,2.1 1 1\r".toList
    let text := "\n mode:  set\na.go:1.0,2.1 1 1\r\na.go:1.1,2.1 1 1\n"
    linesIn text = above ++ line :: ["a.go:1.1,2.1 1 1".toList] ∧ AllFit above ∧
      ¬ Fits above line ∧ Blames (linesIn text) 3 ∧ ¬ IsProfile (linesIn text) ∧
      parse "\n mode:  set\na.go:1.0,2.1 1 1\r\nmode" = parse text := by
  intro above line text
  have split : linesIn text = above ++ line :: ["a.go:1.1,2.1 1 1".toList] := by
    decide +kernel
  have fit : AllFit above := by
    have empty : Fits [] "".toList := .blank (by decide)
    have header : Fits ["".toList] " mode:  set".toList :=
      .header (by decide) ⟨.set, "  set".toList, rfl, rfl⟩
    exact allFit_concat.mpr ⟨allFit_concat.mpr ⟨allFit_nil, empty⟩, header⟩
  have unfit : ¬ Fits above line := by
    rintro (blank | ⟨first, _⟩ | ⟨_, _, parts, entry, writes, named, inRange, laidOut⟩)
    · exact absurd blank (by decide +kernel)
    · exact absurd first (by decide +kernel)
    · have read := blockOfLine_eq_ok_iff.mpr ⟨parts, writes, named, inRange, laidOut.symm⟩
      have refused : blockOfLine (trim line) = .error (.notPositive .startColumn) := by
        decide +kernel
      rw [refused] at read
      cases read
  obtain ⟨accepts, _, blames, stable⟩ := parse_judges_lines text
  have malformed : parse text = .error (.malformed 3 (.notPositive .startColumn)) := by
    decide +kernel
  refine ⟨split, fit, unfit, (blames 3).mp ⟨_, malformed⟩, ?_, ?_⟩
  · intro h
    obtain ⟨profiles, accepted⟩ := accepts.mpr h
    rw [malformed] at accepted
    cases accepted
  · exact stable above line _ split fit unfit _ ["mode".toList] (by decide +kernel)

end GoCoverage.Profile
