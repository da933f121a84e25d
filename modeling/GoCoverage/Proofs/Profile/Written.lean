import GoCoverage.Proofs.Profile.BlockLine
import GoCoverage.Proofs.Text.Words
import Mathlib.Data.List.Infix

/-! # Written profiles

Entries are written one on a line, below a line that declares the counting mode; there may be blanks
around every line, and blank lines anywhere (`Written`).  Such a text is read back as the entries,
grouped by file: trimming takes the blanks around a line and nothing of the line itself
(`Padded.trim_eq`), and each line is read as what was written on it.  The induction is on the lines
below the declaration; the reading so far holds the entries of the lines above.

The names of files are almost free: they may hold colons and blanks, and even look like block lines
themselves.  But a line that begins with `mode:` declares the mode.  So a name must not begin with
these characters, and it must not be `mode` itself, because a colon follows it in a block line
(`malformed_of_file_mode`). -/

namespace GoCoverage.Profile

open Text

/-! ## Blanks around a text -/

/-- The text stands on the line, with nothing but blanks around it. -/
def Padded (text line : List Char) : Prop :=
  ∃ before after, (∀ c ∈ before, isBlank c ∧ c ≠ '\n') ∧ (∀ c ∈ after, isBlank c ∧ c ≠ '\n') ∧
    line = before ++ text ++ after

section Padding

variable {text line : List Char}

/-- A text may stand on a line alone. -/
theorem Padded.alone (text : List Char) : Padded text text := ⟨[], [], by simp, by simp, by simp⟩

/-- A text may stand between blanks. -/
theorem Padded.between (before after : List Char)
    (blanks : (before ++ after).all fun c => isBlank c && c != '\n')
    (split : line = before ++ text ++ after) : Padded text line := by
  obtain ⟨blanksBefore, blanksAfter⟩ : (∀ c ∈ before, isBlank c ∧ c ≠ '\n') ∧
      ∀ c ∈ after, isBlank c ∧ c ≠ '\n' := by
    simpa using blanks
  exact ⟨before, after, blanksBefore, blanksAfter, split⟩

/-- What is to hold of the first or the last character, where there is one. -/
theorem forall_mem_of_eq_some {p : Char → Prop} {end? : Option Char} {c : Char}
    (found : end? = some c) (h : p c) : ∀ b ∈ end?, p b := by
  rintro b member
  rw [found] at member
  exact Option.some.inj member ▸ h

/-- Trimming takes the blanks around a text, and nothing of a text that neither begins nor ends with
one. -/
theorem Padded.trim_eq (padded : Padded text line) (first : ∀ c ∈ text.head?, ¬ isBlank c)
    (last : ∀ c ∈ text.getLast?, ¬ isBlank c) : trim line = text := by
  obtain ⟨before, after, blanksBefore, blanksAfter, rfl⟩ := padded
  exact trim_between (fun c member => (blanksBefore c member).1)
    (fun c member => (blanksAfter c member).1) first last

theorem Padded.lineBreak_not_mem (padded : Padded text line) (none : '\n' ∉ text) :
    '\n' ∉ line := by
  obtain ⟨before, after, blanksBefore, blanksAfter, rfl⟩ := padded
  intro member
  rcases List.mem_append.mp member with member | member
  · rcases List.mem_append.mp member with member | member
    · exact (blanksBefore _ member).2 rfl
    · exact none member
  · exact (blanksAfter _ member).2 rfl

end Padding

/-! ## Written forms -/

/-- A name that the file of an entry may have: it is not empty, is on one line, and begins neither
with a blank nor with `mode:`. -/
structure IsFileName (name : String) : Prop where
  nonempty : name ≠ ""
  lineBreak : '\n' ∉ name.toList
  blank : ∀ c ∈ name.toList.head?, ¬ isBlank c
  modeMark : ¬ modeMark.isPrefixOf name.toList

/-- Lines on which entries are written, one on a line, with blank lines in between. -/
inductive EntryLines : List (String × Block) → List (List Char) → Prop
  | nil : EntryLines [] []
  | blank {entries : List (String × Block)} {line : List Char} {lines : List (List Char)}
      (padded : Padded [] line) (rest : EntryLines entries lines) :
      EntryLines entries (line :: lines)
  | entry {entry : String × Block} {entries : List (String × Block)} (text : BlockText)
      {line : List Char} {lines : List (List Char)} (writes : text.Writes entry)
      (padded : Padded text.line line) (rest : EntryLines entries lines) :
      EntryLines (entry :: entries) (line :: lines)

/-- The text is a written form of the entries: a line for the mode, and the entries below it.  Lines
stand between line breaks, so a text that ends with one has a blank line at its end. -/
def Written (mode : Mode) (entries : List (String × Block)) (text : String) : Prop :=
  ∃ before header lines, (∀ line ∈ before, Padded [] line) ∧
    Padded ("mode: ".toList ++ mode.name.toList) header ∧ EntryLines entries lines ∧
    text.toList = ['\n'].intercalate (before ++ header :: lines)

/-! ## Reading one line -/

section Lines

variable {line : List Char} {number : Nat} {entry : String × Block} {text : BlockText} {mode : Mode}

/-- A line that is no text is the only one that is not judged by what it is. -/
theorem line_eq (reading : Reading) (line : List Char) (number : Nat) :
    reading.line (some line, number) =
      (reading.item (.ofLine line)).mapError (.malformed number) := rfl

theorem line_blank (padded : Padded [] line) (reading : Reading) :
    reading.line (some line, number) = .ok reading := by
  have blank : Item.ofLine line = .blank := by
    rw [Item.ofLine, padded.trim_eq (by simp) (by simp)]
  rw [line_eq, blank]
  rfl

theorem line_mode (padded : Padded ("mode: ".toList ++ mode.name.toList) line) :
    Reading.start.line (some line, number) = .ok { mode := some mode, entries := [] } := by
  have declared : Item.ofLine line = .mode mode.name := by
    have first : ∀ c ∈ ("mode: ".toList ++ mode.name.toList).head?, ¬ isBlank c :=
      forall_mem_of_eq_some (c := 'm') rfl (by decide)
    have last : ∀ c ∈ ("mode: ".toList ++ mode.name.toList).getLast?, ¬ isBlank c := by
      cases mode with
      | set => exact forall_mem_of_eq_some (c := 't') rfl (by decide)
      | count => exact forall_mem_of_eq_some (c := 't') rfl (by decide)
      | atomic => exact forall_mem_of_eq_some (c := 'c') rfl (by decide)
    rw [Item.ofLine, padded.trim_eq first last]
    cases mode <;> rfl
  rw [line_eq, declared, Reading.item, Mode.ofName?_eq_some_iff.mpr rfl]
  rfl

/-- With a colon after it, a name begins with `mode:` only if it did before or is `mode`. -/
theorem not_modeMark_name_colon {name : String} (isName : IsFileName name)
    (notMode : name ≠ "mode") (rest : List Char) :
    ¬ modeMark.isPrefixOf (name.toList ++ ':' :: rest) := by
  rw [List.isPrefixOf_iff_prefix]
  intro marked
  have split : name.toList ++ [':'] <+: name.toList ++ ':' :: rest := ⟨rest, by simp⟩
  -- the mark ends with the colon at the latest, or it goes beyond the colon
  rcases List.prefix_or_prefix_of_prefix marked split with shorter | longer
  · rcases List.prefix_concat_iff.mp shorter with same | shorter
    · have name_eq : "mode".toList = name.toList := List.append_inj_left' same rfl
      exact notMode (String.toList_inj.mp name_eq).symm
    · exact isName.modeMark (List.isPrefixOf_iff_prefix.mpr shorter)
  · have longer : name.toList ++ [':'] <+: "mode".toList ++ [':'] := longer
    rcases List.prefix_concat_iff.mp longer with same | shorter
    · exact notMode (String.toList_inj.mp (List.append_inj_left' same rfl))
    · have colon : ':' ∈ "mode".toList := shorter.subset (by simp)
      exact absurd colon (by decide)

/-- The line of an entry is neither blank nor a declaration of the mode. -/
theorem ofLine_entry (writes : text.Writes entry) (padded : Padded text.line line)
    (isName : IsFileName entry.1) (notMode : entry.1 ≠ "mode") :
    Item.ofLine line = .block text.line := by
  have begins : text.line = entry.1.toList ++ ':' :: text.range := by
    rw [BlockText.line, writes.file]
  have first : ∀ c ∈ text.line.head?, ¬ isBlank c := by
    intro c member
    rw [begins, List.head?_append_of_ne_nil] at member
    · exact isName.blank c member
    · exact fun empty => isName.nonempty (String.toList_eq_nil_iff.mp empty)
  have last : ∀ c ∈ text.line.getLast?, ¬ isBlank c := by
    intro c member
    obtain ⟨before, ends⟩ := text.executions_isSuffix_line
    rw [← ends, List.getLast?_append_of_ne_nil _ writes.executions.ne_nil] at member
    exact not_isBlank_of_isDigit (writes.executions.isDigit (List.mem_of_getLast? member))
  rw [Item.ofLine, padded.trim_eq first last, begins]
  split
  · rename_i empty
    simp at empty
  · rw [if_neg (not_modeMark_name_colon isName notMode text.range)]

theorem line_entry (writes : text.Writes entry) (padded : Padded text.line line)
    (isName : IsFileName entry.1) (notMode : entry.1 ≠ "mode") (inRange : entry.2.InRange)
    (entries : List (String × Block)) :
    Reading.line { mode := some mode, entries } (some line, number) =
      .ok { mode := some mode, entries := entry :: entries } := by
  rw [line_eq, ofLine_entry writes padded isName notMode, Reading.item,
    blockOfLine_line writes isName.nonempty inRange]
  rfl

end Lines

/-! ## Reading all lines -/

section Texts

variable {lines : List (List Char)} {entries : List (String × Block)} {text : String} {mode : Mode}

/-- Reads lines, the first of which has the given number. -/
def readFrom (number : Nat) (reading : Reading) (lines : List (List Char)) :
    Except Fault Reading :=
  ((lines.map some).zipIdx number).foldlM Reading.line reading

theorem readFrom_cons {number : Nat} {reading next : Reading} {line : List Char}
    (step : reading.line (some line, number) = .ok next) :
    readFrom number reading (line :: lines) = readFrom (number + 1) next lines := by
  rw [readFrom, List.map_cons, List.zipIdx_cons, List.foldlM_cons, step]
  rfl

theorem readFrom_append (number : Nat) (reading : Reading) (lines others : List (List Char)) :
    readFrom number reading (lines ++ others) =
      readFrom number reading lines >>= fun next =>
        readFrom (number + lines.length) next others := by
  rw [readFrom, List.map_append, List.zipIdx_append, List.foldlM_append, List.length_map]
  rfl

/-- Blank lines are passed over. -/
theorem readFrom_blank (blank : ∀ line ∈ lines, Padded [] line) (number : Nat)
    (reading : Reading) : readFrom number reading lines = .ok reading := by
  induction lines generalizing number with
  | nil => rfl
  | cons line lines ih =>
    rw [readFrom_cons (line_blank (blank line List.mem_cons_self) reading)]
    exact ih (fun other member => blank other (List.mem_cons_of_mem line member)) (number + 1)

/-- **The lines of entries are read as the entries**, the last one first, after those that have been
read before. -/
theorem readFrom_entryLines (written : EntryLines entries lines)
    (named : ∀ entry ∈ entries, IsFileName entry.1 ∧ entry.1 ≠ "mode")
    (inRange : ∀ entry ∈ entries, entry.2.InRange) (number : Nat)
    (before : List (String × Block)) :
    readFrom number { mode := some mode, entries := before } lines =
      .ok { mode := some mode, entries := entries.reverse ++ before } := by
  induction written generalizing number before with
  | nil => rfl
  | blank padded _ ih =>
    rw [readFrom_cons (line_blank padded _)]
    exact ih named inRange (number + 1) before
  | @entry entry entries _ _ _ writes padded _ ih =>
    obtain ⟨isName, notMode⟩ := named entry List.mem_cons_self
    rw [readFrom_cons
      (line_entry writes padded isName notMode (inRange entry List.mem_cons_self) before),
      ih (fun other member => named other (List.mem_cons_of_mem entry member))
        (fun other member => inRange other (List.mem_cons_of_mem entry member)),
      List.reverse_cons, List.append_assoc, List.singleton_append]

/-- The line break at the end of a text begins no line, and reading an empty one would change
nothing. -/
theorem readFrom_linesOf (apart : ∀ line ∈ lines, '\n' ∉ line) (nonempty : lines ≠ [])
    (number : Nat) (reading : Reading) :
    readFrom number reading (linesOf '\n' (['\n'].intercalate lines)) =
      readFrom number reading lines := by
  rw [linesOf, List.splitOn_intercalate '\n' apart nonempty]
  split
  · rename_i last
    -- the last line is empty and is dropped
    have whole : lines.dropLast ++ [[]] = lines := List.dropLast_append_getLast? [] last
    conv_rhs => rw [← whole, readFrom_append]
    have blank : ∀ (number : Nat) (next : Reading), readFrom number next [[]] = .ok next :=
      fun number next => readFrom_blank (List.forall_mem_singleton.mpr (.alone [])) number next
    simp only [blank]
    exact (bind_pure _).symm
  · rfl

theorem EntryLines.lineBreak_not_mem (written : EntryLines entries lines)
    (named : ∀ entry ∈ entries, IsFileName entry.1) : ∀ line ∈ lines, '\n' ∉ line := by
  induction written with
  | nil => simp
  | blank padded _ ih =>
    exact List.forall_mem_cons.mpr ⟨padded.lineBreak_not_mem (by simp), ih named⟩
  | @entry entry entries text _ _ writes padded _ ih =>
    obtain ⟨isName, named⟩ := List.forall_mem_cons.mp named
    have none : '\n' ∉ text.line := by
      have range := BlockText.not_mem_range (writes.wellFormed isName.nonempty)
        (by decide : ¬ isDecimalDigit '\n') (by decide)
      simp [BlockText.line, writes.file, isName.lineBreak, range]
    exact List.forall_mem_cons.mpr ⟨padded.lineBreak_not_mem none, ih named⟩

/-- A written profile is read as its entries, grouped by file. -/
theorem parse_eq_of_written (written : Written mode entries text)
    (named : ∀ entry ∈ entries, IsFileName entry.1 ∧ entry.1 ≠ "mode")
    (inRange : ∀ entry ∈ entries, entry.2.InRange) : parse text = .ok (group mode entries) := by
  obtain ⟨before, header, lines, blank, declared, below, split⟩ := written
  have apart : ∀ line ∈ before ++ header :: lines, '\n' ∉ line := by
    refine List.forall_mem_append.mpr ⟨?_, List.forall_mem_cons.mpr ⟨?_, ?_⟩⟩
    · exact fun line member => (blank line member).lineBreak_not_mem (by simp)
    · exact declared.lineBreak_not_mem (by cases mode <;> decide)
    · exact below.lineBreak_not_mem fun entry member => (named entry member).1
  have read : readFrom 1 Reading.start (linesOf '\n' text.toList) =
      .ok { mode := some mode, entries := entries.reverse } := by
    rw [split, readFrom_linesOf apart (by simp), readFrom_append, readFrom_blank blank]
    show readFrom (1 + before.length) Reading.start (header :: lines) = _
    rw [readFrom_cons (line_mode declared), readFrom_entryLines below named inRange,
      List.append_nil]
  show readFrom 1 Reading.start (linesOf '\n' text.toList) >>= _ = _
  rw [read]
  show Except.ok (group mode entries.reverse.reverse) = _
  rw [List.reverse_reverse]

/-- **A written profile is read back.**  Take entries in any order whose files have names that a
block line can hold and whose numbers are in range, and any written form of them: zeros before
numbers, blanks around lines and blank lines as one likes.  It is read as one profile for each file,
in the order in which the files occur first, all with the mode that was written, and each with the
blocks of its file in their order, those that occur twice included. -/
theorem parse_written (written : Written mode entries text)
    (named : ∀ entry ∈ entries, IsFileName entry.1 ∧ entry.1 ≠ "mode")
    (inRange : ∀ entry ∈ entries, entry.2.InRange) :
    ∃ profiles, parse text = .ok profiles ∧
      profiles.map (·.file) = (entries.map (·.1)).eraseDups ∧
      ∀ profile ∈ profiles, profile.mode = mode ∧
        profile.blocks = (entries.filter (·.1 == profile.file)).map (·.2) := by
  refine ⟨_, parse_eq_of_written written named inRange, ?_, ?_⟩
  · rw [group, List.map_map]
    exact List.map_id _
  · intro profile member
    obtain ⟨file, _, rfl⟩ := List.mem_map.mp member
    exact ⟨rfl, rfl⟩

end Texts

/-- A file with a colon in its name, and one with a name like a block line; the first one comes
twice with the same block. -/
def mixedEntries : List (String × Block) :=
  [("C:/a b.go", ⟨⟨⟨7, 1⟩, ⟨12, 5⟩⟩, 2, 3⟩),
    ("f:1.1,2.2 1 1", ⟨⟨⟨3, 1⟩, ⟨4294967295, 2⟩⟩, 0, 18446744073709551615⟩),
    ("C:/a b.go", ⟨⟨⟨7, 1⟩, ⟨12, 5⟩⟩, 2, 3⟩)]

/-- The entries with zeros, blanks and blank lines. -/
def mixedText : String :=
  "\n".intercalate
    ["", "\tmode: atomic \r", "\r", "C:/a b.go:007.1,12.05 2 3\r", " ",
      "  f:1.1,2.2 1 1:3.1,4294967295.2 00 18446744073709551615", "C:/a b.go:7.1,12.5 2 3"]

theorem written_mixedText : Written .atomic mixedEntries mixedText := by
  have largest : IsNumeral 18446744073709551615 "18446744073709551615".toList :=
    ⟨0, by decide +kernel⟩
  refine ⟨[[]], "\tmode: atomic \r".toList, ["\r".toList, "C:/a b.go:007.1,12.05 2 3\r".toList,
    " ".toList, "  f:1.1,2.2 1 1:3.1,4294967295.2 00 18446744073709551615".toList,
    "C:/a b.go:7.1,12.5 2 3".toList], ?_, ?_, ?_, String.toList_intercalate⟩
  · exact List.forall_mem_singleton.mpr (.alone [])
  · exact .between ['\t'] [' ', '\r'] rfl rfl
  · refine .blank (.between [] ['\r'] rfl rfl) ?_
    refine .entry
      ⟨"C:/a b.go".toList, ['0', '0', '7'], ['1'], ['1', '2'], ['0', '5'], ['2'], ['3']⟩
      ⟨rfl, ⟨2, rfl⟩, ⟨0, rfl⟩, ⟨0, rfl⟩, ⟨1, rfl⟩, ⟨0, rfl⟩, ⟨0, rfl⟩⟩
      (.between [] ['\r'] rfl rfl) ?_
    refine .blank (.between [] [' '] rfl rfl) ?_
    refine .entry
      ⟨"f:1.1,2.2 1 1".toList, ['3'], ['1'], "4294967295".toList, ['2'], ['0', '0'],
        "18446744073709551615".toList⟩
      ⟨rfl, ⟨0, rfl⟩, ⟨0, rfl⟩, ⟨0, rfl⟩, ⟨0, rfl⟩, ⟨1, rfl⟩, largest⟩
      (.between [' ', ' '] [] rfl rfl) ?_
    exact .entry
      ⟨"C:/a b.go".toList, ['7'], ['1'], ['1', '2'], ['5'], ['2'], ['3']⟩
      ⟨rfl, ⟨0, rfl⟩, ⟨0, rfl⟩, ⟨0, rfl⟩, ⟨0, rfl⟩, ⟨0, rfl⟩, ⟨0, rfl⟩⟩ (.alone _) .nil

theorem parse_written_mixed :
    Written .atomic mixedEntries mixedText ∧
      (∀ entry ∈ mixedEntries, IsFileName entry.1 ∧ entry.1 ≠ "mode") ∧
      (∀ entry ∈ mixedEntries, entry.2.InRange) ∧
      ∃ profiles, parse mixedText = .ok profiles ∧
        profiles.map (·.file) = ["C:/a b.go", "f:1.1,2.2 1 1"] ∧
        ∀ profile ∈ profiles, profile.mode = .atomic ∧
          profile.blocks = (mixedEntries.filter (·.1 == profile.file)).map (·.2) := by
  have named : ∀ entry ∈ mixedEntries, IsFileName entry.1 ∧ entry.1 ≠ "mode" := by
    have colon : IsFileName "C:/a b.go" :=
      ⟨by decide, by decide, forall_mem_of_eq_some (c := 'C') rfl (by decide), by decide⟩
    have block : IsFileName "f:1.1,2.2 1 1" :=
      ⟨by decide, by decide, forall_mem_of_eq_some (c := 'f') rfl (by decide), by decide⟩
    simp [mixedEntries, colon, block]
  have inRange : ∀ entry ∈ mixedEntries, entry.2.InRange := by
    have first : Block.InRange ⟨⟨⟨7, 1⟩, ⟨12, 5⟩⟩, 2, 3⟩ := by
      constructor <;> decide
    have second :
        Block.InRange ⟨⟨⟨3, 1⟩, ⟨4294967295, 2⟩⟩, 0, 18446744073709551615⟩ := by
      constructor <;> decide
    simp [mixedEntries, first, second]
  exact ⟨written_mixedText, named, inRange, parse_written written_mixedText named inRange⟩

/-- **A file may not be called `mode`.**  The name is not empty, is on one line, and begins neither
with a blank nor with `mode:`; but with the colon after it, its line is taken for a second
declaration of the mode. -/
theorem malformed_of_file_mode :
    IsFileName "mode" ∧ Block.InRange ⟨⟨⟨1, 1⟩, ⟨2, 2⟩⟩, 1, 1⟩ ∧
      Written .set [("mode", ⟨⟨⟨1, 1⟩, ⟨2, 2⟩⟩, 1, 1⟩)] "mode: set\nmode:1.1,2.2 1 1\n" ∧
      parse "mode: set\nmode:1.1,2.2 1 1\n" =
        .error (.malformed 2 (.unknownMode "1.1,2.2 1 1")) := by
  have name : IsFileName "mode" :=
    ⟨by decide, by decide, forall_mem_of_eq_some (c := 'm') rfl (by decide), by decide⟩
  refine ⟨name, by constructor <;> decide, ?_, rfl⟩
  refine ⟨[], "mode: set".toList, ["mode:1.1,2.2 1 1".toList, []], by simp, .alone _, ?_, rfl⟩
  exact .entry ⟨"mode".toList, ['1'], ['1'], ['2'], ['2'], ['1'], ['1']⟩
    ⟨rfl, ⟨0, rfl⟩, ⟨0, rfl⟩, ⟨0, rfl⟩, ⟨0, rfl⟩, ⟨0, rfl⟩, ⟨0, rfl⟩⟩ (.alone _)
    (.blank (.alone _) .nil)

end GoCoverage.Profile
