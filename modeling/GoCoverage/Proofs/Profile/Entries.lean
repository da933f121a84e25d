import GoCoverage.Profile.Reader
import GoCoverage.Proofs.Discovery
import GoCoverage.Proofs.Outcome

/-! # The entries of a profile

Each block line of a text is an entry, a file and a block, and a line that is no block line is none.
A text that is accepted is read as its entries, grouped by file (`parse_eq_group`): nothing is left
out, moved or merged, wherever the lines of a file stand. -/

namespace GoCoverage.Profile

open Text

/-- The entry that a line stands for, if it is a block line. -/
def entryOfLine? (line : List Char) : Option (String × Block) :=
  match Item.ofLine line with
  | .block text => (blockOfLine text).toOption
  | _ => none

/-- The entries of a text, in the order of its lines. -/
def entriesOf (text : String) : List (String × Block) :=
  (linesOf '\n' text.toList).filterMap entryOfLine?

/-- The blocks that a text has for a file, in the order of its lines. -/
def blocksOf (text file : String) : List Block :=
  ((entriesOf text).filter (·.1 == file)).map (·.2)

/-- A line that is read adds its entry and nothing else. -/
theorem entries_of_line {reading after : Reading} {line : List Char} {number : Nat}
    (h : reading.line (some line, number) = .ok after) :
    after.entries = (entryOfLine? line).toList ++ reading.entries := by
  unfold entryOfLine?
  replace h : reading.item (.ofLine line) = .ok after := mapError_eq_ok.mp h
  cases kind : Item.ofLine line with
  | blank =>
    rw [kind] at h
    cases h
    rfl
  | mode word =>
    rw [kind, Reading.item] at h
    split at h <;> cases h
    rfl
  | block text =>
    rw [kind, Reading.item] at h
    split at h
    · cases h
    · cases entry : blockOfLine text with
      | error cause =>
        rw [entry] at h
        cases h
      | ok entry' =>
        rw [entry] at h
        cases h
        show _ = (blockOfLine text).toOption.toList ++ reading.entries
        rw [entry]
        rfl

/-- Lines that are read add their entries, the last one first. -/
theorem entries_of_lines {lines : List (List Char)} {number : Nat} {reading after : Reading}
    (h : ((lines.map some).zipIdx number).foldlM Reading.line reading = .ok after) :
    after.entries = (lines.filterMap entryOfLine?).reverse ++ reading.entries := by
  induction lines generalizing number reading with
  | nil =>
    cases h
    rfl
  | cons line lines ih =>
    rw [List.map_cons, List.zipIdx_cons, List.foldlM_cons] at h
    obtain ⟨next, step, rest⟩ := bind_eq_ok.mp h
    rw [ih rest, entries_of_line step, List.filterMap_cons]
    cases entryOfLine? line <;> simp

/-- **A text that is accepted is read as its entries, grouped by file.** -/
theorem parse_eq_group {text : String} {profiles : List Profile} (h : parse text = .ok profiles) :
    ∃ mode, profiles = group mode (entriesOf text) := by
  obtain ⟨reading, read, finished⟩ := bind_eq_ok.mp h
  have entries := entries_of_lines read
  rw [Reading.finish] at finished
  split at finished
  · cases finished
  · rename_i mode _
    cases finished
    refine ⟨mode, ?_⟩
    rw [entries, Reading.start, List.append_nil, List.reverse_reverse]
    rfl

/-- The profile of a file holds all blocks that the text has for it. -/
theorem blocks_of_mem_parse {text : String} {profiles : List Profile} {profile : Profile}
    (h : parse text = .ok profiles) (member : profile ∈ profiles) :
    profile.blocks = blocksOf text profile.file := by
  obtain ⟨mode, rfl⟩ := parse_eq_group h
  obtain ⟨file, _, rfl⟩ := List.mem_map.mp member
  rfl

/-- The profile with one more block. -/
def push (profile : Profile) (block : Block) : Profile :=
  { profile with blocks := profile.blocks ++ [block] }

theorem foldl_push (profile : Profile) (entries : List (String × Block)) :
    entries.foldl (fun profile entry => profile.push entry.2) profile =
      { profile with blocks := profile.blocks ++ entries.map (·.2) } := by
  induction entries generalizing profile with
  | nil => simp
  | cons entry entries ih => rw [List.foldl_cons, ih]; simp [push]

/-- **Entries can be grouped one by one**: the profile of a file is looked up, made at the end if
there is none yet, and gets the block. -/
theorem group_eq_foldl (mode : Mode) (entries : List (String × Block)) :
    group mode entries =
      entries.foldl
        (fun profiles entry =>
          changeOrAdd (·.file == entry.1) ⟨entry.1, mode, []⟩ (·.push entry.2) profiles) [] := by
  have gathered := foldl_changeOrAdd Prod.fst Profile.file (fun file => ⟨file, mode, []⟩)
    (fun profile entry => profile.push entry.2) (fun _ => rfl) (fun _ _ => rfl) entries
  refine Eq.trans (List.map_congr_left fun file _ => ?_) gathered.symm
  rw [foldl_push, List.nil_append]

end GoCoverage.Profile
