import GoCoverage.Proofs.Go.Outlines
import GoCoverage.Proofs.Go.SourceOrder

/-! # Where declarations stand

A declaration is cut from its source between two places.  Its positions are computed from the text
before these places, so they say which line and which byte of the line a place is, and at the first
of them stands the word that every declaration begins with (`Declaration.StandsAt`).  No declaration
is empty, and each ends before the next one begins (`declarations_stand_apart`), as the scan that
gives them their blocks supposes. -/

namespace GoCoverage.Go

open Scanner
open Text (Position)

/-! ## Pieces of a text -/

theorem Scanner.count_countBefore {left text : List Char} (isSuffix : left <:+ text) (n : Nat) :
    countBefore.count left n text = n + (text.length - left.length) := by
  induction text generalizing n with
  | nil => simp [countBefore.count]
  | cons c text ih =>
    rw [countBefore.count]
    split
    · rename_i same
      have whole : c :: text = left := by simpa [isSameText, withPtrEq] using same
      rw [whole, Nat.sub_self, Nat.add_zero]
    · rename_i other
      rcases List.suffix_cons_iff.mp isSuffix with rfl | isSuffix
      · exact absurd (by simp [isSameText, withPtrEq]) other
      · have shorter := isSuffix.length_le
        rw [ih isSuffix, List.length_cons]
        omega

/-- What is counted before an end of a text is what stands before it. -/
theorem Scanner.take_countBefore {left text : List Char} (isSuffix : left <:+ text) :
    text.take (countBefore left text) ++ left = text := by
  obtain ⟨before, rfl⟩ := isSuffix
  rw [countBefore, count_countBefore (List.suffix_append before left), List.length_append,
    Nat.zero_add, Nat.add_sub_cancel, List.take_left]

/-- The text of an outline: its word, and what follows up to its end. -/
theorem Outline.StandsIn.exists_text {outline : Outline} {text : List Char}
    (stands : outline.StandsIn text) :
    (∃ body, outline.extent.text = declarationWord ++ body) ∧
      outline.extent.text ++ outline.extent.finish = outline.extent.start := by
  obtain ⟨-, body, begins, ends⟩ := stands
  have cut := take_countBefore (ends.trans (begins ▸ List.suffix_append declarationWord body))
  obtain ⟨inner, rfl⟩ := ends
  rw [← List.append_assoc] at begins
  exact ⟨⟨inner, List.append_cancel_right (cut.trans begins)⟩, cut⟩

/-- What is placed: the declaration of the first outline, and the others from its end on. -/
theorem place_cons (position : Position) (text : List Char) (outline : Outline)
    (outlines : List Outline) :
    place position text (outline :: outlines) =
      { name := String.ofList outline.name
        receiver := outline.receiver.map String.ofList
        signature := String.ofList outline.signature
        start := position.after (text.take (countBefore outline.extent.start text))
        finish := (position.after (text.take (countBefore outline.extent.start text))).after
          outline.extent.text } ::
      place ((position.after (text.take (countBefore outline.extent.start text))).after
        outline.extent.text) outline.extent.finish outlines := rfl

/-- The declaration of an outline begins behind what stands before the outline, and ends behind its
text. -/
theorem exists_outline_of_mem_place {before text : List Char} {outlines : List Outline}
    (follow : Follow text outlines) {declaration : Declaration}
    (h : declaration ∈ place (Position.start.after before) text outlines) :
    ∃ outline ∈ outlines, ∃ skipped, text = skipped ++ outline.extent.start ∧
      outline.StandsIn outline.extent.start ∧
      declaration.receiver = outline.receiver.map String.ofList ∧
      declaration.start = Position.start.after (before ++ skipped) ∧
      declaration.finish = Position.start.after (before ++ skipped ++ outline.extent.text) := by
  induction outlines generalizing before text with
  | nil => cases h
  | cons outline outlines ih =>
    obtain ⟨stands, others⟩ := follow
    have reached := take_countBefore stands.start
    have cut := stands.exists_text.2
    have first : (Position.start.after before).after
        (text.take (countBefore outline.extent.start text)) =
          Position.start.after (before ++ text.take (countBefore outline.extent.start text)) :=
      (Position.after_append _ _ _).symm
    have last : (Position.start.after
        (before ++ text.take (countBefore outline.extent.start text))).after outline.extent.text =
          Position.start.after (before ++ text.take (countBefore outline.extent.start text) ++
            outline.extent.text) :=
      (Position.after_append _ _ _).symm
    rw [place_cons, first, last] at h
    generalize text.take (countBefore outline.extent.start text) = skipped at h reached
    rcases List.mem_cons.mp h with rfl | h
    · exact ⟨outline, List.mem_cons_self, skipped, reached.symm,
        ⟨List.suffix_rfl, stands.finish⟩, rfl, rfl, rfl⟩
    · obtain ⟨other, member, gap, isFinish, standsThere, receiver, starts, ends⟩ := ih others h
      refine ⟨other, List.mem_cons_of_mem outline member, skipped ++ outline.extent.text ++ gap, ?_,
        standsThere, receiver, ?_, ?_⟩
      · rw [← reached, ← cut, isFinish]
        simp
      · rw [starts]
        simp
      · rw [ends]
        simp

/-- A declaration takes a piece of its text that begins with its word. -/
theorem exists_of_mem_place {before text : List Char} {outlines : List Outline}
    (follow : Follow text outlines) {declaration : Declaration}
    (h : declaration ∈ place (Position.start.after before) text outlines) :
    ∃ skipped body rest, text = skipped ++ (declarationWord ++ body) ++ rest ∧
      declaration.start = Position.start.after (before ++ skipped) ∧
      declaration.finish =
        Position.start.after (before ++ skipped ++ (declarationWord ++ body)) := by
  obtain ⟨outline, _, skipped, reached, stands, _, starts, ends⟩ :=
    exists_outline_of_mem_place follow h
  obtain ⟨⟨body, isText⟩, cut⟩ := stands.exists_text
  rw [← cut, ← List.append_assoc] at reached
  rw [isText] at reached ends
  exact ⟨skipped, body, outline.extent.finish, reached, starts, ends⟩

/-! ## Places in the bytes of a source -/

/-- A declaration takes the bytes of its source from one place up to another.  Its positions are
those of the two places, and its word stands at the first of them. -/
structure Declaration.StandsAt (declaration : Declaration) (bytes : List UInt8)
    (first last : Nat) : Prop where
  start : declaration.start = Position.ofBytes (bytes.take first)
  finish : declaration.finish = Position.ofBytes (bytes.take last)
  word : Text.encode "func" <+: (bytes.take last).drop first
  within : last ≤ bytes.length

/-- A declaration that is cut from a text stands in the bytes of the text. -/
theorem Declaration.exists_standsAt {declaration : Declaration} {source : String}
    {skipped body rest : List Char}
    (cut : source.toList = skipped ++ (declarationWord ++ body) ++ rest)
    (starts : declaration.start = Position.start.after skipped)
    (ends : declaration.finish = Position.start.after (skipped ++ (declarationWord ++ body))) :
    ∃ first last, declaration.StandsAt (Text.encode source) first last := by
  have bytes : Text.encode source = skipped.flatMap String.utf8EncodeChar ++
      (declarationWord ++ body).flatMap String.utf8EncodeChar ++
      rest.flatMap String.utf8EncodeChar := by
    have whole : source = String.ofList source.toList := String.ofList_toList.symm
    rw [whole, Text.encode_ofList, cut, List.flatMap_append, List.flatMap_append]
  have word : declarationWord.flatMap String.utf8EncodeChar = Text.encode "func" :=
    (Text.encode_ofList declarationWord).symm
  rw [Position.after_start] at starts ends
  rw [List.flatMap_append] at ends
  refine ⟨(skipped.flatMap String.utf8EncodeChar).length,
    (skipped.flatMap String.utf8EncodeChar ++
      (declarationWord ++ body).flatMap String.utf8EncodeChar).length, ?_, ?_, ?_, ?_⟩
  · rw [bytes, List.append_assoc, List.take_left]
    exact starts
  · rw [bytes, List.take_left]
    exact ends
  · rw [bytes, List.take_left, List.drop_left, List.flatMap_append, word]
    exact List.prefix_append _ _
  · rw [bytes]
    exact (List.prefix_append _ _).length_le

/-- **Declarations stand apart and in order.**  Each takes a piece of the source that begins with
its word, and its positions are those of the two ends of the piece, counted in bytes.  No piece is
empty, and each ends before the next one begins. -/
theorem declarations_stand_apart {source : String} {declarations : List Declaration}
    (h : declarations? source = some declarations) :
    (∀ declaration ∈ declarations,
      (∃ first last, declaration.StandsAt (Text.encode source) first last) ∧
        Position.start ≤ declaration.start ∧ declaration.start < declaration.finish) ∧
      declarations.Pairwise fun earlier later => earlier.finish ≤ later.start := by
  obtain ⟨outlines, isOutlines, rfl⟩ := Option.map_eq_some_iff.mp h
  refine ⟨fun declaration member => ?_, place_ordered⟩
  have follow := follow_of_outlines? isOutlines
  have placed : declaration ∈ place (Position.start.after []) source.toList outlines := member
  obtain ⟨skipped, body, rest, cut, starts, ends⟩ := exists_of_mem_place follow placed
  rw [List.nil_append] at starts ends
  refine ⟨Declaration.exists_standsAt cut starts ends, ?_, ?_⟩
  · rw [starts]
    exact Position.le_after _ _
  · rw [starts, ends, Position.after_append]
    exact Position.lt_after _ (by simp [declarationWord])

/-- A byte order mark, line breaks of two characters, a comment with a letter of two bytes, and a
function without a body before a method on the same line. -/
def crowdedSource : String := "\uFEFFpackage p\r\n/*é*/ func A(); func (t *T) B(){}\r\n"

theorem declarations_stand_apart_crowded :
    ∃ declarations, declarations? crowdedSource = some declarations ∧
      declarations.map (fun d => (d.name, d.start, d.finish)) =
        [("A", ⟨2, 8⟩, ⟨2, 16⟩), ("B", ⟨2, 18⟩, ⟨2, 35⟩)] ∧
      (∀ declaration ∈ declarations,
        (∃ first last, declaration.StandsAt (Text.encode crowdedSource) first last) ∧
          Position.start ≤ declaration.start ∧ declaration.start < declaration.finish) ∧
        declarations.Pairwise fun earlier later => earlier.finish ≤ later.start := by
  obtain ⟨declarations, read, places⟩ : ∃ declarations,
      declarations? crowdedSource = some declarations ∧
        declarations.map (fun d => (d.name, d.start, d.finish)) =
          [("A", ⟨2, 8⟩, ⟨2, 16⟩), ("B", ⟨2, 18⟩, ⟨2, 35⟩)] :=
    Option.map_eq_some_iff.mp (by decide +kernel)
  exact ⟨declarations, read, places, declarations_stand_apart read⟩

end GoCoverage.Go
