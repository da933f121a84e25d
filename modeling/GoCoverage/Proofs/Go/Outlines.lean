import GoCoverage.Go.SourceFile

/-! # Outlines one after the other

A scanner leaves an end of its text, so what is read later stands behind what is read before.  An
outline begins where its scanner does, behind blanks and with the word `func`, and ends where the
scanner ends (`Outline.standsIn_of_mem_ways`).  The outlines of a file are therefore apart and in
the order of the source (`follow_of_outlines?`), whatever stands between them. -/

namespace GoCoverage.Go

/-! ## What is read first and what is read next -/

namespace Scanner

variable {α β : Type} {text rest : List Char}

theorem mem_ways_bind {first : Scanner α} {next : α → Scanner β} {outcome : β × List Char} :
    outcome ∈ (first >>= next).ways text ↔
      ∃ a middle, (a, middle) ∈ first.ways text ∧ outcome ∈ (next a).ways middle := by
  constructor
  · intro h
    obtain ⟨⟨a, middle⟩, isFirst, isNext⟩ := List.mem_flatMap.mp h
    exact ⟨a, middle, isFirst, isNext⟩
  · rintro ⟨a, middle, isFirst, isNext⟩
    exact List.mem_flatMap.mpr ⟨(a, middle), isFirst, isNext⟩

theorem mem_ways_pure {a b : α} :
    (b, rest) ∈ (pure a : Scanner α).ways text ↔ b = a ∧ rest = text :=
  List.mem_singleton.trans (by simp only [Prod.mk.injEq])

theorem mem_ways_look {answer : List Char → α} {b : α} :
    (b, rest) ∈ (look answer).ways text ↔ b = answer text ∧ rest = text :=
  List.mem_singleton.trans (by simp only [Prod.mk.injEq])

/-- A word and what follows it. -/
theorem eq_append_of_word? {word : List Char} (h : word? text = some (word, rest)) :
    text = word ++ rest := by
  unfold word? at h
  split at h
  · split at h
    · cases h
      rw [List.cons_append, List.takeWhile_append_dropWhile]
    · cases h
  · cases h

/-- What is left after a keyword, and where the keyword stands. -/
theorem eq_of_mem_ways_keyword {word : String} (h : ((), rest) ∈ (keyword word).ways text) :
    afterBlanks false text = word.toList ++ rest := by
  simp only [keyword, piece, lexeme] at h
  split at h
  · rename_i left found
    cases List.mem_singleton.mp h
    obtain ⟨⟨read, left⟩, isWord, found⟩ := Option.bind_eq_some_iff.mp found
    split at found
    · rename_i same
      cases found
      exact same ▸ eq_append_of_word? isWord
    · cases found
  · cases h

end Scanner

open Scanner

variable {read : Reader} {text rest : List Char}

theorem mem_ways_extentOf {α : Type} {scanner : Scanner α} {answer : α} {extent : Extent} :
    ((answer, extent), rest) ∈ (extentOf scanner).ways text ↔
      (answer, rest) ∈ scanner.ways text ∧ extent = ⟨afterBlanks false text, rest⟩ := by
  simp only [extentOf, mem_ways_bind, mem_ways_pure, ahead, remaining, mem_ways_look]
  constructor
  · rintro ⟨_, _, ⟨rfl, rfl⟩, _, _, isAnswer, _, _, ⟨rfl, rfl⟩, same, rfl⟩
    cases same
    exact ⟨isAnswer, rfl⟩
  · rintro ⟨isAnswer, rfl⟩
    exact ⟨_, _, ⟨rfl, rfl⟩, answer, rest, isAnswer, _, _, ⟨rfl, rfl⟩, rfl, rfl⟩

/-! ## Outlines -/

/-- The word that every declaration of a function begins with. -/
def declarationWord : List Char := "func".toList

/-- An outline of a declaration in a text: it begins with its word and ends somewhere after that. -/
structure Outline.StandsIn (outline : Outline) (text : List Char) : Prop where
  start : outline.extent.start <:+ text
  finish : ∃ body, outline.extent.start = declarationWord ++ body ∧ outline.extent.finish <:+ body

/-- Outlines that stand in a text one after the other. -/
def Follow : List Char → List Outline → Prop
  | _, [] => True
  | text, outline :: outlines => outline.StandsIn text ∧ Follow outline.extent.finish outlines

/-- What stands in the end of a text stands in the text. -/
theorem Follow.of_isSuffix {outlines : List Outline} (h : Follow rest outlines)
    (isSuffix : rest <:+ text) : Follow text outlines := by
  cases outlines with
  | nil => trivial
  | cons outline outlines => exact ⟨⟨h.1.start.trans isSuffix, h.1.finish⟩, h.2⟩

/-- An outline is read up to where it ends. -/
theorem Outline.standsIn_of_mem_ways {outline : Outline}
    (h : (outline, rest) ∈ (Go.outline read).ways text) :
    outline.StandsIn text ∧ rest = outline.extent.finish := by
  simp only [Go.outline, mem_ways_bind, mem_ways_pure] at h
  obtain ⟨⟨⟨name, receiver, signature⟩, extent⟩, _, isExtent, rfl, rfl⟩ := h
  obtain ⟨isDeclaration, rfl⟩ := mem_ways_extentOf.mp isExtent
  obtain ⟨_, body, isWord, isBody⟩ := mem_ways_bind.mp isDeclaration
  exact ⟨⟨afterBlanks_isSuffix false text, body, eq_of_mem_ways_keyword isWord,
    (function read).leavesEnd isBody⟩, rfl⟩

/-- The outline of an item of a file is read as one. -/
theorem mem_ways_of_mem_ways_item {outline : Outline} {mayEnd : Bool}
    (h : ((some outline, mayEnd), rest) ∈ (item read).ways text) :
    (outline, rest) ∈ (Go.outline read).ways text := by
  obtain ⟨word, _, isWord, isItem⟩ := mem_ways_bind.mp h
  obtain ⟨-, rfl⟩ := mem_ways_look.mp isWord
  split at isItem
  · simp [mem_ways_bind, mem_ways_pure] at isItem
  · simp [mem_ways_bind, mem_ways_pure] at isItem
  · obtain ⟨declares, _, isDeclaration, isBranch⟩ := mem_ways_bind.mp isItem
    obtain ⟨-, rfl⟩ := mem_ways_look.mp isDeclaration
    split at isBranch
    · obtain ⟨read, _, isOutline, isAnswer⟩ := mem_ways_bind.mp isBranch
      obtain ⟨same, rfl⟩ := mem_ways_pure.mp isAnswer
      cases same
      exact isOutline
    · simp [mem_ways_bind, mem_ways_pure] at isBranch
  · simp [mem_ways_bind, mem_ways_pure] at isItem

/-- The outlines of the items of a file follow each other. -/
theorem follow_of_mem_ways_items {fuel : Nat} {outlines : List Outline}
    (h : (outlines, rest) ∈ (items read fuel).ways text) : Follow text outlines := by
  induction fuel generalizing text outlines rest with
  | zero => cases h
  | succ fuel ih =>
    obtain ⟨_, _, isAhead, h⟩ := mem_ways_bind.mp h
    obtain ⟨rfl, rfl⟩ := mem_ways_look.mp isAhead
    split at h
    · obtain ⟨rfl, -⟩ := mem_ways_pure.mp h
      trivial
    · obtain ⟨⟨outline?, mayEnd⟩, afterItem, isItem, h⟩ := mem_ways_bind.mp h
      obtain ⟨_, _, isAhead, h⟩ := mem_ways_bind.mp h
      obtain ⟨rfl, rfl⟩ := mem_ways_look.mp isAhead
      split at h
      · obtain ⟨_, _, _, h⟩ := mem_ways_bind.mp h
        obtain ⟨rfl, -⟩ := mem_ways_pure.mp h
        cases outline? with
        | none => trivial
        | some outline =>
          exact ⟨(Outline.standsIn_of_mem_ways (mem_ways_of_mem_ways_item isItem)).1, trivial⟩
      · obtain ⟨_, afterTerminator, isTerminator, h⟩ := mem_ways_bind.mp h
        obtain ⟨others, _, areOthers, h⟩ := mem_ways_bind.mp h
        obtain ⟨rfl, -⟩ := mem_ways_pure.mp h
        have follow := (ih areOthers).of_isSuffix (terminator.leavesEnd isTerminator)
        cases outline? with
        | none => exact follow.of_isSuffix ((item read).leavesEnd isItem)
        | some outline =>
          obtain ⟨stands, rfl⟩ := Outline.standsIn_of_mem_ways (mem_ways_of_mem_ways_item isItem)
          exact ⟨stands, follow⟩

/-- The outlines of the items of a file are read as outlines. -/
theorem exists_mem_ways_of_mem {fuel : Nat} {outlines : List Outline}
    (h : (outlines, rest) ∈ (items read fuel).ways text) {outline : Outline}
    (member : outline ∈ outlines) :
    ∃ before after, (outline, after) ∈ (Go.outline read).ways before := by
  induction fuel generalizing text outlines rest with
  | zero => cases h
  | succ fuel ih =>
    obtain ⟨_, _, isAhead, h⟩ := mem_ways_bind.mp h
    obtain ⟨rfl, rfl⟩ := mem_ways_look.mp isAhead
    split at h
    · obtain ⟨rfl, -⟩ := mem_ways_pure.mp h
      cases member
    · obtain ⟨⟨outline?, mayEnd⟩, afterItem, isItem, h⟩ := mem_ways_bind.mp h
      obtain ⟨_, _, isAhead, h⟩ := mem_ways_bind.mp h
      obtain ⟨rfl, rfl⟩ := mem_ways_look.mp isAhead
      have first (found : outline ∈ outline?.toList) :
          ∃ before after, (outline, after) ∈ (Go.outline read).ways before := by
        rw [Option.mem_toList.mp found] at isItem
        exact ⟨_, _, mem_ways_of_mem_ways_item isItem⟩
      split at h
      · obtain ⟨_, _, _, h⟩ := mem_ways_bind.mp h
        obtain ⟨rfl, -⟩ := mem_ways_pure.mp h
        exact first member
      · obtain ⟨_, _, _, h⟩ := mem_ways_bind.mp h
        obtain ⟨others, _, areOthers, h⟩ := mem_ways_bind.mp h
        obtain ⟨rfl, -⟩ := mem_ways_pure.mp h
        rcases List.mem_append.mp member with member | member
        · exact first member
        · exact ih areOthers member

/-- **The outlines of a source text follow each other in it.** -/
theorem follow_of_outlines? {outlines : List Outline} (h : outlines? text = some outlines) :
    Follow text outlines := by
  obtain ⟨⟨_, rest⟩, isFirst, rfl⟩ := Option.map_eq_some_iff.mp h
  have follow := follow_of_mem_ways_items (List.mem_of_mem_head? isFirst)
  refine follow.of_isSuffix ?_
  unfold dropByteOrderMark
  split
  · exact List.suffix_cons _ _
  · exact List.suffix_rfl

end GoCoverage.Go
