import GoCoverage.Proofs.Text.Ranges
import GoCoverage.Text.Blank
import GoCoverage.Text.Identifier
import Mathlib.Data.List.TakeWhile

/-! # Blanks and the characters of names

Trimming takes the blanks around a text and nothing of the text itself (`trim_between`).  A
character that may begin a name may also continue one, and no character of a name is blank.  Both
are read off the tables: the ranges of one lie in those of the other, and the blanks are few. -/

namespace GoCoverage.Text

/-! ## Trimming -/

section Trim

variable {text before after : List Char}

theorem dropWhile_of_head? {p : Char → Bool} (first : ∀ c ∈ text.head?, ¬ p c) :
    text.dropWhile p = text := by
  cases text with
  | nil => rfl
  | cons c text => exact List.dropWhile_cons_of_neg (first c rfl)

/-- **Trimming takes the blanks around a text**, and nothing of a text that neither begins nor ends
with one. -/
theorem trim_between (blanksBefore : ∀ c ∈ before, isBlank c) (blanksAfter : ∀ c ∈ after, isBlank c)
    (first : ∀ c ∈ text.head?, ¬ isBlank c) (last : ∀ c ∈ text.getLast?, ¬ isBlank c) :
    trim (before ++ text ++ after) = text := by
  have start : trimStart (before ++ text ++ after) = (text ++ after).dropWhile isBlank := by
    rw [trimStart, List.append_assoc, List.dropWhile_append_of_pos blanksBefore]
  cases text with
  | nil =>
    rw [trim, start, List.nil_append, List.dropWhile_eq_nil_iff.mpr blanksAfter]
    rfl
  | cons c text =>
    have rest : (c :: text ++ after).dropWhile isBlank = c :: text ++ after :=
      List.dropWhile_cons_of_neg (first c rfl)
    have reversed : ((c :: text) ++ after).reverse.dropWhile isBlank = (c :: text).reverse := by
      rw [List.reverse_append, List.dropWhile_append_of_pos]
      · exact dropWhile_of_head? (by rwa [List.head?_reverse])
      · exact fun c member => blanksAfter c (List.mem_reverse.mp member)
    rw [trim, start, rest, trimEnd, reversed, List.reverse_reverse]

end Trim

/-! ## Tables -/

namespace CodeRanges

variable {table other : CodeRanges} {code : Nat}

/-- Each range of a sorted table lies in one of another sorted table.  What ends before a range is
left behind for good. -/
def liesIn : CodeRanges → CodeRanges → Bool
  | [], _ => true
  | range :: table, other =>
    match other.dropWhile fun wide => wide.2 < range.2 with
    | [] => false
    | wide :: rest => wide.1 ≤ range.1 && liesIn table (wide :: rest)

theorem contains_of_liesIn (h : liesIn table other = true) (isIn : table.contains code = true) :
    other.contains code = true := by
  induction table generalizing other with
  | nil => cases isIn
  | cons range table ih =>
    rw [liesIn] at h
    split at h
    · cases h
    · rename_i wide rest dropped
      obtain ⟨begins, others⟩ := Bool.and_eq_true_iff.mp h
      have suffix : wide :: rest <:+ other := dropped ▸ List.dropWhile_suffix _
      have ends : range.2 ≤ wide.2 := by
        have stops := List.head?_dropWhile_not (fun wide => decide (wide.2 < range.2)) other
        rw [dropped] at stops
        simpa using stops
      obtain ⟨inside, member, bounds⟩ := contains_iff.mp isIn
      rcases List.mem_cons.mp member with rfl | member
      · refine contains_iff.mpr ⟨wide, suffix.subset List.mem_cons_self, ?_, ?_⟩
        · exact Nat.le_trans (of_decide_eq_true begins) bounds.1
        · exact Nat.le_trans bounds.2 ends
      · obtain ⟨found, isFound, bounds⟩ :=
          contains_iff.mp (ih others (contains_iff.mpr ⟨inside, member, bounds⟩))
        exact contains_iff.mpr ⟨found, suffix.subset isFound, bounds⟩

/-- The code points of a table, one by one. -/
def codes (table : CodeRanges) : List Nat :=
  table.flatMap fun range => List.range' range.1 (range.2 + 1 - range.1)

theorem mem_codes_of_contains (isIn : table.contains code = true) : code ∈ table.codes := by
  obtain ⟨range, isRange, above, below⟩ := contains_iff.mp isIn
  exact List.mem_flatMap.mpr ⟨range, isRange, List.mem_range'_1.mpr ⟨above, by omega⟩⟩

end CodeRanges

/-! ## The characters of names -/

theorem starts_lie_in_continues :
    CodeRanges.liesIn identifierStarts identifierContinues = true := by
  decide +kernel

theorem codes_of_blanks :
    ∀ code ∈ blanks.codes, isIdentifierContinue (Char.ofNat code) = false := by
  decide +kernel

variable {c : Char}

/-- A character that begins a name may continue one. -/
theorem isIdentifierContinue_of_start (h : isIdentifierStart c = true) :
    isIdentifierContinue c = true := by
  simp only [isIdentifierStart, isIdentifierContinue, Bool.or_eq_true, Bool.and_eq_true,
    Char.isAlphanum] at h ⊢
  rcases h with (isLetter | isUnderscore) | ⟨outside, isStart⟩
  · exact .inl (.inl (.inl isLetter))
  · exact .inl (.inr isUnderscore)
  · exact .inr ⟨outside, CodeRanges.contains_of_liesIn starts_lie_in_continues isStart⟩

/-- No character of a name is blank. -/
theorem not_isBlank_of_continue (h : isIdentifierContinue c = true) : ¬ isBlank c := by
  intro isBlank
  have other := codes_of_blanks c.toNat (CodeRanges.mem_codes_of_contains isBlank)
  rw [Char.ofNat_toNat, h] at other
  cases other

end GoCoverage.Text
