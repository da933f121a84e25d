import GoCoverage.Files.Path
import Mathlib.Data.List.TakeWhile

/-! # Directories and names

A path is taken apart at its last separator (`splitLast_of_none`, `splitLast_of_last`).  Which
characters are separators matters: what stands after the last slash is what stands after the last
slash or backslash exactly if it holds no backslash (`baseName_eq_lastPart_iff`). -/

namespace GoCoverage.Files.Path

/-! ## The last separator -/

section Split

variable (isSeparator : Char → Bool) {path name : String} {before last : List Char} {c : Char}

theorem splitLast_of_none (none : ∀ c ∈ path.toList, isSeparator c = false) :
    splitLast isSeparator path = (Option.none, path) := by
  have all : path.toList.reverse.takeWhile (fun c => !isSeparator c) = path.toList.reverse :=
    List.takeWhile_eq_self_iff.mpr fun c member => by simp [none c (List.mem_reverse.mp member)]
  rw [splitLast, all, List.drop_length]

theorem splitLast_of_last (split : path.toList = before ++ c :: last)
    (separates : isSeparator c = true) (none : ∀ d ∈ last, isSeparator d = false) :
    splitLast isSeparator path = (some (String.ofList before), String.ofList last) := by
  have reversed : path.toList.reverse = last.reverse ++ c :: before.reverse := by simp [split]
  have taken : path.toList.reverse.takeWhile (fun c => !isSeparator c) = last.reverse := by
    rw [reversed, List.takeWhile_append_of_pos, List.takeWhile_cons_of_neg (by simp [separates]),
      List.append_nil]
    intro d member
    simp [none d (List.mem_reverse.mp member)]
  rw [splitLast, taken, reversed, List.drop_left]
  dsimp only
  rw [List.reverse_reverse, List.reverse_reverse]

/-- A path has no separator, or it has a last one. -/
theorem no_separator_or_last (path : String) :
    (∀ c ∈ path.toList, isSeparator c = false) ∨
      ∃ before c last, path.toList = before ++ c :: last ∧ isSeparator c = true ∧
        ∀ d ∈ last, isSeparator d = false := by
  generalize path.toList = text
  induction text with
  | nil => exact .inl fun c member => absurd member List.not_mem_nil
  | cons c text ih =>
    rcases ih with none | ⟨before, d, last, rfl, separates, none⟩
    · by_cases separates : isSeparator c = true
      · exact .inr ⟨[], c, text, rfl, separates, none⟩
      · refine .inl fun d member => ?_
        rcases List.mem_cons.mp member with rfl | member
        · exact Bool.eq_false_iff.mpr separates
        · exact none d member
    · exact .inr ⟨c :: before, d, last, rfl, separates, none⟩

/-- What stands after the last separator holds none. -/
theorem not_separator_of_mem_splitLast {d : Char}
    (member : d ∈ (splitLast isSeparator path).2.toList) : isSeparator d = false := by
  rcases no_separator_or_last isSeparator path with none | ⟨before, c, last, split, separates, none⟩
  · rw [splitLast_of_none _ none] at member
    exact none d member
  · rw [splitLast_of_last _ split separates none, String.toList_ofList] at member
    exact none d member

/-- What stands before a separator has no part in the name at the end. -/
theorem splitLast_append (separates : isSeparator c = true)
    (split : path.toList = before ++ c :: name.toList) :
    (splitLast isSeparator path).2 = (splitLast isSeparator name).2 := by
  rcases no_separator_or_last isSeparator name with
    none | ⟨before', d, last, split', separates', none⟩
  · rw [splitLast_of_none _ none, splitLast_of_last _ split separates none, String.ofList_toList]
  · rw [split', ← List.cons_append, ← List.append_assoc] at split
    rw [splitLast_of_last _ split separates' none, splitLast_of_last _ split' separates' none]

end Split

/-- What stands after the last slash of a path. -/
def lastPart (path : String) : String := (splitLast (· == '/') path).2

/-- **The last part is the name at the end exactly if it holds no backslash.** -/
theorem baseName_eq_lastPart_iff (path : String) :
    baseName path = lastPart path ↔ '\\' ∉ (lastPart path).toList := by
  constructor
  · intro same isIn
    rw [← same] at isIn
    have := not_separator_of_mem_splitLast isSlash isIn
    simp [isSlash] at this
  · intro notIn
    rw [baseName, lastPart]
    have only : ∀ d ∈ (lastPart path).toList, isSlash d = false := by
      intro d member
      have noSlash := not_separator_of_mem_splitLast (· == '/') member
      have noBackslash : (d == '\\') = false := beq_false_of_ne fun same => notIn (same ▸ member)
      simp only [isSlash, noSlash, noBackslash, Bool.or_self]
    rw [lastPart] at only
    rcases no_separator_or_last (· == '/') path with
      none | ⟨before, c, last, split, separates, none⟩
    · rw [splitLast_of_none _ none] at only ⊢
      rw [splitLast_of_none _ only]
    · rw [splitLast_of_last _ split separates none, String.toList_ofList] at only
      have isSeparator : isSlash c = true := by simp only [isSlash, separates, Bool.true_or]
      rw [splitLast_of_last _ split separates none, splitLast_of_last _ split isSeparator only]

end GoCoverage.Files.Path
