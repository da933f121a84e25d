import GoCoverage.Text.CodeRange

/-! # Ordered tables

A table of ranges is put in order without gaining or losing a code point (`contains_ordered`), and
the gaps of an ordered table hold exactly the other code points (`contains_gaps`).  That the ranges
of an ordered table do not touch is what makes both work: a new range has to be compared with the
next one only, and between two ranges there is always a gap. -/

namespace GoCoverage.Text.CodeRanges

variable {table : CodeRanges} {first last code bound : Nat}

theorem contains_iff :
    table.contains code = true ↔ ∃ range ∈ table, range.1 ≤ code ∧ code ≤ range.2 := by
  simp [contains]

theorem contains_cons {low high : Nat} : contains ((low, high) :: table) code = true ↔
    (low ≤ code ∧ code ≤ high) ∨ table.contains code = true := by
  simp [contains]

theorem contains_append {other : CodeRanges} : contains (table ++ other) code = true ↔
    table.contains code = true ∨ other.contains code = true := by
  simp [contains]

/-- The ranges hold something, ascend and do not touch. -/
structure Ordered (table : CodeRanges) : Prop where
  holds : ∀ range ∈ table, range.1 ≤ range.2
  apart : table.Pairwise fun range next => range.2 + 1 < next.1

namespace Ordered

theorem nil : Ordered [] := ⟨by simp, .nil⟩

theorem cons {low high : Nat} (holds : low ≤ high) (apart : ∀ range ∈ table, high + 1 < range.1)
    (h : Ordered table) : Ordered ((low, high) :: table) :=
  ⟨List.forall_mem_cons.mpr ⟨holds, h.holds⟩, List.pairwise_cons.mpr ⟨apart, h.apart⟩⟩

theorem tail {low high : Nat} (h : Ordered ((low, high) :: table)) :
    low ≤ high ∧ (∀ range ∈ table, high + 1 < range.1) ∧ Ordered table := by
  obtain ⟨holds, others⟩ := List.forall_mem_cons.mp h.holds
  obtain ⟨apart, pairwise⟩ := List.pairwise_cons.mp h.apart
  exact ⟨holds, apart, others, pairwise⟩

end Ordered

/-- Nothing lies in ranges that begin later. -/
theorem not_contains_of_lt (later : ∀ range ∈ table, code < range.1) :
    ¬ table.contains code = true := by
  intro isIn
  obtain ⟨range, member, above, _⟩ := contains_iff.mp isIn
  exact Nat.not_lt.mpr above (later range member)

theorem isAscii_iff_of_ordered (h : Ordered table) :
    table.isAscii = true ↔ ∀ code, table.contains code = true → code < 0x80 := by
  simp only [isAscii, List.all_eq_true, decide_eq_true_eq, contains_iff]
  constructor
  · rintro small code ⟨range, member, _, below⟩
    exact Nat.lt_of_le_of_lt below (small range member)
  · intro small range member
    exact small range.2 ⟨range, member, h.holds range member, Nat.le_refl _⟩

/-! ## Putting ranges in order -/

theorem lt_of_mem_put (above : bound < first) (others : ∀ range ∈ table, bound < range.1) :
    ∀ range ∈ put first last table, bound < range.1 := by
  induction table generalizing first last with
  | nil => simpa [put] using above
  | cons range table ih =>
    obtain ⟨low, high⟩ := range
    obtain ⟨isAbove, others⟩ := List.forall_mem_cons.mp others
    rw [put]
    split
    · exact List.forall_mem_cons.mpr ⟨above, List.forall_mem_cons.mpr ⟨isAbove, others⟩⟩
    · split
      · exact List.forall_mem_cons.mpr ⟨isAbove, ih above others⟩
      · exact ih (Nat.lt_min.mpr ⟨above, isAbove⟩) others

theorem ordered_put (h : Ordered table) (holds : first ≤ last) :
    Ordered (put first last table) := by
  induction table generalizing first last with
  | nil => exact .cons holds (by simp) .nil
  | cons range table ih =>
    obtain ⟨low, high⟩ := range
    obtain ⟨isHeld, apart, rest⟩ := h.tail
    rw [put]
    split
    · rename_i before
      refine .cons holds (List.forall_mem_cons.mpr ⟨before, fun range member => ?_⟩) h
      have := apart range member
      omega
    · split
      · rename_i after
        exact .cons isHeld (lt_of_mem_put after apart) (ih rest holds)
      · exact ih rest (by omega)

theorem contains_put (h : Ordered table) (holds : first ≤ last) :
    contains (put first last table) code = true ↔
      (first ≤ code ∧ code ≤ last) ∨ table.contains code = true := by
  induction table generalizing first last with
  | nil => simp [put, contains]
  | cons range table ih =>
    obtain ⟨low, high⟩ := range
    obtain ⟨isHeld, _, rest⟩ := h.tail
    rw [put]
    split
    · rw [contains_cons]
    · split
      · rw [contains_cons, contains_cons, ih rest holds, or_left_comm]
      · -- the two ranges touch, so what lies in the wider one lies in one of them
        rw [contains_cons, ih rest (by omega), ← or_assoc]
        exact or_congr_left (by omega)

theorem ordered_ordered (table : CodeRanges) : Ordered table.ordered := by
  induction table with
  | nil => exact .nil
  | cons range table ih =>
    rw [ordered, List.foldr_cons]
    split
    · rename_i holds
      exact ordered_put ih holds
    · exact ih

/-- **Putting a table in order changes nothing about what lies in it.** -/
theorem contains_ordered (table : CodeRanges) (code : Nat) :
    table.ordered.contains code = true ↔ table.contains code = true := by
  induction table with
  | nil => rfl
  | cons range table ih =>
    rw [ordered, List.foldr_cons, contains_cons, ← ordered]
    split
    · rename_i holds
      rw [contains_put (ordered_ordered table) holds]
      exact or_congr_right ih
    · refine ih.trans ⟨.inr, fun either => either.resolve_left ?_⟩
      omega

/-! ## Gaps -/

theorem le_of_mem_gapsFrom (h : Ordered table) (begins : ∀ range ∈ table, first ≤ range.1) :
    ∀ gap ∈ gapsFrom first table, first ≤ gap.1 := by
  induction table generalizing first with
  | nil =>
    rw [gapsFrom]
    split <;> simp
  | cons range table ih =>
    obtain ⟨low, high⟩ := range
    obtain ⟨isHeld, apart, rest⟩ := h.tail
    have start : first ≤ low := begins _ List.mem_cons_self
    have later : ∀ gap ∈ gapsFrom (high + 1) table, first ≤ gap.1 := fun gap member => by
      have := ih rest (fun range member => Nat.le_of_lt (apart range member)) gap member
      omega
    rw [gapsFrom]
    split
    · exact List.forall_mem_cons.mpr ⟨Nat.le_refl first, later⟩
    · exact later

theorem ordered_gapsFrom (h : Ordered table) (begins : ∀ range ∈ table, first ≤ range.1) :
    Ordered (gapsFrom first table) := by
  induction table generalizing first with
  | nil =>
    rw [gapsFrom]
    split
    · rename_i inside
      exact .cons inside (by simp) .nil
    · exact .nil
  | cons range table ih =>
    obtain ⟨low, high⟩ := range
    obtain ⟨isHeld, apart, rest⟩ := h.tail
    have begins : ∀ range ∈ table, high + 1 ≤ range.1 := fun range member =>
      Nat.le_of_lt (apart range member)
    rw [gapsFrom]
    split
    · refine .cons (by omega) (fun gap member => ?_) (ih rest begins)
      have := le_of_mem_gapsFrom rest begins gap member
      omega
    · exact ih rest begins

theorem contains_gapsFrom (h : Ordered table) (begins : ∀ range ∈ table, first ≤ range.1)
    (isCode : code ≤ lastCode) :
    contains (gapsFrom first table) code = true ↔ first ≤ code ∧ ¬ table.contains code = true := by
  induction table generalizing first with
  | nil =>
    rw [gapsFrom]
    split
    · simp [contains, isCode]
    · rename_i outside
      have : ¬ first ≤ code := fun above => outside (Nat.le_trans above isCode)
      simp [contains, this]
  | cons range table ih =>
    obtain ⟨low, high⟩ := range
    obtain ⟨isHeld, apart, rest⟩ := h.tail
    have start : first ≤ low := begins _ List.mem_cons_self
    have begins : ∀ range ∈ table, high + 1 ≤ range.1 := fun range member =>
      Nat.le_of_lt (apart range member)
    have later : code ≤ high → ¬ contains table code = true := fun before =>
      not_contains_of_lt fun range member => Nat.lt_of_le_of_lt before (begins range member)
    have other : first ≤ code ∧ ¬ contains ((low, high) :: table) code = true ↔
        (first ≤ code ∧ code < low) ∨ (high + 1 ≤ code ∧ ¬ contains table code = true) := by
      rw [contains_cons]
      constructor
      · rintro ⟨above, outside⟩
        by_cases before : code < low
        · exact .inl ⟨above, before⟩
        · refine .inr ⟨Nat.lt_of_not_le fun inside => ?_, fun isIn => outside (.inr isIn)⟩
          exact outside (.inl ⟨Nat.le_of_not_lt before, inside⟩)
      · rintro (⟨above, before⟩ | ⟨after, outside⟩)
        · refine ⟨above, ?_⟩
          rintro (inside | isIn)
          · omega
          · exact later (by omega) isIn
        · refine ⟨by omega, ?_⟩
          rintro (inside | isIn)
          · omega
          · exact outside isIn
    rw [gapsFrom, other]
    split
    · rw [contains_cons, ih rest begins]
      exact or_congr_left (by omega)
    · rw [ih rest begins]
      exact ⟨.inr, fun either => either.resolve_left (by omega)⟩

theorem ordered_gaps (h : Ordered table) : Ordered table.gaps :=
  ordered_gapsFrom h fun _ _ => Nat.zero_le _

/-- **The gaps of an ordered table hold what does not lie in it.** -/
theorem contains_gaps (h : Ordered table) (isCode : code ≤ lastCode) :
    table.gaps.contains code = true ↔ ¬ table.contains code = true := by
  rw [gaps, contains_gapsFrom h (fun _ _ => Nat.zero_le _) isCode]
  exact and_iff_right (Nat.zero_le code)

end GoCoverage.Text.CodeRanges
