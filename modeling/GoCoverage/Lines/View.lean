import GoCoverage.Lines

/-! # What a line table lists

A table is determined by its view `get?` (`ext_get?`), and each operation is described by what it
does to the view: joining two tables takes the smaller of two counts (`get?_merge`), and a run of
lines gives every line in it the same count (`get?_run`). -/

namespace GoCoverage

namespace Lines

/-- The hits of a line in a list of lines. -/
def hitsIn (number : Nat) (lines : List Line) : Option Nat :=
  (lines.find? (·.number == number)).map (·.hits)

theorem get?_eq_hitsIn (lines : Lines) (number : Nat) :
    lines.get? number = hitsIn number lines.toList := rfl

@[simp]
theorem hitsIn_nil (number : Nat) : hitsIn number [] = none := rfl

theorem hitsIn_cons (number : Nat) (line : Line) (lines : List Line) :
    hitsIn number (line :: lines) =
      if line.number = number then some line.hits else hitsIn number lines := by
  by_cases h : line.number = number <;> simp [hitsIn, h]

theorem hitsIn_eq_none {number : Nat} {lines : List Line} :
    hitsIn number lines = none ↔ ∀ line ∈ lines, line.number ≠ number := by
  simp [hitsIn]

/-- A list that begins above a number does not hold it. -/
theorem hitsIn_eq_none_of_lt {number : Nat} {line : Line} {lines : List Line}
    (ascending : (line :: lines).Pairwise (fun first second => first.number < second.number))
    (h : number < line.number) : hitsIn number (line :: lines) = none := by
  rw [hitsIn_eq_none]
  intro l m
  rcases List.mem_cons.1 m with rfl | m
  · omega
  · have := (List.pairwise_cons.1 ascending).1 l m
    omega

theorem hitsIn_eq_none_of_pairwise {line : Line} {lines : List Line}
    (ascending : (line :: lines).Pairwise (fun first second => first.number < second.number)) :
    hitsIn line.number lines = none := by
  rw [hitsIn_eq_none]
  intro l m
  have := (List.pairwise_cons.1 ascending).1 l m
  omega

theorem hitsIn_mergeLists (number : Nat) {lines others : List Line}
    (hl : lines.Pairwise (fun first second => first.number < second.number))
    (ho : others.Pairwise (fun first second => first.number < second.number)) :
    hitsIn number (mergeLists lines others) =
      Option.merge min (hitsIn number lines) (hitsIn number others) := by
  fun_induction mergeLists lines others with
  | case1 => simp
  | case2 => simp
  | case3 first lines other others less ih =>
    rw [hitsIn_cons, ih (List.pairwise_cons.1 hl).2 ho, hitsIn_cons number first]
    by_cases h : first.number = number
    · rw [if_pos h, if_pos h, hitsIn_eq_none_of_lt ho (h ▸ less), Option.merge_none_right]
    · rw [if_neg h, if_neg h]
  | case4 first lines other others _ less ih =>
    rw [hitsIn_cons, ih hl (List.pairwise_cons.1 ho).2, hitsIn_cons number other]
    by_cases h : other.number = number
    · rw [if_pos h, if_pos h, hitsIn_eq_none_of_lt hl (h ▸ less), Option.merge_none_left]
    · rw [if_neg h, if_neg h]
  | case5 first lines other others notLess notGreater ih =>
    have same : other.number = first.number := by omega
    rw [hitsIn_cons, ih (List.pairwise_cons.1 hl).2 (List.pairwise_cons.1 ho).2,
      hitsIn_cons number first, hitsIn_cons number other, same]
    by_cases h : first.number = number
    · simp [h]
    · simp [h]

/-- **Joining takes the smaller count**: a line of one table keeps its count, and a line of both
gets the smaller one. -/
theorem get?_merge (lines others : Lines) (number : Nat) :
    (lines.merge others).get? number = Option.merge min (lines.get? number) (others.get? number) :=
  hitsIn_mergeLists number lines.ascending others.ascending

@[simp]
theorem get?_empty (number : Nat) : empty.get? number = none := rfl

/-- A run lists the lines between its ends. -/
theorem get?_run (first last hits number : Nat) :
    (run first last hits).get? number =
      if first ≤ number ∧ number ≤ last then some hits else none := by
  split
  · rename_i h
    have m : number ∈ List.range' first (last + 1 - first) := by
      rw [List.mem_range'_1]; omega
    cases e : (run first last hits).toList.find? (·.number == number) with
    | none =>
      have := List.find?_eq_none.1 e { number, hits } (List.mem_map.2 ⟨number, m, rfl⟩)
      simp at this
    | some line =>
      obtain ⟨n, _, rfl⟩ := List.mem_map.1 (List.mem_of_find?_eq_some e)
      simp [get?, e]
  · rename_i h
    rw [get?_eq_hitsIn, hitsIn_eq_none]
    intro line m
    obtain ⟨n, inRange, rfl⟩ := List.mem_map.1 m
    rw [List.mem_range'_1] at inRange
    show n ≠ number
    omega

/-- The view gives back the lines. -/
theorem mem_toList_iff (lines : Lines) (line : Line) :
    line ∈ lines.toList ↔ lines.get? line.number = some line.hits := by
  obtain ⟨l, ascending⟩ := lines
  show line ∈ l ↔ hitsIn line.number l = some line.hits
  induction l with
  | nil => simp
  | cons first rest ih =>
    have ih := ih (List.pairwise_cons.1 ascending).2
    rw [hitsIn_cons, List.mem_cons, ih]
    by_cases h : first.number = line.number
    · rw [if_pos h, ← h, hitsIn_eq_none_of_pairwise ascending]
      obtain ⟨_, _⟩ := first
      obtain ⟨_, _⟩ := line
      simp only [Option.some.injEq] at h ⊢
      grind
    · rw [if_neg h]
      grind

/-- **A table is what it lists.** -/
theorem ext_get? {lines others : Lines} (h : ∀ number, lines.get? number = others.get? number) :
    lines = others := by
  have same : ∀ line, line ∈ lines.toList ↔ line ∈ others.toList := by
    intro line
    rw [mem_toList_iff, mem_toList_iff, h]
  obtain ⟨l, hl⟩ := lines
  obtain ⟨o, ho⟩ := others
  congr 1
  replace same : ∀ line, line ∈ l ↔ line ∈ o := same
  clear h
  induction l generalizing o with
  | nil =>
    cases o with
    | nil => rfl
    | cons other others => exact absurd ((same other).2 List.mem_cons_self) (by simp)
  | cons line lines ih =>
    cases o with
    | nil => exact absurd ((same line).1 List.mem_cons_self) (by simp)
    | cons other others =>
      rw [List.pairwise_cons] at hl ho
      have first : line = other := by
        rcases List.mem_cons.1 ((same line).1 List.mem_cons_self) with e | m
        · exact e
        · rcases List.mem_cons.1 ((same other).2 List.mem_cons_self) with e | m'
          · exact e.symm
          · have := ho.1 line m
            have := hl.1 other m'
            omega
      subst first
      rw [ih hl.2 others ho.2]
      intro l
      constructor
      · intro m
        rcases List.mem_cons.1 ((same l).1 (List.mem_cons_of_mem _ m)) with rfl | m'
        · exact absurd (hl.1 l m) (Nat.lt_irrefl _)
        · exact m'
      · intro m
        rcases List.mem_cons.1 ((same l).2 (List.mem_cons_of_mem _ m)) with rfl | m'
        · exact absurd (ho.1 l m) (Nat.lt_irrefl _)
        · exact m'

end Lines

end GoCoverage
