import GoCoverage.Proofs.Lines.Least

/-! # Insertion by search

A line can be put into an ascending list without joining it with another list: most lines belong at
the end, so the last line is looked at first, and otherwise the place is found by halving
(`bisect`).  Halving relies on the very order that insertion has to keep.

A place parts an ascending list into the lines below a number and the others.  Wherever a list is
parted like this, joining it with one line puts the line there, or lowers the count of the line that
is there already (`mergeLists_new`, `mergeLists_known`).  So insertion is `add` on every table
(`insertLine_toList`), and putting in the lines of another table one by one is `merge`
(`foldl_insertLine_toList`). -/

namespace GoCoverage.Lines

/-! ## Searching -/

/-- The first index from `low` up to `high` whose line is not below a number, found by halving. -/
def bisect (lines : List Line) (number low high : Nat) : Nat :=
  if low < high then
    let middle := (low + high) / 2
    match lines[middle]? with
    | some line =>
      if line.number < number then bisect lines number (middle + 1) high
      else bisect lines number low middle
    | none => low
  else low
termination_by high - low

/-- The list with a line at an index: a line with the same number that stands there keeps the
smaller count, and any other line is moved on. -/
def insertAt (index : Nat) (line : Line) (lines : List Line) : List Line :=
  match lines[index]? with
  | some known =>
    if known.number = line.number then
      lines.set index { known with hits := min known.hits line.hits }
    else lines.insertIdx index line
  | none => lines.insertIdx index line

/-- The list with one more line, which is looked for at the end first. -/
def insertLine (lines : List Line) (line : Line) : List Line :=
  match lines.getLast? with
  | none => [line]
  | some last =>
    if last.number = line.number then
      lines.dropLast ++ [{ last with hits := min last.hits line.hits }]
    else if last.number < line.number then lines ++ [line]
    else insertAt (bisect lines line.number 0 lines.length) line lines

/-- The lines before an index are below a number. -/
def AllBelow (lines : List Line) (number index : Nat) : Prop :=
  ∀ i line, i < index → lines[i]? = some line → line.number < number

/-- The lines from an index on are not below a number. -/
def NoneBelow (lines : List Line) (number index : Nat) : Prop :=
  ∀ i line, index ≤ i → lines[i]? = some line → number ≤ line.number

section Search

variable {lines : List Line} {number low high : Nat}

theorem number_le_of_le
    (ascending : lines.Pairwise (fun first second => first.number < second.number))
    {i j : Nat} {first second : Line} (le : i ≤ j) (isFirst : lines[i]? = some first)
    (isSecond : lines[j]? = some second) : first.number ≤ second.number := by
  obtain ⟨inFirst, rfl⟩ := List.getElem?_eq_some_iff.mp isFirst
  obtain ⟨inSecond, rfl⟩ := List.getElem?_eq_some_iff.mp isSecond
  rcases Nat.lt_or_eq_of_le le with less | rfl
  · exact Nat.le_of_lt (List.pairwise_iff_getElem.mp ascending i j inFirst inSecond less)
  · exact Nat.le_refl _

/-- **Halving finds the place of a number.**  The order of the list carries what is known of the
middle over to all lines on one side of it. -/
theorem parts_bisect (ascending : lines.Pairwise (fun first second => first.number < second.number))
    (below : AllBelow lines number low) (others : NoneBelow lines number high)
    (le : low ≤ high) (inside : high ≤ lines.length) :
    AllBelow lines number (bisect lines number low high) ∧
      NoneBelow lines number (bisect lines number low high) ∧
        bisect lines number low high ≤ lines.length := by
  fun_induction bisect lines number low high with
  | case1 low high less middle line isMiddle isBelow ih =>
    refine ih (fun i other before isOther => ?_) others (by omega) inside
    exact Nat.lt_of_le_of_lt
      (number_le_of_le ascending (Nat.le_of_lt_succ before) isOther isMiddle) isBelow
  | case2 low high less middle line isMiddle notBelow ih =>
    refine ih below (fun i other behind isOther => ?_) (by omega) (by omega)
    exact Nat.le_trans (Nat.le_of_not_lt notBelow)
      (number_le_of_le ascending behind isMiddle isOther)
  | case3 low high less middle outside =>
    have := List.getElem?_eq_none_iff.mp outside
    omega
  | case4 low high notLess =>
    obtain rfl : low = high := by omega
    exact ⟨below, others, inside⟩

end Search

/-! ## Joining with one line -/

section One

variable {before after : List Line} {line : Line}

theorem toList_add (lines : Lines) (line : Line) :
    (lines.add line).toList = mergeLists lines.toList [line] := by
  show mergeLists lines.toList ((List.range' line.number (line.number + 1 - line.number)).map _) = _
  rw [Nat.add_sub_cancel_left]
  rfl

theorem mergeLists_append (below : ∀ l ∈ before, l.number < line.number) :
    mergeLists (before ++ after) [line] = before ++ mergeLists after [line] := by
  induction before with
  | nil => rfl
  | cons first before ih =>
    rw [List.cons_append, mergeLists, if_pos (below first List.mem_cons_self),
      ih fun l member => below l (List.mem_cons_of_mem first member), List.cons_append]

/-- A line with a new number is put where the list is parted. -/
theorem mergeLists_new (below : ∀ l ∈ before, l.number < line.number)
    (above : ∀ l ∈ after, line.number < l.number) :
    mergeLists (before ++ after) [line] = before ++ line :: after := by
  rw [mergeLists_append below]
  cases after with
  | nil => simp [mergeLists]
  | cons next after =>
    have less := above next List.mem_cons_self
    rw [mergeLists, if_neg (Nat.lt_asymm less), if_pos less, mergeLists]
    exact List.cons_ne_nil next after

/-- A line whose number is known lowers the count. -/
theorem mergeLists_known {known : Line} (below : ∀ l ∈ before, l.number < line.number)
    (same : known.number = line.number) :
    mergeLists (before ++ known :: after) [line] =
      before ++ { known with hits := min known.hits line.hits } :: after := by
  rw [mergeLists_append below, mergeLists, if_neg (by omega), if_neg (by omega)]
  cases after <;> simp [mergeLists]

end One

/-! ## Insertion -/

theorem insertIdx_length_append {α : Type} (before after : List α) (a : α) :
    (before ++ after).insertIdx before.length a = before ++ a :: after := by
  induction before with
  | nil => rfl
  | cons b before ih => rw [List.cons_append, List.length_cons, List.insertIdx_succ_cons, ih]; rfl

theorem insertAt_eq {index : Nat} {line : Line} {lines : List Line}
    (ascending : lines.Pairwise (fun first second => first.number < second.number))
    (below : AllBelow lines line.number index) (others : NoneBelow lines line.number index)
    (inside : index ≤ lines.length) : insertAt index line lines = mergeLists lines [line] := by
  obtain ⟨before, after, rfl, rfl⟩ : ∃ before after, lines = before ++ after ∧
      before.length = index :=
    ⟨lines.take index, lines.drop index, (List.take_append_drop index lines).symm,
      List.length_take_of_le inside⟩
  have isBelow : ∀ l ∈ before, l.number < line.number := by
    intro l member
    obtain ⟨i, inBefore, rfl⟩ := List.mem_iff_getElem.mp member
    exact below i _ inBefore (by simp [List.getElem?_append_left inBefore])
  have notBelow : ∀ l ∈ after, line.number ≤ l.number := by
    intro l member
    obtain ⟨i, inAfter, rfl⟩ := List.mem_iff_getElem.mp member
    exact others (before.length + i) _ (Nat.le_add_right _ i) (by simp [inAfter])
  cases after with
  | nil =>
    have outside : (before ++ [])[before.length]? = none := by simp
    rw [insertAt, outside, mergeLists_new isBelow fun _ member => absurd member List.not_mem_nil]
    exact insertIdx_length_append before [] line
  | cons known after =>
    have isKnown : (before ++ known :: after)[before.length]? = some known := by simp
    rw [insertAt, isKnown]
    dsimp only
    split
    · rename_i same
      rw [mergeLists_known isBelow same]
      simp
    · rename_i other
      -- the line at the place is above the number, and so are all lines after it
      have above : ∀ l ∈ known :: after, line.number < l.number := by
        intro l member
        have first : line.number < known.number := by
          have := notBelow known List.mem_cons_self
          omega
        rcases List.mem_cons.mp member with rfl | member
        · exact first
        · have := (List.pairwise_cons.mp (List.pairwise_append.mp ascending).2.1).1 l member
          omega
      rw [mergeLists_new isBelow above]
      exact insertIdx_length_append before (known :: after) line

/-- **Insertion by search is `add`** on every table. -/
theorem insertLine_toList (lines : Lines) (line : Line) :
    insertLine lines.toList line = (lines.add line).toList := by
  obtain ⟨lines, ascending⟩ := lines
  rw [toList_add]
  show insertLine lines line = mergeLists lines [line]
  unfold insertLine
  split
  · rename_i none
    rw [List.getLast?_eq_none_iff.mp none, mergeLists]
  · rename_i last isLast
    obtain ⟨before, rfl⟩ := List.getLast?_eq_some_iff.mp isLast
    have below : ∀ l ∈ before, l.number < last.number := fun l member =>
      (List.pairwise_append.mp ascending).2.2 l member last List.mem_cons_self
    split
    · rename_i same
      rw [mergeLists_known (fun l member => same ▸ below l member) same, List.dropLast_concat]
    · split
      · rename_i less
        have all : ∀ l ∈ before ++ [last], l.number < line.number := by
          intro l member
          rcases List.mem_append.mp member with member | member
          · exact Nat.lt_trans (below l member) less
          · exact List.mem_singleton.mp member ▸ less
        have ended : mergeLists (before ++ [last] ++ []) [line] = before ++ [last] ++ line :: [] :=
          mergeLists_new all fun _ none => absurd none List.not_mem_nil
        rwa [List.append_nil, eq_comm] at ended
      · have below : AllBelow (before ++ [last]) line.number 0 :=
          fun i l isBefore => absurd isBefore (Nat.not_lt_zero i)
        have others : NoneBelow (before ++ [last]) line.number (before ++ [last]).length := by
          intro i l behind isLine
          have := (List.getElem?_eq_some_iff.mp isLine).1
          omega
        obtain ⟨isBelow, notBelow, inside⟩ :=
          parts_bisect ascending below others (Nat.zero_le _) (Nat.le_refl _)
        exact insertAt_eq ascending isBelow notBelow inside

/-- Lines inserted one after the other are added one after the other. -/
theorem foldl_insertLine (list : List Line) (lines : Lines) :
    list.foldl insertLine lines.toList = (list.foldl add lines).toList := by
  induction list generalizing lines with
  | nil => rfl
  | cons line list ih => rw [List.foldl_cons, List.foldl_cons, insertLine_toList, ih]

/-- The counts that a line is given in a list of lines. -/
def countsGiven (given : List Line) (number : Nat) : Set Nat := {hits | ⟨number, hits⟩ ∈ given}

/-- Lines added one after the other join what is known of each line with what is given for it. -/
theorem least_foldl_add {lines : Lines} {counts : Nat → Set Nat} (h : lines.Least counts)
    (list : List Line) :
    (list.foldl add lines).Least fun number => counts number ∪ countsGiven list number := by
  refine (least_foldl (fun line _ => Least.run line.number line.number line.hits) h).congr ?_
  intro number
  congr 1
  ext hits
  constructor
  · rintro ⟨line, member, first, last, rfl⟩
    obtain rfl : line.number = number := Nat.le_antisymm first last
    exact member
  · intro member
    exact ⟨_, member, Nat.le_refl _, Nat.le_refl _, rfl⟩

/-- A table gives each of its lines the count that it lists. -/
theorem countsGiven_toList (lines : Lines) (number : Nat) :
    countsGiven lines.toList number = {hits | lines.get? number = some hits} := by
  ext hits
  exact mem_toList_iff lines ⟨number, hits⟩

/-- **Putting in the lines of another table one by one is `merge`.** -/
theorem foldl_insertLine_toList (lines others : Lines) :
    others.toList.foldl insertLine lines.toList = (lines.merge others).toList := by
  have joined : others.toList.foldl add lines = lines.merge others := by
    refine (least_foldl_add (.self lines) others.toList).unique
      (((Least.self lines).merge (.self others)).congr fun number => ?_)
    rw [countsGiven_toList]
  rw [foldl_insertLine, joined]

end GoCoverage.Lines
