import GoCoverage.Pattern.Match
import Mathlib.Data.List.Basic

/-! # Matching finds what matches

What a pattern matches is said place by place (`Matches`), and matching handles all places at once.
A step over marks follows a relation between places if it marks the places to which the relation
leads from a marked one, and no others (`Marks.Follows`).  Steps that are taken one after the other,
joined, or repeated follow the relations that are composed, joined or repeated in the same way, so
the steps of a pattern follow its matches, with one case for each way to build a pattern
(`follows_run`).

A repetition without a largest number is the case that needs an argument.  Its search takes no more
rounds than the text has places, though the chains that it stands for may be longer.  That is enough
because a round that finds no new place ends the search, and each round before it has found one
(`Marks.Follows.closed_upTo`). -/

namespace GoCoverage.Pattern

/-- No repetition in the pattern asks for more matches than it allows. -/
def Bounded : Pattern → Prop
  | nothing | one _ | place _ => True
  | sequence first second | choice first second => first.Bounded ∧ second.Bounded
  | group body => body.Bounded
  | repeated body least most => body.Bounded ∧ ∀ m, most = some m → least ≤ m

/-! ## Chains -/

section Chain

variable {step : Nat → Nat → Prop} {m n i j k : Nat}

theorem chain_zero_iff : Chain step 0 i j ↔ i = j := by
  constructor
  · rintro ⟨⟩
    rfl
  · rintro rfl
    exact .none i

theorem chain_succ_iff : Chain step (n + 1) i k ↔ ∃ j, step i j ∧ Chain step n j k := by
  constructor
  · rintro ⟨⟩
    exact ⟨_, ‹_›, ‹_›⟩
  · rintro ⟨j, first, rest⟩
    exact .more first rest

theorem chain_add_iff :
    Chain step (m + n) i k ↔ ∃ j, Chain step m i j ∧ Chain step n j k := by
  induction m generalizing i with
  | zero => simp [chain_zero_iff]
  | succ m ih =>
    rw [Nat.succ_add]
    simp only [chain_succ_iff, ih]
    constructor
    · rintro ⟨j, first, l, rest, last⟩
      exact ⟨l, ⟨j, first, rest⟩, last⟩
    · rintro ⟨l, ⟨j, first, rest⟩, last⟩
      exact ⟨j, first, l, rest, last⟩

end Chain

/-! ## What stands between two places -/

section Spells

variable {text word rest : List Char} {set : CharSet} {c : Char} {n i j k : Nat}

/-- From one place of a text to another stand the characters of a word. -/
def Spells (text : List Char) (i j : Nat) (word : List Char) : Prop :=
  j = i + word.length ∧ text.drop i = word ++ text.drop j

/-- From one place of a text to another stand characters of a set only. -/
def Within (set : CharSet) (text : List Char) (i j : Nat) : Prop :=
  ∃ word, Spells text i j word ∧ ∀ c ∈ word, set.contains c = true

theorem spells_nil_iff : Spells text i j [] ↔ i = j := by
  constructor
  · rintro ⟨rfl, -⟩
    rfl
  · rintro rfl
    exact ⟨rfl, rfl⟩

theorem spells_cons_iff :
    Spells text i j (c :: word) ↔ text[i]? = some c ∧ Spells text (i + 1) j word := by
  simp only [Spells, List.length_cons, ← List.head?_drop]
  constructor
  · rintro ⟨rfl, spelt⟩
    refine ⟨by rw [spelt]; rfl, by omega, ?_⟩
    rw [← List.drop_drop, spelt]
    rfl
  · rintro ⟨first, rfl, spelt⟩
    refine ⟨by omega, ?_⟩
    obtain ⟨others, split⟩ := List.head?_eq_some_iff.mp first
    rw [← List.drop_drop, split] at spelt
    rw [split, List.cons_append, ← spelt]
    rfl

theorem spells_append_iff :
    Spells text i k (word ++ rest) ↔ ∃ j, Spells text i j word ∧ Spells text j k rest := by
  induction word generalizing i with
  | nil => simp [spells_nil_iff]
  | cons c word ih => simp only [List.cons_append, spells_cons_iff, ih, and_assoc, exists_and_left]

theorem spells_succ_iff :
    Spells (c :: text) (i + 1) (j + 1) word ↔ Spells text i j word := by
  simp only [Spells, List.drop_succ_cons]
  exact and_congr_left fun _ => by omega

theorem chain_one_iff : Chain ((one set).Matches text) n i j ↔
    ∃ word, word.length = n ∧ Spells text i j word ∧ ∀ c ∈ word, set.contains c = true := by
  induction n generalizing i with
  | zero => simp [chain_zero_iff, spells_nil_iff]
  | succ n ih =>
    rw [chain_succ_iff]
    constructor
    · rintro ⟨_, ⟨rfl, c, isChar, contained⟩, rest⟩
      obtain ⟨word, rfl, spelt, all⟩ := ih.mp rest
      exact ⟨c :: word, rfl, spells_cons_iff.mpr ⟨isChar, spelt⟩,
        List.forall_mem_cons.mpr ⟨contained, all⟩⟩
    · rintro ⟨word, length, spelt, all⟩
      obtain ⟨c, word, rfl⟩ := List.exists_cons_of_length_eq_add_one length
      obtain ⟨isChar, spelt⟩ := spells_cons_iff.mp spelt
      obtain ⟨contained, all⟩ := List.forall_mem_cons.mp all
      exact ⟨i + 1, ⟨rfl, c, isChar, contained⟩,
        ih.mpr ⟨word, by simpa using length, spelt, all⟩⟩

/-- A chain of single characters is a word made of them. -/
theorem exists_chain_one_iff :
    (∃ n, Chain ((one set).Matches text) n i j) ↔ Within set text i j := by
  simp only [chain_one_iff, Within]
  constructor
  · rintro ⟨n, word, -, spelt⟩
    exact ⟨word, spelt⟩
  · rintro ⟨word, spelt⟩
    exact ⟨word.length, word, rfl, spelt⟩

theorem within_nil_iff : Within set [] i j ↔ i = j := by
  constructor
  · rintro ⟨word, ⟨rfl, spelt⟩, -⟩
    have empty : word = [] := by simpa using spelt
    rw [empty, List.length_nil, Nat.add_zero]
  · rintro rfl
    exact ⟨[], spells_nil_iff.mpr rfl, by simp⟩

theorem within_zero_iff : Within set text i 0 ↔ i = 0 := by
  constructor
  · rintro ⟨word, ⟨length, -⟩, -⟩
    omega
  · rintro rfl
    exact ⟨[], spells_nil_iff.mpr rfl, by simp⟩

theorem within_succ_iff : Within set (c :: text) (i + 1) (j + 1) ↔ Within set text i j := by
  simp only [Within, spells_succ_iff]

theorem within_start_iff :
    Within set (c :: text) 0 (j + 1) ↔ set.contains c = true ∧ Within set text 0 j := by
  constructor
  · rintro ⟨word, spelt, all⟩
    obtain ⟨d, word, rfl⟩ := List.exists_cons_of_length_eq_add_one (n := j) (l := word)
      (by have := spelt.1; omega)
    obtain ⟨isChar, rest⟩ := spells_cons_iff.mp spelt
    obtain ⟨contained, others⟩ := List.forall_mem_cons.mp all
    cases isChar
    exact ⟨contained, word, spells_succ_iff.mp rest, others⟩
  · rintro ⟨contained, word, spelt, all⟩
    exact ⟨c :: word, spells_cons_iff.mpr ⟨rfl, spells_succ_iff.mpr spelt⟩,
      List.forall_mem_cons.mpr ⟨contained, all⟩⟩

end Spells

/-! ## Steps over marks -/

namespace Marks

variable {marks others : Marks} {text : List Char} {set : CharSet} {size n i j : Nat}

/-- A place is marked. -/
def At (marks : Marks) (i : Nat) : Prop := marks[i]? = some true

/-- In a text with so many places a step marks what a relation between places leads to from a marked
place, and nothing else. -/
structure Follows (size : Nat) (step : Marks → Marks) (leads : Nat → Nat → Prop) : Prop where
  length {marks : Marks} : marks.length = size → (step marks).length = size
  at_iff {marks : Marks} (h : marks.length = size) (j : Nat) :
    (step marks).At j ↔ ∃ i, marks.At i ∧ leads i j

theorem At.lt_length (h : marks.At i) : i < marks.length :=
  (List.getElem?_eq_some_iff.mp h).1

theorem isEmpty_iff : marks.isEmpty = true ↔ ∀ i, ¬ marks.At i := by
  simp only [isEmpty, Bool.not_eq_true', List.any_eq_false, id, At, Bool.not_eq_true]
  constructor
  · intro none i marked
    exact absurd (none true (List.mem_of_getElem? marked)) (by simp)
  · intro none mark member
    obtain ⟨i, isMark⟩ := List.mem_iff_getElem?.mp member
    cases mark with
    | false => rfl
    | true => exact absurd isMark (none i)

/-- Marks are what they mark. -/
theorem eq_of_at (h : marks.length = others.length) (same : ∀ i, marks.At i ↔ others.At i) :
    marks = others := by
  refine List.ext_getElem h fun i inside inside' => ?_
  have same := same i
  rw [At, At, List.getElem?_eq_getElem inside, List.getElem?_eq_getElem inside',
    Option.some.injEq, Option.some.injEq] at same
  exact Bool.eq_iff_iff.mpr same

theorem length_join (h : marks.length = others.length) :
    (marks.join others).length = marks.length := by
  rw [join, List.length_zipWith, h, Nat.min_self]

theorem at_join (h : marks.length = others.length) :
    (marks.join others).At i ↔ marks.At i ∨ others.At i := by
  simp only [At, join, List.getElem?_zipWith]
  rcases Nat.lt_or_ge i marks.length with inside | outside
  · rw [List.getElem?_eq_getElem inside, List.getElem?_eq_getElem (h ▸ inside)]
    simp
  · rw [List.getElem?_eq_none outside, List.getElem?_eq_none (h ▸ outside)]
    simp

/-- Marks that are joined with others, and are not the same afterwards, are more than before. -/
theorem count_lt_count_join (h : marks.length = others.length) (new : marks.join others ≠ marks) :
    marks.count true < (marks.join others).count true := by
  induction marks generalizing others with
  | nil => exact absurd rfl new
  | cons mark marks ih =>
    obtain ⟨other, others, rfl⟩ := List.exists_cons_of_length_eq_add_one h.symm
    have h : marks.length = others.length := by simpa using h
    show _ < List.count true ((mark || other) :: join marks others)
    by_cases same : join marks others = marks
    · have differs : (mark || other) ≠ mark := fun equal =>
        new (show (mark || other) :: join marks others = mark :: marks by rw [equal, same])
      rw [same]
      cases mark <;> cases other <;> simp at differs ⊢
    · have more := ih h same
      cases mark <;> cases other <;> simp <;> omega

namespace Follows

variable {step first second : Marks → Marks} {leads leads' : Nat → Nat → Prop}

theorem congr (h : Follows size step leads) (same : ∀ i j, leads i j ↔ leads' i j) :
    Follows size step leads' where
  length := h.length
  at_iff isSize j := by simp only [h.at_iff isSize, same]

theorem id : Follows size (fun marks => marks) (· = ·) where
  length isSize := isSize
  at_iff _ j := by simp

theorem comp (h : Follows size first leads) (h' : Follows size second leads') :
    Follows size (fun marks => second (first marks)) fun i k => ∃ j, leads i j ∧ leads' j k where
  length isSize := h'.length (h.length isSize)
  at_iff isSize k := by
    rw [h'.at_iff (h.length isSize)]
    simp only [h.at_iff isSize]
    constructor
    · rintro ⟨j, ⟨i, marked, one⟩, two⟩
      exact ⟨i, marked, j, one, two⟩
    · rintro ⟨i, marked, j, one, two⟩
      exact ⟨j, ⟨i, marked, one⟩, two⟩

theorem join (h : Follows size first leads) (h' : Follows size second leads') :
    Follows size (fun marks => (first marks).join (second marks))
      fun i j => leads i j ∨ leads' i j where
  length isSize := by
    rw [length_join ((h.length isSize).trans (h'.length isSize).symm), h.length isSize]
  at_iff isSize j := by
    rw [at_join ((h.length isSize).trans (h'.length isSize).symm), h.at_iff isSize,
      h'.at_iff isSize]
    simp only [and_or_left, exists_or]

/-- The marks of no step and of one step together. -/
theorem orStay (h : Follows size step leads) :
    Follows size (fun marks => marks.join (step marks)) fun i j => i = j ∨ leads i j :=
  id.join h

theorem times (h : Follows size step leads) (n : Nat) :
    Follows size (Marks.times step n) (Chain leads n) := by
  induction n with
  | zero => exact id.congr fun i j => chain_zero_iff.symm
  | succ n ih =>
    have more : Follows size (fun marks => Marks.times step n (step marks)) (Chain leads (n + 1)) :=
      (h.comp ih).congr fun i j => chain_succ_iff.symm
    constructor
    · intro marks isSize
      rw [Marks.times]
      split
      · exact isSize
      · exact more.length isSize
    · intro marks isSize j
      rw [Marks.times]
      split
      · -- where no place is marked, no chain begins
        rename_i none
        have none := isEmpty_iff.mp none
        exact ⟨fun marked => absurd marked (none j), fun ⟨i, marked, _⟩ => absurd marked (none i)⟩
      · exact more.at_iff isSize j

/-- If a round finds no new place, chains lead to marked places only. -/
theorem at_of_chain (h : Follows size step leads) (isSize : marks.length = size)
    (same : marks.join (step marks) = marks) {n : Nat} (chain : Chain leads n i j)
    (marked : marks.At i) : marks.At j := by
  induction chain with
  | none => exact marked
  | more one _ ih => exact ih (same ▸ (h.orStay.at_iff isSize _).mpr ⟨_, marked, .inr one⟩)

theorem upTo (h : Follows size step leads) (n : Nat) :
    Follows size (Marks.upTo step n) fun i j => ∃ m ≤ n, Chain leads m i j := by
  induction n with
  | zero => exact id.congr fun i j => by simp [chain_zero_iff]
  | succ n ih =>
    have more : Follows size (fun marks => Marks.upTo step n (marks.join (step marks)))
        fun i j => ∃ m ≤ n + 1, Chain leads m i j := by
      refine (h.orStay.comp ih).congr fun i k => ?_
      constructor
      · rintro ⟨j, rfl | one, m, le, rest⟩
        · exact ⟨m, Nat.le_succ_of_le le, rest⟩
        · exact ⟨m + 1, Nat.succ_le_succ le, .more one rest⟩
      · rintro ⟨_ | m, le, chain⟩
        · exact ⟨i, .inl rfl, 0, Nat.zero_le n, chain⟩
        · obtain ⟨j, one, rest⟩ := chain_succ_iff.mp chain
          exact ⟨j, .inr one, m, Nat.le_of_succ_le_succ le, rest⟩
    constructor
    · intro marks isSize
      rw [Marks.upTo]
      split
      · exact isSize
      · exact more.length isSize
    · intro marks isSize j
      rw [Marks.upTo]
      split
      · rename_i same
        constructor
        · exact fun marked => ⟨j, marked, 0, Nat.zero_le _, .none j⟩
        · rintro ⟨i, marked, m, -, chain⟩
          exact h.at_of_chain isSize same chain marked
      · exact more.at_iff isSize j

/-- **A search that has as many rounds as there are places without a mark ends with a round that
finds no new place.**  A round that does not end it marks a place more. -/
theorem closed_upTo (h : Follows size step leads) (isSize : marks.length = size)
    (enough : size ≤ marks.count true + n) :
    (Marks.upTo step n marks).join (step (Marks.upTo step n marks)) = Marks.upTo step n marks := by
  induction n generalizing marks with
  | zero =>
    -- all places are marked
    have all : ∀ mark ∈ marks, mark = true := by
      have full : marks.count true = marks.length :=
        Nat.le_antisymm List.count_le_length (by omega)
      exact fun mark member => (List.count_eq_length.mp full mark member).symm
    show marks.join (step marks) = marks
    refine eq_of_at ((h.orStay.length isSize).trans isSize.symm) fun i => ?_
    rw [h.orStay.at_iff isSize]
    constructor
    · intro marked
      have inside : i < marks.length := by
        have := ((h.orStay.at_iff isSize i).mpr marked).lt_length
        rwa [h.orStay.length isSize, ← isSize] at this
      rw [At, List.getElem?_eq_getElem inside, all _ (List.getElem_mem inside)]
    · exact fun marked => ⟨i, marked, .inl rfl⟩
  | succ n ih =>
    rw [Marks.upTo]
    split
    · assumption
    · rename_i new
      have more := count_lt_count_join (isSize.trans (h.length isSize).symm) new
      exact ih (h.orStay.length isSize) (by omega)

/-- **A search with as many rounds as there are places finds all chains**, however long. -/
theorem upTo_size (h : Follows size step leads) :
    Follows size (Marks.upTo step size) fun i j => ∃ m, Chain leads m i j where
  length isSize := (h.upTo size).length isSize
  at_iff {marks} isSize j := by
    constructor
    · intro marked
      obtain ⟨i, marked, m, -, chain⟩ := ((h.upTo size).at_iff isSize j).mp marked
      exact ⟨i, marked, m, chain⟩
    · rintro ⟨i, marked, m, chain⟩
      have closed := h.closed_upTo (n := size) isSize (Nat.le_add_left _ _)
      have found : (Marks.upTo step size marks).At i :=
        ((h.upTo size).at_iff isSize i).mpr ⟨i, marked, 0, Nat.zero_le _, .none i⟩
      exact h.at_of_chain ((h.upTo size).length isSize) closed chain found

end Follows

/-! ## The steps of the parts of a pattern -/

theorem follows_after (set : CharSet) (text : List Char) :
    Follows (text.length + 1) (after set text) ((one set).Matches text) where
  length isSize := by simp [after, isSize]
  at_iff {marks} isSize j := by
    simp only [Matches]
    cases j with
    | zero => simp [At, after]
    | succ j =>
      have next : (after set text marks).At (j + 1) ↔
          marks.At j ∧ ∃ c, text[j]? = some c ∧ set.contains c = true := by
        simp only [At, after, List.getElem?_cons_succ, List.getElem?_zipWith]
        cases text[j]? <;> cases marks[j]? <;> simp
      rw [next]
      constructor
      · rintro ⟨marked, c, isChar⟩
        exact ⟨j, marked, rfl, c, isChar⟩
      · rintro ⟨i, marked, same, c, isChar⟩
        obtain rfl := Nat.succ.inj same
        exact ⟨marked, c, isChar⟩

theorem length_sweep (reached : Bool) (isSize : marks.length = text.length + 1) :
    (sweep set reached text marks).length = text.length + 1 := by
  induction text generalizing marks reached with
  | nil =>
    obtain ⟨mark, marks, rfl⟩ := List.exists_cons_of_length_eq_add_one isSize
    rfl
  | cons c text ih =>
    obtain ⟨mark, marks, rfl⟩ := List.exists_cons_of_length_eq_add_one isSize
    rw [sweep, List.length_cons, ih _ (by simpa using isSize), List.length_cons]

/-- A sweep goes on from the marked places, and from the first one if it is reached from before. -/
theorem at_sweep (reached : Bool) (isSize : marks.length = text.length + 1) :
    (sweep set reached text marks).At j ↔
      (reached = true ∧ Within set text 0 j) ∨ ∃ i, marks.At i ∧ Within set text i j := by
  induction text generalizing marks reached j with
  | nil =>
    obtain ⟨mark, rfl⟩ := List.length_eq_one_iff.mp isSize
    cases j <;> simp [sweep, At, within_nil_iff]
  | cons c text ih =>
    obtain ⟨mark, marks, rfl⟩ := List.exists_cons_of_length_eq_add_one isSize
    cases j with
    | zero => simp [sweep, At, within_zero_iff]
    | succ j =>
      show (sweep set ((reached || mark) && set.contains c) text marks).At j ↔ _
      rw [ih _ (by simpa using isSize), ← Nat.or_exists_add_one
        (p := fun i => (At (mark :: marks) i ∧ Within set (c :: text) i (j + 1)))]
      simp only [At, List.getElem?_cons_zero, List.getElem?_cons_succ, within_succ_iff,
        within_start_iff, Bool.and_eq_true, Bool.or_eq_true, Option.some.injEq]
      tauto

theorem follows_sweep (set : CharSet) (text : List Char) :
    Follows (text.length + 1) (sweep set false text)
      fun i j => ∃ n, Chain ((one set).Matches text) n i j where
  length isSize := length_sweep false isSize
  at_iff isSize j := by simp [at_sweep false isSize, exists_chain_one_iff]

theorem length_surroundings (before : Option Char) (text : List Char) :
    (surroundings before text).length = text.length + 1 := by
  induction text generalizing before with
  | nil => rfl
  | cons c text ih => rw [surroundings, List.length_cons, ih, List.length_cons]

theorem getElem?_surroundings (before : Option Char) (text : List Char) (i : Nat) :
    (surroundings before text)[i]? =
      if i ≤ text.length then some (if i = 0 then before else text[i - 1]?, text[i]?)
      else none := by
  induction text generalizing before i with
  | nil => cases i <;> simp [surroundings]
  | cons c text ih =>
    cases i with
    | zero => simp [surroundings]
    | succ i =>
      rw [surroundings, List.getElem?_cons_succ, ih]
      cases i <;> simp

theorem follows_satisfying (assertion : Assertion) (text : List Char) :
    Follows (text.length + 1) (satisfying assertion text) ((place assertion).Matches text) where
  length isSize := by
    rw [satisfying, List.length_zipWith, isSize, length_surroundings, Nat.min_self]
  at_iff {marks} isSize j := by
    have here : (satisfying assertion text marks).At j ↔
        marks.At j ∧ assertion.holds (around text j).1 (around text j).2 = true := by
      simp only [At, satisfying, List.getElem?_zipWith, getElem?_surroundings]
      rcases Nat.lt_or_ge j marks.length with inside | outside
      · have place : j ≤ text.length := by omega
        rw [List.getElem?_eq_getElem inside, if_pos place]
        simp [around]
      · rw [List.getElem?_eq_none outside]
        simp
    rw [here]
    constructor
    · exact fun ⟨marked, holds⟩ => ⟨j, marked, rfl, holds⟩
    · rintro ⟨i, marked, rfl, holds⟩
      exact ⟨marked, holds⟩

end Marks

/-! ## Patterns -/

section Run

variable {text : List Char} {body : Pattern} {least i k : Nat} {most : Option Nat}

/-- A repetition is as many matches as it asks for, and more of them up to its largest number. -/
theorem matches_repeated_iff : (repeated body least most).Matches text i k ↔
    ∃ j, Chain (body.Matches text) least i j ∧
      ∃ m, (∀ n, most = some n → least + m ≤ n) ∧ Chain (body.Matches text) m j k := by
  rw [Matches]
  constructor
  · rintro ⟨n, enough, allowed, chain⟩
    obtain ⟨m, rfl⟩ := Nat.exists_eq_add_of_le enough
    obtain ⟨j, asked, more⟩ := chain_add_iff.mp chain
    exact ⟨j, asked, m, allowed, more⟩
  · rintro ⟨j, asked, m, allowed, more⟩
    exact ⟨least + m, Nat.le_add_right least m, allowed, chain_add_iff.mpr ⟨j, asked, more⟩⟩

theorem run_repeated_some {most : Nat} (marks : Marks) :
    run text (repeated body least (some most)) marks =
      Marks.upTo (body.run text) (most - least) (Marks.times (body.run text) least marks) := by
  cases body <;> rfl

theorem run_repeated_none (several : ∀ set, body ≠ one set) (marks : Marks) :
    run text (repeated body least none) marks =
      Marks.upTo (body.run text) (text.length + 1) (Marks.times (body.run text) least marks) := by
  cases body with
  | one set => exact absurd rfl (several set)
  | _ => rfl

/-- **The steps of a pattern follow its matches**: from the marked places they lead to those where
the matches end that begin there. -/
theorem follows_run (text : List Char) {pattern : Pattern} (bounded : pattern.Bounded) :
    Marks.Follows (text.length + 1) (pattern.run text) (pattern.Matches text) := by
  induction pattern with
  | nothing => exact .id
  | one set => exact Marks.follows_after set text
  | place assertion => exact Marks.follows_satisfying assertion text
  | sequence first second ih ih' => exact (ih bounded.1).comp (ih' bounded.2)
  | choice first second ih ih' => exact (ih bounded.1).join (ih' bounded.2)
  | group body ih => exact ih bounded
  | repeated body least most ih =>
    have ih := ih bounded.1
    cases most with
    | some most =>
      rw [funext run_repeated_some]
      refine ((ih.times least).comp (ih.upTo (most - least))).congr fun i k => ?_
      have allowed : ∀ m, m ≤ most - least ↔ ∀ n, some most = some n → least + m ≤ n := by
        have := bounded.2 most rfl
        intro m
        simp only [Option.some.injEq, forall_eq']
        omega
      simp only [matches_repeated_iff, allowed]
    | none =>
      have search : Marks.Follows (text.length + 1) (run text (repeated body least none))
          fun i k => ∃ j, Chain (body.Matches text) least i j ∧
            ∃ m, Chain (body.Matches text) m j k := by
        by_cases single : ∃ set, body = one set
        · obtain ⟨set, rfl⟩ := single
          exact (ih.times least).comp (Marks.follows_sweep set text)
        · rw [funext (run_repeated_none fun set same => single ⟨set, same⟩)]
          exact (ih.times least).comp ih.upTo_size
      refine search.congr fun i k => ?_
      simp [matches_repeated_iff]

end Run

/-- **A pattern is found in a text exactly if a part of the text matches it.** -/
theorem isIn_iff_occursIn {pattern : Pattern} (bounded : pattern.Bounded) (text : String) :
    pattern.isIn text = true ↔ pattern.OccursIn text.toList := by
  have run := (follows_run text.toList bounded).at_iff (List.length_replicate (a := true))
  have everywhere : ∀ i, Marks.At (List.replicate (text.toList.length + 1) true) i ↔
      i ≤ text.toList.length := by
    intro i
    rw [Marks.At, List.getElem?_replicate, ← Nat.lt_succ_iff]
    simp
  rw [isIn, Bool.not_eq_true', ← Bool.not_eq_true, Marks.isEmpty_iff, not_forall]
  simp only [not_not, run, everywhere, OccursIn]
  exact exists_comm

end GoCoverage.Pattern
