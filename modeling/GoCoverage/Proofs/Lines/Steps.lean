import GoCoverage.Proofs.Discovery
import GoCoverage.Proofs.Lines.Insertion

/-! # The life of a line table

A table is changed by adding a line, by taking in the lines of another table, and by collecting a
list of lines in place of what it held (`Lines.Step`).  Each step gives lines to the table:
`givenBy` has those that were given since the last replacement, as they came.

What one step preserves is `Lines.Least`: if the table has every line that was given, with the
smallest of its counts, then so it has after the step (`Step.least_apply`).  Hence a table tells no
more of its life than the set of the lines it was given, and neither their order nor repetition
matters (`steps_keep_least`). -/

namespace GoCoverage.Lines

/-- A change of a line table. -/
inductive Step where
  /-- One line is added. -/
  | add (line : Line)
  /-- The lines of another table are added. -/
  | extend (others : Lines)
  /-- The table is replaced by what a list of lines makes. -/
  | replace (lines : List Line)

namespace Step

/-- The table after the change. -/
def apply (lines : Lines) : Step → Lines
  | add line => lines.add line
  | extend others => lines.merge others
  | replace list => ofList list

/-- The change of a bare list, with each line put where a search finds its place. -/
def insert (lines : List Line) : Step → List Line
  | add line => insertLine lines line
  | extend others => others.toList.foldl insertLine lines
  | replace list => list.foldl insertLine []

/-- What has been given since the last replacement, once the change is made. -/
def given (before : List Line) : Step → List Line
  | add line => before ++ [line]
  | extend others => before ++ others.toList
  | replace list => list

/-- The lines that the change gives. -/
def lines : Step → List Line
  | add line => [line]
  | extend others => others.toList
  | replace list => list

/-- The change leaves nothing of what was there before. -/
def Replaces : Step → Prop
  | replace _ => True
  | _ => False

end Step

/-- The table that is made from nothing by changes. -/
def afterSteps (steps : List Step) : Lines := steps.foldl Step.apply .empty

/-- The bare list that is made from nothing by changes. -/
def insertedBy (steps : List Step) : List Line := steps.foldl Step.insert []

/-- All lines that were given since the last replacement. -/
def givenBy (steps : List Step) : List Line := steps.foldl Step.given []

/-! ## One step -/

section OneStep

variable {lines : Lines} {before : List Line}

theorem countsGiven_append (first second : List Line) (number : Nat) :
    countsGiven (first ++ second) number =
      countsGiven first number ∪ countsGiven second number := by
  ext hits
  exact List.mem_append

/-- **A step keeps the smallest counts of what was given.** -/
theorem Step.least_apply (h : lines.Least (countsGiven before)) (step : Step) :
    (step.apply lines).Least (countsGiven (step.given before)) := by
  cases step with
  | add line =>
    refine (least_foldl_add h [line]).congr fun number => ?_
    exact (countsGiven_append before [line] number).symm
  | extend others =>
    refine (h.merge (.self others)).congr fun number => ?_
    rw [Step.given, countsGiven_append, countsGiven_toList]
  | replace list =>
    refine (least_foldl_add .empty list).congr fun number => ?_
    exact Set.empty_union _

/-- A step puts the lines of the table where a search finds their places. -/
theorem Step.insert_toList (lines : Lines) (step : Step) :
    step.insert lines.toList = (step.apply lines).toList := by
  cases step with
  | add line => exact insertLine_toList lines line
  | extend others => exact foldl_insertLine_toList lines others
  | replace list => exact foldl_insertLine list .empty

end OneStep

/-! ## All steps -/

theorem least_foldl_apply {lines : Lines} {before : List Line}
    (h : lines.Least (countsGiven before)) (steps : List Step) :
    (steps.foldl Step.apply lines).Least (countsGiven (steps.foldl Step.given before)) := by
  induction steps generalizing lines before with
  | nil => exact h
  | cons step steps ih => exact ih (step.least_apply h)

/-- **At every moment a table has what it was given**, with the smallest counts. -/
theorem least_afterSteps (steps : List Step) :
    (afterSteps steps).Least (countsGiven (givenBy steps)) :=
  least_foldl_apply (Least.empty.congr fun _ => by ext; simp [countsGiven]) steps

theorem foldl_insert_toList (lines : Lines) (steps : List Step) :
    steps.foldl Step.insert lines.toList = (steps.foldl Step.apply lines).toList := by
  induction steps generalizing lines with
  | nil => rfl
  | cons step steps ih => rw [List.foldl_cons, List.foldl_cons, step.insert_toList, ih]

theorem insertedBy_eq (steps : List Step) : insertedBy steps = (afterSteps steps).toList :=
  foldl_insert_toList .empty steps

/-- Without a replacement, everything that the steps give is given. -/
theorem foldl_given {steps : List Step} (keeps : ∀ step ∈ steps, ¬ step.Replaces)
    (before : List Line) : steps.foldl Step.given before = before ++ steps.flatMap Step.lines := by
  induction steps generalizing before with
  | nil => simp
  | cons step steps ih =>
    have rest := fun other member => keeps other (List.mem_cons_of_mem step member)
    rw [List.foldl_cons, ih rest, List.flatMap_cons, ← List.append_assoc]
    cases step with
    | add line => rfl
    | extend others => rfl
    | replace list => exact absurd trivial (keeps _ List.mem_cons_self)

/-! ## What a list of lines is to the lines it was given -/

/-- A list has the lines that were given, in ascending order, each with the smallest of its
counts. -/
structure ListsLeast (given lines : List Line) : Prop where
  ascending : lines.Pairwise (fun first second => first.number < second.number)
  /-- The lines that are listed are those that were given. -/
  listed : ∀ number, (∃ line ∈ lines, line.number = number) ↔ ∃ line ∈ given, line.number = number
  least : ∀ line ∈ lines, IsLeast (countsGiven given line.number) line.hits

theorem Least.listsLeast {lines : Lines} {given : List Line}
    (h : lines.Least (countsGiven given)) : ListsLeast given lines.toList where
  ascending := lines.ascending
  listed := by
    intro number
    constructor
    · rintro ⟨line, member, rfl⟩
      exact ⟨_, ((h line.number line.hits).mp ((mem_toList_iff lines line).mp member)).1, rfl⟩
    · rintro ⟨line, member, rfl⟩
      have known : (lines.get? line.number).isSome := (h line.number).isSome_iff.mpr ⟨_, member⟩
      obtain ⟨hits, isListed⟩ := Option.isSome_iff_exists.mp known
      exact ⟨⟨line.number, hits⟩, (mem_toList_iff lines _).mpr isListed, rfl⟩
  least line member := (h line.number line.hits).mp ((mem_toList_iff lines line).mp member)

/-- A line is executed if it was executed whenever it was given. -/
theorem ListsLeast.pos_iff {given lines : List Line} (h : ListsLeast given lines) {line : Line}
    (member : line ∈ lines) :
    0 < line.hits ↔ ∀ other ∈ given, other.number = line.number → 0 < other.hits := by
  obtain ⟨isGiven, least⟩ := h.least line member
  constructor
  · intro executed other isOther same
    refine Nat.lt_of_lt_of_le executed (least ?_)
    show (⟨line.number, other.hits⟩ : Line) ∈ given
    rwa [← same]
  · intro all
    exact all _ isGiven rfl

/-- The lines that are executed whenever they are given, each counted once. -/
def executedOf (given : List Line) : Nat :=
  (given.map (·.number)).eraseDups.countP fun number =>
    ∀ line ∈ given, line.number = number → 0 < line.hits

theorem ListsLeast.covered_eq {given lines : List Line} (h : ListsLeast given lines) :
    lines.countP (0 < ·.hits) = executedOf given := by
  have same : (lines.map (·.number)).Perm (given.map (·.number)).eraseDups := by
    refine (List.perm_ext_iff_of_nodup ?_ (nodup_eraseDups _)).mpr fun number => ?_
    · exact List.pairwise_map.mpr (h.ascending.imp Nat.ne_of_lt)
    · rw [List.mem_eraseDups, List.mem_map, List.mem_map]
      exact h.listed number
  rw [executedOf, ← same.countP_eq, List.countP_map]
  refine List.countP_congr fun line member => ?_
  simpa using h.pos_iff member

/-! ## The life of a table -/

/-- **At every moment of its life a table lists what it was given since the last replacement**, in
ascending order and with the smallest counts.  Insertion by search makes the same list.  The lines
that were given are all that matters, not their order and not how often they came; so steps that
replace nothing may be taken in any order and repeated.  The lines that count as executed are those
that were executed whenever they were given. -/
theorem steps_keep_least (steps : List Step) :
    ListsLeast (givenBy steps) (afterSteps steps).toList ∧
      insertedBy steps = (afterSteps steps).toList ∧
      (∀ others, (∀ line, line ∈ givenBy steps ↔ line ∈ givenBy others) →
        afterSteps steps = afterSteps others) ∧
      (∀ more others, (∀ step ∈ more, ¬ step.Replaces) → (∀ step, step ∈ more ↔ step ∈ others) →
        afterSteps (steps ++ more) = afterSteps (steps ++ others)) ∧
      (afterSteps steps).covered = executedOf (givenBy steps) := by
  have determined : ∀ steps others,
      (∀ line, line ∈ givenBy steps ↔ line ∈ givenBy others) →
        afterSteps steps = afterSteps others := by
    intro steps others same
    refine (least_afterSteps steps).unique ((least_afterSteps others).congr fun number => ?_)
    ext hits
    exact (same ⟨number, hits⟩).symm
  have lists := (least_afterSteps steps).listsLeast
  refine ⟨lists, insertedBy_eq steps, determined steps, ?_, lists.covered_eq⟩
  intro more others keeps same
  have given : ∀ more, (∀ step ∈ more, ¬ step.Replaces) →
      givenBy (steps ++ more) = givenBy steps ++ more.flatMap Step.lines := by
    intro more keeps
    rw [givenBy, List.foldl_append, foldl_given keeps]
    rfl
  refine determined _ _ fun line => ?_
  rw [given more keeps, given others fun step member => keeps step ((same step).mpr member),
    List.mem_append, List.mem_append, List.mem_flatMap, List.mem_flatMap]
  simp only [same]

/-- A line that comes late and low, another table, and a line that comes twice. -/
example : (insertedBy [.replace [⟨9, 9⟩], .replace [⟨5, 4⟩, ⟨3, 4⟩], .add ⟨1, 7⟩,
    .extend (run 4 6 1), .add ⟨1, 7⟩]).map (fun line => (line.number, line.hits)) =
      [(1, 7), (3, 4), (4, 1), (5, 1), (6, 1)] := by
  decide +kernel

end GoCoverage.Lines
