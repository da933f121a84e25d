/-! # Counting modes

The first line of a profile says how executions were counted: whether a block was reached at all, or
how often, with or without synchronisation. -/

namespace GoCoverage.Profile

/-- How a profile counts executions. -/
inductive Mode where
  /-- A block counts one if it was reached. -/
  | set
  | count
  /-- Like `count`, and right for programs that run in parallel. -/
  | atomic
deriving DecidableEq, Repr

namespace Mode

/-- The word that stands for a mode. -/
def name : Mode → String
  | set => "set"
  | count => "count"
  | atomic => "atomic"

/-- The mode that a word stands for. -/
def ofName? (word : String) : Option Mode :=
  if word = "set" then some set
  else if word = "count" then some count
  else if word = "atomic" then some atomic
  else none

/-- What is said of a word that stands for no mode. -/
def unknownMessage (word : String) : String :=
  s!"unknown counting mode '{word}' (expected set, count or atomic)"

theorem ofName?_eq_some_iff {word : String} {mode : Mode} :
    ofName? word = some mode ↔ word = mode.name := by
  constructor
  · intro h
    unfold ofName? at h
    repeat' split at h
    all_goals simp_all
    all_goals subst h; rfl
  · rintro rfl
    cases mode <;> rfl

end Mode

end GoCoverage.Profile
