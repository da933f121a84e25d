/-! # Lists in the order of discovery

The packages of a report and the classes of a package are listed in the order in which they were met
first.  An element that is looked up is changed where it stands, and one that is not there yet is
added at the end. -/

namespace GoCoverage

/-- Changes the first element that is wanted, or a fresh one at the end if there is none. -/
def changeOrAdd {α : Type} (wanted : α → Bool) (fresh : α) (change : α → α) : List α → List α
  | [] => [change fresh]
  | a :: others =>
    if wanted a then change a :: others else a :: changeOrAdd wanted fresh change others

variable {α : Type} {wanted : α → Bool} {fresh : α} {change : α → α}

/-- What is not there yet is added at the end. -/
theorem changeOrAdd_of_none {list : List α} (none : ∀ a ∈ list, wanted a = false) :
    changeOrAdd wanted fresh change list = list ++ [change fresh] := by
  induction list with
  | nil => rfl
  | cons a list ih =>
    simp [changeOrAdd, none a List.mem_cons_self, ih fun b m => none b (List.mem_cons_of_mem _ m)]

end GoCoverage
