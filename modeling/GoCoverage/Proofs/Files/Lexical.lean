import GoCoverage.Files.Path

/-! # Paths resolved by their text

A path can be resolved without the disk: an empty part and `.` stay where they are, `..` takes away
the last name, and any other part is added (`Path.follow`).  Wherever it begins, a relative path
leads so many levels up and then down by names (`Path.Lead`), and that is all that has to be known
of it to tell whether it stays below the directory it begins in (`prefix_fromPlace_iff`). -/

namespace GoCoverage.Files.Path

/-! ## Places -/

/-- The place that a part leads to by its text. -/
def step (place : List String) (part : String) : List String :=
  if part = "" ∨ part = "." then place
  else if part = ".." then place.dropLast
  else place ++ [part]

/-- The place that a path leads to from another one. -/
def follow (place : List String) (path : String) : List String := (parts path).foldl step place

/-- The place that a path leads to from the root. -/
def place (path : String) : List String := follow [] path

/-- A path lies below a directory, and is not the directory itself. -/
def Below (directory path : String) : Prop :=
  place directory <+: place path ∧ place path ≠ place directory

instance (directory path : String) : Decidable (Below directory path) := instDecidableAnd

/-! ## Parts that lead somewhere -/

/-- A slash parts what stands before it from what stands after it. -/
theorem parts_append_slash (first second : String) :
    parts (first ++ "/" ++ second) = parts first ++ parts second := by
  have split : (first ++ "/" ++ second).toList = first.toList ++ '/' :: second.toList := by simp
  rw [parts, split, List.splitOn_append_cons_self, List.map_append]
  rfl

/-- The parts of a path without the empty ones and the dots, which stay where they are. -/
def moves (path : String) : List String := (parts path).filter fun part => part ≠ "" ∧ part ≠ "."

/-- The paths lead the same way: they differ in doubled slashes and in dots at most. -/
def Same (path other : String) : Prop :=
  isAbsolute path = isAbsolute other ∧ moves path = moves other

instance (path other : String) : Decidable (Same path other) := instDecidableAnd

theorem moves_empty : moves "" = [] := by decide

theorem moves_root : moves "/" = [] := by decide

theorem moves_append_slash (first second : String) :
    moves (first ++ "/" ++ second) = moves first ++ moves second := by
  rw [moves, parts_append_slash, List.filter_append]
  rfl

theorem moves_slash (first : String) : moves (first ++ "/") = moves first := by
  have ended := moves_append_slash first ""
  rwa [String.append_empty, moves_empty, List.append_nil] at ended

theorem isAbsolute_append {first second : String} (some : first ≠ "") :
    isAbsolute (first ++ second) = isAbsolute first := by
  rw [isAbsolute, isAbsolute, String.toList_append]
  cases h : first.toList with
  | nil => exact absurd (String.toList_inj.mp h) some
  | cons c rest => rfl

/-- A relative path leads on from the directory it is joined to. -/
theorem moves_join (directory : String) {path : String} (relative : isAbsolute path = false) :
    moves (join directory path) = moves directory ++ moves path := by
  rw [join, if_neg (by simp [relative])]
  split
  · rename_i none
    have empty : directory = "" := String.toList_inj.mp (List.getLast?_eq_none_iff.mp none)
    rw [empty, moves_empty, List.nil_append]
  · rename_i slash
    obtain ⟨before, split⟩ := List.getLast?_eq_some_iff.mp slash
    have ended : directory = String.ofList before ++ "/" := String.toList_inj.mp (by simp [split])
    rw [ended, moves_append_slash, moves_slash]
  · exact moves_append_slash directory path

theorem isAbsolute_join (directory : String) {path : String} (relative : isAbsolute path = false) :
    isAbsolute (join directory path) = isAbsolute directory := by
  rw [join, if_neg (by simp [relative])]
  split
  · rename_i none
    have empty : directory = "" := String.toList_inj.mp (List.getLast?_eq_none_iff.mp none)
    rw [relative, empty]
    rfl
  · rename_i slash
    refine isAbsolute_append ?_
    rintro rfl
    cases slash
  · rename_i some
    rw [String.append_assoc]
    refine isAbsolute_append ?_
    rintro rfl
    cases some

/-- The name at the end of a path is the last of its moves, unless that leads up. -/
theorem fileName?_of_moves {path name : String} {above : List String}
    (h : moves path = above ++ [name]) :
    fileName? path = if name = ".." then none else some name := by
  rw [moves] at h
  rw [fileName?, h, List.getLast?_concat]
  split
  · rename_i up
    rw [if_pos (Option.some.inj up)]
  · rename_i other
    rw [if_neg fun up => other (congrArg some up)]

/-- Where a path leads does not depend on what is left out of its moves. -/
theorem follow_eq_foldl_moves (start : List String) (path : String) :
    follow start path = (moves path).foldl step start := by
  rw [follow, moves]
  induction parts path generalizing start with
  | nil => rfl
  | cons part parts ih =>
    rw [List.foldl_cons, ih, List.filter_cons]
    by_cases stays : part = "" ∨ part = "."
    · rw [if_neg (by rcases stays with rfl | rfl <;> simp), step, if_pos stays]
    · rw [if_pos (by simpa [not_or] using stays), List.foldl_cons]

/-- A path that is not absolute is followed from the directory it is joined to. -/
theorem place_join (directory : String) {path : String} (relative : isAbsolute path = false) :
    place (join directory path) = follow (place directory) path := by
  rw [place, follow_eq_foldl_moves, moves_join directory relative, List.foldl_append,
    ← follow_eq_foldl_moves, ← follow_eq_foldl_moves, place]

/-! ## Names -/

section Name

variable {name : String} (slash : '/' ∉ name.toList)
include slash

theorem isAbsolute_of_no_slash : isAbsolute name = false := by
  cases h : name.toList with
  | nil => simp [isAbsolute, h]
  | cons c rest =>
    have other : c ≠ '/' := fun same => slash (h ▸ same ▸ List.mem_cons_self)
    simp [isAbsolute, h, other]

/-- A name is a part by itself. -/
theorem parts_of_no_slash : parts name = [name] := by
  have whole : ∀ c ∈ name.toList, (c == '/') = false := by
    intro c member
    exact beq_false_of_ne fun same => slash (same ▸ member)
  rw [parts, List.splitOn, List.splitOnP_eq_singleton whole, List.map_singleton,
    String.ofList_toList]

theorem moves_of_no_slash : moves name = if name = "" ∨ name = "." then [] else [name] := by
  rw [moves, parts_of_no_slash slash]
  by_cases stays : name = "" ∨ name = "."
  · rw [if_pos stays]
    rcases stays with rfl | rfl <;> rfl
  · rw [if_neg stays]
    exact List.filter_cons_of_pos (by simpa [not_or] using stays)

/-- A name leads one level down. -/
theorem follow_name (start : List String) (isName : name ≠ "" ∧ name ≠ "." ∧ name ≠ "..") :
    follow start name = start ++ [name] := by
  rw [follow, parts_of_no_slash slash, List.foldl_cons, List.foldl_nil, step,
    if_neg (by simp [isName]), if_neg isName.2.2]

end Name

/-- The name of a Go file is no empty part, and neither dots. -/
theorem ne_of_isGoName {name : String} (isGo : isGoName name = true) :
    name ≠ "" ∧ name ≠ "." ∧ name ≠ ".." := by
  have long : 3 < name.toList.length := by
    simp only [isGoName, Bool.and_eq_true, decide_eq_true_eq] at isGo
    exact isGo.2
  refine ⟨?_, ?_, ?_⟩ <;> rintro rfl <;> exact absurd long (by decide)

/-! ## Up and down -/

/-- Where a path leads, wherever it begins: so many levels up, and down from there. -/
structure Lead where
  up : Nat
  down : List String
deriving DecidableEq, Repr

namespace Lead

/-- Where a path leads with one more part. -/
def step (lead : Lead) (part : String) : Lead :=
  if part = "" ∨ part = "." then lead
  else if part = ".." then
    match lead.down with
    | [] => { lead with up := lead.up + 1 }
    | _ => { lead with down := lead.down.dropLast }
  else { lead with down := lead.down ++ [part] }

/-- The place that is reached from another one.  No more levels are left than there are. -/
def fromPlace (lead : Lead) (start : List String) : List String :=
  start.take (start.length - lead.up) ++ lead.down

theorem fromPlace_step (lead : Lead) (start : List String) (part : String) :
    (lead.step part).fromPlace start = Path.step (lead.fromPlace start) part := by
  rw [Lead.step, Path.step]
  split
  · rfl
  · split
    · split
      · rename_i none
        rw [fromPlace, fromPlace, none, List.append_nil, List.append_nil, List.dropLast_eq_take,
          List.take_take, List.length_take]
        congr 1
        show start.length - (lead.up + 1) = _
        omega
      · rename_i some
        rw [fromPlace, fromPlace, List.dropLast_append_of_ne_nil some]
    · rw [fromPlace, fromPlace, List.append_assoc]

end Lead

/-- Where a path leads. -/
def lead (path : String) : Lead := (parts path).foldl Lead.step ⟨0, []⟩

theorem follow_eq_fromPlace (start : List String) (path : String) :
    follow start path = (lead path).fromPlace start := by
  have all : ∀ (parts : List String) (lead : Lead),
      parts.foldl step (lead.fromPlace start) = (parts.foldl Lead.step lead).fromPlace start := by
    intro parts
    induction parts with
    | nil => exact fun _ => rfl
    | cons part parts ih =>
      intro lead
      rw [List.foldl_cons, List.foldl_cons, ← lead.fromPlace_step, ih]
  have begins : Lead.fromPlace ⟨0, []⟩ start = start := by simp [Lead.fromPlace]
  rw [follow, lead, ← all, begins]

/-- A path stays below the place it begins in if it comes down again by the names it has left. -/
theorem prefix_fromPlace_iff (lead : Lead) (start : List String) :
    start <+: lead.fromPlace start ↔ start.drop (start.length - lead.up) <+: lead.down := by
  have left : start.take (start.length - lead.up) ++ start.drop (start.length - lead.up) <+:
      lead.fromPlace start ↔ start.drop (start.length - lead.up) <+: lead.down :=
    List.prefix_append_right_inj _
  rwa [List.take_append_drop] at left

end GoCoverage.Files.Path
