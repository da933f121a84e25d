/-! # Scanners

A scanner reads something at the head of a text and gives every way of reading it, each with the
text that is left.  No way means that the text does not begin with the thing.  Several ways arise
where the grammar cannot tell yet what it sees: `a.b {` in the head of an `if` may be a condition
before its block or the beginning of a literal.  The ways are then followed side by side, and a
text is accepted if one of them reaches its end.

A scanner only takes characters off the head of its text.  That what it leaves is an end of the text
is part of what a scanner is, so it holds of every rule of a grammar that is built from scanners. -/

namespace GoCoverage.Go

/-- A way of reading the head of a text for each member of the answer. -/
structure Scanner (α : Type) where
  ways : List Char → List (α × List Char)
  /-- What is left is an end of the text. -/
  leavesEnd : ∀ {text : List Char} {outcome : α × List Char},
    outcome ∈ ways text → outcome.2 <:+ text

namespace Scanner

variable {α β : Type}

/-- Reads nothing and answers something about the text. -/
def look (answer : List Char → α) : Scanner α where
  ways text := [(answer text, text)]
  leavesEnd h := by
    cases List.mem_singleton.mp h
    exact List.suffix_rfl

/-- Reads nothing. -/
def done (a : α) : Scanner α := look fun _ => a

/-- Reads one thing and then, depending on it, another. -/
def andThen (first : Scanner α) (next : α → Scanner β) : Scanner β where
  ways text := (first.ways text).flatMap fun outcome => (next outcome.1).ways outcome.2
  leavesEnd h := by
    obtain ⟨middle, isMiddle, isLast⟩ := List.mem_flatMap.mp h
    exact ((next middle.1).leavesEnd isLast).trans (first.leavesEnd isMiddle)

instance : Monad Scanner where
  pure := done
  bind := andThen

/-- No way of reading. -/
def fail : Scanner α where
  ways _ := []
  leavesEnd h := absurd h List.not_mem_nil

/-- The ways of both. -/
def both (p q : Scanner α) : Scanner α where
  ways text := p.ways text ++ q.ways text
  leavesEnd h := (List.mem_append.mp h).elim p.leavesEnd q.leavesEnd

/-- The ways of `p`, and besides them those of `q` if none of the former has the wanted answer. -/
def unlessSome (wanted : α → Bool) (p q : Scanner α) : Scanner α where
  ways text :=
    let ways := p.ways text
    if ways.any (wanted ·.1) then ways else ways ++ q.ways text
  leavesEnd h := by
    dsimp only at h
    split at h
    · exact p.leavesEnd h
    · exact (both p q).leavesEnd h

/-- Reads on only if the condition holds. -/
def require (condition : Bool) : Scanner Unit := if condition then done () else fail

/-- The text that is left, which stays as it is. -/
def remaining : Scanner (List Char) := look id

/-- Reads the piece that a lexeme function takes off. -/
def lexeme (after? : List Char → Option (List Char))
    (isSuffix : ∀ {text rest : List Char}, after? text = some rest → rest <:+ text) :
    Scanner Unit where
  ways text :=
    match after? text with
    | some rest => [((), rest)]
    | none => []
  leavesEnd h := by
    split at h
    · rename_i found
      cases List.mem_singleton.mp h
      exact isSuffix found
    · cases h

/-- Two texts are the same.  Where they are one text in memory, no character is looked at. -/
def isSameText (text other : List Char) : Bool :=
  withPtrEq text other (fun _ => text == other) fun same => by simp [same]

/-- Two outcomes are the same. -/
def isSame [BEq α] (outcome other : α × List Char) : Bool :=
  outcome.1 == other.1 && isSameText outcome.2 other.2

/-- How many characters stand before the place from which only `left` is left. -/
def countBefore (left text : List Char) : Nat := count 0 text
where
  /-- The characters after the first `n`. -/
  count (n : Nat) : List Char → Nat
    | [] => n
    | text@(_ :: rest) => if isSameText text left then n else count (n + 1) rest

/-- Taking away repetitions adds nothing. -/
theorem mem_of_mem_eraseDupsBy {same : α → α → Bool} {a : α} {answers : List α}
    (h : a ∈ answers.eraseDupsBy same) : a ∈ answers := by
  have kept : ∀ answers seen : List α, a ∈ List.eraseDupsBy.loop same answers seen →
      a ∈ answers ∨ a ∈ seen := by
    intro answers
    induction answers with
    | nil => exact fun seen h => .inr (List.mem_reverse.mp h)
    | cons b answers ih =>
      intro seen h
      rw [List.eraseDupsBy.loop] at h
      split at h
      · exact (ih seen h).imp_left (List.mem_cons_of_mem b)
      · rcases ih (b :: seen) h with h | h
        · exact .inl (List.mem_cons_of_mem b h)
        · rcases List.mem_cons.mp h with rfl | h
          · exact .inl List.mem_cons_self
          · exact .inr h
  exact (kept answers [] h).resolve_right List.not_mem_nil

/-- The outcomes without those that repeat an earlier one. -/
def distinct [BEq α] (p : Scanner α) : Scanner α where
  ways text :=
    match p.ways text with
    | [] => []
    | [outcome] => [outcome]
    | outcomes => outcomes.eraseDupsBy isSame
  leavesEnd h := by
    split at h
    · cases h
    · rename_i single
      exact p.leavesEnd (single ▸ h)
    · exact p.leavesEnd (mem_of_mem_eraseDupsBy h)

end Scanner

end GoCoverage.Go
