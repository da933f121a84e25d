import GoCoverage.Text.Position
import GoCoverage.Text.Utf8
import Mathlib.Data.List.Induction

/-! # Positions counted in bytes

A position is reached character by character, but what it says is about bytes: how many line breaks
there are among the bytes before a place, and how many bytes there are since the last of them
(`Position.ofBytes`).  The two agree (`Position.after_start`), since a line break is one byte that
no other character has in its encoding.  No text leads backwards, and only the empty one leads
nowhere, so a position in a text tells how much of the text is before it
(`Position.eq_of_after_eq`). -/

namespace GoCoverage.Text

/-- The byte of a line break. -/
def lineBreakByte : UInt8 := 10

/-- Only a line break has the byte of one. -/
theorem ne_lineBreakByte_of_mem {c : Char} (other : c ≠ '\n') {byte : UInt8}
    (member : byte ∈ String.utf8EncodeChar c) : byte ≠ lineBreakByte := by
  rintro rfl
  have code : c.val.toNat ≠ 10 := fun same =>
    other (Char.ext (UInt32.toNat_inj.mp same))
  have number {n : Nat} (same : lineBreakByte = UInt8.ofNat n) : n % 256 = 10 :=
    (congrArg UInt8.toNat same).symm
  unfold String.utf8EncodeChar at member
  dsimp only at member
  split at member
  · have := number (List.mem_singleton.mp member)
    omega
  · -- the bytes of a longer encoding are all above 127
    split at member
    · simp only [List.mem_cons, List.not_mem_nil, or_false] at member
      rcases member with same | same <;> have := number same <;> omega
    · split at member
      · simp only [List.mem_cons, List.not_mem_nil, or_false] at member
        rcases member with same | same | same <;> have := number same <;> omega
      · simp only [List.mem_cons, List.not_mem_nil, or_false] at member
        rcases member with same | same | same | same <;> have := number same <;> omega

namespace Position

/-- The position after a number of bytes: one more than the line breaks among them, and one more
than the bytes since the last line break. -/
def ofBytes (bytes : List UInt8) : Position where
  line := 1 + bytes.count lineBreakByte
  column := 1 + (bytes.reverse.takeWhile (· != lineBreakByte)).length

theorem ofBytes_lineBreak (bytes : List UInt8) :
    ofBytes (bytes ++ String.utf8EncodeChar '\n') = (ofBytes bytes).next '\n' := by
  have byte : String.utf8EncodeChar '\n' = [lineBreakByte] := rfl
  rw [byte, ofBytes, next, if_pos rfl, List.count_append, List.reverse_append,
    List.reverse_singleton, List.singleton_append, List.takeWhile_cons_of_neg (by simp)]
  rfl

theorem ofBytes_other (bytes : List UInt8) {c : Char} (other : c ≠ '\n') :
    ofBytes (bytes ++ String.utf8EncodeChar c) = (ofBytes bytes).next c := by
  have none : (String.utf8EncodeChar c).count lineBreakByte = 0 :=
    List.count_eq_zero.mpr fun member => ne_lineBreakByte_of_mem other member rfl
  have all : ∀ byte ∈ (String.utf8EncodeChar c).reverse, (byte != lineBreakByte) = true :=
    fun byte member => bne_iff_ne.mpr (ne_lineBreakByte_of_mem other (List.mem_reverse.mp member))
  rw [ofBytes, next, if_neg other, List.count_append, none, List.reverse_append,
    List.takeWhile_append_of_pos all, List.length_append, List.length_reverse,
    String.length_utf8EncodeChar]
  simp only [ofBytes, mk.injEq]
  omega

/-- **Positions count bytes.**  The position after a text says how many line breaks its encoding has
and how many bytes follow the last of them. -/
theorem after_start (text : List Char) :
    start.after text = ofBytes (text.flatMap String.utf8EncodeChar) := by
  induction text using List.reverseRecOn with
  | nil => rfl
  | append_singleton text c ih =>
    have step : start.after (text ++ [c]) = (start.after text).next c := by
      rw [after_append]
      rfl
    rw [step, ih, List.flatMap_append, List.flatMap_singleton]
    by_cases lineBreak : c = '\n'
    · rw [lineBreak, ofBytes_lineBreak]
    · rw [ofBytes_other _ lineBreak]

/-! ## The order of places -/

theorem lt_next (position : Position) (c : Char) : position < position.next c := by
  rw [next, lt_def]
  split
  · exact .inl (Nat.lt_succ_self _)
  · exact .inr ⟨rfl, Nat.lt_add_of_pos_right c.utf8Size_pos⟩

/-- No text leads backwards. -/
theorem le_after (position : Position) (text : List Char) : position ≤ position.after text := by
  induction text generalizing position with
  | nil => exact le_refl position
  | cons c text ih =>
    have less := lt_of_lt_of_le (lt_next position c) (ih (position.next c))
    rw [lt_def] at less
    rw [le_def]
    exact less.imp_right fun same => ⟨same.1, Nat.le_of_lt same.2⟩

/-- Only the empty text leads nowhere. -/
theorem lt_after (position : Position) {text : List Char} (nonempty : text ≠ []) :
    position < position.after text := by
  cases text with
  | nil => exact absurd rfl nonempty
  | cons c text => exact lt_of_lt_of_le (lt_next position c) (le_after (position.next c) text)

/-- A position is reached by one beginning of a text only. -/
theorem eq_of_after_eq {text first second : List Char} (isFirst : first <+: text)
    (isSecond : second <+: text) (same : start.after first = start.after second) :
    first = second := by
  have shorter {first second : List Char} (isPrefix : first <+: second)
      (same : start.after first = start.after second) : first = second := by
    obtain ⟨rest, rfl⟩ := isPrefix
    cases rest with
    | nil => rw [List.append_nil]
    | cons c rest =>
      have less := lt_after (start.after first) (List.cons_ne_nil c rest)
      rw [← after_append, ← same, lt_def] at less
      omega
  rcases List.prefix_or_prefix_of_prefix isFirst isSecond with isPrefix | isPrefix
  · exact shorter isPrefix same
  · exact (shorter isPrefix same.symm).symm

end Position

end GoCoverage.Text
