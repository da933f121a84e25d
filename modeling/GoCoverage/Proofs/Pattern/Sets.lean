import GoCoverage.Pattern.CharSet
import GoCoverage.Proofs.Text.Ranges

/-! # The table of a set

The table of a set holds the code points that belong to the set, and no others
(`contains_table_iff`).  Tables are ordered for every way in which a set is built, and what is done
to the sets is done to their tables.  So a set that is taken for ASCII holds no character beyond it
(`toNat_lt_of_isAscii`). -/

namespace GoCoverage.Pattern.CharSet

open Text Text.CodeRanges

variable {set : CharSet} {code other : Nat}

theorem mem_caseVariants_iff : other ∈ Unicode.caseVariants code ↔
    other = code ∨ ∃ orbit ∈ Unicode.orbits, code ∈ orbit ∧ other ∈ orbit := by
  simp [Unicode.caseVariants, List.mem_flatten, and_assoc]

theorem toNat_le_lastCode (c : Char) : c.toNat ≤ lastCode := by
  have := c.valid
  simp only [UInt32.isValidChar, Nat.isValidChar] at this
  show c.val.toNat ≤ 0x10FFFF
  omega

theorem le_lastCode_of_mem_orbit {orbit : List Nat} (isOrbit : orbit ∈ Unicode.orbits)
    (member : code ∈ orbit) : code ≤ lastCode := by
  obtain ⟨text, _, isOrbit⟩ := List.mem_flatMap.mp isOrbit
  obtain ⟨codes, _, rfl⟩ := List.mem_map.mp isOrbit
  obtain ⟨digits, _, rfl⟩ := List.mem_map.mp member
  exact toNat_le_lastCode _

theorem contains_map_single {codes : List Nat} :
    CodeRanges.contains (codes.map fun code => (code, code)) code = true ↔ code ∈ codes := by
  rw [contains_iff]
  constructor
  · rintro ⟨_, member, above, below⟩
    obtain ⟨single, isSingle, rfl⟩ := List.mem_map.mp member
    exact Nat.le_antisymm above below ▸ isSingle
  · intro member
    exact ⟨(code, code), List.mem_map.mpr ⟨code, member, rfl⟩, Nat.le_refl code, Nat.le_refl code⟩

theorem ordered_table (set : CharSet) : Ordered set.table := by
  cases set with
  | ranges table => exact ordered_ordered table
  | union first second => exact ordered_ordered _
  | both first second => exact ordered_gaps (ordered_ordered _)
  | without first second => exact ordered_gaps (ordered_ordered _)
  | difference first second => exact ordered_ordered _
  | complement set => exact ordered_gaps (ordered_table set)
  | folded set => exact ordered_ordered _
  | foldedAscii set => exact ordered_ordered _

theorem mem_asciiLetters_iff : code ∈ asciiLetters ↔
    (0x41 ≤ code ∧ code ≤ 0x5A) ∨ (0x61 ≤ code ∧ code ≤ 0x7A) := by
  simp only [asciiLetters, List.mem_append, List.mem_range'_1]
  omega

theorem otherCaseAscii_of_not_mem (h : code ∉ asciiLetters) : otherCaseAscii code = code := by
  rw [mem_asciiLetters_iff, not_or] at h
  rw [otherCaseAscii, if_neg h.1, if_neg h.2]

theorem otherCaseAscii_le (isCode : code ≤ lastCode) : otherCaseAscii code ≤ lastCode := by
  rw [lastCode] at *
  unfold otherCaseAscii
  split
  · omega
  · split <;> omega

/-- **The table of a set holds what belongs to the set.** -/
theorem contains_table_iff (isCode : code ≤ lastCode) :
    set.table.contains code = true ↔ set.holds code = true := by
  induction set generalizing code with
  | ranges table => exact contains_ordered table code
  | union first second ih ih' =>
    rw [table, contains_ordered, contains_append, ih isCode, ih' isCode, holds, Bool.or_eq_true]
  | both first second ih ih' =>
    rw [table, contains_gaps (ordered_ordered _) isCode, contains_ordered, contains_append,
      contains_gaps (ordered_table first) isCode, contains_gaps (ordered_table second) isCode,
      ih isCode, ih' isCode, holds, Bool.and_eq_true, not_or, Classical.not_not,
      Classical.not_not]
  | without first second ih ih' =>
    rw [table, contains_gaps (ordered_ordered _) isCode, contains_ordered, contains_append,
      contains_gaps (ordered_table first) isCode, ih isCode, ih' isCode, holds, Bool.and_eq_true,
      Bool.not_eq_true', ← Bool.not_eq_true, not_or, Classical.not_not]
  | difference first second ih ih' =>
    rw [table, contains_ordered, contains_append, contains_gaps (ordered_ordered _) isCode,
      contains_gaps (ordered_ordered _) isCode, contains_ordered, contains_ordered,
      contains_append, contains_append, contains_gaps (ordered_table first) isCode,
      contains_gaps (ordered_table second) isCode, ih isCode, ih' isCode, holds]
    cases first.holds code <;> cases second.holds code <;> simp
  | complement set ih =>
    rw [table, contains_gaps (ordered_table set) isCode, ih isCode, holds, Bool.not_eq_true',
      Bool.not_eq_true]
  | folded set ih =>
    rw [table, contains_ordered, contains_append, contains_map_single, ih isCode, holds,
      List.any_eq_true]
    simp only [mem_caseVariants_iff, List.mem_flatten, List.mem_filter, List.any_eq_true]
    constructor
    · rintro (belongs | ⟨orbit, ⟨isOrbit, other, isOther, belongs⟩, member⟩)
      · exact ⟨code, .inl rfl, belongs⟩
      · have bound := le_lastCode_of_mem_orbit isOrbit isOther
        exact ⟨other, .inr ⟨orbit, isOrbit, member, isOther⟩, (ih bound).mp belongs⟩
    · rintro ⟨other, rfl | ⟨orbit, isOrbit, member, isOther⟩, belongs⟩
      · exact .inl belongs
      · have bound := le_lastCode_of_mem_orbit isOrbit isOther
        exact .inr ⟨orbit, ⟨isOrbit, other, isOther, (ih bound).mpr belongs⟩, member⟩
  | foldedAscii set ih =>
    rw [table, contains_ordered, contains_append, contains_map_single, ih isCode, holds,
      List.mem_filter, ih (otherCaseAscii_le isCode), Bool.or_eq_true]
    constructor
    · exact Or.imp_right And.right
    · rintro (belongs | belongs)
      · exact .inl belongs
      · by_cases letter : code ∈ asciiLetters
        · exact .inr ⟨letter, belongs⟩
        · exact .inl (otherCaseAscii_of_not_mem letter ▸ belongs)

/-- **A set is taken for ASCII exactly if nothing beyond ASCII lies in its table.** -/
theorem isAscii_iff :
    set.isAscii = true ↔ ∀ code, set.table.contains code = true → code < 0x80 :=
  isAscii_iff_of_ordered (ordered_table set)

/-- No character beyond ASCII belongs to a set that is taken for ASCII. -/
theorem toNat_lt_of_isAscii (h : set.isAscii = true) {c : Char} (belongs : set.contains c = true) :
    c.toNat < 0x80 :=
  isAscii_iff.mp h c.toNat ((contains_table_iff (toNat_le_lastCode c)).mpr belongs)

end GoCoverage.Pattern.CharSet
