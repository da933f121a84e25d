import Mathlib.Data.List.TakeDrop
import GoCoverage.Proofs.Json.Reader

/-! # Tokens that are read back

A token is read with any text behind it.  A number is read from its token, if what follows does not
go on with it (`number?_append`): the reader takes as many digits as there are, so what ends each
part of a number is the first character of the next part, or of what follows.  A text is read from
its quotes, whatever characters it has (`characters?_quote`). -/

namespace GoCoverage.Json

/-! ## Numbers -/

/-- One digit or more. -/
structure IsDigits (digits : List Char) : Prop where
  ne_nil : digits ≠ []
  isDigit : ∀ c ∈ digits, c.isDigit = true

/-- The whole part of a number, with no zero that could be left out. -/
inductive IsWhole : List Char → Prop where
  | zero : IsWhole ['0']
  | digits {first : Char} {others : List Char} (nonzero : first ≠ '0')
      (isDigits : IsDigits (first :: others)) : IsWhole (first :: others)

/-- A fraction, perhaps none. -/
inductive IsFraction : List Char → Prop where
  | none : IsFraction []
  | digits {digits : List Char} (isDigits : IsDigits digits) : IsFraction ('.' :: digits)

/-- An exponent with its sign, perhaps none. -/
inductive IsExponent : List Char → Prop where
  | none : IsExponent []
  | plus {digits : List Char} (isDigits : IsDigits digits) : IsExponent ('e' :: '+' :: digits)
  | minus {digits : List Char} (isDigits : IsDigits digits) : IsExponent ('e' :: '-' :: digits)

/-- A number without its sign. -/
inductive IsUnsigned : List Char → Prop where
  | mk {whole fraction exponent : List Char} (isWhole : IsWhole whole)
      (isFraction : IsFraction fraction) (isExponent : IsExponent exponent) :
      IsUnsigned (whole ++ fraction ++ exponent)

/-- The token of a number. -/
inductive IsNumber : List Char → Prop where
  | unsigned {token : List Char} (isUnsigned : IsUnsigned token) : IsNumber token
  | minus {token : List Char} (isUnsigned : IsUnsigned token) : IsNumber ('-' :: token)

/-- A text does not go on with a number that stands before it. -/
def Ends (rest : List Char) : Prop :=
  ∀ c ∈ rest.head?, c.isDigit = false ∧ c ≠ '.' ∧ c ≠ 'e' ∧ c ≠ 'E'

theorem Ends.cons {c : Char} (h : c.isDigit = false ∧ c ≠ '.' ∧ c ≠ 'e' ∧ c ≠ 'E')
    (rest : List Char) : Ends (c :: rest) := by
  intro d member
  obtain rfl := Option.mem_some.mp member
  exact h

/-- A text does not go on with the digits that stand before it. -/
def EndsDigits (rest : List Char) : Prop := ∀ c ∈ rest.head?, c.isDigit = false

theorem digits?_append {digits rest : List Char} (isDigits : IsDigits digits)
    (ends : EndsDigits rest) : digits? (digits ++ rest) = some (digits, rest) := by
  have split : (digits ++ rest).span Char.isDigit = (digits, rest) := by
    rw [List.span_eq_takeWhile_dropWhile, List.takeWhile_append_of_pos isDigits.isDigit,
      List.dropWhile_append_of_pos isDigits.isDigit]
    cases rest with
    | nil => simp
    | cons c rest =>
      have notDigit : c.isDigit = false := ends c rfl
      simp [notDigit]
  rw [digits?, split]
  split
  · rename_i none
    exact absurd (congrArg Prod.fst none) isDigits.ne_nil
  · rename_i some
    rw [← some]

theorem whole?_append {whole rest : List Char} (isWhole : IsWhole whole) (ends : EndsDigits rest) :
    whole? (whole ++ rest) = some (whole, rest) := by
  cases isWhole with
  | zero => rfl
  | digits nonzero isDigits =>
    rw [List.cons_append, whole?]
    · exact digits?_append isDigits ends
    · intro text same
      exact nonzero (List.cons.inj same).1

-- Without a fraction, what follows must not look like one: digits that end are not enough.
theorem fraction?_append {fraction rest : List Char} (isFraction : IsFraction fraction)
    (ends : EndsDigits rest) (noPoint : fraction = [] → ∀ c ∈ rest.head?, c ≠ '.') :
    fraction? (fraction ++ rest) = some (fraction, rest) := by
  cases isFraction with
  | none =>
    rw [List.nil_append, fraction?]
    intro text same
    rw [same] at noPoint
    exact noPoint rfl '.' rfl rfl
  | digits isDigits =>
    rw [List.cons_append, fraction?, digits?_append isDigits ends, Option.map_some]

theorem exponent?_append {exponent rest : List Char} (isExponent : IsExponent exponent)
    (ends : Ends rest) : exponent? (exponent ++ rest) = some (exponent, rest) := by
  have endsDigits : EndsDigits rest := fun c member => (ends c member).1
  cases isExponent with
  | none =>
    cases rest with
    | nil => rfl
    | cons c rest =>
      have other : ¬ (c = 'e' ∨ c = 'E') := by
        rintro (isE | isE)
        · exact (ends c rfl).2.2.1 isE
        · exact (ends c rfl).2.2.2 isE
      exact if_neg other
  | plus isDigits =>
    have marked : ('e' = 'e' ∨ 'e' = 'E') := .inl rfl
    rw [List.cons_append, List.cons_append, exponent?, if_pos marked]
    dsimp only
    rw [digits?_append isDigits endsDigits, Option.map_some]
  | minus isDigits =>
    have marked : ('e' = 'e' ∨ 'e' = 'E') := .inl rfl
    rw [List.cons_append, List.cons_append, exponent?, if_pos marked]
    dsimp only
    rw [digits?_append isDigits endsDigits, Option.map_some]

theorem unsigned?_append {token rest : List Char} (isUnsigned : IsUnsigned token)
    (ends : Ends rest) : unsigned? (token ++ rest) = some (token, rest) := by
  obtain @⟨whole, fraction, exponent, isWhole, isFraction, isExponent⟩ := isUnsigned
  -- Each part ends where the next one begins, or, if the others are missing, where the rest does.
  have endsDigits : EndsDigits (exponent ++ rest) ∧ ∀ c ∈ (exponent ++ rest).head?, c ≠ '.' := by
    cases isExponent with
    | none => exact ⟨fun c member => (ends c member).1, fun c member => (ends c member).2.1⟩
    | plus => exact ⟨by rintro c ⟨⟩; rfl, by rintro c ⟨⟩; decide⟩
    | minus => exact ⟨by rintro c ⟨⟩; rfl, by rintro c ⟨⟩; decide⟩
  have endsWhole : EndsDigits (fraction ++ (exponent ++ rest)) := by
    cases isFraction with
    | none => exact endsDigits.1
    | digits => rintro c ⟨⟩; rfl
  rw [List.append_assoc, List.append_assoc, unsigned?, whole?_append isWhole endsWhole]
  simp only [Option.bind_eq_bind, Option.bind_some]
  rw [fraction?_append isFraction endsDigits.1 fun _ => endsDigits.2]
  simp only [Option.bind_some]
  rw [exponent?_append isExponent ends]
  rfl

/-- The first character of a number is a digit. -/
theorem IsUnsigned.exists_cons {token : List Char} (isUnsigned : IsUnsigned token) :
    ∃ first others, token = first :: others ∧ first.isDigit = true := by
  obtain @⟨whole, fraction, exponent, isWhole, isFraction, isExponent⟩ := isUnsigned
  cases isWhole with
  | zero => exact ⟨'0', _, rfl, rfl⟩
  | digits nonzero isDigits => exact ⟨_, _, rfl, isDigits.isDigit _ List.mem_cons_self⟩

/-- A number begins with a digit or a sign. -/
theorem IsNumber.exists_cons {token : List Char} (isNumber : IsNumber token) :
    ∃ first others, token = first :: others ∧ (first.isDigit = true ∨ first = '-') := by
  cases isNumber with
  | unsigned isUnsigned =>
    obtain ⟨first, others, isCons, isDigit⟩ := isUnsigned.exists_cons
    exact ⟨first, others, isCons, .inl isDigit⟩
  | minus => exact ⟨'-', _, rfl, .inr rfl⟩

/-- A number is read from its token. -/
theorem number?_append {token rest : List Char} (isNumber : IsNumber token) (ends : Ends rest) :
    number? (token ++ rest) = some (token, rest) := by
  cases isNumber with
  | unsigned isUnsigned =>
    obtain ⟨first, others, rfl, isDigit⟩ := isUnsigned.exists_cons
    rw [List.cons_append, number?]
    · exact unsigned?_append isUnsigned ends
    · intro text same
      rw [(List.cons.inj same).1] at isDigit
      cases isDigit
  | minus isUnsigned =>
    rw [List.cons_append, number?, unsigned?_append isUnsigned ends, Option.map_some]

/-! ## Quoted texts -/

theorem hexValue?_hexDigit (n : Nat) : hexValue? (hexDigit n) = some (n % 16) := by
  have all : ∀ digit : Fin 16, hexValue? (Nat.digitChar digit) = some digit.val := by decide
  exact all ⟨n % 16, Nat.mod_lt n (by decide)⟩

/-- A control character is read from its number. -/
theorem unit?_control {c : Char} (control : c.toNat < 0x20) :
    unit? '0' '0' (hexDigit (c.toNat / 16)) (hexDigit c.toNat) = some c.toNat := by
  have zero : hexValue? '0' = some 0 := rfl
  rw [unit?, zero, hexValue?_hexDigit, hexValue?_hexDigit]
  simp only [Option.bind_eq_bind, Option.bind_some, Option.pure_def, Option.some.injEq]
  omega

/-- The escape of a character that has a letter is read by its letter. -/
theorem escaped?_letter {c letter : Char} (written : escapeLetters.lookup c = some letter) :
    letter ≠ 'u' ∧ escaped? letter = some c := by
  have all : ∀ entry ∈ escapeLetters, entry.2 ≠ 'u' ∧ escaped? entry.2 = some entry.1 := by decide
  obtain ⟨before, after, parts, -⟩ := List.lookup_eq_some_iff.mp written
  have member : (c, letter) ∈ escapeLetters := by
    rw [parts]
    exact List.mem_append_right before List.mem_cons_self
  exact all _ member

/-- A character without an escape stands for itself. -/
theorem plain_of_lookup_eq_none {c : Char} (other : escapeLetters.lookup c = none) :
    c ≠ '"' ∧ c ≠ '\\' := by
  constructor
  · rintro rfl
    cases other
  · rintro rfl
    cases other

theorem characters?_quoteChar (c : Char) (text : List Char) :
    characters? (quoteChar c ++ text) =
      (characters? text).map fun (content, rest) => (c :: content, rest) := by
  unfold quoteChar
  -- A letter, a number, or the character itself, as the writer chooses.
  split
  · rename_i letter written
    obtain ⟨notUnit, isEscape⟩ := escaped?_letter written
    rw [List.cons_append, List.cons_append, List.nil_append, characters?, isEscape]
    intro _ _ _ _ _ same _
    exact notUnit same
  · rename_i other
    obtain ⟨notQuote, notBackslash⟩ := plain_of_lookup_eq_none other
    split
    · rename_i control
      have short : c.toNat < 0xD800 ∨ 0xE000 ≤ c.toNat := .inl (by omega)
      simp only [List.cons_append, List.nil_append]
      rw [characters?, unit?_control control]
      dsimp only
      rw [if_pos short, Char.ofNat_toNat]
    · rename_i notControl
      rw [List.singleton_append, characters?, if_neg (not_or.mpr ⟨notBackslash, notControl⟩)]
      · exact notQuote
      · intro _ _ _ _ _ same _
        exact notBackslash same
      · intro _ _ same _
        exact notBackslash same

/-- A text is read from its quotes. -/
theorem characters?_quote (text rest : List Char) :
    characters? (text.flatMap quoteChar ++ '"' :: rest) = some (text, rest) := by
  induction text with
  | nil => rfl
  | cons c text ih =>
    rw [List.flatMap_cons, List.append_assoc, characters?_quoteChar, ih, Option.map_some]

end GoCoverage.Json
