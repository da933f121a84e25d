import GoCoverage.Text.Identifier

/-! # Lexemes of Go source

The small pieces of a source text, each as a function that takes the text at hand and gives what
is left after the piece, or nothing if the text does not begin with one.  A text is a list of
characters, and what is left is always a tail of what was given: beside each function stands the law
that says so.

What a piece of text is depends on where it stands: `++` is one operator after the first
expression of a statement and two elsewhere, and a line break closes a construct in some places and
is a plain blank in others.  The functions here therefore never look beyond their own piece; the
grammar asks for the pieces that may stand where it is. -/

namespace GoCoverage.Go

open GoCoverage.Text

/-! ## Blanks and comments -/

/-- What follows the first `*/`. -/
def afterBlockComment? : List Char → Option (List Char)
  | '*' :: '/' :: rest => some rest
  | '\x00' :: _ => none
  | _ :: rest => afterBlockComment? rest
  | [] => none

theorem isSuffix_of_afterBlockComment? {text rest : List Char}
    (h : afterBlockComment? text = some rest) : rest <:+ text := by
  fun_induction afterBlockComment? text with
  | case1 left =>
    cases h
    exact (List.suffix_cons _ _).trans (List.suffix_cons _ _)
  | case2 => cases h
  | case3 c left _ _ ih => exact (ih h).trans (List.suffix_cons c left)
  | case4 => cases h

/-- What follows the comment the text begins with.  A comment of the line form stops before the
line break; no comment holds a NUL. -/
def afterComment? : List Char → Option (List Char)
  | '/' :: '/' :: rest => some (rest.dropWhile fun c => c != '\n' && c != '\x00')
  | '/' :: '*' :: rest => afterBlockComment? rest
  | _ => none

theorem isSuffix_of_afterComment? {text rest : List Char} (h : afterComment? text = some rest) :
    rest <:+ text := by
  have marked {c d : Char} {left : List Char} : left <:+ c :: d :: left :=
    (List.suffix_cons d left).trans (List.suffix_cons c _)
  unfold afterComment? at h
  split at h
  · cases h
    exact (List.dropWhile_suffix _).trans marked
  · exact (isSuffix_of_afterBlockComment? h).trans marked
  · cases h

/-- The blanks of Go source, the line break apart. -/
def isInlineBlank (c : Char) : Bool :=
  c == ' ' || c == '\t' || c == '\r' || c == '\x0b' || c == '\x0c'

/-- The text after the blanks and comments it begins with, in at most as many steps as `fuel` has
characters. -/
def skipBlanks (lineEnds : Bool) : List Char → List Char → List Char
  | [], text => text
  | _ :: fuel, text =>
    match text with
    | '\n' :: rest => if lineEnds then text else skipBlanks lineEnds fuel rest
    | '/' :: _ =>
      match afterComment? text with
      | some rest => skipBlanks lineEnds fuel rest
      | none => text
    | c :: rest => if isInlineBlank c then skipBlanks lineEnds fuel rest else text
    | [] => text

/-- The text after the blanks and comments it begins with.  Where a line break ends the construct
at hand, `lineEnds` holds and the break is left standing.  Every step takes a character, so the text
is fuel enough for itself. -/
def afterBlanks (lineEnds : Bool) (text : List Char) : List Char :=
  skipBlanks lineEnds text text

theorem skipBlanks_isSuffix (lineEnds : Bool) (fuel text : List Char) :
    skipBlanks lineEnds fuel text <:+ text := by
  fun_induction skipBlanks lineEnds fuel text with
  | case1 => exact List.suffix_rfl
  | case2 => exact List.suffix_rfl
  | case3 _ _ rest _ ih => exact ih.trans (List.suffix_cons _ rest)
  | case4 _ _ _ rest found ih =>
    rw [found]
    exact ih.trans (isSuffix_of_afterComment? found)
  | case5 _ _ _ none => simp [none]
  | case6 _ _ c rest _ _ _ ih => exact ih.trans (List.suffix_cons c rest)
  | case7 => exact List.suffix_rfl
  | case8 => exact List.suffix_rfl

theorem afterBlanks_isSuffix (lineEnds : Bool) (text : List Char) :
    afterBlanks lineEnds text <:+ text :=
  skipBlanks_isSuffix lineEnds text text

/-! ## Words -/

/-- The word the text begins with, and what follows it. -/
def word? : List Char → Option (List Char × List Char)
  | c :: rest =>
    if isIdentifierStart c then
      some (c :: rest.takeWhile isIdentifierContinue, rest.dropWhile isIdentifierContinue)
    else none
  | [] => none

theorem isSuffix_of_word? {text word rest : List Char} (h : word? text = some (word, rest)) :
    rest <:+ text := by
  unfold word? at h
  split at h
  · split at h <;> cases h
    exact (List.dropWhile_suffix _).trans (List.suffix_cons _ _)
  · cases h

/-- What follows the given word, if the text begins with exactly that word. -/
def afterWord? (word : String) (text : List Char) : Option (List Char) :=
  (word? text).bind fun found => if found.1 = word.toList then some found.2 else none

theorem isSuffix_of_afterWord? {word : String} {text rest : List Char}
    (h : afterWord? word text = some rest) : rest <:+ text := by
  obtain ⟨found, isWord, h⟩ := Option.bind_eq_some_iff.mp h
  split at h <;> cases h
  exact isSuffix_of_word? isWord

/-- What follows the given characters. -/
def afterSymbol? : List Char → List Char → Option (List Char)
  | [], text => some text
  | c :: symbol, d :: text => if c = d then afterSymbol? symbol text else none
  | _ :: _, [] => none

theorem isSuffix_of_afterSymbol? {symbol text rest : List Char}
    (h : afterSymbol? symbol text = some rest) : rest <:+ text := by
  fun_induction afterSymbol? symbol text with
  | case1 text =>
    cases h
    exact List.suffix_rfl
  | case2 _ d text ih => exact (ih h).trans (List.suffix_cons d text)
  | case3 => cases h
  | case4 => cases h

/-- What follows a line break, a semicolon or a NUL. -/
def afterTerminator? : List Char → Option (List Char)
  | '\n' :: rest => some rest
  | ';' :: rest => some rest
  | '\x00' :: rest => some rest
  | _ => none

theorem isSuffix_of_afterTerminator? {text rest : List Char}
    (h : afterTerminator? text = some rest) : rest <:+ text := by
  unfold afterTerminator? at h
  split at h <;> cases h <;> exact List.suffix_cons _ _

/-! ## Numbers -/

/-- A digit of the base with the given number of digits. -/
def isDigitOf (base : Nat) (c : Char) : Bool :=
  if base ≤ 10 then '0' ≤ c && c.toNat < '0'.toNat + base
  else c.isDigit || ('a' ≤ c && c ≤ 'f') || ('A' ≤ c && c ≤ 'F')

/-- What follows a run of digits in which any two neighbours may be parted by one underscore. -/
def afterDigitTail (base : Nat) : List Char → List Char
  | c :: rest =>
    if isDigitOf base c then afterDigitTail base rest
    else if c = '_' then
      match rest with
      | d :: rest' => if isDigitOf base d then afterDigitTail base rest' else c :: rest
      | [] => [c]
    else c :: rest
  | [] => []

/-- What follows one digit or more. -/
def afterDigits? (base : Nat) : List Char → Option (List Char)
  | c :: rest => if isDigitOf base c then some (afterDigitTail base rest) else none
  | [] => none

/-- The text without the underscore it may begin with. -/
def dropUnderscore : List Char → List Char
  | '_' :: rest => rest
  | text => text

/-- What follows an exponent marked by one of the given letters. -/
def afterExponent? (small large : Char) : List Char → Option (List Char)
  | c :: rest =>
    if c = small ∨ c = large then
      match rest with
      | '+' :: rest' => afterDigits? 10 rest'
      | '-' :: rest' => afterDigits? 10 rest'
      | _ => afterDigits? 10 rest
    else none
  | [] => none

/-- What follows a part that may be missing. -/
def afterOptional (part : List Char → Option (List Char)) (text : List Char) : List Char :=
  (part text).getD text

/-- What follows each of the integer forms the text begins with. -/
def integerTails (text : List Char) : List (List Char) :=
  let marked := match text with
    | '0' :: 'x' :: rest | '0' :: 'X' :: rest => afterDigits? 16 (dropUnderscore rest)
    | '0' :: 'b' :: rest | '0' :: 'B' :: rest => afterDigits? 2 (dropUnderscore rest)
    | '0' :: 'o' :: rest | '0' :: 'O' :: rest => afterDigits? 8 (dropUnderscore rest)
    | _ => none
  let unmarked := match text with
    | '0' :: rest => [some rest, afterDigits? 8 (dropUnderscore rest)]
    | c :: rest => if '1' ≤ c ∧ c ≤ '9' then [some (afterDigitTail 10 rest)] else []
    | [] => []
  (marked :: unmarked).filterMap id

/-- What follows each of the floating-point forms the text begins with. -/
def floatTails (text : List Char) : List (List Char) :=
  let exponent := afterExponent? 'e' 'E'
  let power := afterExponent? 'p' 'P'
  let decimal := match afterDigits? 10 text with
    | some rest =>
      let pointed := match rest with
        | '.' :: rest' => [some (afterOptional exponent (afterOptional (afterDigits? 10) rest'))]
        | _ => []
      exponent rest :: pointed
    | none => []
  let fraction := match text with
    | '.' :: rest => [(afterDigits? 10 rest).map (afterOptional exponent)]
    | _ => []
  let hexadecimal := match text with
    | '0' :: x :: rest =>
      if x = 'x' ∨ x = 'X' then
        let whole := match afterDigits? 16 (dropUnderscore rest) with
          | some rest' =>
            let pointed := match rest' with
              | '.' :: rest'' => [power (afterOptional (afterDigits? 16) rest'')]
              | _ => []
            power rest' :: pointed
          | none => []
        let pointed := match rest with
          | '.' :: rest' => [(afterDigits? 16 rest').bind power]
          | _ => []
        whole ++ pointed
      else []
    | _ => []
  (decimal ++ fraction ++ hexadecimal).filterMap id

/-- The characters that numbers are made of. -/
def isNumberCharacter (c : Char) : Bool :=
  isDigitOf 16 c || "_.xXoOpP+-i".toList.contains c

/-- The shortest of the texts. -/
def shortest? (texts : List (List Char)) : Option (List Char) :=
  texts.foldl
    (fun best text => match best with
      | some shortest => if text.length < shortest.length then some text else best
      | none => some text)
    none

/-- What follows the longest number the text begins with: an integer, a floating-point number, or
either of them, or bare decimal digits, with the imaginary mark `i`. -/
def afterNumber? (text : List Char) : Option (List Char) :=
  let head := text.takeWhile isNumberCharacter
  let real := integerTails head ++ floatTails head
  let imaginary := ((afterDigits? 10 head).toList ++ real).filterMap (afterSymbol? ['i'])
  (shortest? (real ++ imaginary)).map fun rest => text.drop (head.length - rest.length)

theorem isSuffix_of_afterNumber? {text rest : List Char} (h : afterNumber? text = some rest) :
    rest <:+ text := by
  obtain ⟨_, _, rfl⟩ := Option.map_eq_some_iff.mp h
  exact List.drop_suffix _ _

/-! ## Quoted texts -/

/-- The text begins with that many hexadecimal digits. -/
def startsWithHex (count : Nat) (text : List Char) : Bool :=
  (text.take count).length == count && (text.take count).all (isDigitOf 16)

/-- The characters that stand for one character after a backslash in a rune literal. -/
def simpleEscapes : List Char := ['a', 'b', 'f', 'n', 'r', 't', 'v', '\\', '\'', '"']

/-- What follows a rune literal. -/
def afterRune? : List Char → Option (List Char)
  | '\'' :: '\\' :: mark :: rest =>
    let close (count : Nat) := afterSymbol? ['\''] (rest.drop count)
    if mark = 'x' then (if startsWithHex 2 rest then close 2 else none)
    else if mark = 'u' then (if startsWithHex 4 rest then close 4 else none)
    else if mark = 'U' then (if startsWithHex 8 rest then close 8 else none)
    else if isDigitOf 8 mark then
      (if (rest.take 2).length = 2 ∧ (rest.take 2).all (isDigitOf 8) then close 2 else none)
    else if simpleEscapes.contains mark then close 0
    else none
  | '\'' :: c :: '\'' :: rest => if c = '\'' ∨ c = '\x00' then none else some rest
  | _ => none

theorem isSuffix_of_afterRune? {text rest : List Char} (h : afterRune? text = some rest) :
    rest <:+ text := by
  have third {a b c : Char} {left : List Char} : left <:+ a :: b :: c :: left :=
    (List.suffix_append [a, b, c] left)
  unfold afterRune? at h
  split at h
  · rename_i mark left
    have closes {count : Nat} (closed : afterSymbol? ['\''] (left.drop count) = some rest) :
        rest <:+ '\'' :: '\\' :: mark :: left :=
      ((isSuffix_of_afterSymbol? closed).trans (List.drop_suffix count left)).trans third
    simp only at h
    split at h
    · split at h <;> first | exact closes h | cases h
    · split at h
      · split at h <;> first | exact closes h | cases h
      · split at h
        · split at h <;> first | exact closes h | cases h
        · split at h
          · split at h <;> first | exact closes h | cases h
          · split at h <;> first | exact closes h | cases h
  · split at h <;> cases h
    exact third
  · cases h

/-- What follows the raw string after its opening quote. -/
def afterRawString? : List Char → Option (List Char)
  | '`' :: rest => some rest
  | '\x00' :: _ => none
  | _ :: rest => afterRawString? rest
  | [] => none

theorem isSuffix_of_afterRawString? {text rest : List Char}
    (h : afterRawString? text = some rest) : rest <:+ text := by
  fun_induction afterRawString? text with
  | case1 =>
    cases h
    exact List.suffix_cons _ _
  | case2 => cases h
  | case3 c left _ _ ih => exact (ih h).trans (List.suffix_cons c left)
  | case4 => cases h

/-- What follows the interpreted string after its opening quote, in at most as many steps as `fuel`
has characters.  A line break may stand in it only where a comment follows, since there the string
is not one piece. -/
def stringTail? : List Char → List Char → Option (List Char)
  | [], _ => none
  | _ :: fuel, text =>
    match text with
    | '"' :: rest => some rest
    | '\\' :: 'x' :: rest => if startsWithHex 2 rest then stringTail? fuel (rest.drop 2) else none
    | '\\' :: 'u' :: rest => if startsWithHex 4 rest then stringTail? fuel (rest.drop 4) else none
    | '\\' :: 'U' :: rest => if startsWithHex 8 rest then stringTail? fuel (rest.drop 8) else none
    | '\\' :: c :: rest => if c = '\x00' then none else stringTail? fuel rest
    | '\n' :: rest =>
      (afterComment? (rest.dropWhile fun c => isInlineBlank c || c == '\n')).bind (stringTail? fuel)
    | '\x00' :: _ => none
    | _ :: rest => stringTail? fuel rest
    | [] => none

theorem isSuffix_of_stringTail? {fuel text rest : List Char}
    (h : stringTail? fuel text = some rest) : rest <:+ text := by
  have second {c d : Char} {left : List Char} : left <:+ c :: d :: left :=
    List.suffix_append [c, d] left
  induction fuel generalizing text with
  | nil => cases h
  | cons _ fuel ih =>
    unfold stringTail? at h
    split at h
    · cases h
      exact List.suffix_cons _ _
    · split at h
      · exact ((ih h).trans (List.drop_suffix 2 _)).trans second
      · cases h
    · split at h
      · exact ((ih h).trans (List.drop_suffix 4 _)).trans second
      · cases h
    · split at h
      · exact ((ih h).trans (List.drop_suffix 8 _)).trans second
      · cases h
    · split at h
      · cases h
      · exact (ih h).trans second
    · obtain ⟨after, isComment, h⟩ := Option.bind_eq_some_iff.mp h
      exact ((ih h).trans (isSuffix_of_afterComment? isComment)).trans
        ((List.dropWhile_suffix _).trans (List.suffix_cons _ _))
    · cases h
    · exact (ih h).trans (List.suffix_cons _ _)
    · cases h

/-- What follows the string literal the text begins with, raw or interpreted. -/
def afterString? (text : List Char) : Option (List Char) :=
  match text with
  | '`' :: rest => afterRawString? rest
  | '"' :: rest => stringTail? text rest
  | _ => none

theorem isSuffix_of_afterString? {text rest : List Char} (h : afterString? text = some rest) :
    rest <:+ text := by
  unfold afterString? at h
  split at h
  · exact (isSuffix_of_afterRawString? h).trans (List.suffix_cons _ _)
  · exact (isSuffix_of_stringTail? h).trans (List.suffix_cons _ _)
  · cases h

end GoCoverage.Go
