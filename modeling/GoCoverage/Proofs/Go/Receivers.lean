import GoCoverage.Proofs.Go.Spans
import GoCoverage.Proofs.Text.Words

/-! # Receivers

The receiver of a method is known by the text of its type, without the stars before it and the
blanks around what is left (`receiverText_pointer`).  So a type and the pointers to it are told
apart nowhere.  The text is what the grammar reads behind the word of a declaration
(`Declaration.StandsBefore.receiver_eq`), and nothing is read of a declaration without a parameter
list before its name.

What the grammar reads is known for the plain forms of a receiver: a name, which may be missing, and
a type of one word, perhaps behind a star and blanks (`ReceivesWord`).  There is one way of reading
such a text at each step (`Scanner.Reads`), so the steps need only be taken one after the other. -/

namespace GoCoverage.Go

open Scanner
open Text (isIdentifierStart isIdentifierContinue isBlank Position)

/-! ## The text of a type -/

/-- A type without a star before it, and without blanks around it. -/
structure IsBase (type : List Char) : Prop where
  first : ∀ c ∈ type.head?, c ≠ '*' ∧ ¬ isBlank c
  last : ∀ c ∈ type.getLast?, ¬ isBlank c

/-- **Stars and the blanks behind them are dropped**, and nothing of the type is. -/
theorem receiverText_pointer {stars blanks type : List Char} (onlyStars : ∀ c ∈ stars, c = '*')
    (onlyBlanks : ∀ c ∈ blanks, isBlank c) (base : IsBase type) :
    receiverText (stars ++ blanks ++ type) = type := by
  have stop : ∀ c ∈ (blanks ++ type).head?, ¬ (c == '*') := by
    intro c isFirst
    cases blanks with
    | nil => simpa using (base.first c isFirst).1
    | cons b blanks =>
      cases isFirst
      intro isStar
      rw [eq_of_beq isStar] at onlyBlanks
      exact absurd (onlyBlanks '*' List.mem_cons_self) (by decide)
  have dropped : (stars ++ blanks ++ type).dropWhile (· == '*') = blanks ++ type := by
    rw [List.append_assoc,
      List.dropWhile_append_of_pos fun c member => by simp [onlyStars c member]]
    exact Text.dropWhile_of_head? stop
  have trimmed : Text.trim (blanks ++ type ++ []) = type :=
    Text.trim_between onlyBlanks (fun c none => absurd none List.not_mem_nil)
      (fun c isFirst => (base.first c isFirst).2) base.last
  rwa [List.append_nil, ← dropped] at trimmed

/-! ## Words and blanks -/

/-- What is known of a word and what follows it. -/
theorem of_word? {text word rest : List Char} (h : word? text = some (word, rest)) :
    (∃ c others, word = c :: others ∧ isIdentifierStart c = true) ∧
      (∀ c ∈ word, isIdentifierContinue c = true) ∧
        text.dropWhile isIdentifierContinue = rest := by
  unfold word? at h
  split at h
  · rename_i c others
    split at h
    · rename_i isStart
      cases h
      have continues := Text.isIdentifierContinue_of_start isStart
      refine ⟨⟨c, _, rfl, isStart⟩, fun d member => ?_, List.dropWhile_cons_of_pos continues⟩
      rcases List.mem_cons.mp member with rfl | member
      · exact continues
      · exact List.mem_takeWhile_imp member
    · cases h
  · cases h

theorem isBase_of_word? {text word rest : List Char} (h : word? text = some (word, rest)) :
    IsBase word := by
  obtain ⟨_, continues, _⟩ := of_word? h
  constructor
  · intro c isFirst
    have isWord := continues c (List.mem_of_mem_head? isFirst)
    refine ⟨?_, Text.not_isBlank_of_continue isWord⟩
    rintro rfl
    exact absurd isWord (by decide)
  · exact fun c isLast => Text.not_isBlank_of_continue (continues c (List.mem_of_getLast? isLast))

/-- A blank between pieces of the source, line breaks included. -/
def IsGap (c : Char) : Prop := isInlineBlank c = true ∨ c = '\n'

instance (c : Char) : Decidable (IsGap c) := instDecidableOr

theorem IsGap.isBlank {c : Char} (h : IsGap c) : isBlank c := by
  rcases h with isInline | rfl
  · simp only [isInlineBlank, Bool.or_eq_true, beq_iff_eq] at isInline
    rcases isInline with (((rfl | rfl) | rfl) | rfl) | rfl <;> decide
  · decide

theorem not_isGap_of_start {c : Char} (h : isIdentifierStart c = true) : ¬ IsGap c := fun isGap =>
  Text.not_isBlank_of_continue (Text.isIdentifierContinue_of_start h) isGap.isBlank

/-- Blanks before a word are skipped, and nothing of the word is. -/
theorem skipBlanks_gap {gap others fuel : List Char} {c : Char} (onlyGaps : ∀ d ∈ gap, IsGap d)
    (isStart : isIdentifierStart c = true) (enough : gap.length < fuel.length) :
    skipBlanks false fuel (gap ++ c :: others) = c :: others := by
  induction gap generalizing fuel with
  | nil =>
    cases fuel with
    | nil => cases enough
    | cons _ fuel =>
      have noGap := not_isGap_of_start isStart
      rw [List.nil_append, skipBlanks, if_neg fun isInline => noGap (.inl isInline)]
      · exact fun isBreak => noGap (.inr isBreak)
      · rintro rfl
        exact absurd isStart (by decide)
  | cons d gap ih =>
    cases fuel with
    | nil => cases enough
    | cons _ fuel =>
      have onwards := ih (fun e member => onlyGaps e (List.mem_cons_of_mem d member))
        (Nat.lt_of_succ_lt_succ enough)
      rcases onlyGaps d List.mem_cons_self with isInline | rfl
      · rw [List.cons_append, skipBlanks, if_pos isInline]
        · exact onwards
        · rintro rfl
          exact absurd isInline (by decide)
        · rintro rfl
          exact absurd isInline (by decide)
      · rw [List.cons_append, skipBlanks]
        exact onwards

theorem afterBlanks_gap {gap text word rest : List Char} (onlyGaps : ∀ d ∈ gap, IsGap d)
    (isWord : word? text = some (word, rest)) : afterBlanks false (gap ++ text) = text := by
  obtain ⟨⟨c, others, rfl, isStart⟩, _⟩ := of_word? isWord
  rw [eq_append_of_word? isWord, List.cons_append]
  exact skipBlanks_gap onlyGaps isStart (by simp)

/-! ## Reading in one way -/

namespace Scanner

variable {α β : Type} {p : Scanner α} {text middle rest : List Char} {a : α}

/-- There is one way of reading the head of the text. -/
def Reads (p : Scanner α) (text : List Char) (a : α) (rest : List Char) : Prop :=
  p.ways text = [(a, rest)]

theorem Reads.bind {next : α → Scanner β} {b : β} (first : p.Reads text a middle)
    (second : (next a).Reads middle b rest) : (p >>= next).Reads text b rest := by
  show (p.ways text).flatMap _ = _
  rw [first, List.flatMap_singleton]
  exact second

theorem reads_pure (a : α) (text : List Char) : (pure a : Scanner α).Reads text a text := rfl

theorem reads_ahead {seen : List Char} (h : afterBlanks false text = seen) :
    (ahead false).Reads text seen text := by
  subst h
  rfl

theorem reads_sign {c : Char} (h : afterBlanks false text = c :: rest) :
    (sign c).Reads text () rest := by
  simp [Reads, sign, piece, lexeme, h, afterSymbol?]

theorem reads_anyWord {word : List Char} (h : word? (afterBlanks false text) = some (word, rest)) :
    anyWord.Reads text () rest := by
  simp [Reads, anyWord, piece, lexeme, h]

theorem reads_wordAhead {word : List Char}
    (h : word? (afterBlanks false text) = some (word, rest)) :
    (wordAhead false).Reads text (String.ofList word) text := by
  simp [Reads, wordAhead, look, h]

theorem reads_wordAhead_of_none (h : word? (afterBlanks false text) = none) :
    (wordAhead false).Reads text "" text := by
  simp [Reads, wordAhead, look, h]

theorem Reads.extentOf (h : p.Reads text a rest) :
    (extentOf p).Reads text (a, ⟨afterBlanks false text, rest⟩) rest :=
  (reads_ahead rfl).bind (h.bind rfl)

/-- One way of reading a construct is not repeated. -/
theorem Reads.read {construct : Construct} {reading : Reading} {fuel : Nat}
    (h : (construct.rule (Construct.read fuel)).Reads text reading rest) :
    (Construct.read (fuel + 1) construct).Reads text reading rest := by
  rw [Reads] at h
  simp only [Reads, Construct.read, distinct, h]

end Scanner

/-! ## Receivers of one word -/

/-- The text begins with a type of one word, perhaps behind a star and blanks. -/
inductive WordType (type : List Char) : List Char → List Char → Prop where
  | value {text rest : List Char} (isWord : word? text = some (type, rest)) :
    WordType type text rest
  | pointer {gap text rest : List Char} (onlyGaps : ∀ c ∈ gap, IsGap c)
    (isWord : word? text = some (type, rest)) : WordType type ('*' :: (gap ++ text)) rest

/-- The text goes on with a receiver that has a name, or none, and a type of one word. -/
inductive ReceivesWord (type text : List Char) : Prop where
  | named {inside name afterName rest after : List Char}
    (opens : afterBlanks false text = '(' :: inside)
    (isName : word? (afterBlanks false inside) = some (name, afterName))
    (free : typeKeywords.contains (String.ofList name) = false)
    (isType : WordType type (afterBlanks false afterName) rest)
    (closes : afterBlanks false rest = ')' :: after)
  | unnamed {inside rest after : List Char} (opens : afterBlanks false text = '(' :: inside)
    (isType : WordType type (afterBlanks false inside) rest)
    (closes : afterBlanks false rest = ')' :: after)

section Word

variable {type text rest after : List Char} {fuel : Nat}

/-- A type of one word is a piece of the text, and known by its word. -/
theorem WordType.exists_written (h : WordType type text rest) :
    ∃ written, text = written ++ rest ∧ receiverText written = type := by
  cases h with
  | value isWord =>
    have base : receiverText ([] ++ [] ++ type) = type :=
      receiverText_pointer (by simp) (by simp) (isBase_of_word? isWord)
    exact ⟨type, eq_append_of_word? isWord, base⟩
  | @pointer gap text rest onlyGaps isWord =>
    refine ⟨'*' :: (gap ++ type), ?_, ?_⟩
    · rw [eq_append_of_word? isWord, List.cons_append, List.append_assoc]
    · show receiverText (['*'] ++ gap ++ type) = type
      exact receiverText_pointer (by simp) (fun c member => (onlyGaps c member).isBlank)
        (isBase_of_word? isWord)

/-- Nothing follows the name of a type before a parenthesis. -/
theorem reads_namedTypeTail {read : Reader} (closes : afterBlanks false rest = ')' :: after) :
    (Grammar.namedTypeTail read false).Reads rest () rest :=
  (reads_ahead closes).bind ((reads_ahead closes).bind (reads_pure () rest))

theorem reads_type_of_word {word : List Char}
    (isWord : word? (afterBlanks false text) = some (word, rest))
    (free : typeKeywords.contains (String.ofList word) = false)
    (closes : afterBlanks false rest = ')' :: after) :
    (Construct.read (fuel + 1) (.type false)).Reads text Reading.justType rest := by
  obtain ⟨⟨c, others, rfl, isStart⟩, _⟩ := of_word? isWord
  have seen := eq_append_of_word? isWord
  have keyword (known : String) (isKeyword : typeKeywords.contains known = true) :
      String.ofList (c :: others) ≠ known := fun same => by
    rw [same, isKeyword] at free
    cases free
  refine Reads.read ((reads_ahead seen).bind ?_)
  split
  iterate 5
    · rename_i same
      cases same
      exact absurd isStart (by decide)
  refine (reads_wordAhead isWord).bind ?_
  split
  iterate 5
    · rename_i same
      exact absurd same (keyword _ (by decide))
  exact (reads_anyWord isWord).bind ((reads_namedTypeTail closes).bind (reads_pure _ rest))

theorem reads_type_of_star {behind : List Char} {reading : Reading}
    (opens : afterBlanks false text = '*' :: behind)
    (isType : (Construct.read fuel (.type false)).Reads behind reading rest) :
    (Construct.read (fuel + 1) (.type false)).Reads text Reading.justType rest :=
  Reads.read ((reads_ahead opens).bind ((reads_sign opens).bind (isType.bind (reads_pure _ rest))))

theorem WordType.reads (h : WordType type (afterBlanks false text) rest)
    (free : typeKeywords.contains (String.ofList type) = false)
    (closes : afterBlanks false rest = ')' :: after) :
    (Construct.read (fuel + 2) (.type false)).Reads text Reading.justType rest := by
  generalize seen : afterBlanks false text = ahead at h
  cases h with
  | value isWord => exact reads_type_of_word (seen ▸ isWord) free closes
  | pointer onlyGaps isWord =>
    refine reads_type_of_star seen (reads_type_of_word ?_ free closes)
    rwa [afterBlanks_gap onlyGaps isWord]

/-- What a type of one word begins with. -/
theorem WordType.exists_cons (h : WordType type text rest) :
    ∃ c others, text = c :: others ∧ (c = '*' ∨ isIdentifierStart c = true) := by
  cases h with
  | value isWord =>
    obtain ⟨⟨c, others, rfl, isStart⟩, _⟩ := of_word? isWord
    exact ⟨c, others ++ rest, eq_append_of_word? isWord, .inr isStart⟩
  | pointer onlyGaps isWord => exact ⟨'*', _, rfl, .inl rfl⟩

/-- A type of one word does not begin with a sign. -/
theorem WordType.ne_cons {sign : Char} {others : List Char} (h : WordType type text rest)
    (notStar : sign ≠ '*') (notStart : isIdentifierStart sign = false) : text ≠ sign :: others := by
  obtain ⟨c, tail, rfl, isFirst⟩ := h.exists_cons
  rintro ⟨⟩
  rcases isFirst with isStar | isStart
  · exact notStar isStar
  · rw [notStart] at isStart
    cases isStart

/-- A word that begins no type may name a parameter. -/
theorem isName_of_word? {word : List Char} (isWord : word? text = some (word, rest))
    (free : typeKeywords.contains (String.ofList word) = false) :
    ¬ ((String.ofList word).isEmpty || typeKeywords.contains (String.ofList word)) = true := by
  obtain ⟨⟨c, others, rfl, -⟩, -⟩ := of_word? isWord
  rw [free, Bool.or_false]
  simp

theorem reads_parameter_of_name {name afterName : List Char}
    (isName : word? (afterBlanks false text) = some (name, afterName))
    (freeName : typeKeywords.contains (String.ofList name) = false)
    (isType : WordType type (afterBlanks false afterName) rest)
    (free : typeKeywords.contains (String.ofList type) = false)
    (closes : afterBlanks false rest = ')' :: after) :
    (Grammar.parameter (Construct.read (fuel + 2))).Reads text .named rest := by
  have seen : WordType name (afterBlanks false text) afterName := .value isName
  refine (reads_ahead rfl).bind ?_
  split
  · rename_i same
    exact absurd same (seen.ne_cons (by decide) (by decide))
  · refine (reads_wordAhead isName).bind ?_
    rw [if_neg (isName_of_word? isName freeName)]
    refine (reads_anyWord isName).bind ((reads_ahead rfl).bind ?_)
    split
    iterate 5
      · rename_i same
        exact absurd same (isType.ne_cons (by decide) (by decide))
    exact (isType.reads free closes).bind (reads_pure _ rest)

/-- Without a name, a word may be a name or a type, and a pointer is a type. -/
theorem reads_parameter_of_type (isType : WordType type (afterBlanks false text) rest)
    (free : typeKeywords.contains (String.ofList type) = false)
    (closes : afterBlanks false rest = ')' :: after) :
    ∃ form, (form = .bare ∨ form = .typed) ∧
      (Grammar.parameter (Construct.read (fuel + 2))).Reads text form rest := by
  have reads : (Construct.read (fuel + 2) (.type false)).Reads text Reading.justType rest :=
    isType.reads free closes
  have noDot (others : List Char) : afterBlanks false text ≠ '.' :: others :=
    isType.ne_cons (by decide) (by decide)
  generalize seen : afterBlanks false text = ahead at isType
  cases isType with
  | value isWord =>
    refine ⟨.bare, .inl rfl, (reads_ahead rfl).bind ?_⟩
    split
    · rename_i same
      exact absurd same (noDot _)
    · refine (reads_wordAhead (seen ▸ isWord)).bind ?_
      rw [if_neg (isName_of_word? isWord free)]
      exact (reads_anyWord (seen ▸ isWord)).bind ((reads_ahead closes).bind (reads_pure _ rest))
  | pointer onlyGaps isWord =>
    refine ⟨.typed, .inr rfl, (reads_ahead rfl).bind ?_⟩
    split
    · rename_i same
      exact absurd same (noDot _)
    · have noWord : word? (afterBlanks false text) = none := by
        rw [seen]
        rfl
      refine (reads_wordAhead_of_none noWord).bind ?_
      rw [if_pos (by simp)]
      exact reads.bind (reads_pure _ rest)

/-- A piece is what stands before its end. -/
theorem Extent.text_eq {extent : Extent} {piece : List Char}
    (h : extent.start = piece ++ extent.finish) : extent.text = piece := by
  have cut := take_countBefore (h ▸ List.suffix_append piece extent.finish)
  exact List.append_cancel_right (cut.trans h)

/-- The text of a receiver's type, if the receiver is the only parameter and of the given form. -/
def typeOf? (extent : Extent) : Grammar.ParameterForm → Option (List Char)
  | .bare | .typed => some extent.text
  | .named => some (receiverFrom.extentAfterName extent).text
  | .variadic => none

theorem reads_receiver {read : Reader} {form : Grammar.ParameterForm}
    {inside first left : List Char}
    (opens : afterBlanks false text = '(' :: inside)
    (begins : WordType first (afterBlanks false inside) left)
    (isParameter : (Grammar.parameter read).Reads inside form rest)
    (closes : afterBlanks false rest = ')' :: after) :
    (receiver read).Reads text (typeOf? ⟨afterBlanks false inside, rest⟩ form) rest := by
  refine (reads_sign opens).bind ((reads_ahead rfl).bind ?_)
  split
  iterate 2
    · rename_i same
      exact absurd same (begins.ne_cons (by decide) (by decide))
  · obtain ⟨c, others, isCons, -⟩ := begins.exists_cons
    rw [isCons, receiverFrom]
    refine isParameter.extentOf.bind ((reads_ahead closes).bind ?_)
    rw [isCons]
    cases form <;> exact reads_pure _ rest

/-- **A receiver of one word is known by this word**, whether a star is before it or not. -/
theorem ReceivesWord.reads (h : ReceivesWord type text)
    (free : typeKeywords.contains (String.ofList type) = false) :
    ∃ written rest, receiverText written = type ∧
      (receiver (Construct.read (fuel + 2))).Reads text (some written) rest := by
  cases h with
  | @named inside name afterName rest after opens isName freeName isType closes =>
    obtain ⟨written, isWritten, known⟩ := isType.exists_written
    have isParameter : (Grammar.parameter (Construct.read (fuel + 2))).Reads inside .named rest :=
      reads_parameter_of_name isName freeName isType free closes
    have reads := reads_receiver opens (.value isName) isParameter closes
    have isText :
        (receiverFrom.extentAfterName ⟨afterBlanks false inside, rest⟩).text = written := by
      refine Extent.text_eq ?_
      show afterBlanks false ((afterBlanks false inside).dropWhile isIdentifierContinue) = _
      rw [(of_word? isName).2.2, isWritten]
      rfl
    exact ⟨written, rest, known, isText ▸ reads⟩
  | @unnamed inside rest after opens isType closes =>
    obtain ⟨written, isWritten, known⟩ := isType.exists_written
    obtain ⟨form, isForm, isParameter⟩ : ∃ form, (form = .bare ∨ form = .typed) ∧
        (Grammar.parameter (Construct.read (fuel + 2))).Reads inside form rest :=
      reads_parameter_of_type isType free closes
    have reads := reads_receiver opens isType isParameter closes
    have isText : (Extent.mk (afterBlanks false inside) rest).text = written :=
      Extent.text_eq isWritten
    refine ⟨written, rest, known, ?_⟩
    rcases isForm with rfl | rfl <;> exact isText ▸ reads

end Word

/-! ## Receivers of declarations -/

/-- The text of the receiver's type behind the word of a declaration, if the grammar reads one. -/
def receiverType? (read : Reader) (text : List Char) : Option (List Char) :=
  ((receiver read).ways text).head?.bind (·.1)

section Declared

variable {read : Reader} {text rest : List Char}

theorem receiverType?_of_reads {type? : Option (List Char)}
    (h : (receiver read).Reads text type? rest) : receiverType? read text = type? := by
  rw [receiverType?, h]
  rfl

/-- There is no receiver without a parameter list before the name. -/
theorem receiverType?_of_function (h : ∀ inside, afterBlanks false text ≠ '(' :: inside) :
    receiverType? read text = none := by
  have none : (sign '(').ways text = [] := by
    cases seen : afterBlanks false text with
    | nil => simp [sign, piece, lexeme, seen, afterSymbol?]
    | cons c others =>
      have other : '(' ≠ c := fun same => h others (same ▸ seen)
      simp [sign, piece, lexeme, seen, afterSymbol?, other]
  have noWay : (receiver read).ways text = [] := by
    show ((sign '(').ways text).flatMap _ = []
    rw [none]
    rfl
  rw [receiverType?, noWay]
  rfl

theorem receiver_of_mem_ways_function {name signature : List Char} {type? : Option (List Char)}
    (h : ((name, type?, signature), rest) ∈ (function read).ways text) :
    type? = (receiverType? read text).map receiverText := by
  obtain ⟨_, _, isAhead, isFunction⟩ := mem_ways_bind.mp h
  obtain ⟨rfl, rfl⟩ := mem_ways_look.mp isAhead
  clear h isAhead
  split at isFunction
  · simp only [mem_ways_bind, mem_ways_look, remaining] at isFunction
    obtain ⟨_, _, ⟨rfl, rfl⟩, _, _, _, name, _, _, _, _, _, ⟨_, parameters⟩, _, _, _, _, _,
      ended⟩ := isFunction
    split at ended
    · rename_i found
      obtain ⟨same, -⟩ := mem_ways_pure.mp ended
      cases same
      rw [receiverType?, found]
      rfl
    · cases ended
  · rename_i other
    simp only [mem_ways_bind, mem_ways_pure, Prod.mk.injEq] at isFunction
    obtain ⟨_, _, _, _, _, _, _, _, _, _, _, _, ⟨-, rfl, -⟩, -⟩ := isFunction
    rw [receiverType?_of_function other]
    rfl

/-- An outline has the receiver that is read behind its word. -/
theorem Outline.receiver_of_mem_ways {outline : Outline}
    (h : (outline, rest) ∈ (Go.outline read).ways text) {body : List Char}
    (begins : outline.extent.start = declarationWord ++ body) :
    outline.receiver = (receiverType? read body).map receiverText := by
  simp only [Go.outline, mem_ways_bind, mem_ways_pure] at h
  obtain ⟨⟨⟨name, receiver, signature⟩, extent⟩, _, isExtent, rfl, rfl⟩ := h
  obtain ⟨isDeclaration, rfl⟩ := mem_ways_extentOf.mp isExtent
  obtain ⟨_, behind, isWord, isFunction⟩ := mem_ways_bind.mp isDeclaration
  obtain rfl : behind = body :=
    List.append_cancel_left ((eq_of_mem_ways_keyword isWord).symm.trans begins)
  exact receiver_of_mem_ways_function isFunction

end Declared

/-- How the constructs of a source are read. -/
def sourceReader (source : List Char) : Reader :=
  Construct.read (fuelFor (dropByteOrderMark source))

/-- The outlines of a source have the receivers that are read behind their words. -/
theorem receiver_of_mem_outlines {source : List Char} {outlines : List Outline}
    (isOutlines : outlines? source = some outlines) {outline : Outline}
    (member : outline ∈ outlines) {body : List Char}
    (begins : outline.extent.start = declarationWord ++ body) :
    outline.receiver = (receiverType? (sourceReader source) body).map receiverText := by
  obtain ⟨⟨_, rest⟩, isFirst, rfl⟩ := Option.map_eq_some_iff.mp isOutlines
  obtain ⟨before, after, isOutline⟩ :=
    exists_mem_ways_of_mem (List.mem_of_mem_head? isFirst) member
  exact Outline.receiver_of_mem_ways isOutline begins

namespace Declaration

/-- The declaration's word stands in the source at the declaration's position, right before the
given text. -/
def StandsBefore (declaration : Declaration) (source after : List Char) : Prop :=
  ∃ skipped, source = skipped ++ declarationWord ++ after ∧
    declaration.start = Position.start.after skipped

variable {declaration : Declaration} {declarations : List Declaration} {source : String}
variable {after : List Char}

/-- A position tells what stands behind it. -/
theorem StandsBefore.unique {text other : List Char} (h : declaration.StandsBefore text after)
    (h' : declaration.StandsBefore text other) : after = other := by
  obtain ⟨skipped, split, start⟩ := h
  obtain ⟨skipped', split', start'⟩ := h'
  rw [List.append_assoc] at split split'
  obtain rfl : skipped = skipped' :=
    Position.eq_of_after_eq (split ▸ List.prefix_append _ _) (split' ▸ List.prefix_append _ _)
      (start.symm.trans start')
  exact List.append_cancel_left (List.append_cancel_left (split.symm.trans split'))

/-- Every declaration stands before some text, and its receiver is the one that is read there. -/
theorem exists_standsBefore (parsed : declarations? source = some declarations)
    (member : declaration ∈ declarations) :
    ∃ after, declaration.StandsBefore source.toList after ∧
      declaration.receiver = (receiverType? (sourceReader source.toList) after).map fun type =>
        String.ofList (receiverText type) := by
  obtain ⟨outlines, isOutlines, rfl⟩ := Option.map_eq_some_iff.mp parsed
  have placed : declaration ∈ place (Position.start.after []) source.toList outlines := member
  obtain ⟨outline, isOutline, skipped, reached, stands, receiver, starts, -⟩ :=
    exists_outline_of_mem_place (follow_of_outlines? isOutlines) placed
  obtain ⟨-, body, begins, -⟩ := stands
  refine ⟨body, ⟨skipped, ?_, starts⟩, ?_⟩
  · rw [reached, begins, List.append_assoc]
  · rw [receiver, receiver_of_mem_outlines isOutlines isOutline begins, Option.map_map]
    rfl

/-- **The receiver of a declaration is read where the declaration stands.** -/
theorem StandsBefore.receiver_eq (stands : declaration.StandsBefore source.toList after)
    (parsed : declarations? source = some declarations) (member : declaration ∈ declarations) :
    declaration.receiver = (receiverType? (sourceReader source.toList) after).map fun type =>
      String.ofList (receiverText type) := by
  obtain ⟨other, standsThere, receiver⟩ := exists_standsBefore parsed member
  rwa [stands.unique standsThere]

/-- A function has no receiver. -/
theorem StandsBefore.receiver_of_function (stands : declaration.StandsBefore source.toList after)
    (parsed : declarations? source = some declarations) (member : declaration ∈ declarations)
    (isFunction : ∀ inside, afterBlanks false after ≠ '(' :: inside) :
    declaration.receiver = none := by
  rw [stands.receiver_eq parsed member, receiverType?_of_function isFunction]
  rfl

/-- A type and the pointers to it are one receiver. -/
theorem StandsBefore.receiver_of_type (stands : declaration.StandsBefore source.toList after)
    (parsed : declarations? source = some declarations) (member : declaration ∈ declarations)
    {stars blanks type : List Char}
    (isType : receiverType? (sourceReader source.toList) after = some (stars ++ blanks ++ type))
    (onlyStars : ∀ c ∈ stars, c = '*') (onlyBlanks : ∀ c ∈ blanks, isBlank c) (base : IsBase type) :
    declaration.receiver = some (String.ofList type) := by
  rw [stands.receiver_eq parsed member, isType, Option.map_some,
    receiverText_pointer onlyStars onlyBlanks base]

/-- A receiver of one word is this word. -/
theorem StandsBefore.receiver_of_word (stands : declaration.StandsBefore source.toList after)
    (parsed : declarations? source = some declarations) (member : declaration ∈ declarations)
    {type : List Char} (isWord : ReceivesWord type after)
    (free : typeKeywords.contains (String.ofList type) = false) :
    declaration.receiver = some (String.ofList type) := by
  obtain ⟨written, rest, known, reads⟩ : ∃ written rest, receiverText written = type ∧
      (Go.receiver (sourceReader source.toList)).Reads after (some written) rest :=
    isWord.reads free
  rw [stands.receiver_eq parsed member, receiverType?_of_reads reads, Option.map_some, known]

end Declaration

end GoCoverage.Go
