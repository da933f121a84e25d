import GoCoverage.Proofs.Json.Tokens

/-! # Values that are read back

What is laid out by `Value` is read back, however deep it is indented: a text or a number from its
token, and a list or a record if its parts are (`Writes.list`, `Writes.record`).  A part is read
from between blanks and what does not go on with a number (`Reads`), which is how `onLines` lays out
the parts of a list and of a record alike. -/

namespace GoCoverage.Json

/-! ## Parts -/

section

variable {α : Type} {close : Char} {part? : List Char → Option (α × List Char)}

/-- A part is read from a piece of text, between blanks and what does not go on with a number. -/
def Reads (part? : List Char → Option (α × List Char)) (piece : List Char) (part : α) : Prop :=
  ∀ blanks rest, AllBlank blanks → Ends rest → part? (blanks ++ (piece ++ rest)) = some (part, rest)

/-- Pieces on lines of their own, with a comma after each but the last. -/
def onLines (depth : Nat) : List (List Char) → List Char
  | [] => []
  | [piece] => Value.indent depth ++ piece ++ ['\n']
  | piece :: pieces => Value.indent depth ++ piece ++ ',' :: '\n' :: onLines depth pieces

theorem length_le_onLines (depth : Nat) (pieces : List (List Char)) :
    pieces.length ≤ (onLines depth pieces).length := by
  induction pieces with
  | nil => exact Nat.le_refl 0
  | cons piece pieces ih =>
    cases pieces with
    | nil =>
      simp only [onLines, List.length_append, List.length_cons]
      omega
    | cons next pieces =>
      simp only [onLines, List.length_append, List.length_cons] at ih ⊢
      omega

theorem length_le_of_mem_onLines (depth : Nat) {pieces : List (List Char)} {piece : List Char}
    (h : piece ∈ pieces) : piece.length ≤ (onLines depth pieces).length := by
  induction pieces with
  | nil => cases h
  | cons first pieces ih =>
    cases pieces with
    | nil =>
      obtain rfl := List.mem_singleton.mp h
      simp only [onLines, List.length_append]
      omega
    | cons next pieces =>
      rcases List.mem_cons.mp h with rfl | h
      · simp only [onLines, List.length_append]
        omega
      · have others := ih h
        simp only [onLines, List.length_append, List.length_cons] at others ⊢
        omega

/-- Parts are read from the lines they stand on, up to the closing bracket. -/
theorem separated?_onLines {depth : Nat} {pieces : List (List Char)} {parts : List α}
    (reads : List.Forall₂ (Reads part?) pieces parts) (nonempty : pieces ≠ [])
    {blanks inner : List Char} (blank : AllBlank blanks) (blankInner : AllBlank inner)
    (notBlank : isBlank close = false) (notComma : close ≠ ',') (rest : List Char) {fuel : Nat}
    (enough : pieces.length ≤ fuel) :
    separated? close part? fuel (blanks ++ (onLines depth pieces ++ (inner ++ close :: rest))) =
      some (parts, rest) := by
  -- On the parts; behind a comma the line break is the blank before the next part.
  induction reads generalizing blanks fuel with
  | nil => exact absurd rfl nonempty
  | @cons piece part pieces parts first others ih =>
    have indented : AllBlank (blanks ++ Value.indent depth) := by
      intro c member
      rcases List.mem_append.mp member with member | member
      · exact blank c member
      · exact allBlank_indent depth c member
    cases fuel with
    | zero => cases enough
    | succ fuel =>
      cases others with
      | nil =>
        have ends : Ends ('\n' :: (inner ++ close :: rest)) := .cons (by decide) _
        have broken : AllBlank ('\n' :: inner) := by
          intro c member
          rcases List.mem_cons.mp member with rfl | member
          · decide
          · exact blankInner c member
        have layout : blanks ++ (onLines depth [piece] ++ (inner ++ close :: rest)) =
            (blanks ++ Value.indent depth) ++ (piece ++ '\n' :: (inner ++ close :: rest)) := by
          simp [onLines]
        rw [layout, separated?, first _ _ indented ends]
        dsimp only
        rw [← List.cons_append, skipBlank_append broken, skipBlank_cons notBlank]
        dsimp only
        rw [if_neg notComma, if_pos rfl]
      | @cons next nextPart pieces parts second others =>
        have ends : Ends
            (',' :: '\n' :: (onLines depth (next :: pieces) ++ (inner ++ close :: rest))) :=
          .cons (by decide) _
        have layout :
            blanks ++ (onLines depth (piece :: next :: pieces) ++ (inner ++ close :: rest)) =
              (blanks ++ Value.indent depth) ++ (piece ++
                ',' :: '\n' :: (onLines depth (next :: pieces) ++ (inner ++ close :: rest))) := by
          simp [onLines]
        rw [layout, separated?, first _ _ indented ends]
        dsimp only
        rw [skipBlank_cons (by decide)]
        dsimp only
        have broken : AllBlank ['\n'] := by decide
        rw [if_pos rfl, ← List.singleton_append,
          ih (List.cons_ne_nil _ _) broken (Nat.le_of_succ_le_succ enough), Option.map_some]

/-- Pieces are read as their parts if each piece that is short enough is. -/
theorem reads_pieces {β : Type} {write : β → List Char} {alike : β → α → Prop} {fuel : Nat}
    (reads : ∀ item part, alike item part → (write item).length ≤ fuel →
      Reads part? (write item) part)
    {items : List β} {parts : List α} (same : List.Forall₂ alike items parts)
    (short : ∀ piece ∈ items.map write, piece.length ≤ fuel) :
    List.Forall₂ (Reads part?) (items.map write) parts := by
  induction same with
  | nil => exact .nil
  | @cons item part items parts first others ih =>
    obtain ⟨shortFirst, shortOthers⟩ := List.forall_mem_cons.mp short
    exact .cons (reads item part first shortFirst) (ih shortOthers)

theorem separated?_eq_none {text : List Char} (h : part? text = none) (fuel : Nat) :
    separated? close part? fuel text = none := by
  cases fuel with
  | zero => rfl
  | succ fuel => rw [separated?, h]

/-- Parts are read from the lines before their closing bracket, if no part can begin with it. -/
theorem bracketed?_onLines {depth : Nat} {pieces : List (List Char)} {parts : List α}
    (reads : List.Forall₂ (Reads part?) pieces parts) (nonempty : pieces ≠ [])
    {blanks inner : List Char} (blank : AllBlank blanks) (blankInner : AllBlank inner)
    (notBlank : isBlank close = false) (notComma : close ≠ ',')
    (refuses : ∀ text, (∀ c ∈ (skipBlank text).head?, c = close) → part? text = none)
    (rest : List Char) :
    bracketed? close part? (blanks ++ (onLines depth pieces ++ (inner ++ close :: rest))) =
      some (parts, rest) := by
  have enough : pieces.length ≤
      (blanks ++ (onLines depth pieces ++ (inner ++ close :: rest))).length := by
    have lines := length_le_onLines depth pieces
    simp only [List.length_append]
    omega
  have separated : separated? close part?
      (blanks ++ (onLines depth pieces ++ (inner ++ close :: rest))).length
      (blanks ++ (onLines depth pieces ++ (inner ++ close :: rest))) = some (parts, rest) :=
    separated?_onLines reads nonempty blank blankInner notBlank notComma rest enough
  generalize blanks ++ (onLines depth pieces ++ (inner ++ close :: rest)) = text at separated ⊢
  -- The first part has been read, so the bracket does not stand before it.
  have begins : ¬ ∀ c ∈ (skipBlank text).head?, c = close := by
    intro closes
    rw [separated?_eq_none (refuses text closes)] at separated
    cases separated
  rw [bracketed?]
  split
  · rename_i isNil
    rw [isNil] at begins
    exact absurd (fun c member => nomatch member) begins
  · rename_i c others isCons
    have other : c ≠ close := by
      rintro rfl
      rw [isCons] at begins
      exact begins fun d member => (Option.mem_some.mp member).symm
    rw [if_neg other]
    exact separated

/-- Pieces between brackets, on lines of their own if there are any. -/
def between (opening closing : Char) (depth : Nat) : List (List Char) → List Char
  | [] => [opening, closing]
  | pieces => opening :: '\n' :: onLines (depth + 1) pieces ++ Value.indent depth ++ [closing]

theorem length_lt_between (opening closing : Char) {depth : Nat} {pieces : List (List Char)}
    {piece : List Char} (h : piece ∈ pieces) :
    piece.length < (between opening closing depth pieces).length := by
  cases pieces with
  | nil => cases h
  | cons first pieces =>
    have lines := length_le_of_mem_onLines (depth + 1) h
    simp only [between, List.length_append, List.length_cons]
    omega

/-- Parts are read from between their brackets. -/
theorem bracketed?_between (opening close : Char) (depth : Nat) {pieces : List (List Char)}
    {parts : List α} (reads : List.Forall₂ (Reads part?) pieces parts)
    (notBlank : isBlank close = false) (notComma : close ≠ ',')
    (refuses : ∀ text, (∀ c ∈ (skipBlank text).head?, c = close) → part? text = none)
    (rest : List Char) :
    ∃ inner, between opening close depth pieces ++ rest = opening :: inner ∧
      bracketed? close part? inner = some (parts, rest) := by
  cases pieces with
  | nil =>
    cases reads
    refine ⟨close :: rest, rfl, ?_⟩
    rw [bracketed?, skipBlank_cons notBlank]
    exact if_pos rfl
  | cons piece pieces =>
    refine ⟨['\n'] ++ (onLines (depth + 1) (piece :: pieces) ++
      (Value.indent depth ++ close :: rest)), by simp [between], ?_⟩
    exact bracketed?_onLines reads (List.cons_ne_nil _ _) (by decide) (allBlank_indent depth)
      notBlank notComma refuses rest

end

/-! ## Values -/

theorem writeItems_eq (depth : Nat) (items : List Value) :
    Value.writeItems depth items = onLines depth (items.map (·.write depth)) := by
  induction items with
  | nil => rfl
  | cons item items ih =>
    cases items with
    | nil => rfl
    | cons next items =>
      rw [Value.writeItems, ih]
      · rfl
      · exact fun h => nomatch h

/-- A field as it is written at a depth. -/
def writeField (depth : Nat) (field : String × Value) : List Char :=
  quote field.1.toList ++ ':' :: ' ' :: field.2.write depth

theorem writeFields_eq (depth : Nat) (fields : List (String × Value)) :
    Value.writeFields depth fields = onLines depth (fields.map (writeField depth)) := by
  induction fields with
  | nil => rfl
  | cons field fields ih =>
    obtain ⟨name, value⟩ := field
    cases fields with
    | nil => simp [Value.writeFields, onLines, writeField]
    | cons next fields =>
      rw [Value.writeFields, ih]
      · simp [onLines, writeField]
      · exact fun h => nomatch h

theorem write_list (depth : Nat) (items : List Value) :
    (Value.list items).write depth =
      between '[' ']' depth (items.map (·.write (depth + 1))) := by
  cases items with
  | nil => rfl
  | cons item items =>
    rw [Value.write, writeItems_eq]
    rfl

theorem write_record (depth : Nat) (fields : List (String × Value)) :
    (Value.record fields).write depth =
      between '\x7b' '\x7d' depth (fields.map (writeField (depth + 1))) := by
  cases fields with
  | nil => rfl
  | cons field fields =>
    rw [Value.write, writeFields_eq]
    rfl

/-- A value is read as a datum from what is written for it, at any depth. -/
def Writes (value : Value) (datum : Datum) : Prop :=
  ∀ depth fuel, (value.write depth).length ≤ fuel → Reads (value? fuel) (value.write depth) datum

section

variable {text rest : List Char} (fuel : Nat)

theorem value?_of_quote (h : skipBlank text = '"' :: rest) :
    value? (fuel + 1) text =
      (characters? rest).map fun (content, rest) => (.text (String.ofList content), rest) := by
  rw [value?, h]
  rfl

theorem value?_of_list (h : skipBlank text = '[' :: rest) :
    value? (fuel + 1) text =
      (bracketed? ']' (value? fuel) rest).map fun (items, rest) => (.list items, rest) := by
  rw [value?, h]
  rfl

theorem value?_of_record (h : skipBlank text = '\x7b' :: rest) :
    value? (fuel + 1) text =
      (bracketed? '\x7d' (field? (value? fuel)) rest).map
        fun (fields, rest) => (.record fields, rest) := by
  rw [value?, h]
  rfl

theorem value?_of_number {c : Char} (h : skipBlank text = c :: rest)
    (begins : c.isDigit = true ∨ c = '-') :
    value? (fuel + 1) text =
      (number? (c :: rest)).map fun (token, rest) => (.number (String.ofList token), rest) := by
  have other : ∀ d, (d.isDigit || d == '-') = false → c ≠ d := by
    rintro d isOther rfl
    rcases begins with isDigit | rfl
    · rw [isDigit] at isOther
      cases isOther
    · cases isOther
  rw [value?, h]
  split <;> rename_i same
  case h_7 => rfl
  all_goals exact absurd (List.cons.inj same).1 (other _ (by decide))

theorem value?_refuses (closes : ∀ c ∈ (skipBlank text).head?, c = ']') :
    value? fuel text = none := by
  cases fuel with
  | zero => rfl
  | succ fuel =>
    rw [value?]
    cases h : skipBlank text with
    | nil => rfl
    | cons c rest =>
      rw [h] at closes
      obtain rfl : c = ']' := closes c rfl
      rfl

theorem field?_refuses (closes : ∀ c ∈ (skipBlank text).head?, c = '\x7d') :
    field? (value? fuel) text = none := by
  rw [field?]
  cases h : skipBlank text with
  | nil => rfl
  | cons c rest =>
    rw [h] at closes
    obtain rfl : c = '\x7d' := closes c rfl
    rfl

/-- A field is read if its value is. -/
theorem reads_field {fuel : Nat} {field : String × Value} {depth : Nat} {datum : Datum}
    (reads : Reads (value? fuel) (field.2.write depth) datum) :
    Reads (field? (value? fuel)) (writeField depth field) (field.1, datum) := by
  intro blanks rest blank ends
  have layout : blanks ++ (writeField depth field ++ rest) = blanks ++
      '"' :: (field.1.toList.flatMap quoteChar ++ '"' ::
        ':' :: ([' '] ++ (field.2.write depth ++ rest))) := by
    simp [writeField, quote]
  have quoted := skipBlank_append_cons (c := '"') blank (by decide)
    (field.1.toList.flatMap quoteChar ++ '"' :: ':' :: ([' '] ++ (field.2.write depth ++ rest)))
  have name := characters?_quote field.1.toList (':' :: ([' '] ++ (field.2.write depth ++ rest)))
  have colon := skipBlank_cons (c := ':') (by decide) ([' '] ++ (field.2.write depth ++ rest))
  have value := reads [' '] rest (by decide) ends
  simp only [layout, field?, quoted, name, colon, value, Option.map_some, String.ofList_toList]

end

namespace Writes

theorem null : Writes .null .null := by
  intro depth fuel enough blanks rest blank ends
  cases fuel with
  | zero => cases enough
  | succ fuel =>
    rw [value?, skipBlank_append blank]
    rfl

theorem text (content : String) : Writes (.text content) (.text content) := by
  intro depth fuel enough blanks rest blank ends
  cases fuel with
  | zero => cases enough
  | succ fuel =>
    have layout : blanks ++ ((Value.text content).write depth ++ rest) =
        blanks ++ '"' :: (content.toList.flatMap quoteChar ++ '"' :: rest) := by
      simp [Value.write, quote]
    have begins := skipBlank_append_cons (c := '"') blank (by decide)
      (content.toList.flatMap quoteChar ++ '"' :: rest)
    rw [layout, value?_of_quote fuel begins, characters?_quote, Option.map_some]
    dsimp only
    rw [String.ofList_toList]

theorem number {token : String} (isNumber : IsNumber token.toList) :
    Writes (.number token) (.number token) := by
  intro depth fuel enough blanks rest blank ends
  obtain ⟨first, others, isCons, begins⟩ := isNumber.exists_cons
  have notBlank : isBlank first = false := by
    rcases begins with isDigit | rfl
    · rw [Bool.eq_false_iff]
      intro blank
      simp only [isBlank, Bool.or_eq_true, beq_iff_eq] at blank
      rcases blank with ((rfl | rfl) | rfl) | rfl <;> cases isDigit
    · rfl
  have written : (Value.number token).write depth = first :: others := isCons
  cases fuel with
  | zero =>
    rw [written] at enough
    cases enough
  | succ fuel =>
    have starts := skipBlank_append_cons blank notBlank (others ++ rest)
    rw [written, List.cons_append, value?_of_number fuel starts begins, ← List.cons_append,
      ← isCons, number?_append isNumber ends, Option.map_some]
    dsimp only
    rw [String.ofList_toList]

/-- **A list is read if its items are.** -/
theorem list {items : List Value} {data : List Datum} (writes : List.Forall₂ Writes items data) :
    Writes (.list items) (.list data) := by
  intro depth fuel enough blanks rest blank ends
  rw [write_list] at enough ⊢
  -- The brackets are not part of an item, so one unit of fuel can be spent on them.
  have short : ∀ piece ∈ items.map (·.write (depth + 1)), piece.length < fuel :=
    fun piece member => Nat.lt_of_lt_of_le (length_lt_between '[' ']' member) enough
  cases fuel with
  | zero => cases items <;> cases enough
  | succ fuel =>
    have pieces := reads_pieces (fun item datum writes => writes (depth + 1) fuel) writes
      fun piece member => Nat.le_of_lt_succ (short piece member)
    obtain ⟨inner, written, read⟩ := bracketed?_between '[' ']' depth pieces
      (by decide) (by decide) (fun text => value?_refuses fuel) rest
    rw [written, value?_of_list fuel (skipBlank_append_cons blank (by decide) inner), read,
      Option.map_some]

/-- **A record is read if its fields are.** -/
theorem record {fields : List (String × Value)} {data : List (String × Datum)}
    (writes : List.Forall₂ (fun field datum => field.1 = datum.1 ∧ Writes field.2 datum.2)
      fields data) :
    Writes (.record fields) (.record data) := by
  intro depth fuel enough blanks rest blank ends
  rw [write_record] at enough ⊢
  have short : ∀ piece ∈ fields.map (writeField (depth + 1)), piece.length < fuel :=
    fun piece member => Nat.lt_of_lt_of_le (length_lt_between '\x7b' '\x7d' member) enough
  cases fuel with
  | zero => cases fields <;> cases enough
  | succ fuel =>
    have reads : ∀ (field : String × Value) (datum : String × Datum),
        field.1 = datum.1 ∧ Writes field.2 datum.2 →
          (writeField (depth + 1) field).length ≤ fuel →
            Reads (field? (value? fuel)) (writeField (depth + 1) field) datum := by
      rintro ⟨name, value⟩ ⟨_, datum⟩ ⟨rfl, writes⟩ short
      have shortValue : (value.write (depth + 1)).length ≤ fuel := by
        simp only [writeField, List.length_append, List.length_cons] at short
        omega
      exact reads_field (writes (depth + 1) fuel shortValue)
    have pieces := reads_pieces reads writes
      fun piece member => Nat.le_of_lt_succ (short piece member)
    obtain ⟨inner, written, read⟩ := bracketed?_between '\x7b' '\x7d' depth pieces
      (by decide) (by decide) (fun text => field?_refuses fuel) rest
    rw [written, value?_of_record fuel (skipBlank_append_cons blank (by decide) inner), read,
      Option.map_some]

end Writes

/-- What is written for a value is read as the datum that it is read as anywhere. -/
theorem read?_write {value : Value} {datum : Datum} (writes : Writes value datum) :
    read? (String.ofList (value.write 0)) = some datum := by
  have whole := writes 0 _ (Nat.le_refl _) [] [] (by decide) (fun c member => nomatch member)
  rw [List.nil_append, List.append_nil] at whole
  rw [read?, String.toList_ofList, whole]
  rfl

end GoCoverage.Json
