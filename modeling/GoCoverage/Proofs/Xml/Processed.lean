import GoCoverage.Proofs.Xml.Processor
import GoCoverage.Proofs.Xml.ReadBack

/-! # What a processor reads of written tags

A writer that knows the five entities and no references to characters lets blanks stand as they are.
Each pass of a processor over such a document changes nothing but the texts in it (`Respells`), and
so do all passes together.  So what is read is the document that has the changed texts in it
(`process?_writeTags`), and a text is read as it is exactly if it has no blanks that are changed
(`readValue_eq_self_iff`, `readContent_eq_self_iff`). -/

namespace GoCoverage.Xml

/-! ## Texts that are read as others -/

/-- A change to lists of characters as one to texts. -/
def onText (change : List Char → List Char) (text : String) : String :=
  String.ofList (change text.toList)

/-- The value of an attribute as it is read. -/
def readValue (text : String) : String := onText (fun text => (lineEnds text).map asSpace) text

/-- A text between tags as it is read. -/
def readContent (text : String) : String := onText lineEnds text

/-- An item of a document with other texts. -/
def Tag.mapTexts (value content : String → String) : Tag → Tag
  | opening name attributes => opening name (attributes.map fun a => (a.1, value a.2))
  | closing name => closing name
  | empty name attributes => empty name (attributes.map fun a => (a.1, value a.2))
  | text name content' => text name (content content')

/-- The characters that stand for themselves wherever they are. -/
def IsPlain (c : Char) : Prop := c ≠ '\t' ∧ c ≠ '\n' ∧ c ≠ '\r' ∧ c ≠ '&'

instance (c : Char) : Decidable (IsPlain c) := inferInstanceAs (Decidable (_ ∧ _))

/-- A pass over a document changes nothing but the escaped texts in it. -/
structure Respells (pass : Zone → List Char → List Char) (value content : List Char → List Char) :
    Prop where
  nil : pass .content [] = []
  plain : ∀ zone c rest, IsPlain c → pass zone (c :: rest) = c :: pass (zone.after c) rest
  lineBreak : ∀ rest, pass .content ('\n' :: rest) = '\n' :: pass .content rest
  inValue : ∀ text rest,
    pass .value (escape text ++ '"' :: rest) = escape (value text) ++ '"' :: pass .tag rest
  inContent : ∀ text rest,
    pass .content (escape text ++ '<' :: rest) = escape (content text) ++ '<' :: pass .tag rest

namespace Respells

/-- Two passes, one after the other. -/
theorem comp {first second : Zone → List Char → List Char}
    {value content value' content' : List Char → List Char}
    (one : Respells first value content) (two : Respells second value' content') :
    Respells (fun zone text => second zone (first zone text)) (fun text => value' (value text))
      (fun text => content' (content text)) where
  nil := by rw [one.nil, two.nil]
  plain zone c rest isPlain := by rw [one.plain zone c rest isPlain, two.plain zone c _ isPlain]
  lineBreak rest := by rw [one.lineBreak, two.lineBreak]
  inValue text rest := by rw [one.inValue, two.inValue]
  inContent text rest := by rw [one.inContent, two.inContent]

end Respells

/-! ### Escaped characters -/

theorem escape_cons (c : Char) (text : List Char) :
    escape (c :: text) = escapeChar c ++ escape text := rfl

/-- What the references to entities are made of: letters between two marks. -/
def referenceChars : List Char := ['&', ';', 'a', 'g', 'l', 'm', 'o', 'p', 'q', 's', 't', 'u']

theorem of_mem_escapeChar {c d : Char} (h : d ∈ escapeChar c) : d = c ∨ d ∈ referenceChars := by
  unfold escapeChar at h
  split at h
  case h_1 name isEntity =>
    have letters : ∀ d ∈ '&' :: name ++ [';'], d ∈ referenceChars := by
      unfold entityOf? at isEntity
      split at isEntity <;> cases isEntity <;> simp [referenceChars]
    exact .inr (letters d h)
  case h_2 => exact .inl (List.mem_singleton.mp h)

/-- A character that is escaped is no blank, and is not written as one. -/
theorem escapeChar_of_isBlank {c : Char} (h : isBlank c = true) : escapeChar c = [c] := by
  have blank : ∀ c, isBlank c = true → c = ' ' ∨ c = '\n' ∨ c = '\r' ∨ c = '\t' := by
    simp [isBlank, or_assoc]
  rcases blank c h with rfl | rfl | rfl | rfl <;> rfl

theorem not_isBlank_of_mem_escapeChar {c d : Char} (h : isBlank c = false)
    (member : d ∈ escapeChar c) : isBlank d = false := by
  have letters : ∀ d ∈ referenceChars, isBlank d = false := by simp [referenceChars, isBlank]
  rcases of_mem_escapeChar member with rfl | letter
  · exact h
  · exact letters d letter

/-- A character that stands for itself begins no escaped text but its own. -/
theorem head?_escapeChar_append_ne {c mark : Char} (h : c ≠ mark) (h' : mark ≠ '&')
    (rest : List Char) : (escapeChar c ++ rest).head? ≠ some mark := by
  unfold escapeChar
  split
  · simpa using Ne.symm h'
  · simpa using h

/-! ### Line ends -/

theorem lineEnds_cons {c : Char} (h : c ≠ '\r') (rest : List Char) :
    lineEnds (c :: rest) = c :: lineEnds rest := by
  rw [lineEnds]
  · intro _ same
    exact absurd same h
  · exact h

theorem lineEnds_return {rest : List Char} (h : rest.head? ≠ some '\n') :
    lineEnds ('\r' :: rest) = '\n' :: lineEnds rest := by
  rw [lineEnds]
  rintro text rfl
  exact h rfl

theorem lineEnds_append {word : List Char} (h : '\r' ∉ word) (rest : List Char) :
    lineEnds (word ++ rest) = word ++ lineEnds rest := by
  induction word with
  | nil => rfl
  | cons c word ih =>
    rw [List.mem_cons, not_or] at h
    rw [List.cons_append, lineEnds_cons (Ne.symm h.1), ih h.2, List.cons_append]

/-- Escaped text is read with its line ends, up to a mark that is none. -/
theorem lineEnds_escape {mark : Char} (h : mark ≠ '\n') (h' : mark ≠ '\r')
    (text rest : List Char) :
    lineEnds (escape text ++ mark :: rest) = escape (lineEnds text) ++ mark :: lineEnds rest := by
  fun_induction lineEnds text with
  | case1 => exact lineEnds_cons h' rest
  | case2 text ih =>
    show '\n' :: lineEnds (escape text ++ mark :: rest) = _
    rw [ih]
    rfl
  | case3 text notBroken ih =>
    have begins : (escape text ++ mark :: rest).head? ≠ some '\n' := by
      cases text with
      | nil => simpa [escape] using h
      | cons c text =>
        have other : c ≠ '\n' := fun same => notBroken text (same ▸ rfl)
        rw [escape_cons, List.append_assoc]
        exact head?_escapeChar_append_ne other (by decide) _
    rw [escape_cons, escapeChar_of_isBlank rfl, List.append_assoc, List.singleton_append,
      lineEnds_return begins, ih]
    rfl
  | case4 c text notPair notReturn ih =>
    have plain : '\r' ∉ escapeChar c := by
      intro member
      rcases of_mem_escapeChar member with same | letter
      · exact notReturn same.symm
      · exact absurd letter (by decide)
    rw [escape_cons, List.append_assoc, lineEnds_append plain, ih, escape_cons, List.append_assoc]

theorem respells_lineEnds : Respells (fun _ => lineEnds) lineEnds lineEnds where
  nil := rfl
  plain zone c rest isPlain := lineEnds_cons isPlain.2.2.1 rest
  lineBreak rest := lineEnds_cons (by decide) rest
  inValue text rest := lineEnds_escape (by decide) (by decide) text rest
  inContent text rest := lineEnds_escape (by decide) (by decide) text rest

/-! ### Blanks in values -/

theorem spaceValues_cons (zone : Zone) (c : Char) (rest : List Char) :
    spaceValues zone (c :: rest) =
      (if zone = .value then asSpace c else c) :: spaceValues (zone.after c) rest := rfl

/-- What stands between tags is read as it is. -/
theorem spaceValues_content {word : List Char} (h : ∀ c ∈ word, c ≠ '<') (rest : List Char) :
    spaceValues .content (word ++ rest) = word ++ spaceValues .content rest := by
  induction word with
  | nil => rfl
  | cons c word ih =>
    obtain ⟨first, others⟩ := List.forall_mem_cons.mp h
    have stays : Zone.content.after c = .content := if_neg first
    rw [List.cons_append, spaceValues_cons, stays, ih others]
    rfl

theorem spaceValues_value {word : List Char} (h : ∀ c ∈ word, c ≠ '"') (rest : List Char) :
    spaceValues .value (word ++ rest) = word.map asSpace ++ spaceValues .value rest := by
  induction word with
  | nil => rfl
  | cons c word ih =>
    obtain ⟨first, others⟩ := List.forall_mem_cons.mp h
    have stays : Zone.value.after c = .value := if_neg first
    rw [List.cons_append, spaceValues_cons, stays, ih others]
    rfl

/-- The blanks of a text are those of its escaped text. -/
theorem map_asSpace_escape (text : List Char) :
    (escape text).map asSpace = escape (text.map asSpace) := by
  induction text with
  | nil => rfl
  | cons c text ih =>
    have first : (escapeChar c).map asSpace = escapeChar (asSpace c) := by
      cases blank : isBlank c with
      | true =>
        rw [escapeChar_of_isBlank blank, asSpace, if_pos blank]
        simp [asSpace, blank, escapeChar_of_isBlank (c := ' ') rfl]
      | false =>
        have same : asSpace c = c := by simp [asSpace, blank]
        rw [same]
        refine (List.map_congr_left fun d member => ?_).trans (List.map_id _)
        simp [asSpace, not_isBlank_of_mem_escapeChar blank member]
    rw [escape_cons, List.map_append, first, ih, List.map_cons, escape_cons]

theorem asSpace_asSpace (c : Char) : asSpace (asSpace c) = asSpace c := by
  cases blank : isBlank c with
  | true =>
    have space : asSpace c = ' ' := if_pos blank
    rw [space]
    rfl
  | false =>
    have same : asSpace c = c := by simp [asSpace, blank]
    rw [same, same]

/-- A character that is neither a tab nor ends a line is read as itself. -/
theorem asSpace_eq_self_iff {c : Char} : asSpace c = c ↔ c ≠ '\t' ∧ c ≠ '\n' ∧ c ≠ '\r' := by
  cases blank : isBlank c with
  | true =>
    simp only [isBlank, Bool.or_eq_true, beq_iff_eq] at blank
    rcases blank with ((rfl | rfl) | rfl) | rfl <;> decide
  | false =>
    simp only [isBlank, Bool.or_eq_false_iff, beq_eq_false_iff_ne] at blank
    simp [asSpace, isBlank, blank]

theorem respells_spaceValues : Respells spaceValues (·.map asSpace) id where
  nil := rfl
  plain zone c rest isPlain := by
    have same := asSpace_eq_self_iff.mpr ⟨isPlain.1, isPlain.2.1, isPlain.2.2.1⟩
    rw [spaceValues_cons, same, ite_self]
  lineBreak rest := rfl
  inValue text rest := by
    rw [spaceValues_value fun c member => (ne_of_mem_escape member).2, map_asSpace_escape]
    rfl
  inContent text rest := by
    rw [spaceValues_content fun c member => (ne_of_mem_escape member).1]
    rfl

/-! ### References -/

theorem resolve_cons {c : Char} (h : c ≠ '&') (rest : List Char) :
    resolve (c :: rest) = c :: resolve rest := by
  rw [resolve]
  rintro text rfl
  exact absurd rfl h

theorem resolve_entity {c : Char} (h : c ≠ '#') (rest : List Char) :
    resolve ('&' :: c :: rest) = '&' :: resolve (c :: rest) := by
  rw [resolve]
  rintro text _ same
  exact h (List.cons.inj same).1

/-- No character is escaped to a reference to a character. -/
theorem resolve_escapeChar (c : Char) (rest : List Char) :
    resolve (escapeChar c ++ rest) = escapeChar c ++ resolve rest := by
  unfold escapeChar
  split
  case h_1 name isEntity =>
    unfold entityOf? at isEntity
    split at isEntity <;> cases isEntity <;> simp [resolve_entity, resolve_cons]
  case h_2 isEntity =>
    have other : c ≠ '&' := by
      rintro rfl
      cases isEntity
    exact resolve_cons other rest

theorem resolve_escape (text rest : List Char) :
    resolve (escape text ++ rest) = escape text ++ resolve rest := by
  induction text with
  | nil => rfl
  | cons c text ih =>
    rw [escape_cons, List.append_assoc, resolve_escapeChar, ih, List.append_assoc]

theorem respells_resolve : Respells (fun _ => resolve) id id where
  nil := by rw [resolve]
  plain zone c rest isPlain := resolve_cons isPlain.2.2.2 rest
  lineBreak rest := resolve_cons (by decide) rest
  inValue text rest := by
    rw [resolve_escape, resolve_cons (by decide)]
    rfl
  inContent text rest := by
    rw [resolve_escape, resolve_cons (by decide)]
    rfl

/-- A document is prepared by changing the texts in it. -/
theorem respells_prepare : Respells prepare (fun text => (lineEnds text).map asSpace) lineEnds :=
  (respells_lineEnds.comp respells_spaceValues).comp respells_resolve

/-! ## Written items -/

/-- The name of an item and those of its attributes are names. -/
def Tag.IsNamed : Tag → Prop
  | opening name attributes => IsName name ∧ ∀ key ∈ attributes.map (·.1), IsName key
  | closing name => IsName name
  | empty name attributes => IsName name ∧ ∀ key ∈ attributes.map (·.1), IsName key
  | text name _ => IsName name

theorem isPlain_of_isNameChar {c : Char} (h : isNameChar c = true) : IsPlain c := by
  refine ⟨?_, ?_, ?_, ?_⟩ <;> rintro rfl <;> exact absurd h (by decide)

theorem after_of_isNameChar {c : Char} (h : isNameChar c = true) : Zone.tag.after c = .tag := by
  have notEnd : c ≠ '>' := by
    rintro rfl
    exact absurd h (by decide)
  have notQuote : c ≠ '"' := by
    rintro rfl
    exact absurd h (by decide)
  rw [Zone.after, if_neg notEnd, if_neg notQuote]

/-- A text without references that ends between tags, and has no other blanks than spaces in
tags. -/
def isFixed : Zone → List Char → Bool
  | zone, [] => zone = .content
  | zone, c :: text =>
    (decide (IsPlain c) || (decide (zone = .content) && c == '\n')) && isFixed (zone.after c) text

namespace Respells

variable {pass : Zone → List Char → List Char} {value content : List Char → List Char}

/-- A text that does not lead out of a zone is passed over in it. -/
theorem pass_within (respells : Respells pass value content) {word : List Char}
    (h : ∀ c ∈ word, IsPlain c) {zone : Zone} (stays : ∀ c ∈ word, zone.after c = zone)
    (rest : List Char) : pass zone (word ++ rest) = word ++ pass zone rest := by
  induction word with
  | nil => rfl
  | cons c word ih =>
    obtain ⟨first, others⟩ := List.forall_mem_cons.mp h
    obtain ⟨stays, others'⟩ := List.forall_mem_cons.mp stays
    rw [List.cons_append, respells.plain zone c _ first, stays, ih others others',
      List.cons_append]

theorem pass_fixed (respells : Respells pass value content) {text : List Char} {zone : Zone}
    (h : isFixed zone text = true) (rest : List Char) :
    pass zone (text ++ rest) = text ++ pass .content rest := by
  induction text generalizing zone with
  | nil =>
    obtain rfl : zone = .content := by simpa [isFixed] using h
    rfl
  | cons c text ih =>
    rw [isFixed, Bool.and_eq_true, Bool.or_eq_true, decide_eq_true_eq, Bool.and_eq_true,
      decide_eq_true_eq, beq_iff_eq] at h
    obtain ⟨isPlain | ⟨rfl, rfl⟩, others⟩ := h
    · rw [List.cons_append, respells.plain zone c _ isPlain, ih others, List.cons_append]
    · rw [List.cons_append, respells.lineBreak, List.cons_append]
      exact congrArg _ (ih others)

theorem pass_name (respells : Respells pass value content) {name : String} (isName : IsName name)
    (rest : List Char) :
    pass .tag (name.toList ++ rest) = name.toList ++ pass .tag rest :=
  respells.pass_within (fun c member => isPlain_of_isNameChar (isName.2 c member))
    (fun c member => after_of_isNameChar (isName.2 c member)) rest

theorem pass_attribute (respells : Respells pass value content) {key : String}
    (isName : IsName key) (text : String) (rest : List Char) :
    pass .tag (writeAttribute (key, text) ++ rest) =
      writeAttribute (key, onText value text) ++ pass .tag rest := by
  have layout : ∀ (text : String) (rest : List Char), writeAttribute (key, text) ++ rest =
      ' ' :: (key.toList ++ '=' :: '"' :: (escape text.toList ++ '"' :: rest)) := by
    simp [writeAttribute]
  have blank : Zone.tag.after ' ' = .tag := by decide
  have equals : Zone.tag.after '=' = .tag := by decide
  have quote : Zone.tag.after '"' = .value := by decide
  rw [layout, layout, respells.plain _ _ _ (by decide), blank, respells.pass_name isName,
    respells.plain _ _ _ (by decide), equals, respells.plain _ _ _ (by decide), quote,
    respells.inValue, onText, String.toList_ofList]

theorem pass_head (respells : Respells pass value content) {name : String} (isName : IsName name)
    {attributes : List Attribute} (named : ∀ key ∈ attributes.map (·.1), IsName key)
    (rest : List Char) :
    pass .tag (writeHead name attributes ++ rest) =
      writeHead name (attributes.map fun a => (a.1, onText value a.2)) ++ pass .tag rest := by
  have values : pass .tag (attributes.flatMap writeAttribute ++ rest) =
      (attributes.map fun a => (a.1, onText value a.2)).flatMap writeAttribute ++
        pass .tag rest := by
    induction attributes with
    | nil => rfl
    | cons a attributes ih =>
      obtain ⟨isKey, others⟩ := List.forall_mem_cons.mp named
      rw [List.flatMap_cons, List.append_assoc, respells.pass_attribute isKey, ih others,
        List.map_cons, List.flatMap_cons, List.append_assoc]
  rw [writeHead, List.append_assoc, respells.pass_name isName, values, writeHead,
    List.append_assoc]

/-- An item is passed over but for its texts. -/
theorem pass_write (respells : Respells pass value content) {tag : Tag} (named : tag.IsNamed)
    (rest : List Char) :
    pass .content (tag.write ++ rest) =
      (tag.mapTexts (onText value) (onText content)).write ++ pass .content rest := by
  have opens : ∀ rest, pass .content ('<' :: rest) = '<' :: pass .tag rest :=
    fun rest => respells.plain .content '<' rest (by decide)
  have closes : ∀ rest, pass .tag ('>' :: rest) = '>' :: pass .content rest :=
    fun rest => respells.plain .tag '>' rest (by decide)
  have slash : ∀ rest, pass .tag ('/' :: rest) = '/' :: pass .tag rest :=
    fun rest => respells.plain .tag '/' rest (by decide)
  cases tag with
  | opening name attributes =>
    simp only [Tag.write, Tag.mapTexts, List.cons_append, List.append_assoc, List.nil_append]
    rw [opens, respells.pass_head named.1 named.2, closes]
  | closing name =>
    simp only [Tag.write, Tag.mapTexts, List.cons_append, List.append_assoc, List.nil_append]
    rw [opens, slash, respells.pass_name named, closes]
  | empty name attributes =>
    simp only [Tag.write, Tag.mapTexts, List.cons_append, List.append_assoc, List.nil_append]
    rw [opens, respells.pass_head named.1 named.2, slash, closes]
  | text name text =>
    simp only [Tag.write, Tag.mapTexts, List.cons_append, List.append_assoc, List.nil_append]
    rw [opens, respells.pass_name named, closes, respells.inContent, slash,
      respells.pass_name named, closes, onText, String.toList_ofList]

/-- **What is read of a document is the document with other texts in it.** -/
theorem pass_writeTags (respells : Respells pass value content) {tags : List Tag}
    (named : ∀ tag ∈ tags, tag.IsNamed) (depth : Nat) :
    pass .content (writeTags depth tags) =
      writeTags depth (tags.map (·.mapTexts (onText value) (onText content))) := by
  induction tags generalizing depth with
  | nil => exact respells.nil
  | cons tag tags ih =>
    obtain ⟨isNamed, others⟩ := List.forall_mem_cons.mp named
    have indent : ∀ count rest, pass .content (List.replicate count ' ' ++ rest) =
        List.replicate count ' ' ++ pass .content rest := by
      intro count
      refine respells.pass_within ?_ ?_ <;> intro c member <;>
        rw [List.eq_of_mem_replicate member] <;> decide
    have depthAt : (tag.mapTexts (onText value) (onText content)).depthAt depth =
        tag.depthAt depth := by
      cases tag <;> rfl
    have depthAfter : (tag.mapTexts (onText value) (onText content)).depthAfter depth =
        tag.depthAfter depth := by
      cases tag <;> rfl
    rw [writeTags, List.append_assoc, indent, respells.pass_write isNamed, respells.lineBreak,
      ih others, List.map_cons, writeTags, depthAt, depthAfter, List.append_assoc]

end Respells

/-! ## Characters of a document -/

theorem allAllowed_append {text other : List Char} :
    AllAllowed (text ++ other) ↔ AllAllowed text ∧ AllAllowed other := List.forall_mem_append

theorem allAllowed_cons {c : Char} {text : List Char} :
    AllAllowed (c :: text) ↔ isAllowed c = true ∧ AllAllowed text := List.forall_mem_cons

/-- The characters that are escaped may stand in a document, and so may what is written for them. -/
theorem allAllowed_escapeChar (c : Char) : AllAllowed (escapeChar c) ↔ isAllowed c = true := by
  unfold escapeChar
  split
  case h_1 name isEntity =>
    unfold entityOf? at isEntity
    split at isEntity <;> cases isEntity <;> decide
  case h_2 => simp [AllAllowed]

theorem allAllowed_escape (text : List Char) : AllAllowed (escape text) ↔ AllAllowed text := by
  induction text with
  | nil => exact Iff.rfl
  | cons c text ih =>
    rw [escape_cons, allAllowed_append, allAllowed_escapeChar, ih, allAllowed_cons]

theorem isAllowed_of_isNameChar {c : Char} (h : isNameChar c = true) : isAllowed c = true := by
  have between : ∀ first last : Char, first ≤ c → c ≤ last → 0x20 ≤ first.toNat →
      last.toNat ≤ 0xD7FF → isAllowed c = true := by
    intro first last lower upper low high
    have lower : first.toNat ≤ c.toNat := lower
    have upper : c.toNat ≤ last.toNat := upper
    have code : 0x20 ≤ c.toNat ∧ c.toNat ≤ 0xD7FF :=
      ⟨Nat.le_trans low lower, Nat.le_trans upper high⟩
    simp [isAllowed, allowedCodes, Text.CodeRanges.contains, code]
  have classes : (c.isUpper || c.isLower || c.isDigit || c == '-' || c == '_' || c == '.' ||
      c == ':') = true := h
  simp only [Bool.or_eq_true, beq_iff_eq] at classes
  rcases classes with ((((((upper | lower) | digit) | rfl) | rfl) | rfl) | rfl)
  · obtain ⟨first, last⟩ := of_decide_eq_true upper
    exact between 'A' 'Z' first last (by decide) (by decide)
  · obtain ⟨first, last⟩ := Bool.and_eq_true_iff.mp lower
    exact between 'a' 'z' (of_decide_eq_true first) (of_decide_eq_true last) (by decide) (by decide)
  · obtain ⟨first, last⟩ := Bool.and_eq_true_iff.mp digit
    exact between '0' '9' (of_decide_eq_true first) (of_decide_eq_true last) (by decide) (by decide)
  all_goals decide

theorem allAllowed_name {name : String} (isName : IsName name) : AllAllowed name.toList :=
  fun c member => isAllowed_of_isNameChar (isName.2 c member)

/-- The texts of an item. -/
def Tag.texts : Tag → List String
  | opening _ attributes => attributes.map (·.2)
  | closing _ => []
  | empty _ attributes => attributes.map (·.2)
  | text _ content => [content]

theorem allAllowed_writeHead {name : String} {attributes : List Attribute} (isName : IsName name)
    (named : ∀ key ∈ attributes.map (·.1), IsName key) :
    AllAllowed (writeHead name attributes) ↔
      ∀ text ∈ attributes.map (·.2), AllAllowed text.toList := by
  have values : AllAllowed (attributes.flatMap writeAttribute) ↔
      ∀ text ∈ attributes.map (·.2), AllAllowed text.toList := by
    induction attributes with
    | nil => simp [AllAllowed]
    | cons a attributes ih =>
      obtain ⟨isKey, others⟩ := List.forall_mem_cons.mp named
      have first : AllAllowed (writeAttribute a) ↔ AllAllowed a.2.toList := by
        have marks : isAllowed ' ' = true ∧ isAllowed '=' = true ∧ isAllowed '"' = true := by
          decide
        have ends : AllAllowed ['"'] := by decide
        simp only [writeAttribute, allAllowed_cons, allAllowed_append, allAllowed_escape,
          allAllowed_name isKey, marks, ends, true_and, and_true, List.cons_append]
      rw [List.flatMap_cons, allAllowed_append, first, ih others, List.map_cons,
        List.forall_mem_cons]
  rw [writeHead, allAllowed_append, values, and_iff_right (allAllowed_name isName)]

/-- An item may stand in a document exactly if its texts may. -/
theorem allAllowed_write {tag : Tag} (named : tag.IsNamed) :
    AllAllowed tag.write ↔ ∀ text ∈ tag.texts, AllAllowed text.toList := by
  have marks : isAllowed '<' = true ∧ isAllowed '>' = true ∧ isAllowed '/' = true := by decide
  have nil : AllAllowed [] := fun _ member => absurd member List.not_mem_nil
  cases tag with
  | opening name attributes =>
    simp only [Tag.write, Tag.texts, List.cons_append, allAllowed_cons, allAllowed_append,
      allAllowed_writeHead named.1 named.2, marks, nil, true_and, and_true]
  | closing name =>
    simp only [Tag.write, Tag.texts, List.cons_append, allAllowed_cons, allAllowed_append,
      allAllowed_name named, marks, nil, true_and]
    simp
  | empty name attributes =>
    simp only [Tag.write, Tag.texts, List.cons_append, allAllowed_cons, allAllowed_append,
      allAllowed_writeHead named.1 named.2, marks, nil, true_and, and_true]
  | text name content =>
    simp only [Tag.write, Tag.texts, List.cons_append, allAllowed_cons, allAllowed_append,
      allAllowed_escape, allAllowed_name named, marks, nil, true_and, and_true,
      List.forall_mem_singleton]

theorem allAllowed_writeTags {tags : List Tag} (named : ∀ tag ∈ tags, tag.IsNamed) (depth : Nat) :
    AllAllowed (writeTags depth tags) ↔
      ∀ tag ∈ tags, ∀ text ∈ tag.texts, AllAllowed text.toList := by
  induction tags generalizing depth with
  | nil => simp [writeTags, AllAllowed]
  | cons tag tags ih =>
    obtain ⟨isNamed, others⟩ := List.forall_mem_cons.mp named
    have indent : AllAllowed (List.replicate (indentWidth * tag.depthAt depth) ' ') := by
      intro c member
      rw [List.eq_of_mem_replicate member]
      decide
    have lineBreak : isAllowed '\n' = true := by decide
    rw [writeTags, allAllowed_append, allAllowed_append, allAllowed_cons, ih others,
      allAllowed_write isNamed, List.forall_mem_cons, and_iff_right indent,
      and_iff_right lineBreak]

/-! ## Documents -/

/-- **A document is accepted exactly if its texts may stand in it, and then the tags that are read
are those with the texts as they are read.** -/
theorem process?_writeTags {header : String} {tags : List Tag}
    (untouched : ∀ rest, prepare .content (header.toList ++ rest) =
      header.toList ++ prepare .content rest)
    (allowed : AllAllowed header.toList) (named : ∀ tag ∈ tags, tag.IsNamed) :
    ((∀ tag ∈ tags, ∀ text ∈ tag.texts, AllAllowed text.toList) →
        process? (header ++ String.ofList (writeTags 0 tags)) =
          read? (header ++
            String.ofList (writeTags 0 (tags.map (·.mapTexts readValue readContent))))) ∧
      ((¬ ∀ tag ∈ tags, ∀ text ∈ tag.texts, AllAllowed text.toList) →
        process? (header ++ String.ofList (writeTags 0 tags)) = none) := by
  have accepted : AllAllowed (header ++ String.ofList (writeTags 0 tags)).toList ↔
      ∀ tag ∈ tags, ∀ text ∈ tag.texts, AllAllowed text.toList := by
    rw [String.toList_append, allAllowed_append, String.toList_ofList, allAllowed_writeTags named,
      and_iff_right allowed]
  refine ⟨fun h => ?_, fun h => if_neg fun h' => h (accepted.mp h')⟩
  rw [process?, if_pos (accepted.mpr h), String.toList_append, String.toList_ofList, untouched,
    respells_prepare.pass_writeTags named, String.ofList_append, String.ofList_toList]
  rfl

/-! ## Texts that are read as they are -/

theorem not_mem_lineEnds (text : List Char) : '\r' ∉ lineEnds text := by
  fun_induction lineEnds text with
  | case1 => simp
  | case2 text ih => simp [ih]
  | case3 text _ ih => simp [ih]
  | case4 c text _ notReturn ih => simp [ih, Ne.symm notReturn]

/-- A text between tags is read as it is exactly if it has no carriage return. -/
theorem readContent_eq_self_iff {text : String} :
    readContent text = text ↔ '\r' ∉ text.toList := by
  rw [readContent, onText, ← String.toList_inj, String.toList_ofList]
  constructor
  · intro same
    rw [← same]
    exact not_mem_lineEnds _
  · intro plain
    have whole := lineEnds_append plain []
    rwa [List.append_nil, lineEnds, List.append_nil] at whole

/-- A value is read as it is exactly if it has no tab, line break and carriage return. -/
theorem readValue_eq_self_iff {text : String} :
    readValue text = text ↔ ∀ c ∈ text.toList, c ≠ '\t' ∧ c ≠ '\n' ∧ c ≠ '\r' := by
  rw [readValue, onText, ← String.toList_inj, String.toList_ofList]
  constructor
  · intro same c member
    rw [← same] at member
    obtain ⟨d, _, rfl⟩ := List.mem_map.mp member
    exact asSpace_eq_self_iff.mp (asSpace_asSpace d)
  · intro plain
    have noReturn : '\r' ∉ text.toList := fun member => (plain _ member).2.2 rfl
    have whole := readContent_eq_self_iff.mpr noReturn
    rw [readContent, onText, ← String.toList_inj, String.toList_ofList] at whole
    rw [whole]
    exact (List.map_congr_left fun c member => asSpace_eq_self_iff.mpr (plain c member)).trans
      (List.map_id _)

/-- The text has no other characters than names have. -/
def IsBare (text : String) : Prop := ∀ c ∈ text.toList, isNameChar c = true

instance (text : String) : Decidable (IsBare text) := List.decidableBAll _ text.toList

theorem IsBare.readValue_eq {text : String} (h : IsBare text) : readValue text = text := by
  refine readValue_eq_self_iff.mpr fun c member => ?_
  obtain ⟨noTab, noBreak, noReturn, _⟩ := isPlain_of_isNameChar (h c member)
  exact ⟨noTab, noBreak, noReturn⟩

theorem IsBare.allAllowed {text : String} (h : IsBare text) : AllAllowed text.toList :=
  fun c member => isAllowed_of_isNameChar (h c member)

/-! ## Elements -/

section Elements

variable {name : String} {attributes : List Attribute} {content : List Tag}

theorem element_eq_of_ne_nil (h : content ≠ []) :
    element name attributes content = .opening name attributes :: (content ++ [.closing name]) := by
  cases content with
  | nil => exact absurd rfl h
  | cons tag tags => rfl

theorem map_mapTexts_element (value inside : String → String) :
    (element name attributes content).map (·.mapTexts value inside) =
      element name (attributes.map fun a => (a.1, value a.2))
        (content.map (·.mapTexts value inside)) := by
  cases content with
  | nil => rfl
  | cons tag tags => simp [element, Tag.mapTexts]

theorem isNamed_element (isName : IsName name) (named : ∀ key ∈ attributes.map (·.1), IsName key)
    (inside : ∀ tag ∈ content, tag.IsNamed) :
    ∀ tag ∈ element name attributes content, tag.IsNamed := by
  by_cases empty : content = []
  · subst empty
    exact List.forall_mem_singleton.mpr ⟨isName, named⟩
  · rw [element_eq_of_ne_nil empty, List.forall_mem_cons, List.forall_mem_append,
      List.forall_mem_singleton]
    exact ⟨⟨isName, named⟩, inside, isName⟩

/-- The texts of an element are those of its attributes and those inside it. -/
theorem forall_texts_element {P : String → Prop} :
    (∀ tag ∈ element name attributes content, ∀ text ∈ tag.texts, P text) ↔
      (∀ text ∈ attributes.map (·.2), P text) ∧ ∀ tag ∈ content, ∀ text ∈ tag.texts, P text := by
  by_cases empty : content = []
  · subst empty
    simp [element, Tag.texts]
  · have closing : ∀ text ∈ (Tag.closing name).texts, P text := List.forall_mem_nil _
    rw [element_eq_of_ne_nil empty, List.forall_mem_cons, List.forall_mem_append,
      List.forall_mem_singleton, and_iff_left closing]
    exact Iff.rfl

/-- The texts inside an element without attributes are those of its items. -/
theorem forall_texts_flatMap {α : Type} {P : String → Prop} {tags : α → List Tag}
    {texts : α → List String}
    (each : ∀ item, (∀ tag ∈ tags item, ∀ text ∈ tag.texts, P text) ↔ ∀ text ∈ texts item, P text)
    (items : List α) :
    (∀ tag ∈ element name [] (items.flatMap tags), ∀ text ∈ tag.texts, P text) ↔
      ∀ text ∈ items.flatMap texts, P text := by
  have none : ∀ text ∈ ([] : List Attribute).map (·.2), P text := List.forall_mem_nil _
  rw [forall_texts_element, and_iff_right none]
  simp only [List.forall_mem_flatMap, each]

end Elements

end GoCoverage.Xml
