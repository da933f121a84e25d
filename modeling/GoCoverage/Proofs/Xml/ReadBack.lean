import GoCoverage.Proofs.Xml.Reader

/-! # Tags that are read back

What the writer of `Tag` lays out is read back as the elements it stands for: each item from the
place behind the blanks before it (`run_opening`, `run_closing`, `run_empty`, `run_text`), and from
that a sequence of items with balanced tags (`Reads`), however deep it is indented. -/

namespace GoCoverage.Xml

/-! ## Escaped text -/

theorem unescape?_escapeChar (c : Char) (text : List Char) :
    unescape? (escapeChar c ++ text) = (unescape? text).map (c :: ·) := by
  unfold escapeChar entityOf?
  split
  case h_1 name isEntity =>
    split at isEntity <;> cases isEntity <;> rfl
  case h_2 isEntity =>
    have other : c ≠ '&' := by
      rintro rfl
      cases isEntity
    rw [List.singleton_append, unescape?]
    all_goals
      intros
      exact other ‹_›

/-- A text is read back from what it is escaped to. -/
theorem unescape?_escape (text : List Char) : unescape? (escape text) = some text := by
  induction text with
  | nil => rfl
  | cons c text ih =>
    have first : escape (c :: text) = escapeChar c ++ escape text := rfl
    rw [first, unescape?_escapeChar, ih, Option.map_some]

/-- The characters that end a text or a value do not stand in it. -/
theorem ne_of_mem_escape {c : Char} {text : List Char} (h : c ∈ escape text) :
    c ≠ '<' ∧ c ≠ '"' := by
  obtain ⟨d, -, written⟩ := List.mem_flatMap.mp h
  unfold escapeChar entityOf? at written
  split at written
  case h_1 name isEntity =>
    have plain : ∀ d ∈ '&' :: name ++ [';'], d ≠ '<' ∧ d ≠ '"' := by
      split at isEntity <;> cases isEntity <;> simp
    exact plain c written
  case h_2 isEntity =>
    obtain rfl := List.mem_singleton.mp written
    constructor
    · rintro rfl
      cases isEntity
    · rintro rfl
      cases isEntity

/-! ## Characters that are gathered -/

/-- The closing tag of an element with elements in it, and only blanks behind the last of them. -/
theorem Gathered.close?_opened {g : Gathered} {head : Head} {child : Element}
    {children : List Element} {data : List Char}
    (blank : AllBlank data) :
    Gathered.close? { g.opened head with complete := child :: children, data } head.name =
      some (g.completed [.node head.name head.attributes (child :: children)] []) := by
  have element : Gathered.element? { g.opened head with complete := child :: children, data } head =
      some (.node head.name head.attributes (child :: children)) := if_pos blank
  simp only [close?, opened] at element ⊢
  rw [if_pos trivial, element]
  rfl

namespace Reader

variable {g : Gathered} {head : Head}

theorem run_cons (reader : Reader) (c : Char) (text : List Char) :
    run reader (c :: text) = (step reader c).bind (run · text) := rfl

theorem run_append (reader : Reader) (first second : List Char) :
    run reader (first ++ second) = (run reader first).bind (run · second) :=
  List.foldlM_append

/-- A word is gathered where each of its characters is. -/
theorem run_gather {place : List Char → Place} {word : List Char} (gathered rest : List Char)
    (gathers : ∀ c ∈ word, ∀ before, step ⟨place before, g⟩ c = some ⟨place (before ++ [c]), g⟩) :
    run ⟨place gathered, g⟩ (word ++ rest) = run ⟨place (gathered ++ word), g⟩ rest := by
  induction word generalizing gathered with
  | nil => rw [List.nil_append, List.append_nil]
  | cons c word ih =>
    rw [List.cons_append, run_cons, gathers c List.mem_cons_self, Option.bind_some,
      ih _ fun d member => gathers d (List.mem_cons_of_mem c member), List.append_assoc,
      List.singleton_append]

/-- Text between tags is gathered up to the next tag. -/
theorem run_data {text : List Char} (plain : ∀ c ∈ text, c ≠ '<') (rest : List Char) :
    run ⟨.data, g⟩ (text ++ rest) = run ⟨.data, { g with data := g.data ++ text }⟩ rest := by
  induction text generalizing g with
  | nil => rw [List.nil_append, List.append_nil]
  | cons c text ih =>
    have gathers : step ⟨.data, g⟩ c = some ⟨.data, { g with data := g.data ++ [c] }⟩ :=
      if_neg (plain c List.mem_cons_self)
    rw [List.cons_append, run_cons, gathers, Option.bind_some,
      ih fun d member => plain d (List.mem_cons_of_mem c member), List.append_assoc,
      List.singleton_append]

/-- A value is gathered up to its closing quote. -/
theorem run_value (key text : String) (rest : List Char) :
    run ⟨.value head key [], g⟩ (escape text.toList ++ '"' :: rest) =
      run ⟨.tag (head.add (key, text)) false, g⟩ rest := by
  have gathers : ∀ c ∈ escape text.toList, ∀ before,
      step ⟨.value head key before, g⟩ c = some ⟨.value head key (before ++ [c]), g⟩ := by
    intro c member before
    exact if_neg (ne_of_mem_escape member).2
  have ends : step ⟨.value head key (escape text.toList), g⟩ '"' =
      some ⟨.tag (head.add (key, text)) false, g⟩ := by
    simp [step, unescape?_escape]
  rw [run_gather [] _ gathers, List.nil_append, run_cons, ends, Option.bind_some]

/-- What begins with `<?` or `<!` is passed over up to its end. -/
theorem run_declaration {first : Char} (begins : first = '?' ∨ first = '!') {text : List Char}
    (plain : ∀ c ∈ text, c ≠ '>') (rest : List Char) :
    run ⟨.data, g⟩ ('<' :: first :: (text ++ '>' :: rest)) = run ⟨.data, g⟩ rest := by
  have passes : run ⟨.declaration, g⟩ (text ++ '>' :: rest) = run ⟨.declaration, g⟩ ('>' :: rest) :=
    @run_gather g (fun _ => .declaration) text [] ('>' :: rest) fun c member _ =>
      if_neg (plain c member)
  have enters : step ⟨.markup, g⟩ first = some ⟨.declaration, g⟩ := by
    rcases begins with rfl | rfl <;> rfl
  rw [run_cons]
  change run ⟨.markup, g⟩ _ = _
  rw [run_cons, enters, Option.bind_some, passes]
  rfl

/-! ## Tags that are read -/

/-- A reader that stands behind a name and attributes stands behind more attributes when they are
read: whatever stands there is taken as it is behind the attributes of a tag. -/
theorem run_attributes {place : Place} {attributes : List Attribute}
    (named : ∀ key ∈ attributes.map (·.1), IsName key) {c : Char} (rest : List Char)
    (notName : isNameChar c = false)
    (behind : ∀ d, isNameChar d = false → step ⟨place, g⟩ d = inTag g head d) :
    run ⟨place, g⟩ (attributes.flatMap writeAttribute ++ c :: rest) =
      (inTag g { head with attributes := head.attributes ++ attributes } c).bind (run · rest) := by
  -- On the attributes: behind the value of each the reader stands in the tag again.
  induction attributes generalizing place head with
  | nil => rw [List.flatMap_nil, List.nil_append, List.append_nil, run_cons, behind c notName]
  | cons a attributes ih =>
    obtain ⟨key, value⟩ := a
    obtain ⟨isName, others⟩ := List.forall_mem_cons.mp named
    obtain ⟨first, word, isKey⟩ := List.exists_cons_of_ne_nil isName.1
    have plain : ∀ d ∈ first :: word, isNameChar d = true := isKey ▸ isName.2
    -- A blank, the name of the attribute, and its value between quotes.
    have layout : writeAttribute (key, value) =
        ' ' :: first :: (word ++ '=' :: '"' :: (escape value.toList ++ ['"'])) := by
      simp [writeAttribute, isKey]
    have blank : step ⟨place, g⟩ ' ' = some ⟨.tag head true, g⟩ := behind ' ' (by decide)
    have begins : step ⟨.tag head true, g⟩ first = some ⟨.key head [first], g⟩ := by
      simp [step, plain first List.mem_cons_self]
    have gathers : ∀ d ∈ word, ∀ before,
        step ⟨.key head before, g⟩ d = some ⟨.key head (before ++ [d]), g⟩ := by
      intro d member before
      exact if_pos (plain d (List.mem_cons_of_mem first member))
    have ends : step ⟨.key head ([first] ++ word), g⟩ '=' = some ⟨.equals head key, g⟩ := by
      have whole : String.ofList (first :: word) = key := by rw [← isKey, String.ofList_toList]
      simp [step, isNameChar, whole]
    rw [List.flatMap_cons, layout]
    simp only [List.cons_append, List.append_assoc, List.nil_append]
    rw [run_cons, blank, Option.bind_some, run_cons, begins, Option.bind_some,
      run_gather [first] _ gathers, run_cons, ends, Option.bind_some, run_cons]
    have quote : step ⟨.equals head key, g⟩ '"' = some ⟨.value head key [], g⟩ := rfl
    have behindValue : ∀ d, isNameChar d = false →
        step ⟨.tag (head.add (key, value)) false, g⟩ d = inTag g (head.add (key, value)) d := by
      intro d notName
      simp [step, notName]
    rw [quote, Option.bind_some, run_value, ih others behindValue]
    simp [Head.add]

/-- The name and the attributes of a tag are read up to the character behind them. -/
theorem run_head {name : String} {attributes : List Attribute} (isName : IsName name)
    (named : ∀ key ∈ attributes.map (·.1), IsName key) {c : Char} (rest : List Char)
    (notName : isNameChar c = false) :
    run ⟨.markup, g⟩ (writeHead name attributes ++ c :: rest) =
      (inTag g { name, attributes } c).bind (run · rest) := by
  obtain ⟨first, word, isWord⟩ := List.exists_cons_of_ne_nil isName.1
  have plain : ∀ d ∈ first :: word, isNameChar d = true := isWord ▸ isName.2
  have begins : step ⟨.markup, g⟩ first = some ⟨.name [first], g⟩ := by
    have isFirst := plain first List.mem_cons_self
    have other : first ≠ '/' ∧ first ≠ '?' ∧ first ≠ '!' := by
      refine ⟨?_, ?_, ?_⟩ <;> rintro rfl <;> exact absurd isFirst (by decide)
    simp [step, isFirst, other]
  have gathers : ∀ d ∈ word, ∀ before,
      step ⟨.name before, g⟩ d = some ⟨.name (before ++ [d]), g⟩ := by
    intro d member before
    exact if_pos (plain d (List.mem_cons_of_mem first member))
  have whole : String.ofList ([first] ++ word) = name := by
    rw [List.singleton_append, ← isWord, String.ofList_toList]
  have behindName : ∀ d, isNameChar d = false →
      step ⟨.name ([first] ++ word), g⟩ d = inTag g { name, attributes := [] } d := by
    intro d notName
    rw [step, whole, if_neg (by simp [notName])]
  rw [writeHead, isWord, List.append_assoc, List.cons_append, run_cons, begins, Option.bind_some,
    run_gather [first] _ gathers, run_attributes named rest notName behindName, List.nil_append]

theorem run_opening {name : String} {attributes : List Attribute} (isName : IsName name)
    (named : ∀ key ∈ attributes.map (·.1), IsName key) (blank : AllBlank g.data)
    (rest : List Char) :
    run ⟨.data, g⟩ ((Tag.opening name attributes).write ++ rest) =
      run ⟨.data, g.opened { name, attributes }⟩ rest := by
  have opens : inTag g { name, attributes } '>' = some ⟨.data, g.opened { name, attributes }⟩ := by
    simp [inTag, blank]
  have layout : (Tag.opening name attributes).write ++ rest =
      '<' :: (writeHead name attributes ++ '>' :: rest) := by
    simp [Tag.write]
  rw [layout, run_cons]
  change run ⟨.markup, g⟩ _ = _
  rw [run_head isName named rest (by decide), opens, Option.bind_some]

theorem run_empty {name : String} {attributes : List Attribute} (isName : IsName name)
    (named : ∀ key ∈ attributes.map (·.1), IsName key) (blank : AllBlank g.data)
    (rest : List Char) :
    run ⟨.data, g⟩ ((Tag.empty name attributes).write ++ rest) =
      run ⟨.data, g.completed [.node name attributes []] []⟩ rest := by
  have slash : inTag g { name, attributes } '/' = some ⟨.slash { name, attributes }, g⟩ := rfl
  have closes : step ⟨.slash { name, attributes }, g⟩ '>' =
      some ⟨.data, g.completed [.node name attributes []] []⟩ := by
    simp [step, blank]
  have layout : (Tag.empty name attributes).write ++ rest =
      '<' :: (writeHead name attributes ++ '/' :: '>' :: rest) := by
    simp [Tag.write]
  rw [layout, run_cons]
  change run ⟨.markup, g⟩ _ = _
  rw [run_head isName named _ (by decide), slash, Option.bind_some, run_cons, closes,
    Option.bind_some]

theorem run_closing {name : String} (isName : IsName name) {closed : Gathered}
    (closes : g.close? name = some closed) (rest : List Char) :
    run ⟨.data, g⟩ ((Tag.closing name).write ++ rest) = run ⟨.data, closed⟩ rest := by
  have gathers : ∀ d ∈ name.toList, ∀ before,
      step ⟨.closing before, g⟩ d = some ⟨.closing (before ++ [d]), g⟩ := by
    intro d member before
    exact if_pos (isName.2 d member)
  have ends : step ⟨.closing name.toList, g⟩ '>' = some ⟨.data, closed⟩ := by
    simp [step, isNameChar, closes]
  have layout : (Tag.closing name).write ++ rest = '<' :: '/' :: (name.toList ++ '>' :: rest) := by
    simp [Tag.write]
  rw [layout, run_cons]
  change run ⟨.closing [], g⟩ _ = _
  rw [run_gather [] _ gathers, List.nil_append, run_cons, ends, Option.bind_some]

theorem run_text {name content : String} (isName : IsName name) (blank : AllBlank g.data)
    (rest : List Char) :
    run ⟨.data, g⟩ ((Tag.text name content).write ++ rest) =
      run ⟨.data, g.completed [.leaf name [] content] []⟩ rest := by
  have layout : (Tag.text name content).write ++ rest = (Tag.opening name []).write ++
      (escape content.toList ++ ((Tag.closing name).write ++ rest)) := by
    simp [Tag.write, writeHead]
  have closes : Gathered.close?
      { g.opened { name, attributes := [] } with data := [] ++ escape content.toList } name =
        some (g.completed [.leaf name [] content] []) := by
    simp [Gathered.close?, Gathered.element?, Gathered.opened, Gathered.completed,
      unescape?_escape]
  rw [layout, run_opening isName (by simp) blank,
    run_data fun c member => (ne_of_mem_escape member).1]
  exact run_closing isName closes rest

end Reader

/-! ## Items that are read -/

/-- Items are read as elements: wherever they stand between tags, and however deep they are
indented, the elements are complete behind them. -/
structure Reads (tags : List Tag) (elements : List Element) : Prop where
  both_nil : tags = [] ↔ elements = []
  run_eq : ∀ (g : Gathered) (depth : Nat) (others : List Tag), AllBlank g.data →
    ∃ data, AllBlank data ∧
      Reader.run ⟨.data, g⟩ (writeTags depth (tags ++ others)) =
        Reader.run ⟨.data, g.completed elements data⟩ (writeTags depth others)

namespace Reads

open Reader

/-- An item is read behind its indentation, and a line break follows. -/
theorem run_line {tag : Tag} {g : Gathered} (reached : Gathered) (depth : Nat) (tags : List Tag)
    (blank : AllBlank g.data)
    (reads : ∀ data, AllBlank data → ∀ rest,
      run ⟨.data, { g with data }⟩ (tag.write ++ rest) =
        run ⟨.data, { reached with data := [] }⟩ rest) :
    run ⟨.data, g⟩ (writeTags depth (tag :: tags)) =
      run ⟨.data, { reached with data := ['\n'] }⟩ (writeTags (tag.depthAfter depth) tags) := by
  have isIndent : ∀ c ∈ List.replicate (indentWidth * tag.depthAt depth) ' ', c = ' ' :=
    fun c member => List.eq_of_mem_replicate member
  have indented : AllBlank (g.data ++ List.replicate (indentWidth * tag.depthAt depth) ' ') := by
    intro c member
    rcases List.mem_append.mp member with member | member
    · exact blank c member
    · rw [isIndent c member]
      decide
  have plain : ∀ c ∈ List.replicate (indentWidth * tag.depthAt depth) ' ', c ≠ '<' := by
    intro c member
    rw [isIndent c member]
    decide
  rw [writeTags, List.append_assoc, run_data plain, reads _ indented, run_cons]
  rfl

theorem nil : Reads [] [] where
  both_nil := Iff.intro (fun _ => rfl) (fun _ => rfl)
  run_eq g depth others blank := ⟨g.data, blank, by simp [Gathered.completed]⟩

theorem append {tags tags' : List Tag} {elements elements' : List Element}
    (first : Reads tags elements) (second : Reads tags' elements') :
    Reads (tags ++ tags') (elements ++ elements') where
  both_nil := by
    rw [List.append_eq_nil_iff, List.append_eq_nil_iff, first.both_nil, second.both_nil]
  run_eq := by
    intro g depth others blank
    obtain ⟨data, isBlank, reached⟩ := first.run_eq g depth (tags' ++ others) blank
    obtain ⟨data', isBlank', reached'⟩ :=
      second.run_eq (g.completed elements data) depth others isBlank
    refine ⟨data', isBlank', ?_⟩
    rw [List.append_assoc, reached, reached']
    simp [Gathered.completed]

/-- Items are read one after the other. -/
theorem flatMap {α : Type} {tags : α → List Tag} {element : α → Element} {items : List α}
    (reads : ∀ item ∈ items, Reads (tags item) [element item]) :
    Reads (items.flatMap tags) (items.map element) := by
  induction items with
  | nil => exact .nil
  | cons item items ih =>
    have first := reads item List.mem_cons_self
    have others := ih fun other member => reads other (List.mem_cons_of_mem item member)
    rw [List.flatMap_cons, List.map_cons, ← List.singleton_append]
    exact first.append others

theorem map {α : Type} {tag : α → Tag} {element : α → Element} {items : List α}
    (reads : ∀ item ∈ items, Reads [tag item] [element item]) :
    Reads (items.map tag) (items.map element) := by
  rw [List.map_eq_flatMap]
  exact flatMap reads

theorem text {name content : String} (isName : IsName name) :
    Reads [.text name content] [.leaf name [] content] where
  both_nil := by simp
  run_eq := by
    intro g depth others blank
    refine ⟨['\n'], by decide, ?_⟩
    exact run_line (g.completed [.leaf name [] content] []) depth others blank
      fun data blank rest => run_text isName blank rest

theorem empty {name : String} {attributes : List Attribute} (isName : IsName name)
    (named : ∀ key ∈ attributes.map (·.1), IsName key) :
    Reads [.empty name attributes] [.node name attributes []] where
  both_nil := by simp
  run_eq := by
    intro g depth others blank
    refine ⟨['\n'], by decide, ?_⟩
    exact run_line (g.completed [.node name attributes []] []) depth others blank
      fun data blank rest => run_empty isName named blank rest

/-- **An element is read as itself if its content is.**  With nothing in it its tag closes itself;
otherwise its content stands one level deeper, between blanks that are no part of it. -/
theorem element {name : String} {attributes : List Attribute} {content : List Tag}
    {children : List Element} (isName : IsName name)
    (named : ∀ key ∈ attributes.map (·.1), IsName key) (reads : Reads content children) :
    Reads (Xml.element name attributes content) [.node name attributes children] := by
  by_cases h : content = []
  · obtain rfl : children = [] := reads.both_nil.mp h
    rw [h]
    exact empty isName named
  · have layout : Xml.element name attributes content =
        .opening name attributes :: (content ++ [.closing name]) := by
      cases content with
      | nil => exact absurd rfl h
      | cons => rfl
    rw [layout]
    refine ⟨by simp, ?_⟩
    intro g depth others blank
    obtain ⟨child, children, rfl⟩ :=
      List.exists_cons_of_ne_nil fun isNil => h (reads.both_nil.mpr isNil)
    -- The opening tag, what it holds one level deeper, and the closing tag.
    have opened := run_line (g.opened { name, attributes }) depth
      (content ++ .closing name :: others) blank
      fun data blank rest => run_opening isName named blank rest
    have broken : AllBlank ['\n'] := by decide
    obtain ⟨data, isBlank, inside⟩ := reads.run_eq
      { g.opened { name, attributes } with data := ['\n'] } (depth + 1) (.closing name :: others)
      broken
    have closed := @run_line (.closing name)
      { g.opened { name, attributes } with complete := child :: children, data }
      (g.completed [.node name attributes (child :: children)] []) (depth + 1) others isBlank
      fun data blank rest => run_closing isName (Gathered.close?_opened blank) rest
    refine ⟨['\n'], by decide, ?_⟩
    rw [List.cons_append, List.append_assoc]
    exact opened.trans (inside.trans closed)

end Reads

/-- A document is read as its root element, if nothing before the root says anything of elements. -/
theorem read?_of_reads {header : String} {tags : List Tag} {root : Element} {data : List Char}
    (before : Reader.start.run header.toList = some ⟨.data, ⟨[], [], data⟩⟩)
    (blank : AllBlank data) (reads : Reads tags [root]) :
    read? (header ++ String.ofList (writeTags 0 tags)) = some root := by
  obtain ⟨behind, isBlank, reached⟩ := reads.run_eq ⟨[], [], data⟩ 0 [] blank
  have whole : Reader.start.run (header ++ String.ofList (writeTags 0 tags)).toList =
      some ⟨.data, ⟨[], [root], behind⟩⟩ := by
    rw [String.toList_append, String.toList_ofList, Reader.run_append, before, Option.bind_some]
    rw [List.append_nil] at reached
    exact reached
  rw [read?, whole]
  exact if_pos isBlank

end GoCoverage.Xml
