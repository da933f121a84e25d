import GoCoverage.Proofs.Conversion.Modules
import GoCoverage.Proofs.Files.Lexical
import GoCoverage.Proofs.Files.Splitting
import GoCoverage.Proofs.Files.Writing
import GoCoverage.Proofs.Module.Sources

/-! # The source that a name stands for

A file of a profile is named by the module's path and its name in the module.  Its source is looked
for in the directory that stands before the last slash of this name, by what stands after the last
slash or backslash (`findSource?_packageOf_eq_some_iff`).  The source that is found is the file that
the name leads to from the module's root, except for names that are taken apart in two ways
(`KeepsPlace`): only what stands after a backslash is looked for, and a slash and one part, which is
an absolute path, is looked for in the root of the module.  Another file is found then, and the
named one is not (`another_source_is_found`). -/

namespace GoCoverage

namespace Files

/-! ## What is in a tree -/

namespace Node

/-- The names in a directory, and in all directories below it, hold no slashes. -/
inductive Plain : Node → Prop where
  | file (content : List UInt8) : Plain (file content)
  | directory {entries : List (String × Node)} (names : ∀ entry ∈ entries, '/' ∉ entry.1.toList)
      (below : ∀ entry ∈ entries, Plain entry.2) : Plain (directory entries)

variable {node there : Node} {name : String} {steps : List String}

theorem Plain.child? (h : node.Plain) (isChild : node.child? name = some there) : there.Plain := by
  cases h with
  | file content => cases isChild
  | @directory entries names below =>
    obtain ⟨before, after, rfl, _⟩ := List.lookup_eq_some_iff.mp isChild
    exact below _ (List.mem_append_right _ List.mem_cons_self)

theorem Plain.at? (h : node.Plain) (isAt : node.at? steps = some there) : there.Plain := by
  induction steps generalizing node with
  | nil =>
    cases isAt
    exact h
  | cons name steps ih =>
    rw [at?_cons] at isAt
    obtain ⟨child, isChild, isAt⟩ := Option.bind_eq_some_iff.mp isAt
    exact ih (h.child? isChild) isAt

theorem Plain.slash_not_mem (h : node.Plain) (member : name ∈ node.fileNames) :
    '/' ∉ name.toList := by
  cases h with
  | file content => cases member
  | @directory entries names below =>
    obtain ⟨entry, isEntry, named⟩ := List.mem_filterMap.mp member
    split at named
    · cases named
      exact names entry isEntry
    · cases named

/-- A file is listed in its directory. -/
theorem mem_fileNames_of_lookup {entries : List (String × Node)} {content : List UInt8}
    (h : entries.lookup name = some (file content)) : name ∈ (directory entries).fileNames := by
  obtain ⟨before, after, rfl, _⟩ := List.lookup_eq_some_iff.mp h
  exact List.mem_filterMap.mpr ⟨_, List.mem_append_right _ List.mem_cons_self, rfl⟩

end Node

namespace Tree

variable {tree : Tree} {path : String} {place parts found : List String} {names : List String}

/-- A path that is followed leads to the place that its text says. -/
theorem Leads.place_eq {root : Node} (h : Leads root place parts found) :
    found = parts.foldl Path.step place := by
  induction h with
  | arrived place => rfl
  | stay directory dot onwards ih => rw [List.foldl_cons, Path.step, if_pos dot, ih]
  | up directory onwards ih =>
    rw [ih]
    rfl
  | down directory isName there onwards ih =>
    obtain ⟨notEmpty, notDot, notDots, _⟩ := isName
    rw [List.foldl_cons, Path.step, if_neg (not_or.mpr ⟨notEmpty, notDot⟩), if_neg notDots, ih]

theorem place_of_locate (h : tree.locate path = .ok place) :
    place = (Path.moves path).foldl Path.step (tree.origin path) := by
  obtain ⟨_, _, walked⟩ := bind_eq_ok.mp h
  rw [← Path.follow_eq_foldl_moves]
  exact (leads_of_walk walked).place_eq

theorem of_list (h : tree.list path = .ok names) :
    ∃ place entries, tree.locate path = .ok place ∧
      tree.root.at? place = some (.directory entries) ∧
      names = (Node.directory entries).fileNames := by
  obtain ⟨node, isNode, h⟩ := bind_eq_ok.mp h
  obtain ⟨place, located, isNode⟩ := bind_eq_ok.mp isNode
  split at isNode
  · rename_i isAt
    cases isNode
    cases node with
    | file content => cases h
    | directory entries =>
      cases h
      exact ⟨place, entries, located, isAt, rfl⟩
  · cases isNode

theorem of_read {content : List UInt8} (h : tree.read path = .ok content) :
    ∃ place, tree.locate path = .ok place ∧ tree.root.at? place = some (.file content) := by
  obtain ⟨node, isNode, h⟩ := bind_eq_ok.mp h
  obtain ⟨place, located, isNode⟩ := bind_eq_ok.mp isNode
  split at isNode
  · rename_i isAt
    cases isNode
    cases node with
    | file content =>
      cases h
      exact ⟨place, located, isAt⟩
    | directory entries => cases h
  · cases isNode

/-- What is listed in a directory of a plain tree is a name. -/
theorem slash_not_mem_of_list (plain : tree.root.Plain) (h : tree.list path = .ok names) :
    ∀ name ∈ names, '/' ∉ name.toList := by
  obtain ⟨place, entries, _, isAt, rfl⟩ := of_list h
  exact fun name member => (plain.at? isAt).slash_not_mem member

/-- There is a Go file at a path. -/
def HasGoFile (tree : Tree) (path : String) : Prop :=
  (∃ content, tree.read path = .ok content) ∧
    ∃ name, Path.fileName? path = some name ∧ Path.isGoName name = true

end Tree

namespace Path

variable {name : String}

theorem moves_of_isGoName (isGo : isGoName name = true) (slash : '/' ∉ name.toList) :
    moves name = [name] := by
  obtain ⟨notEmpty, notDot, _⟩ := ne_of_isGoName isGo
  rw [moves_of_no_slash slash, if_neg (not_or.mpr ⟨notEmpty, notDot⟩)]

theorem fileName?_join {directory : String} (isGo : isGoName name = true)
    (slash : '/' ∉ name.toList) : fileName? (join directory name) = some name := by
  have isLast : moves (join directory name) = moves directory ++ [name] := by
    rw [moves_join directory (isAbsolute_of_no_slash slash), moves_of_isGoName isGo slash]
  rw [fileName?_of_moves isLast, if_neg (ne_of_isGoName isGo).2.2]

theorem slash_not_mem_baseName (path : String) : '/' ∉ (baseName path).toList := by
  intro member
  have := not_separator_of_mem_splitLast isSlash member
  simp [isSlash] at this

theorem slash_not_mem_lastPart (path : String) : '/' ∉ (lastPart path).toList := by
  intro member
  have := not_separator_of_mem_splitLast (· == '/') member
  simp at this

/-- The last part of a path ends in the name of a Go file only by being it. -/
theorem append_eq_moves_lastPart_iff {above : List String} (isGo : isGoName name = true)
    (path : String) :
    above ++ [name] = moves (lastPart path) ↔ above = [] ∧ name = lastPart path := by
  obtain ⟨notEmpty, notDot, _⟩ := ne_of_isGoName isGo
  rw [moves_of_no_slash (slash_not_mem_lastPart path)]
  split
  · rename_i stays
    constructor
    · exact fun none => absurd none (List.append_ne_nil_of_right_ne_nil _ (List.cons_ne_nil _ _))
    · rintro ⟨_, rfl⟩
      exact absurd stays (not_or.mpr ⟨notEmpty, notDot⟩)
  · rw [List.append_eq_singleton_iff]
    simp

end Path

end Files

open Files

namespace Module

variable {module : Module} {files : Files} {tree : Tree} {file directory name source : String}
variable {package : Package} {names : List String}

/-! ## Names in a module -/

/-- A file that is resolved has a name in the module, and its package is that of the directory in
this name. -/
theorem of_resolve (h : module.resolve files file = .ok package) :
    ∃ name names, package.relativeName? file = some name ∧ file = module.path ++ "/" ++ name ∧
      files.list (Path.join module.root (directoryOf name)) = .ok names ∧
      package = module.packageOf (directoryOf name) names := by
  obtain ⟨directory, names, named, listed, rfl⟩ := resolve_eq_ok_iff.mp h
  obtain ⟨name, isName, rfl⟩ := Option.map_eq_some_iff.mp named
  refine ⟨name, names, isName, ?_, listed, rfl⟩
  obtain ⟨rest, start, slash⟩ := Option.bind_eq_some_iff.mp isName
  apply String.toList_inj.mp
  rw [Path.eq_of_strip? start, Path.eq_of_strip? slash]
  simp

/-- A name is bare, or its last slash stands between its directory and its last part. -/
theorem bare_or_parted (name : String) :
    ('/' ∉ name.toList ∧ Path.lastPart name = name ∧ directoryOf name = "") ∨
      name = directoryOf name ++ "/" ++ Path.lastPart name := by
  rcases Path.no_separator_or_last (· == '/') name with
    none | ⟨before, c, last, split, isSlash, none⟩
  · refine .inl ⟨fun member => by simpa using none '/' member, ?_, ?_⟩
    · rw [Path.lastPart, Path.splitLast_of_none _ none]
    · rw [directoryOf, Path.splitLast_of_none _ none]
      rfl
  · right
    apply String.toList_inj.mp
    rw [directoryOf, Path.lastPart, Path.splitLast_of_last _ split isSlash none, split,
      show c = '/' by simpa using isSlash]
    simp

/-- A slash and one part is looked for in the root. -/
theorem directoryOf_of_slash (h : name = "/" ++ Path.lastPart name) : directoryOf name = "" := by
  rcases bare_or_parted name with ⟨_, _, atRoot⟩ | parted
  · exact atRoot
  · have same := congrArg String.toList (parted.symm.trans h)
    rw [String.append_assoc, String.toList_append] at same
    exact String.toList_inj.mp (List.append_left_eq_self.mp same)

/-- A slash and one part is absolute, and leads where the part leads. -/
theorem of_slash (h : name = "/" ++ Path.lastPart name) :
    Path.isAbsolute name = true ∧ Path.moves name = Path.moves (Path.lastPart name) := by
  constructor
  · rw [h, Path.isAbsolute_append (by decide)]
    rfl
  · have moves := Path.moves_append_slash "" (Path.lastPart name)
    rwa [String.empty_append, ← h, Path.moves_empty, List.nil_append] at moves

/-- Any other name leads on from its directory. -/
theorem leads_on (root : String) (h : name ≠ "/" ++ Path.lastPart name) :
    Path.isAbsolute (Path.join root name) = Path.isAbsolute (Path.join root (directoryOf name)) ∧
      Path.moves (Path.join root name) =
        Path.moves (Path.join root (directoryOf name)) ++ Path.moves (Path.lastPart name) := by
  rcases bare_or_parted name with ⟨noSlash, whole, atRoot⟩ | parted
  · have relative := Path.isAbsolute_of_no_slash noSlash
    rw [whole, atRoot, Path.isAbsolute_join root relative, Path.moves_join root relative,
      Path.isAbsolute_join root rfl, Path.moves_join root rfl, Path.moves_empty, List.append_nil]
    exact ⟨rfl, rfl⟩
  · have some : directoryOf name ≠ "" := by
      intro empty
      rw [empty, String.empty_append] at parted
      exact h parted
    have kind : Path.isAbsolute name = Path.isAbsolute (directoryOf name) := by
      conv_lhs => rw [parted, String.append_assoc, Path.isAbsolute_append some]
    have moves : Path.moves name =
        Path.moves (directoryOf name) ++ Path.moves (Path.lastPart name) := by
      conv_lhs => rw [parted, Path.moves_append_slash]
    cases relative : Path.isAbsolute (directoryOf name) with
    | false =>
      rw [relative] at kind
      rw [Path.isAbsolute_join root kind, Path.isAbsolute_join root relative,
        Path.moves_join root kind, Path.moves_join root relative, moves, List.append_assoc]
      exact ⟨rfl, rfl⟩
    | true =>
      rw [relative] at kind
      rw [Path.join, if_pos kind, Path.join, if_pos relative]
      exact ⟨kind.trans relative.symm, moves⟩

/-- The name is taken apart in one way: no backslash is in its last part, and it is not a slash and
one part, unless the module's root is the root of all files. -/
def KeepsPlace (module : Module) (name : String) : Prop :=
  '\\' ∉ (Path.lastPart name).toList ∧
    (name = "/" ++ Path.lastPart name → Path.Same module.root "/")

instance (module : Module) (name : String) : Decidable (module.KeepsPlace name) :=
  instDecidableAnd

/-! ## The source that is found -/

/-- The source with the name at the end of the file's name is found. -/
theorem findSource?_packageOf_eq_some_iff (plain : ∀ name ∈ names, '/' ∉ name.toList) :
    (module.packageOf directory names).findSource? file = some source ↔
      Path.baseName file ∈ names ∧ Path.isGoName (Path.baseName file) = true ∧
        source = Path.join (Path.join module.root directory) (Path.baseName file) := by
  have listed : ∀ source ∈ (module.packageOf directory names).sources, ∃ name ∈ names,
      Path.isGoName name = true ∧ source = Path.join (Path.join module.root directory) name ∧
        Path.fileName? source = some name := by
    intro source member
    obtain ⟨name, isName, rfl⟩ := List.mem_map.mp member
    obtain ⟨isListed, isGo⟩ := List.mem_filter.mp (List.mem_mergeSort.mp isName)
    exact ⟨name, isListed, isGo, rfl, Path.fileName?_join isGo (plain name isListed)⟩
  have onlyIf : ∀ source, (module.packageOf directory names).findSource? file = some source →
      Path.baseName file ∈ names ∧ Path.isGoName (Path.baseName file) = true ∧
        source = Path.join (Path.join module.root directory) (Path.baseName file) := by
    intro source found
    obtain ⟨name, isListed, isGo, rfl, named⟩ := listed source (List.mem_of_find?_eq_some found)
    have same := List.find?_some found
    rw [named, beq_iff_eq, Option.some.injEq] at same
    exact same ▸ ⟨isListed, isGo, rfl⟩
  refine ⟨onlyIf source, ?_⟩
  rintro ⟨isListed, isGo, rfl⟩
  cases found : (module.packageOf directory names).findSource? file with
  | some other => rw [(onlyIf other found).2.2]
  | none =>
    have member : Path.join (Path.join module.root directory) (Path.baseName file) ∈
        (module.packageOf directory names).sources :=
      List.mem_map.mpr ⟨_, List.mem_mergeSort.mpr (List.mem_filter.mpr ⟨isListed, isGo⟩), rfl⟩
    have other := List.find?_eq_none.mp found _ member
    rw [Path.fileName?_join isGo (plain _ isListed), beq_self_eq_true] at other
    exact absurd rfl other

/-- What is looked for is where the name leads exactly if the name keeps its place. -/
theorem same_iff_keepsPlace (isGo : Path.isGoName (Path.baseName name) = true) :
    Path.Same (Path.join (Path.join module.root (directoryOf name)) (Path.baseName name))
        (Path.join module.root name) ↔ module.KeepsPlace name := by
  have slash := Path.slash_not_mem_baseName name
  rw [Path.Same, Path.isAbsolute_join _ (Path.isAbsolute_of_no_slash slash),
    Path.moves_join _ (Path.isAbsolute_of_no_slash slash), Path.moves_of_isGoName isGo slash,
    KeepsPlace, ← Path.baseName_eq_lastPart_iff]
  by_cases bare : name = "/" ++ Path.lastPart name
  · obtain ⟨absolute, moves⟩ := of_slash bare
    rw [directoryOf_of_slash bare, Path.isAbsolute_join _ rfl, Path.moves_join _ rfl,
      Path.moves_empty, List.append_nil, Path.join, if_pos absolute, absolute, moves,
      Path.append_eq_moves_lastPart_iff isGo]
    constructor
    · rintro ⟨isRoot, noMoves, same⟩
      exact ⟨same, fun _ => ⟨isRoot, noMoves⟩⟩
    · rintro ⟨same, isRoot⟩
      exact ⟨(isRoot bare).1, (isRoot bare).2, same⟩
  · obtain ⟨kind, moves⟩ := leads_on module.root bare
    have last : [] ++ [Path.baseName name] = Path.moves (Path.lastPart name) ↔ _ :=
      Path.append_eq_moves_lastPart_iff isGo name
    rw [List.nil_append] at last
    rw [kind, moves, List.append_cancel_left_eq, last]
    constructor
    · rintro ⟨_, _, same⟩
      exact ⟨same, fun slash => absurd slash bare⟩
    · rintro ⟨same, _⟩
      exact ⟨rfl, rfl, same⟩

/-- A name that keeps its place leads on from its directory. -/
theorem KeepsPlace.leads_on (keeps : module.KeepsPlace name) :
    Path.isAbsolute (Path.join module.root name) =
        Path.isAbsolute (Path.join module.root (directoryOf name)) ∧
      Path.moves (Path.join module.root name) =
        Path.moves (Path.join module.root (directoryOf name)) ++
          Path.moves (Path.lastPart name) := by
  by_cases bare : name = "/" ++ Path.lastPart name
  · obtain ⟨isRoot, noMoves⟩ := keeps.2 bare
    obtain ⟨absolute, moves⟩ := of_slash bare
    have itself : Path.join module.root name = name := if_pos absolute
    rw [itself, directoryOf_of_slash bare, Path.isAbsolute_join _ rfl, Path.moves_join _ rfl,
      Path.moves_empty, List.append_nil, absolute, moves, isRoot, noMoves, Path.moves_root,
      List.nil_append]
    exact ⟨rfl, rfl⟩
  · exact Module.leads_on module.root bare

/-- A Go file at the end of a name that keeps its place is listed in the name's directory. -/
theorem KeepsPlace.baseName_mem (keeps : module.KeepsPlace name)
    (there : tree.HasGoFile (Path.join module.root name))
    (listed : tree.list (Path.join module.root (directoryOf name)) = .ok names) :
    Path.baseName name ∈ names ∧ Path.isGoName (Path.baseName name) = true := by
  obtain ⟨⟨content, read⟩, ended, isEnd, isGo⟩ := there
  obtain ⟨place, located, isFile⟩ := Tree.of_read read
  obtain ⟨above, entries, isLocated, isDirectory, rfl⟩ := Tree.of_list listed
  obtain ⟨kind, moves⟩ := keeps.leads_on
  have onwards : place = (Path.moves (Path.lastPart name)).foldl Path.step above := by
    rw [Tree.place_of_locate located, Tree.place_of_locate isLocated, Tree.origin, kind, moves,
      List.foldl_append]
    rfl
  rw [(Path.baseName_eq_lastPart_iff name).mpr keeps.1]
  rw [Path.moves_of_no_slash (Path.slash_not_mem_lastPart name)] at moves onwards
  split at moves
  · -- the name leads to its directory
    rename_i stays
    rw [if_pos stays] at onwards
    cases onwards
    cases isFile.symm.trans isDirectory
  · rename_i leads
    rw [Path.fileName?_of_moves moves] at isEnd
    split at isEnd
    · cases isEnd
    · rename_i notUp
      cases isEnd
      rw [if_neg leads, List.foldl_cons, List.foldl_nil, Path.step, if_neg leads, if_neg notUp]
        at onwards
      rw [onwards, Node.at?_concat isDirectory] at isFile
      exact ⟨Node.mem_fileNames_of_lookup isFile, isGo⟩

/-- **The source of a file is what its name leads to exactly if the name keeps its place.**  A file
that is resolved is the module's path, a slash and its name.  If a source is found for a name that
keeps its place, it is at this name in the module's root, and if there is a Go file at this name, it
is found; for any other name neither is the case. -/
theorem source_at_name_iff (plain : tree.root.Plain)
    (h : module.resolve tree.files file = .ok package) :
    ∃ name, package.relativeName? file = some name ∧ file = module.path ++ "/" ++ name ∧
      (∀ source, package.findSource? file = some source →
        source = Path.join (Path.join module.root (directoryOf name)) (Path.baseName name) ∧
          (Path.Same source (Path.join module.root name) ↔ module.KeepsPlace name)) ∧
      (tree.HasGoFile (Path.join module.root name) →
        ((∃ source, package.findSource? file = some source ∧
          Path.Same source (Path.join module.root name)) ↔ module.KeepsPlace name)) := by
  obtain ⟨name, names, isName, rfl, listed, rfl⟩ := of_resolve h
  have sameBase : Path.baseName (module.path ++ "/" ++ name) = Path.baseName name := by
    have split : (module.path ++ "/" ++ name).toList =
        module.path.toList ++ '/' :: name.toList := by
      simp
    exact Path.splitLast_append Path.isSlash rfl split
  have found_iff (source : String) :
      (module.packageOf (directoryOf name) names).findSource? (module.path ++ "/" ++ name) =
          some source ↔
        Path.baseName name ∈ names ∧ Path.isGoName (Path.baseName name) = true ∧
          source = Path.join (Path.join module.root (directoryOf name)) (Path.baseName name) := by
    rw [findSource?_packageOf_eq_some_iff (Tree.slash_not_mem_of_list plain listed), sameBase]
  refine ⟨name, isName, rfl, fun source found => ?_, fun there => ⟨?_, fun keeps => ?_⟩⟩
  · obtain ⟨_, isGo, rfl⟩ := (found_iff source).mp found
    exact ⟨rfl, same_iff_keepsPlace isGo⟩
  · rintro ⟨source, found, same⟩
    obtain ⟨_, isGo, rfl⟩ := (found_iff source).mp found
    exact (same_iff_keepsPlace isGo).mp same
  · obtain ⟨isListed, isGo⟩ := keeps.baseName_mem there listed
    exact ⟨_, (found_iff _).mpr ⟨isListed, isGo, rfl⟩, (same_iff_keepsPlace isGo).mpr keeps⟩

/-- A module with a file in its root and one in a directory. -/
def nested : Tree where
  root := .directory [("w", .directory [
    ("go.mod", .file (bytesOf "module m\n")),
    ("a", .directory [("x.go", .file (bytesOf "package a\n"))])])]
  current := []

theorem source_at_name_iff_nested :
    nested.root.Plain ∧
      ∃ package, Module.resolve ⟨"/w", "m"⟩ nested.files "m/a//x.go" = .ok package ∧
        package.relativeName? "m/a//x.go" = some "a//x.go" ∧
        package.findSource? "m/a//x.go" = some "/w/a/x.go" ∧
        nested.HasGoFile (Path.join "/w" "a//x.go") ∧
        Path.Same "/w/a/x.go" (Path.join "/w" "a//x.go") := by
  have plain : nested.root.Plain := by
    refine .directory (by decide) (List.forall_mem_singleton.mpr (.directory (by decide) ?_))
    refine List.forall_mem_cons.mpr ⟨.file _, List.forall_mem_singleton.mpr ?_⟩
    exact .directory (by decide) (List.forall_mem_singleton.mpr (.file _))
  have there : nested.HasGoFile (Path.join "/w" "a//x.go") :=
    ⟨⟨bytesOf "package a\n", by decide +kernel⟩, "x.go", by decide +kernel⟩
  obtain ⟨package, resolved, told⟩ :
      ∃ package, Module.resolve ⟨"/w", "m"⟩ nested.files "m/a//x.go" = .ok package ∧
        (package.relativeName? "m/a//x.go", package.findSource? "m/a//x.go") =
          (some "a//x.go", some "/w/a/x.go") :=
    exists_eq_ok_of_map (by decide +kernel)
  obtain ⟨named, found⟩ := Prod.mk.inj told
  obtain ⟨name, isName, _, isAt, _⟩ := source_at_name_iff plain resolved
  cases named.symm.trans isName
  exact ⟨plain, package, resolved, named, found, there, (isAt _ found).2.mpr (by decide +kernel)⟩

/-- A module with two files in its root, one with a backslash in its name. -/
def backslashed : Tree where
  root := .directory [("w", .directory [
    ("go.mod", .file (bytesOf "module m\n")),
    ("b.go", .file (bytesOf "package m\n")),
    ("a\\b.go", .file (bytesOf "package m\n"))])]
  current := []

/-- **Another source is found.**  A file with a backslash in its name is listed, but the file whose
name stands after the backslash is found for it.  The same file is found for an absolute name. -/
theorem another_source_is_found :
    ∃ module package, Module.load backslashed.files "/w" = .ok module ∧
      module.resolve backslashed.files "m/a\\b.go" = .ok package ∧
      package.relativeName? "m/a\\b.go" = some "a\\b.go" ∧
      package.findSource? "m/a\\b.go" = some "/w/b.go" ∧
      backslashed.HasGoFile (Path.join module.root "a\\b.go") ∧
      ¬ Path.Same "/w/b.go" (Path.join module.root "a\\b.go") ∧
      module.resolve backslashed.files "m//b.go" = .ok package ∧
      package.relativeName? "m//b.go" = some "/b.go" ∧
      package.findSource? "m//b.go" = some "/w/b.go" ∧
      ¬ Path.Same "/w/b.go" (Path.join module.root "/b.go") := by
  have there : backslashed.HasGoFile (Path.join "/w" "a\\b.go") :=
    ⟨⟨bytesOf "package m\n", by decide +kernel⟩, "a\\b.go", by decide +kernel⟩
  have plain : ∀ name ∈ ["go.mod", "b.go", "a\\b.go"], '/' ∉ name.toList := by decide
  have listed : backslashed.files.list (Path.join "/w" "") = .ok ["go.mod", "b.go", "a\\b.go"] := by
    decide +kernel
  have found (file : String) (ended : Path.baseName file = "b.go") :
      (Module.packageOf ⟨"/w", "m"⟩ "" ["go.mod", "b.go", "a\\b.go"]).findSource? file =
        some "/w/b.go" := by
    rw [findSource?_packageOf_eq_some_iff plain, ended]
    decide +kernel
  have rooted (file : String) (isRoot : Module.directory? ⟨"/w", "m"⟩ file = some "") :
      Module.resolve ⟨"/w", "m"⟩ backslashed.files file =
        .ok (Module.packageOf ⟨"/w", "m"⟩ "" ["go.mod", "b.go", "a\\b.go"]) :=
    resolve_eq_ok_iff.mpr ⟨"", _, isRoot, listed, rfl⟩
  refine ⟨⟨"/w", "m"⟩, Module.packageOf ⟨"/w", "m"⟩ "" ["go.mod", "b.go", "a\\b.go"],
    by decide +kernel, rooted _ ?_, ?_, found _ ?_, there, ?_, rooted _ ?_, ?_, found _ ?_, ?_⟩
  all_goals decide +kernel

end Module

end GoCoverage
