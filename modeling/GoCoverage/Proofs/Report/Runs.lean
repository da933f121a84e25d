import GoCoverage.Proofs.Lines.Least
import GoCoverage.Proofs.Report.Classes

/-! # Several runs of one file

A file that is met again has the same declarations with other tables.  Each of its classes is joined
with the class that the other run gives, method by method, and what comes of it is the class that
the declarations make with joined tables (`merge_classNamed`).  So the runs of a file could as well
have been put together before any class was made (`foldl_merge_classNamed`). -/

namespace GoCoverage.Report

open Go (Declaration)

variable {file name : String} {grouping : Grouping} {declarations : List Declaration}
variable {tables others : List Lines} {runs : List (List Lines)} {count : Nat}

/-! ## What a run does not change -/

/-- What can be said of a class without its lines: what it is known by, and the names and signatures
of its methods. -/
def Class.outline (c : Class) : Class.Key × List (String × Option String) :=
  (c.key, c.methods.map fun method => (method.name, method.signature))

theorem Class.outline_refresh (c : Class) : c.refresh.outline = c.outline := by
  show (c.key, (c.methods.map Method.refresh).map _) = _
  rw [List.map_map]
  rfl

/-- The methods of a class have the names and signatures of their declarations. -/
theorem outline_methodsNamed (grouping : Grouping) (file name : String)
    (h : tables.length = declarations.length) :
    ((methodsNamed grouping file name (declarations.zip tables)).map fun method =>
        (method.name, method.signature)) =
      (declarations.filter (classNameOf grouping file · == name)).map fun declaration =>
        (declaration.name, some declaration.signature) := by
  have declared : (declarations.zip tables).map Prod.fst = declarations := List.map_fst_zip h.ge
  conv_rhs => rw [← declared, List.filter_map, List.map_map]
  rw [methodsNamed, List.map_map]
  rfl

/-- The outlines of the classes of a file do not depend on the tables. -/
theorem map_outline_classesOf (h : tables.length = declarations.length)
    (h' : others.length = declarations.length) :
    (classesOf file grouping (declarations.zip tables)).map Class.outline =
      (classesOf file grouping (declarations.zip others)).map Class.outline := by
  rw [classesOf_eq, classesOf_eq, List.map_fst_zip h.ge, List.map_fst_zip h'.ge, List.map_map,
    List.map_map]
  refine List.map_congr_left fun name _ => ?_
  show (_, _) = (_, _)
  rw [classNamed, classNamed, outline_methodsNamed _ _ _ h, outline_methodsNamed _ _ _ h']
  rfl

theorem length_methodsNamed (h : tables.length = declarations.length) :
    (methodsNamed grouping file name (declarations.zip tables)).length =
      (declarations.filter (classNameOf grouping file · == name)).length := by
  have same := congrArg List.length (outline_methodsNamed grouping file name h)
  rwa [List.length_map, List.length_map] at same

/-! ## Joining two runs -/

/-- A class is brought up to date from its methods. -/
theorem Class.refresh_congr {c d : Class} (key : c.key = d.key)
    (methods : c.methods.map Method.refresh = d.methods.map Method.refresh) :
    c.refresh = d.refresh := by
  obtain ⟨name, file⟩ := Class.Key.mk.inj key
  rw [Class.refresh, Class.refresh]
  simp only [methods, name, file]

/-- Classes with equally many methods are joined method by method. -/
theorem methods_merge {c other : Class} (h : c.methods.length = other.methods.length) :
    (c.merge other).methods = Class.mergeMethods c.methods other.methods := by
  rw [Class.merge]
  cases empty : c.methods with
  | nil =>
    rw [empty] at h
    rw [List.eq_nil_of_length_eq_zero h.symm]
    rfl
  | cons method methods => rfl

theorem methodsNamed_cons (declaration : Declaration) (lines : Lines)
    (rest : List (Declaration × Lines)) :
    methodsNamed grouping file name ((declaration, lines) :: rest) =
      if classNameOf grouping file declaration == name then
        methodOf declaration lines :: methodsNamed grouping file name rest
      else methodsNamed grouping file name rest := by
  rw [methodsNamed, List.filter_cons]
  split <;> rfl

/-- Joining methods joins the tables of their declarations. -/
theorem map_refresh_mergeMethods (h : tables.length = declarations.length)
    (h' : others.length = declarations.length) :
    (Class.mergeMethods
        ((methodsNamed grouping file name (declarations.zip tables)).map Method.refresh)
        (methodsNamed grouping file name (declarations.zip others))).map Method.refresh =
      (methodsNamed grouping file name
        (declarations.zip (List.zipWith Lines.merge tables others))).map Method.refresh := by
  induction declarations generalizing tables others with
  | nil => rfl
  | cons declaration declarations ih =>
    obtain ⟨table, tables, rfl⟩ := List.exists_cons_of_length_eq_add_one h
    obtain ⟨other, others, rfl⟩ := List.exists_cons_of_length_eq_add_one h'
    have ih := ih (Nat.succ.inj h) (Nat.succ.inj h')
    rw [List.zipWith_cons_cons, List.zip_cons_cons, List.zip_cons_cons, List.zip_cons_cons,
      methodsNamed_cons, methodsNamed_cons, methodsNamed_cons]
    -- the declaration has a method in both lists or in none
    split
    · rw [List.map_cons, Class.mergeMethods, List.map_cons, ih]
      rfl
    · exact ih

/-- **A class joined with the class of another run is the class of the joined tables.** -/
theorem merge_classNamed (h : tables.length = declarations.length)
    (h' : others.length = declarations.length) :
    ((classNamed grouping file (declarations.zip tables) name).refresh.merge
        (classNamed grouping file (declarations.zip others) name)).refresh =
      (classNamed grouping file (declarations.zip (List.zipWith Lines.merge tables others))
        name).refresh := by
  refine Class.refresh_congr (key_merge_refresh _ _) ?_
  rw [methods_merge]
  · exact map_refresh_mergeMethods h h'
  · show ((methodsNamed ..).map Method.refresh).length = (methodsNamed ..).length
    rw [List.length_map, length_methodsNamed h, length_methodsNamed h']

/-! ## Joining all runs -/

/-- The table of one declaration from several runs. -/
def joinTable (runs : List (List Lines)) (i : Nat) : Lines :=
  runs.foldl (fun lines tables => lines.merge (tables[i]?.getD .empty)) .empty

/-- The tables of several runs joined, one for each declaration. -/
def joinTables (count : Nat) (runs : List (List Lines)) : List Lines :=
  (List.range count).map (joinTable runs)

@[simp]
theorem length_joinTables : (joinTables count runs).length = count := by
  rw [joinTables, List.length_map, List.length_range]

/-- A joined table has a line if a run has it, with the smallest count of all runs. -/
theorem least_joinTable (runs : List (List Lines)) (i : Nat) :
    (joinTable runs i).Least fun number =>
      {hits | ∃ tables ∈ runs, (tables[i]?).bind (·.get? number) = some hits} := by
  refine (Lines.least_foldl (fun tables _ => Lines.Least.self (tables[i]?.getD .empty))
    Lines.Least.empty).congr fun number => ?_
  ext hits
  have view : ∀ tables : List Lines,
      (tables[i]?.getD .empty).get? number = (tables[i]?).bind (·.get? number) := by
    intro tables
    cases tables[i]? <;> rfl
  simp [view]

/-- The order of the runs does not matter, nor how often a run occurs. -/
theorem joinTable_congr {others : List (List Lines)}
    (h : ∀ tables, tables ∈ runs ↔ tables ∈ others) (i : Nat) :
    joinTable runs i = joinTable others i := by
  refine (least_joinTable runs i).unique ((least_joinTable others i).congr fun number => ?_)
  simp only [h]

theorem eq_joinTable_of_getElem? {i : Nat} {lines : Lines}
    (h : (joinTables count runs)[i]? = some lines) : lines = joinTable runs i := by
  rw [joinTables, List.getElem?_map] at h
  obtain ⟨j, inRange, rfl⟩ := Option.map_eq_some_iff.mp h
  obtain ⟨_, rfl⟩ := List.getElem?_eq_some_iff.mp inRange
  rw [List.getElem_range]

/-- One more run is joined table by table. -/
theorem joinTables_concat (h : tables.length = count) :
    joinTables count (runs ++ [tables]) =
      List.zipWith Lines.merge (joinTables count runs) tables := by
  refine List.ext_getElem (by simp [h]) fun i inJoined inZip => ?_
  have inTables : i < tables.length := by simpa [h] using inJoined
  simp [joinTables, joinTable, inTables]

theorem joinTables_singleton (h : tables.length = count) : joinTables count [tables] = tables := by
  refine List.ext_getElem (by simp [h]) fun i _ inTables => ?_
  simp [joinTables, joinTable, inTables, Lines.empty_merge]

/-- **The classes of several runs joined one after the other** are the class of the joined
tables. -/
theorem foldl_merge_classNamed (some : runs ≠ [])
    (lengths : ∀ tables ∈ runs, tables.length = declarations.length) :
    (runs.map fun tables => classNamed grouping file (declarations.zip tables) name).foldl
        (fun known c => (known.merge c).refresh) (.empty name file) =
      (classNamed grouping file (declarations.zip (joinTables declarations.length runs))
        name).refresh := by
  induction runs using List.reverseRecOn with
  | nil => exact absurd rfl some
  | append_singleton runs tables ih =>
    have length := lengths tables (List.mem_append_right runs (List.mem_singleton_self tables))
    rw [List.map_append, List.foldl_append]
    by_cases first : runs = []
    · -- the first run meets a class without methods and fills it
      subst first
      rw [List.nil_append, joinTables_singleton length]
      rfl
    · rw [ih first fun other member => lengths other (List.mem_append_left _ member),
        joinTables_concat length]
      exact merge_classNamed length_joinTables length

end GoCoverage.Report
