import GoCoverage.Proofs.Report.Classes

/-! # The life of a report

A report is put together from operations on its nodes.  Directories are listed, packages and classes
are looked up, and come into being where they are looked up first, methods are pushed, and rates and
totals are set or computed.  An operation names the node it is for: a package by its name, and a
class by its package, name and file.

What one step may alter is said level by level (`Step.Frame`).  A step for a class alters nothing
else in the package, and a step for a package nothing else in the report.  Nodes stay where they
are, and a node that is new comes last.  This rests on the names: a node is found because no other
node has its name, and no step ever gives a name twice (`Distinct.apply`).

What a run of steps comes to is said node by node (`gathered_afterSteps`).  The nodes are those that
were named, in the order in which they were named first, and each is what the steps that name it
make of an empty one.  What was done to other nodes has left no trace in it. -/

namespace GoCoverage.Report

/-! ## Operations -/

namespace Class

/-- An operation on a class. -/
inductive Step where
  /-- The class is looked up and left as it is. -/
  | look
  /-- A method is put after the others. -/
  | push (method : Method)
  | setLines (lines : Lines)
  | setRate (rate : Float)
  /-- The rate of the method at a place is set. -/
  | setMethodRate (place : Nat) (rate : Float)
  /-- The lines and all rates are computed. -/
  | refresh

/-- The class after the operation. -/
def Step.apply (c : Class) : Step → Class
  | look => c
  | push method => c.addMethod method
  | setLines lines => { c with lines }
  | setRate rate => { c with lineRate := rate }
  | setMethodRate place rate =>
    { c with methods := c.methods.modify place fun method => { method with lineRate := rate } }
  | refresh => c.refresh

/-- The method that the operation pushes. -/
def Step.pushed? : Step → Option Method
  | push method => some method
  | _ => none

end Class

namespace Package

/-- An operation on a package. -/
inductive Step where
  /-- The package is looked up and left as it is. -/
  | look
  | setRate (rate : Float)
  /-- The rate is computed. -/
  | refresh
  /-- A class is looked up and something is done to it. -/
  | ofClass (name file : String) (step : Class.Step)

/-- The package after the operation. -/
def Step.apply (package : Package) : Step → Package
  | look => package
  | setRate rate => { package with lineRate := rate }
  | refresh => package.refresh
  | ofClass name file step => package.changeClass name file (step.apply ·)

/-- The class that the operation is for, and what it does to it. -/
def Step.classStep? : Step → Option (Class.Key × Class.Step)
  | ofClass name file step => some (⟨name, file⟩, step)
  | _ => none

/-- What is done to classes, in order. -/
def classSteps (steps : List Step) : List (Class.Key × Class.Step) :=
  steps.filterMap Step.classStep?

/-- The classes after something has been done to one of them. -/
def withClass (classes : List Class) (item : Class.Key × Class.Step) : List Class :=
  changeOrAdd (fun c => c.key == item.1) (.empty item.1.name item.1.file) (item.2.apply ·) classes

end Package

/-- An operation on a report. -/
inductive Step where
  | addSource (directory : String)
  | setVersion (version : String)
  | setRate (rate : Float)
  | setBranchRate (rate : Float)
  | setComplexity (complexity : Float)
  | setBranches (covered valid : Nat)
  /-- The totals and the rate are computed. -/
  | total
  /-- A package is looked up and something is done to it. -/
  | ofPackage (name : String) (step : Package.Step)

namespace Step

/-- The report after the operation. -/
def apply (report : Report) : Step → Report
  | addSource directory => report.addSource directory
  | setVersion version => { report with version }
  | setRate rate => { report with lineRate := rate }
  | setBranchRate rate => { report with branchRate := rate }
  | setComplexity complexity => { report with complexity }
  | setBranches covered valid =>
    { report with branchesCovered := covered, branchesValid := valid }
  | total => report.withTotals
  | ofPackage name step => report.changePackage name (step.apply ·)

/-- The directory that the operation lists. -/
def directory? : Step → Option String
  | addSource directory => some directory
  | _ => none

/-- The package that the operation is for, and what it does to it. -/
def packageStep? : Step → Option (String × Package.Step)
  | ofPackage name step => some (name, step)
  | _ => none

end Step

/-- What is done to packages, in order. -/
def packageSteps (steps : List Step) : List (String × Package.Step) :=
  steps.filterMap Step.packageStep?

/-- The packages after something has been done to one of them. -/
def withPackage (packages : List Package) (item : String × Package.Step) : List Package :=
  changeOrAdd (fun package => package.name == item.1) (.empty item.1) (item.2.apply ·) packages

/-- The directories after one has been looked up under its own name. -/
def withSource (sources : List String) (directory : String) : List String :=
  changeOrAdd (fun a => id a == directory) directory id sources

/-- The report that is made from nothing by operations. -/
def afterSteps (timestamp : Int) (steps : List Step) : Report :=
  steps.foldl Step.apply (.empty timestamp)

/-! ## What one operation alters -/

/-- Methods that are the same but for the rates of those at some places. -/
structure SameButRates (rated : Nat → Prop) (before after : List Method) : Prop where
  length : after.length = before.length
  each : ∀ (place : Nat) (method : Method), before[place]? = some method →
    ∃ rate, after[place]? = some { method with lineRate := rate } ∧
      (¬ rated place → rate = method.lineRate)

/-- What the operation may alter in its class. -/
def Class.Step.Frame (step : Class.Step) (before after : Class) : Prop :=
  match step with
  | look => after = before
  | push method => after = { before with methods := before.methods ++ [method] }
  | setLines lines => after = { before with lines }
  | setRate rate => after = { before with lineRate := rate }
  | setMethodRate place _ => ∃ methods, after = { before with methods } ∧
    SameButRates (· = place) before.methods methods
  | refresh => ∃ methods lines rate, after = { before with methods, lines, lineRate := rate } ∧
    SameButRates (fun _ => True) before.methods methods

/-- What the operation may alter in its package. -/
def Package.Step.Frame (step : Package.Step) (before after : Package) : Prop :=
  match step with
  | look => after = before
  | setRate rate => after = { before with lineRate := rate }
  | refresh => ∃ rate, after = { before with lineRate := rate }
  | ofClass name file step => ∃ classes, after = { before with classes } ∧
    AltersOnly Class.key ⟨name, file⟩ (.empty name file) step.Frame before.classes classes

/-- What the operation may alter in a report. -/
def Step.Frame (step : Step) (before after : Report) : Prop :=
  match step with
  | addSource directory => ∃ sources, after = { before with sources } ∧
    AltersOnly id directory directory (fun a b => b = a) before.sources sources
  | ofPackage name step => ∃ packages, after = { before with packages } ∧
    AltersOnly Package.name name (.empty name) step.Frame before.packages packages
  | _ => after.sources = before.sources ∧ after.packages = before.packages

/-- No name is given twice. -/
structure Distinct (report : Report) : Prop where
  sources : report.sources.Nodup
  packages : (report.packages.map (·.name)).Nodup
  classes : ∀ package ∈ report.packages, (package.classes.map Class.key).Nodup

section OneStep

theorem Class.Step.key_apply (step : Class.Step) (c : Class) : (step.apply c).key = c.key := by
  cases step <;> rfl

theorem Package.Step.name_apply (step : Package.Step) (package : Package) :
    (step.apply package).name = package.name := by
  cases step <;> rfl

theorem Class.Step.frame_apply (step : Class.Step) (c : Class) : step.Frame c (step.apply c) := by
  cases step with
  | look | push _ | setLines _ | setRate _ => rfl
  | setMethodRate place rate =>
    refine ⟨_, rfl, List.length_modify _ _ _, fun i method isMethod => ?_⟩
    by_cases h : place = i
    · exact ⟨rate, by simp [h, isMethod], fun other => absurd h.symm other⟩
    · exact ⟨method.lineRate, by simp [h, isMethod], fun _ => rfl⟩
  | refresh =>
    refine ⟨_, _, _, rfl, List.length_map _, fun i method isMethod => ?_⟩
    exact ⟨method.refresh.lineRate, by simp [isMethod]; rfl, fun other => absurd trivial other⟩

theorem Package.Step.classes_apply (step : Package.Step) (package : Package) :
    (step.apply package).classes =
      step.classStep?.elim package.classes (withClass package.classes) := by
  cases step with
  | ofClass name file step => exact classes_changeClass
  | _ => rfl

theorem Package.nodup_empty (name : String) :
    ((Package.empty name).classes.map Class.key).Nodup := .nil

/-- No two classes get the same name and file. -/
theorem Package.Step.nodup_apply {package : Package} (h : (package.classes.map Class.key).Nodup)
    (step : Package.Step) : ((step.apply package).classes.map Class.key).Nodup := by
  rw [classes_apply]
  cases step.classStep? with
  | none => exact h
  | some item => exact nodup_map_changeOrAdd Class.key item.1 rfl item.2.key_apply h

/-- **An operation on a package alters only the class that it names**, if it names one. -/
theorem Package.Step.frame_apply {package : Package} (h : (package.classes.map Class.key).Nodup)
    (step : Package.Step) : step.Frame package (step.apply package) := by
  cases step with
  | look | setRate _ => rfl
  | refresh => exact ⟨_, rfl⟩
  | ofClass name file step =>
    refine ⟨(package.changeClass name file (step.apply ·)).classes, rfl, ?_⟩
    rw [classes_changeClass]
    exact altersOnly_changeOrAdd h (fun c _ => step.frame_apply c) (step.frame_apply _)

/-- A directory is listed as if it were looked up under its own name. -/
theorem sources_addSource_eq_withSource (report : Report) (directory : String) :
    (report.addSource directory).sources = withSource report.sources directory := by
  rw [sources_addSource, withSource, changeOrAdd_id]
  simp

theorem Step.packages_apply (step : Step) (report : Report) :
    (step.apply report).packages =
      step.packageStep?.elim report.packages (withPackage report.packages) := by
  cases step with
  | addSource directory => exact packages_addSource report directory
  | _ => rfl

theorem Step.sources_apply (step : Step) (report : Report) :
    (step.apply report).sources =
      step.directory?.elim report.sources (withSource report.sources) := by
  cases step with
  | addSource directory => exact sources_addSource_eq_withSource report directory
  | _ => rfl

theorem Distinct.empty (timestamp : Int) : (Report.empty timestamp).Distinct where
  sources := .nil
  packages := .nil
  classes _ member := absurd member List.not_mem_nil

/-- **No operation gives a name twice.** -/
theorem Distinct.apply {report : Report} (h : report.Distinct) (step : Step) :
    (step.apply report).Distinct := by
  cases step with
  | addSource directory =>
    have sources : ((withSource report.sources directory).map id).Nodup :=
      nodup_map_changeOrAdd id directory rfl (fun _ => rfl) (by simpa using h.sources)
    rw [List.map_id, ← sources_addSource_eq_withSource] at sources
    show (report.addSource directory).Distinct
    exact ⟨sources, by rw [packages_addSource]; exact h.packages,
      by rw [packages_addSource]; exact h.classes⟩
  | ofPackage name step =>
    refine ⟨h.sources, nodup_map_changeOrAdd Package.name name rfl step.name_apply h.packages, ?_⟩
    intro package member
    rcases mem_changeOrAdd member with old | ⟨known, isKnown, rfl⟩ | rfl
    · exact h.classes package old
    · exact step.nodup_apply (h.classes known isKnown)
    · exact step.nodup_apply (Package.nodup_empty name)
  | _ => exact ⟨h.sources, h.packages, h.classes⟩

/-- **An operation on a report alters only the node that it names.** -/
theorem Step.frame_apply {report : Report} (h : report.Distinct) (step : Step) :
    step.Frame report (step.apply report) := by
  cases step with
  | addSource directory =>
    refine ⟨_, addSource_eq report directory, ?_⟩
    rw [← sources_addSource, sources_addSource_eq_withSource]
    exact altersOnly_changeOrAdd (by simpa using h.sources) (fun _ _ => rfl) rfl
  | ofPackage name step =>
    refine ⟨(report.changePackage name (step.apply ·)).packages, rfl, ?_⟩
    exact altersOnly_changeOrAdd h.packages
      (fun package member => step.frame_apply (h.classes package member))
      (step.frame_apply (Package.nodup_empty name))
  | _ => exact ⟨rfl, rfl⟩

end OneStep

/-! ## What a run comes to -/

section Run

/-- A view that steps change only by their parts of one kind is changed by all these parts in
order. -/
theorem foldl_eq_foldl_filterMap {σ τ β δ : Type} {apply : σ → τ → σ} (view : σ → β)
    (part? : τ → Option δ) (act : β → δ → β)
    (each : ∀ s t, view (apply s t) = (part? t).elim (view s) (act (view s))) (steps : List τ)
    (s : σ) : view (steps.foldl apply s) = (steps.filterMap part?).foldl act (view s) := by
  induction steps generalizing s with
  | nil => rfl
  | cons t steps ih =>
    rw [List.foldl_cons, ih, each, List.filterMap_cons]
    cases part? t <;> rfl

theorem Package.classes_foldl (name : String) (steps : List Package.Step) :
    (steps.foldl Package.Step.apply (.empty name)).classes =
      ((classSteps steps).map (·.1)).eraseDups.map fun key =>
        (about key (classSteps steps)).foldl Class.Step.apply (.empty key.name key.file) := by
  rw [foldl_eq_foldl_filterMap Package.classes Step.classStep? withClass fun package step =>
    step.classes_apply package]
  exact foldl_changeOrAdd_about Class.key (fun key => .empty key.name key.file) Class.Step.apply
    (fun _ => rfl) (fun c step => step.key_apply c) (classSteps steps)

theorem packages_afterSteps (timestamp : Int) (steps : List Step) :
    (afterSteps timestamp steps).packages =
      ((packageSteps steps).map (·.1)).eraseDups.map fun name =>
        (about name (packageSteps steps)).foldl Package.Step.apply (.empty name) := by
  rw [afterSteps, foldl_eq_foldl_filterMap Report.packages Step.packageStep? withPackage
    fun report step => step.packages_apply report]
  exact foldl_changeOrAdd_about Package.name .empty Package.Step.apply
    (fun _ => rfl) (fun package step => step.name_apply package) (packageSteps steps)

theorem sources_afterSteps (timestamp : Int) (steps : List Step) :
    (afterSteps timestamp steps).sources = (steps.filterMap Step.directory?).eraseDups := by
  rw [afterSteps, foldl_eq_foldl_filterMap Report.sources Step.directory? withSource
    fun report step => step.sources_apply report]
  refine (foldl_changeOrAdd id id id (fun directory _ => directory) (fun _ => rfl) (fun _ _ => rfl)
    (steps.filterMap Step.directory?)).trans ?_
  simp only [List.foldl_fixed, List.map_id, id, List.map_id']

/-- **No run gives a name twice.** -/
theorem distinct_afterSteps (timestamp : Int) (steps : List Step) :
    (afterSteps timestamp steps).Distinct := by
  have kept : ∀ report : Report, report.Distinct → (steps.foldl Step.apply report).Distinct := by
    induction steps with
    | nil => exact fun _ h => h
    | cons step steps ih => exact fun report h => ih _ (h.apply step)
  exact kept _ (.empty timestamp)

/-- What a method is apart from its rate. -/
def Method.withoutRate (method : Method) : String × Option String × Lines :=
  (method.name, method.signature, method.lines)

theorem Class.Step.methods_apply (step : Class.Step) (c : Class) :
    (step.apply c).methods.map Method.withoutRate =
      c.methods.map Method.withoutRate ++ step.pushed?.toList.map Method.withoutRate := by
  cases step with
  | push method => simp [apply, addMethod, pushed?]
  | setMethodRate place rate =>
    refine List.ext_getElem? fun i => ?_
    by_cases h : place = i
    · cases isMethod : c.methods[i]? <;> simp [apply, pushed?, h, isMethod, Method.withoutRate]
    · simp [apply, pushed?, h]
  | refresh => simp [apply, Class.refresh, pushed?, Method.withoutRate, Method.refresh]
  | _ => exact (List.append_nil _).symm

/-- A class has the methods that were pushed, in order, whatever has been done to their rates. -/
theorem Class.methods_foldl (steps : List Class.Step) (c : Class) :
    (steps.foldl Class.Step.apply c).methods.map Method.withoutRate =
      c.methods.map Method.withoutRate ++
        (steps.filterMap Class.Step.pushed?).map Method.withoutRate := by
  induction steps generalizing c with
  | nil => simp
  | cons step steps ih =>
    rw [List.foldl_cons, ih, step.methods_apply, List.filterMap_cons]
    cases step.pushed? <;> simp

/-- What is done to the classes of a package, in order. -/
def classStepsIn (name : String) (steps : List Step) : List (Class.Key × Class.Step) :=
  Package.classSteps (about name (packageSteps steps))

/-- The nodes are those that the steps name, in the order in which they are named first, and each is
what the steps that name it make of an empty node. -/
structure Gathered (steps : List Step) (report : Report) : Prop where
  sources : report.sources = (steps.filterMap Step.directory?).eraseDups
  packages : report.packages = ((packageSteps steps).map (·.1)).eraseDups.map fun name =>
    (about name (packageSteps steps)).foldl Package.Step.apply (.empty name)
  classes : ∀ package ∈ report.packages,
    package.classes = ((classStepsIn package.name steps).map (·.1)).eraseDups.map fun key =>
      (about key (classStepsIn package.name steps)).foldl Class.Step.apply
        (.empty key.name key.file)
  /-- The methods are those that were pushed, in order. -/
  methods : ∀ package ∈ report.packages, ∀ c ∈ package.classes,
    c.methods.map Method.withoutRate =
      ((about c.key (classStepsIn package.name steps)).filterMap Class.Step.pushed?).map
        Method.withoutRate

/-- **Each node is what the steps that name it make of it.** -/
theorem gathered_afterSteps (timestamp : Int) (steps : List Step) :
    Gathered steps (afterSteps timestamp steps) := by
  have classes : ∀ package ∈ (afterSteps timestamp steps).packages,
      package.classes = ((classStepsIn package.name steps).map (·.1)).eraseDups.map fun key =>
        (about key (classStepsIn package.name steps)).foldl Class.Step.apply
          (.empty key.name key.file) := by
    intro package member
    rw [packages_afterSteps] at member
    obtain ⟨name, _, rfl⟩ := List.mem_map.mp member
    rw [keyOf_foldl Package.name fun package step => step.name_apply package]
    exact Package.classes_foldl name _
  refine ⟨sources_afterSteps timestamp steps, packages_afterSteps timestamp steps, classes, ?_⟩
  intro package member c isClass
  rw [classes package member] at isClass
  obtain ⟨key, _, rfl⟩ := List.mem_map.mp isClass
  rw [keyOf_foldl Class.key fun c step => step.key_apply c]
  exact Class.methods_foldl _ _

end Run

/-! ## Looking up nodes -/

/-- The packages, with a new one if none has the name, and the place of the one that has it. -/
def lookUpPackage (report : Report) (name : String) : List Package × Nat :=
  lookUp (·.name == name) (.empty name) report.packages

/-- The classes, with a new one if none has the name and file, and the place of the one that has
them. -/
def Package.lookUpClass (package : Package) (name file : String) : List Class × Nat :=
  lookUp (fun c => c.name == name && c.file == file) (.empty name file) package.classes

/-- A node is looked up by its name: it is found where it stands, or made new at the end, and what
is done to it is done at its place. -/
structure FindsNodes (report : Report) : Prop where
  package : ∀ name, LooksUp Package.name name (.empty name) report.packages
    (report.lookUpPackage name)
  atPackage : ∀ name change, report.changePackage name change =
    { report with
      packages := (report.lookUpPackage name).1.modify (report.lookUpPackage name).2 change }
  ofClass : ∀ package ∈ report.packages, ∀ name file,
    LooksUp Class.key ⟨name, file⟩ (.empty name file) package.classes
      (package.lookUpClass name file)
  atClass : ∀ (package : Package) (name file : String) change,
    package.changeClass name file change =
      { package with
        classes := (package.lookUpClass name file).1.modify (package.lookUpClass name file).2
          change }

theorem Distinct.findsNodes {report : Report} (h : report.Distinct) : report.FindsNodes where
  package name := looksUp_lookUp name (.empty name) h.packages
  atPackage name change := by
    rw [changePackage, changeOrAdd_eq_modify]
    rfl
  ofClass package member name file := by
    rw [Package.lookUpClass, ← Class.key_beq]
    exact looksUp_lookUp ⟨name, file⟩ (.empty name file) (h.classes package member)
  atClass package name file change := by
    rw [Package.changeClass, changeOrAdd_eq_modify]
    rfl

/-- **At every moment of its life a report has no name twice, and an operation alters nothing but
the node that it names.**  A node that is known is found where it stands, and looking it up changes
nothing; one that is new is put at the end, empty.  So each node is what the operations that name it
make of an empty one, and the nodes are in the order in which they were named first. -/
theorem steps_alter_named_only (timestamp : Int) (steps : List Step) :
    let report := afterSteps timestamp steps
    report.Distinct ∧ Gathered steps report ∧ report.FindsNodes ∧
      ∀ step : Step, step.Frame report (step.apply report) := by
  intro report
  have distinct : report.Distinct := distinct_afterSteps timestamp steps
  exact ⟨distinct, gathered_afterSteps timestamp steps, distinct.findsNodes,
    fun step => step.frame_apply distinct⟩

/-- Two packages, one of them met again with the class that it has, and a directory met again. -/
example :
    let report := afterSteps 0 [.ofPackage "m/a" (.ofClass "-" "a.go" .look),
      .ofPackage "m/b" .look, .ofPackage "m/a" (.ofClass "-" "a.go" .look), .addSource "/m",
      .addSource "/m"]
    (report.packages.map fun package => (package.name, package.classes.length)) =
        [("m/a", 1), ("m/b", 0)] ∧ report.sources = ["/m"] := by
  decide +kernel

end GoCoverage.Report
