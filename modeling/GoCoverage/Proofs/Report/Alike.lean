import Mathlib.Data.List.Forall2
import GoCoverage.Report.Tree

/-! # Reports that look alike

A format shows the data of a report, but of a rate only a text, and perhaps not whether a signature
is missing or empty.  Two reports are alike in a format if they agree in everything that it
shows. -/

namespace GoCoverage.Report

/-- What a format shows of a rate and of a signature. -/
structure Shown (σ : Type) where
  rate : Float → String
  signature : Option String → σ

variable {σ : Type} (shown : Shown σ)

/-- Methods that agree in what is shown of them. -/
structure Method.Alike (method other : Method) : Prop where
  name : method.name = other.name
  signature : shown.signature method.signature = shown.signature other.signature
  lineRate : shown.rate method.lineRate = shown.rate other.lineRate
  lines : method.lines = other.lines

/-- Classes that agree in what is shown of them and of their methods. -/
structure Class.Alike (c other : Class) : Prop where
  name : c.name = other.name
  file : c.file = other.file
  lineRate : shown.rate c.lineRate = shown.rate other.lineRate
  methods : List.Forall₂ (Method.Alike shown) c.methods other.methods
  lines : c.lines = other.lines

/-- Packages that agree in what is shown of them and of their classes. -/
structure Package.Alike (package other : Package) : Prop where
  name : package.name = other.name
  lineRate : shown.rate package.lineRate = shown.rate other.lineRate
  classes : List.Forall₂ (Class.Alike shown) package.classes other.classes

/-- Reports that agree in what is shown of them and of their packages. -/
structure Alike (report other : Report) : Prop where
  version : report.version = other.version
  timestamp : report.timestamp = other.timestamp
  lineRate : shown.rate report.lineRate = shown.rate other.lineRate
  branchRate : shown.rate report.branchRate = shown.rate other.branchRate
  linesCovered : report.linesCovered = other.linesCovered
  linesValid : report.linesValid = other.linesValid
  branchesCovered : report.branchesCovered = other.branchesCovered
  branchesValid : report.branchesValid = other.branchesValid
  complexity : shown.rate report.complexity = shown.rate other.complexity
  sources : report.sources = other.sources
  packages : List.Forall₂ (Package.Alike shown) report.packages other.packages

/-- Lists that are shown as the same list have items that are alike, one by one. -/
theorem forall₂_of_map_eq {α β : Type} {show' : α → β} {alike : α → α → Prop}
    (shows : ∀ item other, show' item = show' other → alike item other) {items others : List α}
    (same : items.map show' = others.map show') : List.Forall₂ alike items others := by
  rw [← List.forall₂_eq_eq_eq, List.forall₂_map_left_iff, List.forall₂_map_right_iff] at same
  exact same.imp shows

/-- Lists whose items are alike, one by one, are shown as the same list if alike items are shown as
the same. -/
theorem map_eq_of_forall₂ {α β : Type} {show' : α → β} {alike : α → α → Prop}
    (same : ∀ item other, alike item other → show' item = show' other) {items others : List α}
    (h : List.Forall₂ alike items others) : items.map show' = others.map show' := by
  rw [← List.forall₂_eq_eq_eq, List.forall₂_map_left_iff, List.forall₂_map_right_iff]
  exact h.imp same

/-- A line table is known from a list that shows each of its lines. -/
theorem lines_eq_of_map_eq {β : Type} {show' : Line → β} (injective : Function.Injective show')
    {lines others : Lines} (same : lines.toList.map show' = others.toList.map show') :
    lines = others := by
  obtain ⟨lines, ascending⟩ := lines
  obtain ⟨others, ascending'⟩ := others
  rw [Lines.mk.injEq]
  exact injective.list_map same

end GoCoverage.Report
