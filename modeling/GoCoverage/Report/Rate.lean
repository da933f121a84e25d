/-! # Rates -/

namespace GoCoverage.Report

/-- The share of a total that is covered, and zero of nothing.  Both numbers are rounded to
floating-point numbers before they are divided. -/
def rate (covered total : Nat) : Float :=
  if total = 0 then 0 else covered.toFloat / total.toFloat

/-- A rate in percent. -/
def percent (rate : Float) : Float := rate * 100

end GoCoverage.Report
