/-!
# Planned faults

A scripted device fails chosen calls of each kind. A fault plan counts the calls of one kind and
knows the numbers of those that fail.
-/

namespace Sdci

/-- The calls of one kind, and which of them fail. -/
structure FaultPlan where
  /-- The numbers of the calls that fail, counted from zero. -/
  failing : List Nat := []
  /-- How many calls were made. -/
  made : Nat := 0
deriving DecidableEq, Repr, Inhabited

namespace FaultPlan

variable (plan : FaultPlan)

/-- The next call fails. -/
def nextFails : Bool := plan.made ∈ plan.failing

/-- The plan when one more call was made. -/
def advance : FaultPlan := { plan with made := plan.made + 1 }

end FaultPlan

end Sdci
