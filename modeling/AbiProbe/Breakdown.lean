import AbiProbe.Toolchain.SystemError

/-! # Breakdowns

A breakdown ends a program in the middle of what it does, where the runtime cannot do what it is
told to.
-/

namespace AbiProbe

/-- Why a program breaks down. -/
inductive Breakdown
  /-- A cell of a table is asked to be wider than cells can be. -/
  | cellTooWide
  /-- The standard output takes no more. -/
  | unprintable (reason : SystemError)
deriving DecidableEq, Repr

/-- A breakdown in the words of the runtime. -/
def Breakdown.message : Breakdown → String
  | cellTooWide => "Formatting argument out of range"
  | unprintable reason => "failed printing to stdout: " ++ reason.message

end AbiProbe
