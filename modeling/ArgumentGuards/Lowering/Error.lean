import ArgumentGuards.Report

/-!
# Why lowering stops

Either an earlier phase handed over a tree that it promised never to, which is a defect, or the run
was cancelled between two functions.
-/

namespace ArgumentGuards

/-- Why lowering stops. -/
inductive LoweringError where
  /-- A promise of an earlier phase is broken, as a report tells. -/
  | defect (report : Report)
  /-- The run of a module was cancelled. -/
  | cancelled (module : String)
  deriving DecidableEq, Repr

namespace LoweringError

/-- A parameter that can never be absent is to be checked for null. -/
def neverAbsent (parameter type : String) : LoweringError :=
  .defect {
    level := .critical
    message := "parameter `" ++ parameter ++ "` of non-nullable value type `" ++ type
      ++ "` is marked null-checked"
    issuer := "null_check::build_condition" }

/-- The report of an error. -/
def report : LoweringError → Report
  | .defect report => report
  | .cancelled module => {
      level := .error
      message := "lowering of module `" ++ module ++ "` was cancelled"
      issuer := "lower_module" }

/-- The wording of an error with its place. -/
def render (e : LoweringError) : String :=
  match e.report.location with
  | some here => e.report.message ++ " at " ++ here.render
  | none => e.report.message

end LoweringError

end ArgumentGuards
