import ArgumentGuards.Module.Lowered
import ArgumentGuards.Text.Table

/-!
# Summaries of lowered modules

A summary has a row for each function of each module, and a line of totals.
-/

namespace ArgumentGuards.Summary

/-- The row of a function. -/
def row (module : String) (f : LoweredFunction) : List String :=
  [module, f.name, Nat.repr f.parameters.length, Nat.repr f.guards]

/-- The rows of a module. -/
def rows (lowered : LoweredModule) : List (List String) :=
  lowered.functions.map (row lowered.module.name)

/-- The table of some modules. -/
def table (modules : List LoweredModule) : Table where
  columns := [⟨"Module", .left⟩, ⟨"Function", .left⟩, ⟨"Parameters", .right⟩, ⟨"Guards", .right⟩]
  rows := modules.flatMap rows

/-- The totals of some modules. -/
def footer (modules : List LoweredModule) : String :=
  let functions := (modules.map fun lowered => lowered.functions.length).foldr (· + ·) 0
  let guards := (modules.map LoweredModule.totalGuards).foldr (· + ·) 0
  Nat.repr modules.length ++ " module(s), " ++ Nat.repr functions ++ " function(s), "
    ++ Nat.repr guards ++ " guard(s)"

end ArgumentGuards.Summary
