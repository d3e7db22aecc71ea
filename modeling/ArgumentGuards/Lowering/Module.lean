import ArgumentGuards.Lowering.Guard
import ArgumentGuards.Module.Lowered
import ArgumentGuards.Module.Source

/-!
# Lowering modules

The functions of a module are lowered one after the other and keep their order. The first one that
fails ends the run with its error; the members that were generated before it stay. How many workers
share the functions makes no difference to the result, so a number of workers is part of the options
only.
-/

namespace ArgumentGuards

/-- How a module is lowered. -/
structure LoweringOptions where
  /-- The number of workers that share the functions. -/
  workers : Nat := 1
  /-- Whether the run is cancelled before it begins. -/
  cancelled : Bool := false

/-- A function with guards for its checked parameters. -/
def SourceFunction.lower (f : SourceFunction) : Lowering LoweredFunction := do
  match ← guardBlock f.parameters f.body with
  | none => return ⟨f.name, f.parameters, f.returnType, f.body, 0⟩
  | some body =>
    -- all that was added stands in front
    let added := body.statements.length - f.body.statements.length
    return ⟨f.name, f.parameters, f.returnType, body, added⟩

/-- Functions with guards, in order. -/
def lowerAll : List SourceFunction → Lowering (List LoweredFunction)
  | [] => return []
  | f :: rest => do
    let first ← f.lower
    let more ← lowerAll rest
    return first :: more

/-- Functions of a module; a cancelled run takes none, which is an error if there are any. -/
def lowerIn (module : String) (options : LoweringOptions) (functions : List SourceFunction) :
    Lowering (List LoweredFunction) :=
  if options.cancelled && !functions.isEmpty then throw (.cancelled module)
  else lowerAll functions

/-- Lowers functions into a module that is there already. -/
def CompiledModule.lower (module : CompiledModule) (options : LoweringOptions)
    (functions : List SourceFunction) :
    Except LoweringError (List LoweredFunction) × CompiledModule :=
  match (lowerIn module.name options functions).run module.members with
  | .ok lowered members => (.ok lowered, { module with members })
  | .error error members => (.error error, { module with members })

/-- Lowers a module source into a new module. -/
def SourceModule.lower (source : SourceModule) (id : String) (options : LoweringOptions) :
    Except LoweringError LoweredModule :=
  match CompiledModule.lower { id, name := source.name } options source.functions with
  | (.ok functions, module) => .ok ⟨module, functions⟩
  | (.error error, _) => .error error

/-- Loads and lowers the module of a file, or tells what is wrong with it. -/
def lowerFile {m : Type → Type} [Monad m] (fs : FileSystem m) (path id : String)
    (options : LoweringOptions) : m (Except Report LoweredModule) := do
  match ← SourceModule.load fs path with
  | .error error => return .error error.report
  | .ok source =>
    match source.lower id options with
    | .error error => return .error error.report
    | .ok lowered => return .ok lowered

end ArgumentGuards
