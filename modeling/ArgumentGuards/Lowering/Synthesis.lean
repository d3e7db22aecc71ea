import ArgumentGuards.Lowering.Error
import ArgumentGuards.Module.Members

/-!
# The generated helpers

Two members can be generated for a module: one throws for an absent argument, and every guard calls
it; the other one hashes a text. Both are made when first asked for.
-/

namespace ArgumentGuards

/-- Lowering: the members of the module grow, also in a run that stops with an error. -/
abbrev Lowering := EStateM LoweringError Members

namespace Expr

/-- The null constant. -/
def null : Expr := .literal .null

/-- A constant text. -/
def text (s : String) : Expr := .literal (.text s)

/-- Whether an operand is null. -/
def isNull (operand : Expr) : Expr := .binary .equal operand null

/-- Whether an operand is not null. -/
def isNotNull (operand : Expr) : Expr := .binary .notEqual operand null

end Expr

/-! ## Throwing for an absent argument -/

/-- The exception for an absent argument. -/
def argumentNullException : Ty := .reference "System.ArgumentNullException"

/-- The constructor of the exception, which takes the name of the parameter. -/
def argumentNullConstructor : Method :=
  .constructorOf argumentNullException [⟨"paramName", .string, false, 0⟩]

/-- The name of the helper that throws. -/
def throwHelperName : String := "ThrowIfNull"

/-- The helper that throws: its body is one throw of the exception with the name it is given. -/
def throwHelper : Member :=
  let name : Parameter := ⟨"name", .string, false, 0⟩
  { symbol := ⟨throwHelperName, Members.container, [name], .void, .synthesized⟩
    body := ⟨[], [.throw (.construct argumentNullConstructor [.ofParameter name])]⟩ }

/-- The module's helper that throws. -/
def getThrowHelper : Lowering Method := do
  let ((helper, _), members) := (← get).getOrBuild throwHelperName fun _ => ⟨throwHelper, rfl⟩
  set members
  return helper

/-! ## Hashing a text -/

/-- The start of a 32-bit FNV-1a hash. -/
def fnvOffsetBasis : UInt32 := 2166136261

/-- The factor of a 32-bit FNV-1a hash. -/
def fnvPrime : UInt32 := 16777619

/-- The name of the helper that hashes. -/
def hashHelperName : String := "ComputeStringHash"

/--
The helper that hashes: FNV-1a over the UTF-16 code units of the text it is given, and the start
value for null.
-/
def hashHelper : Member :=
  let s : Parameter := ⟨"s", .string, false, 0⟩
  let hash : Expr := .localVar "hash"
  let i : Expr := .localVar "i"
  let mix : Expr :=
    .binary .multiply (.binary .xor (.charAt (.ofParameter s) i) hash) (.literal (.uint fnvPrime))
  let step : Expr := .binary .add i (.literal (.int 1))
  let scan : Stmt := .braced [
    .assign "i" (.literal (.int 0)),
    .loop (.binary .lessThan i (.length (.ofParameter s)))
      (.braced [.assign "hash" mix, .assign "i" step])]
  { symbol := ⟨hashHelperName, Members.container, [s], .uint, .synthesized⟩
    body := ⟨[⟨"hash", .uint⟩, ⟨"i", .int⟩], [
      .assign "hash" (.literal (.uint fnvOffsetBasis)),
      .conditional (.isNotNull (.ofParameter s)) scan none,
      .ret (some hash)]⟩ }

/-- The module's helper that hashes. -/
def getHashHelper : Lowering Method := do
  let ((helper, _), members) := (← get).getOrBuild hashHelperName fun _ => ⟨hashHelper, rfl⟩
  set members
  return helper

end ArgumentGuards
