import ArgumentGuards.Lowering.Synthesis

/-!
# Guards for checked parameters

For every parameter that is checked for null, a guard is put in front of the function's body. It
tests whether the argument is absent, calls the helper that throws, and returns: the helper does not
come back, but the branch has a regular exit all the same. Debuggers pass over guards.
-/

namespace ArgumentGuards

/-- The test that holds when a parameter's argument is absent. -/
def absenceTest (p : Parameter) : Except LoweringError Expr :=
  if !p.type.admitsNull then .error (.neverAbsent p.name p.type.name)
  else if p.type.isNullable then .ok (.unary .not (.hasValue (.ofParameter p)))
  else .ok (.isNull (.ofParameter p))

/-- The guard that tests by a condition and calls a helper with a parameter's name. -/
def guardOf (condition : Expr) (helper : Method) (p : Parameter) : Stmt :=
  .hidden (.conditional condition
    (.braced [.expression (.call helper [.text p.name]), .ret none]) none)

/-- The guard of a parameter. No helper is made for a parameter without a test. -/
def guard (p : Parameter) : Lowering Stmt := do
  let condition ← match absenceTest p with
    | .ok condition => pure condition
    | .error error => throw error
  let helper ← getThrowHelper
  return guardOf condition helper p

/-- The guards of some parameters, in order. -/
def guards : List Parameter → Lowering (List Stmt)
  | [] => return []
  | p :: rest => do
    let first ← guard p
    let more ← guards rest
    return first :: more

/--
The guards of all checked parameters and then the statements; nothing if no parameter is checked, in
which case the statements stay as they are.
-/
def guardStatements (parameters : List Parameter) (statements : List Stmt) :
    Lowering (Option (List Stmt)) := do
  match parameters.filter Parameter.nullChecked with
  | [] => return none
  | checked => return some ((← guards checked) ++ statements)

/-- A block with guards in front of its statements, or nothing if no parameter is checked. -/
def guardBlock (parameters : List Parameter) (block : Block) : Lowering (Option Block) := do
  let statements ← guardStatements parameters block.statements
  return statements.map fun statements => ⟨block.locals, statements⟩

end ArgumentGuards
