import ArgumentGuards.Eval.Frame

/-!
# The state of a run

Two counters bound a run. Every statement that is begun takes a step, and calls are nested no deeper
than a limit. Both counters are part of the state and are there however a run ends; statements have
the frame of their call in their state too.
-/

namespace ArgumentGuards

/-- The bounds of a run. -/
structure Limits where
  steps : Nat := 1000000
  depth : Nat := 64

/-- The counters of a run: the statements begun so far, and the calls that are open. -/
structure Meter where
  steps : Nat
  depth : Nat
  deriving DecidableEq, Repr

/-- The counters before a run. -/
def Meter.zero : Meter := ⟨0, 0⟩

/-- The state in which statements are executed. -/
structure Machine where
  meter : Meter
  frame : Frame

/-- Expressions and calls: they leave the frame as it is. -/
abbrev Metered := EStateM Interrupt Meter

/-- Statements. -/
abbrev Stepped := EStateM Interrupt Machine

/-- How an expression calls a method. -/
abbrev Caller := Method → List Value → Metered Value

/-- How a statement ends that runs to its end. -/
inductive Completion where
  | normal
  | returned (value : Value)

/-- The result of a call: null if no statement returned. -/
def Completion.result : Completion → Value
  | .normal => .null
  | .returned value => value

/-- The result of an operation. -/
def settle {σ α : Type} : Except Interrupt α → EStateM Interrupt σ α
  | .ok a => pure a
  | .error interrupt => throw interrupt

/-- The value of a name, or the fault of a name that is not bound. -/
def fetch (bindings : Bindings) (name : String) : Metered Value :=
  match bindings.lookup name with
  | some value => pure value
  | none => throw (.fault (.unknownVariable name))

/-- Evaluates in the frame of the machine. -/
def inFrame {α : Type} (run : Frame → Metered α) : Stepped α := fun machine =>
  match run machine.frame machine.meter with
  | .ok a meter => .ok a { machine with meter }
  | .error interrupt meter => .error interrupt { machine with meter }

/-- Takes a step. The step beyond the limit is counted, and is a fault. -/
def takeStep (limits : Limits) : Stepped Unit := fun machine =>
  let machine := { machine with meter.steps := machine.meter.steps + 1 }
  if limits.steps < machine.meter.steps then
    .error (.fault (.stepLimit limits.steps)) machine
  else .ok () machine

/-- Executes in a block with variables. However that ends, the block is left. -/
def withLocals {α : Type} (declared : List Local) (run : Stepped α) : Stepped α := fun machine =>
  match run { machine with frame := machine.frame.enterBlock declared } with
  | .ok a machine => .ok a { machine with frame := machine.frame.leaveBlock declared }
  | .error interrupt machine =>
    .error interrupt { machine with frame := machine.frame.leaveBlock declared }

/-- Assigns a value to a variable or parameter. -/
def assign (name : String) (value : Value) : Stepped Unit := fun machine =>
  match machine.frame.assign? name value with
  | some frame => .ok () { machine with frame }
  | none => .error (.fault (.unknownVariable name)) machine

end ArgumentGuards
