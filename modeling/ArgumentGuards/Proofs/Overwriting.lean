import ArgumentGuards.Proofs.Restoration
import Mathlib

/-!
# Overwriting and undoing

There is another way to hide variables than to keep a stack of them: one value for each name, which
a declaration overwrites, and which is put back when the block is left. Declarations have to be
undone in the reverse of their order then, since a block may declare a name twice.

Here is an evaluator that works like this (`Flat`). It never sees a hidden variable, only what a
frame shows. What a frame shows is a function of the frame (`Frame.flat`), and every run of one
evaluator ends as the same run of the other one does, in a frame that shows the same
(`Flat.exec_mirrors`). For a block this takes more than that the statements inside do: what the
stack has below the block must not have changed under it, but for assignments, and that is what
`AssignsOnly` says. Calls leave no frame behind, so whole runs are equal (`Flat.run_eq`).
-/

namespace ArgumentGuards

/-! ## One value for each name -/

/-- The variables that no other variable hides: one value for each name. -/
abbrev Visible := String → Option Value

/-- What a frame shows of its variables. -/
def Frame.visible (frame : Frame) : Visible := fun name => frame.locals.lookup name

namespace Visible

/-- Declares variables by overwriting what their names had before. -/
def declare : List Local → Visible → Visible
  | [], shown => shown
  | l :: rest, shown => declare rest (Function.update shown l.name (some (.initial l.type)))

/-- What each of the names had when it was declared. -/
def overwritten : List Local → Visible → List (String × Option Value)
  | [], _ => []
  | l :: rest, shown =>
    (l.name, shown l.name)
      :: overwritten rest (Function.update shown l.name (some (.initial l.type)))

/-- Puts back what has been overwritten, the last declaration first. -/
def undo : List (String × Option Value) → Visible → Visible
  | [], shown => shown
  | (name, outer) :: rest, shown => Function.update (undo rest shown) name outer

/-- A name that is declared several times has, when all is undone, what it had before the first
declaration. -/
theorem undo_overwritten (declared : List Local) (before after : Visible) (name : String) :
    undo (overwritten declared before) after name
      = if name ∈ declared.map Local.name then before name else after name := by
  induction declared generalizing before with
  | nil => exact (if_neg List.not_mem_nil).symm
  | cons l rest ih =>
      rw [overwritten, undo, Function.update_apply, ih, Function.update_apply, List.map_cons]
      -- the first declaration is undone last, so what it overwrote is what is left
      by_cases first : name = l.name
      · rw [if_pos first, if_pos (first ▸ List.mem_cons_self), first]
      · by_cases later : name ∈ rest.map Local.name
        · rw [if_neg first, if_pos later, if_neg first, if_pos (List.mem_cons_of_mem _ later)]
        · have undeclared : name ∉ l.name :: rest.map Local.name := fun here =>
            (List.mem_cons.mp here).elim first later
          rw [if_neg first, if_neg later, if_neg undeclared]

theorem declare_eq (declared : List Local) (frame : Frame) :
    declare declared frame.visible = (frame.enterBlock declared).visible := by
  induction declared generalizing frame with
  | nil => rfl
  | cons l rest ih =>
      let binding : String × Value := (l.name, .initial l.type)
      let first : Frame := { frame with locals := binding :: frame.locals }
      have updated : Function.update frame.visible l.name (some (.initial l.type))
          = first.visible := by
        funext name
        dsimp only [Frame.visible, first, binding]
        rw [Function.update_apply, List.lookup_cons]
        by_cases same : name = l.name
        · rw [if_pos same, beq_iff_eq.mpr same]
        · rw [if_neg same, beq_eq_false_iff_ne.mpr same]
          rfl
      have entered : first.enterBlock rest = frame.enterBlock (l :: rest) := by
        dsimp only [Frame.enterBlock, first, binding]
        rw [List.map_cons, List.reverse_cons, List.append_assoc]
        rfl
      rw [declare, updated, ih, entered]

end Visible

/-- A name that a block does not declare means the same inside and after the block. -/
theorem Frame.visible_leaveBlock {declared : List Local} {before after : Frame} {name : String}
    (keys : after.locals.map Prod.fst = (before.enterBlock declared).locals.map Prod.fst)
    (undeclared : name ∉ declared.map Local.name) :
    (after.leaveBlock declared).visible name = after.visible name := by
  have declares : (after.locals.take declared.length).map Prod.fst
      = (declared.map Local.name).reverse := by
    rw [List.map_take, keys, Frame.enterBlock, List.map_append, List.map_reverse, List.map_map,
      List.take_left' (by rw [List.length_reverse, List.length_map])]
    rfl
  have absent : (after.locals.take declared.length).lookup name = none := by
    rw [List.lookup_eq_none_iff]
    intro binding here
    have declaredHere : binding.1 ∈ (declared.map Local.name).reverse :=
      declares ▸ List.mem_map_of_mem here
    refine bne_iff_ne.mpr fun same => undeclared ?_
    rw [same]
    exact List.mem_reverse.mp declaredHere
  have split := List.take_append_drop declared.length after.locals
  unfold Frame.visible Frame.leaveBlock
  rw [← split, List.lookup_append, absent, split]
  rfl

/-- **Leaving a block undoes its declarations**, the last one first. -/
theorem Visible.undo_overwritten_leaveBlock {assigned : String → Prop} {declared : List Local}
    {before after : Frame} (h : (before.enterBlock declared).Kept assigned after) :
    undo (overwritten declared before.visible) after.visible
      = (after.leaveBlock declared).visible := by
  funext name
  rw [undo_overwritten]
  by_cases declaredHere : name ∈ declared.map Local.name
  · -- an assignment to a declared name inside of the block is none outside of it
    have restored : before.Kept (fun n => n ∉ declared.map Local.name)
        (after.leaveBlock declared) := h.leaveBlock fun _ undeclared _ => undeclared
    rw [if_pos declaredHere]
    exact (restored.locals.lookup (not_not_intro declaredHere)).symm
  · rw [if_neg declaredHere, Frame.visible_leaveBlock h.locals.keys declaredHere]

/-! ## An evaluator with one value for each name -/

/-- The frame of a call, with one value for each name. -/
structure FlatFrame where
  parameters : Visible
  locals : Visible

/-- The state in which statements are executed on such a frame. -/
structure FlatMachine where
  meter : Meter
  frame : FlatFrame

/-- Statements on such a frame. -/
abbrev FlatStepped := EStateM Interrupt FlatMachine

namespace FlatFrame

/-- Inserts values under names: of two values for one name the later one stays. -/
def insertAll (slots : Visible) : List (String × Value) → Visible
  | [] => slots
  | (name, value) :: rest => insertAll (Function.update slots name (some value)) rest

/-- The frame of a call. -/
def ofArguments (parameters : List Parameter) (args : List Value) : FlatFrame where
  parameters := insertAll (fun _ => none) ((parameters.map Parameter.name).zip args)
  locals _ := none

/-- The frame with another value for a name: a variable hides a parameter. -/
def assign? (frame : FlatFrame) (name : String) (value : Value) : Option FlatFrame :=
  match frame.locals name, frame.parameters name with
  | some _, _ => some { frame with locals := Function.update frame.locals name (some value) }
  | none, some _ =>
    some { frame with parameters := Function.update frame.parameters name (some value) }
  | none, none => none

end FlatFrame

namespace Flat

/-- The value of a name, or the fault of a name that has none. -/
def fetch (slots : Visible) (name : String) : Metered Value :=
  match slots name with
  | some value => pure value
  | none => throw (.fault (.unknownVariable name))

mutual

/-- The value of an expression in a frame. -/
def eval (call : Caller) (frame : FlatFrame) : Expr → Metered Value
  | .literal value => pure (.ofLiteral value)
  | .parameter name _ => fetch frame.parameters name
  | .localVar name => fetch frame.locals name
  | .unary op operand => do
    let value ← eval call frame operand
    settle (op.apply value)
  | .binary op left right => do
    let a ← eval call frame left
    let b ← eval call frame right
    settle (op.apply a b)
  | .hasValue operand => do
    let value ← eval call frame operand
    settle value.holdsValue
  | .call method args => do
    let values ← evalAll call frame args
    call method values
  | .construct constructor args => do
    let values ← evalAll call frame args
    return .object constructor.container values
  | .length operand => do
    let value ← eval call frame operand
    settle value.textLength
  | .charAt operand index => do
    let target ← eval call frame operand
    let position ← eval call frame index
    settle (target.codeUnit position)

/-- The values of some expressions, the first one first. -/
def evalAll (call : Caller) (frame : FlatFrame) : List Expr → Metered (List Value)
  | [] => return []
  | e :: rest => do
    let value ← eval call frame e
    let more ← evalAll call frame rest
    return value :: more

end

/-- Evaluates in the frame of the machine. -/
def inFrame {α : Type} (run : FlatFrame → Metered α) : FlatStepped α := fun machine =>
  match run machine.frame machine.meter with
  | .ok a meter => .ok a { machine with meter }
  | .error interrupt meter => .error interrupt { machine with meter }

/-- Takes a step. The step beyond the limit is counted, and is a fault. -/
def takeStep (limits : Limits) : FlatStepped Unit := fun machine =>
  let machine := { machine with meter.steps := machine.meter.steps + 1 }
  if limits.steps < machine.meter.steps then
    .error (.fault (.stepLimit limits.steps)) machine
  else .ok () machine

/-- Assigns a value to a variable or parameter. -/
def assign (name : String) (value : Value) : FlatStepped Unit := fun machine =>
  match machine.frame.assign? name value with
  | some frame => .ok () { machine with frame }
  | none => .error (.fault (.unknownVariable name)) machine

/-- Executes in a block with variables. Whatever they overwrite is put back, however that ends. -/
def withLocals {α : Type} (declared : List Local) (run : FlatStepped α) : FlatStepped α :=
  fun machine =>
    let shadowed := Visible.overwritten declared machine.frame.locals
    match run { machine with frame.locals := Visible.declare declared machine.frame.locals } with
    | .ok a after => .ok a { after with frame.locals := Visible.undo shadowed after.frame.locals }
    | .error interrupt after =>
      .error interrupt { after with frame.locals := Visible.undo shadowed after.frame.locals }

/-- Executes a body as long as a test holds, at most so many times. -/
def repeatWhile (limits : Limits) (test : FlatStepped Bool) (body : FlatStepped Completion) :
    Nat → FlatStepped Completion
  | 0 => throw (.fault (.stepLimit limits.steps))
  | times + 1 => do
    if ← test then
      match ← body with
      | .normal => repeatWhile limits test body times
      | .returned value => return .returned value
    else return .normal

/-- The truth of a condition in the frame of the machine. -/
def test (call : Caller) (condition : Expr) : FlatStepped Bool :=
  inFrame fun frame => do settle (← eval call frame condition).truth

mutual

/-- Executes a statement. -/
def exec (limits : Limits) (call : Caller) : Stmt → FlatStepped Completion
  | .expression expr => do
    takeStep limits
    let _ ← inFrame fun frame => eval call frame expr
    return .normal
  | .ret none => do
    takeStep limits
    return .returned .null
  | .ret (some expr) => do
    takeStep limits
    return .returned (← inFrame fun frame => eval call frame expr)
  | .conditional condition thenBranch none => do
    takeStep limits
    if ← test call condition then exec limits call thenBranch else return .normal
  | .conditional condition thenBranch (some elseBranch) => do
    takeStep limits
    if ← test call condition then exec limits call thenBranch else exec limits call elseBranch
  | .throw expr => do
    takeStep limits
    let exception ← inFrame fun frame => eval call frame expr
    MonadExcept.throw (Interrupt.thrown exception)
  | .assign target expr => do
    takeStep limits
    let value ← inFrame fun frame => eval call frame expr
    assign target value
    return .normal
  | .loop condition body => do
    takeStep limits
    let rounds := limits.steps + 1 - (← get).meter.steps
    repeatWhile limits (test call condition) (exec limits call body) rounds
  | .block ⟨locals, statements⟩ => do
    takeStep limits
    withLocals locals (execAll limits call statements)
  | .sequencePoint _ statement => do
    takeStep limits
    exec limits call statement

/-- Executes statements up to the first one that returns. -/
def execAll (limits : Limits) (call : Caller) : List Stmt → FlatStepped Completion
  | [] => return .normal
  | s :: rest => do
    match ← exec limits call s with
    | .normal => execAll limits call rest
    | .returned value => return .returned value

end

/-- Executes the statements of a block with its variables. -/
def execBlock (limits : Limits) (call : Caller) (b : Block) : FlatStepped Completion :=
  withLocals b.locals (execAll limits call b.statements)

/-- Runs the body of a call one level down. However it ends, the level is left. -/
def runBody (limits : Limits) (call : Caller) (callee : Callee) (args : List Value) :
    Metered Value := fun meter =>
  let frame := FlatFrame.ofArguments callee.parameters args
  match execBlock limits call callee.body ⟨{ meter with depth := meter.depth + 1 }, frame⟩ with
  | .ok completion machine => .ok completion.result { machine.meter with depth := meter.depth }
  | .error interrupt machine => .error interrupt { machine.meter with depth := meter.depth }

/-- How methods are called when it is known how what they call is called. -/
def caller (i : Interpreter) (within : Callee → List Value → Metered Value) : Caller :=
  fun method args =>
    match i.resolve method with
    | .ok callee => within callee args
    | .error error => throw (.fault error)

/-- Calls with so many levels left, which are as many as the limit leaves. -/
def callWithin (i : Interpreter) : Nat → Callee → List Value → Metered Value
  | 0, callee, args =>
    Interpreter.enter i.limits callee args (Interpreter.tooDeep i.limits callee)
  | levels + 1, callee, args =>
    Interpreter.enter i.limits callee args
      (runBody i.limits (caller i (callWithin i levels)) callee args)

/-- How an invocation ends, and its counters then. -/
def run (i : Interpreter) (name : String) (args : List Value) :
    EStateM.Result Interrupt Meter Value :=
  match i.function? name with
  | some callee => callWithin i i.limits.depth callee args .zero
  | none => .error (.fault (.unknownFunction name)) .zero

end Flat

/-! ## What frames show -/

/-- What a frame shows of its names. -/
def Frame.flat (frame : Frame) : FlatFrame where
  parameters name := frame.parameters.lookup name
  locals := frame.visible

/-- What a machine shows of its frame. -/
def Machine.flat (machine : Machine) : FlatMachine := ⟨machine.meter, machine.frame.flat⟩

namespace FlatFrame

theorem insertAll_eq (pairs : List (String × Value)) (slots : Visible) (name : String) :
    insertAll slots pairs name = (pairs.reverse.lookup name).or (slots name) := by
  induction pairs generalizing slots with
  | nil => rfl
  | cons pair rest ih =>
      obtain ⟨n, value⟩ := pair
      rw [insertAll, ih, List.reverse_cons, List.lookup_append, Option.or_assoc]
      by_cases same : name = n
      · subst same
        rw [Function.update_self, List.lookup_cons_self, Option.some_or]
      · rw [Function.update_of_ne same, List.lookup_cons, beq_eq_false_iff_ne.mpr same]
        rfl

end FlatFrame

theorem Frame.flat_ofArguments (parameters : List Parameter) (args : List Value) :
    (Frame.ofArguments parameters args).flat = FlatFrame.ofArguments parameters args := by
  have inserted : (fun name => (((parameters.map Parameter.name).zip args).reverse).lookup name)
      = FlatFrame.insertAll (fun _ => none) ((parameters.map Parameter.name).zip args) := by
    funext name
    rw [FlatFrame.insertAll_eq, Option.or_none]
  unfold Frame.ofArguments Frame.flat FlatFrame.ofArguments
  rw [← inserted]
  rfl

namespace Bindings

variable {bindings after : Bindings} {name : String} {value : Value}

/-- An assignment changes what its name shows, and nothing else. -/
theorem lookup_assigned (h : bindings.assign? name value = some after) :
    (fun n => after.lookup n)
      = Function.update (fun n => bindings.lookup n) name (some value) := by
  funext n
  by_cases same : n = name
  · rw [same, Function.update_self, lookup_assign?_self h]
  · rw [Function.update_of_ne same, lookup_assign?_of_ne h same]

/-- What can be assigned has a value. -/
theorem exists_lookup_of_assign? (h : bindings.assign? name value = some after) :
    ∃ old, bindings.lookup name = some old := by
  have bound : (after.lookup name).isSome := by
    rw [lookup_assign?_self h]
    rfl
  rw [lookup_isSome_iff, keys_assign? h, ← lookup_isSome_iff] at bound
  exact Option.isSome_iff_exists.mp bound

/-- What cannot be assigned has none. -/
theorem lookup_unassigned (h : bindings.assign? name value = none) :
    bindings.lookup name = none := by
  cases bound : bindings.lookup name with
  | none => rfl
  | some old =>
      have there : name ∈ bindings.map Prod.fst := lookup_isSome_iff.mp (by rw [bound]; rfl)
      obtain ⟨after, assigned⟩ := exists_assign? value there
      rw [h] at assigned
      cases assigned

end Bindings

theorem Frame.flat_assign? (frame : Frame) (name : String) (value : Value) :
    (frame.assign? name value).map Frame.flat = frame.flat.assign? name value := by
  unfold Frame.assign? FlatFrame.assign? Frame.flat Frame.visible
  dsimp only
  cases inner : frame.locals.assign? name value with
  | some locals =>
      obtain ⟨old, bound⟩ := Bindings.exists_lookup_of_assign? inner
      rw [bound, ← Bindings.lookup_assigned inner]
      rfl
  | none =>
      rw [Bindings.lookup_unassigned inner]
      cases outer : frame.parameters.assign? name value with
      | some parameters =>
          obtain ⟨old, bound⟩ := Bindings.exists_lookup_of_assign? outer
          rw [bound]
          dsimp only
          rw [← Bindings.lookup_assigned outer]
          rfl
      | none =>
          rw [Bindings.lookup_unassigned outer]
          rfl

/-! ## Both evaluators side by side -/

mutual

/-- **The value of an expression depends on what the frame shows.** -/
theorem Flat.eval_flat (call : Caller) (frame : Frame) :
    ∀ e : Expr, Flat.eval call frame.flat e = e.eval call frame
  | .literal value => by
      unfold Flat.eval Expr.eval
      rfl
  | .parameter name _ => by
      unfold Flat.eval Expr.eval
      rfl
  | .localVar name => by
      unfold Flat.eval Expr.eval
      rfl
  | .unary op operand => by
      unfold Flat.eval Expr.eval
      rw [Flat.eval_flat call frame operand]
  | .binary op left right => by
      unfold Flat.eval Expr.eval
      rw [Flat.eval_flat call frame left, Flat.eval_flat call frame right]
  | .hasValue operand => by
      unfold Flat.eval Expr.eval
      rw [Flat.eval_flat call frame operand]
  | .call method args => by
      unfold Flat.eval Expr.eval
      rw [Flat.evalAll_flat call frame args]
  | .construct constructor args => by
      unfold Flat.eval Expr.eval
      rw [Flat.evalAll_flat call frame args]
  | .length operand => by
      unfold Flat.eval Expr.eval
      rw [Flat.eval_flat call frame operand]
  | .charAt operand index => by
      unfold Flat.eval Expr.eval
      rw [Flat.eval_flat call frame operand, Flat.eval_flat call frame index]

theorem Flat.evalAll_flat (call : Caller) (frame : Frame) :
    ∀ es : List Expr, Flat.evalAll call frame.flat es = Expr.evalAll call frame es
  | [] => by
      unfold Flat.evalAll Expr.evalAll
      rfl
  | e :: rest => by
      unfold Flat.evalAll Expr.evalAll
      rw [Flat.eval_flat call frame e, Flat.evalAll_flat call frame rest]

end

/-- A run on frames with hidden variables, and one on what they show: they end in the same way, the
one in a machine and the other one in what it shows. -/
abbrev Mirrors {α : Type} (run : Stepped α) (flat : FlatStepped α) : Prop :=
  Simulates (fun machine shown => shown = machine.flat) unexcused run flat

/-- The same end, in what the machine shows. -/
def Flat.ofResult {α : Type} :
    EStateM.Result Interrupt Machine α → EStateM.Result Interrupt FlatMachine α
  | .ok a machine => .ok a machine.flat
  | .error interrupt machine => .error interrupt machine.flat

section

variable {α : Type} {limits : Limits}

theorem Mirrors.eq {run : Stepped α} {shown : FlatStepped α} (h : Mirrors run shown)
    (machine : Machine) : shown machine.flat = Flat.ofResult (run machine) := by
  have ends := h machine _ rfl
  generalize run machine = result, shown machine.flat = result' at ends ⊢
  cases ends with
  | ok shows => rw [shows, Flat.ofResult]
  | error shows => rw [shows, Flat.ofResult]
  | excuse isExcused => exact isExcused.elim

/-- What holds of every end holds of what it shows. -/
theorem Flat.ends_ofResult {holds : Machine → Prop} {more : FlatMachine → Prop}
    {result : EStateM.Result Interrupt Machine α} (h : Ends holds (fun _ => True) result)
    (le : ∀ machine, holds machine → more machine.flat) :
    Ends more (fun _ => True) (Flat.ofResult result) := by
  cases h with
  | ok after => exact .ok (le _ after)
  | error after _ => exact .error (le _ after) trivial

theorem inFrame_mirrors {run : Frame → Metered α} {shown : FlatFrame → Metered α}
    (same : ∀ frame : Frame, shown frame.flat = run frame) :
    Mirrors (inFrame run) (Flat.inFrame shown) := by
  rintro ⟨meter, frame⟩ _ rfl
  dsimp only [inFrame, Flat.inFrame, Machine.flat]
  rw [same frame]
  cases run frame meter with
  | ok a after => exact .ok rfl
  | error interrupt after => exact .error rfl

theorem takeStep_mirrors (limits : Limits) : Mirrors (takeStep limits) (Flat.takeStep limits) := by
  rintro ⟨meter, frame⟩ _ rfl
  dsimp only [takeStep, Flat.takeStep, Machine.flat]
  split
  · exact .error rfl
  · exact .ok rfl

theorem assign_mirrors (name : String) (value : Value) :
    Mirrors (assign name value) (Flat.assign name value) := by
  rintro ⟨meter, frame⟩ _ rfl
  dsimp only [assign, Flat.assign, Machine.flat]
  rw [← Frame.flat_assign? frame name value]
  cases frame.assign? name value with
  | some after => exact .ok rfl
  | none => exact .error rfl

/-- A block mirrors if what it has inside does, and that leaves alone what is hidden. -/
theorem withLocals_mirrors {inside : String → Prop} {declared : List Local} {run : Stepped α}
    {shown : FlatStepped α} (same : Mirrors run shown) (kept : AssignsOnly inside run) :
    Mirrors (withLocals declared run) (Flat.withLocals declared shown) := by
  rintro ⟨meter, frame⟩ _ rfl
  have entered : (⟨meter, frame.enterBlock declared⟩ : Machine).flat
      = ⟨meter, ⟨frame.flat.parameters, Visible.declare declared frame.flat.locals⟩⟩ := by
    unfold Machine.flat Frame.flat
    dsimp only
    rw [Visible.declare_eq]
    rfl
  have left (after : Frame) (h : (frame.enterBlock declared).Kept inside after) :
      (after.leaveBlock declared).flat = ⟨after.flat.parameters,
        Visible.undo (Visible.overwritten declared frame.flat.locals) after.flat.locals⟩ := by
    unfold Frame.flat
    dsimp only
    rw [Visible.undo_overwritten_leaveBlock h]
    rfl
  have ends := same ⟨meter, frame.enterBlock declared⟩ _ rfl
  have keeps := kept.ends ⟨meter, frame.enterBlock declared⟩
  rw [entered] at ends
  dsimp only [withLocals, Flat.withLocals, Machine.flat]
  generalize run ⟨meter, frame.enterBlock declared⟩ = result,
    shown ⟨meter, ⟨frame.flat.parameters, Visible.declare declared frame.flat.locals⟩⟩ = result'
    at ends keeps ⊢
  cases ends with
  | ok shows =>
      cases keeps with
      | ok after =>
          cases shows
          exact .ok (congrArg (FlatMachine.mk _) (left _ after).symm)
  | error shows =>
      cases keeps with
      | error after _ =>
          cases shows
          exact .error (congrArg (FlatMachine.mk _) (left _ after).symm)
  | excuse isExcused => exact isExcused.elim

theorem repeatWhile_mirrors {test : Stepped Bool} {test' : FlatStepped Bool}
    {body : Stepped Completion} {body' : FlatStepped Completion} (htest : Mirrors test test')
    (hbody : Mirrors body body') (rounds : Nat) :
    Mirrors (repeatWhile limits test body rounds) (Flat.repeatWhile limits test' body' rounds) := by
  induction rounds with
  | zero => exact .throw _
  | succ rounds ih =>
      rw [repeatWhile, Flat.repeatWhile]
      refine htest.bind fun holds => .ite holds (hbody.bind fun completion => ?_) (.pure _)
      cases completion with
      | normal => exact ih
      | returned value => exact .pure _

theorem rounds_mirror {test : Stepped Bool} {test' : FlatStepped Bool}
    {body : Stepped Completion} {body' : FlatStepped Completion} (htest : Mirrors test test')
    (hbody : Mirrors body body') :
    Mirrors (do let machine ← get; repeatWhile limits test body (roundsLeft limits machine))
      (do
        let rounds := limits.steps + 1 - (← get).meter.steps
        Flat.repeatWhile limits test' body' rounds) := by
  rintro machine _ rfl
  exact repeatWhile_mirrors htest hbody (roundsLeft limits machine) machine _ rfl

end

namespace Flat

theorem value_mirrors (call : Caller) (expr : Expr) :
    Mirrors (ArgumentGuards.inFrame (expr.eval call)) (inFrame fun frame => eval call frame expr) :=
  inFrame_mirrors fun frame => eval_flat call frame expr

theorem test_mirrors (call : Caller) (condition : Expr) :
    Mirrors (Stmt.test call condition) (test call condition) :=
  inFrame_mirrors fun frame => by rw [eval_flat call frame condition]

mutual

/-- **Statements do to what a frame shows what they do to the frame.** -/
theorem exec_mirrors (limits : Limits) (call : Caller) :
    ∀ s : Stmt, Mirrors (s.exec limits call) (exec limits call s)
  | .expression expr => by
      unfold Stmt.exec exec
      exact (takeStep_mirrors limits).bind fun _ => (value_mirrors call expr).bind fun _ => .pure _
  | .ret none => by
      unfold Stmt.exec exec
      exact (takeStep_mirrors limits).bind fun _ => .pure _
  | .ret (some expr) => by
      unfold Stmt.exec exec
      exact (takeStep_mirrors limits).bind fun _ => (value_mirrors call expr).bind fun _ => .pure _
  | .conditional condition thenBranch none => by
      unfold Stmt.exec exec
      exact (takeStep_mirrors limits).bind fun _ => (test_mirrors call condition).bind fun holds =>
        .ite holds (exec_mirrors limits call thenBranch) (.pure _)
  | .conditional condition thenBranch (some elseBranch) => by
      unfold Stmt.exec exec
      exact (takeStep_mirrors limits).bind fun _ => (test_mirrors call condition).bind fun holds =>
        .ite holds (exec_mirrors limits call thenBranch) (exec_mirrors limits call elseBranch)
  | .throw expr => by
      unfold Stmt.exec exec
      exact (takeStep_mirrors limits).bind fun _ => (value_mirrors call expr).bind fun _ => .throw _
  | .assign target expr => by
      unfold Stmt.exec exec
      exact (takeStep_mirrors limits).bind fun _ => (value_mirrors call expr).bind fun value =>
        (assign_mirrors target value).bind fun _ => .pure _
  | .loop condition body => by
      unfold Stmt.exec exec
      exact (takeStep_mirrors limits).bind fun _ =>
        rounds_mirror (test_mirrors call condition) (exec_mirrors limits call body)
  | .block ⟨locals, statements⟩ => by
      unfold Stmt.exec exec
      exact (takeStep_mirrors limits).bind fun _ =>
        withLocals_mirrors (execAll_mirrors limits call statements)
          (Stmt.execAll_assignsOnly limits call statements)
  | .sequencePoint _ statement => by
      unfold Stmt.exec exec
      exact (takeStep_mirrors limits).bind fun _ => exec_mirrors limits call statement

theorem execAll_mirrors (limits : Limits) (call : Caller) : ∀ statements : List Stmt,
    Mirrors (Stmt.execAll limits call statements) (execAll limits call statements)
  | [] => by
      unfold Stmt.execAll execAll
      exact .pure _
  | s :: rest => by
      unfold Stmt.execAll execAll
      refine (exec_mirrors limits call s).bind fun completion => ?_
      cases completion with
      | normal => exact execAll_mirrors limits call rest
      | returned value => exact .pure _

end

theorem execBlock_mirrors (limits : Limits) (call : Caller) (b : Block) :
    Mirrors (b.exec limits call) (execBlock limits call b) :=
  withLocals_mirrors (execAll_mirrors limits call b.statements)
    (Stmt.execAll_assignsOnly limits call b.statements)

/-! ## Whole runs -/

/-- A call has the same result and the same counters: it leaves no frame behind. -/
theorem runBody_eq (limits : Limits) (call : Caller) (callee : Callee) (args : List Value) :
    runBody limits call callee args = Interpreter.runBody limits call callee args := by
  funext meter
  have ends := execBlock_mirrors limits call callee.body
    ⟨{ meter with depth := meter.depth + 1 }, Frame.ofArguments callee.parameters args⟩ _ rfl
  unfold runBody Interpreter.runBody
  rw [← Frame.flat_ofArguments]
  dsimp only [Machine.flat] at ends ⊢
  generalize callee.body.exec limits call
    ⟨{ meter with depth := meter.depth + 1 }, Frame.ofArguments callee.parameters args⟩ = result,
    execBlock limits call callee.body ⟨{ meter with depth := meter.depth + 1 },
      (Frame.ofArguments callee.parameters args).flat⟩ = result' at ends ⊢
  cases ends with
  | ok shows =>
      cases shows
      rfl
  | error shows =>
      cases shows
      rfl
  | excuse isExcused => exact isExcused.elim

theorem caller_eq (i : Interpreter) (levels : Nat) :
    caller i (i.callWithin levels) = i.caller levels := by
  funext method args
  unfold caller Interpreter.caller
  cases i.resolve method <;> rfl

theorem callWithin_eq (i : Interpreter) (levels : Nat) :
    callWithin i levels = i.callWithin levels := by
  induction levels with
  | zero => rfl
  | succ levels ih =>
      funext callee args
      rw [callWithin, ih, caller_eq, runBody_eq, Interpreter.callWithin_succ]

/-- **Both evaluators run a function alike,** with the same value, exception or fault and the same
counters. -/
theorem run_eq (i : Interpreter) (name : String) (args : List Value) :
    run i name args = i.run name args := by
  unfold run Interpreter.run
  cases i.function? name with
  | none => rfl
  | some callee => exact congrArg (· callee args .zero) (callWithin_eq i i.limits.depth)

end Flat

/-! ## Blocks -/

/-- What a block leaves behind, where there is one value for each name. -/
structure Block.RestoresFlat (b : Block) (before after : FlatFrame) : Prop where
  /-- The same names have a variable. -/
  locals : ∀ name, (after.locals name).isSome = (before.locals name).isSome
  /-- The same parameters are there. -/
  parameters : ∀ name, (after.parameters name).isSome = (before.parameters name).isSome
  /-- A name that the block declares has the value that it had before, or none. -/
  declared : ∀ l ∈ b.locals, after.locals l.name = before.locals l.name
  /-- A name that the block does not assign to has its value, as a variable and as a parameter. -/
  others : ∀ name, ¬ b.Assigns name →
    after.locals name = before.locals name ∧ after.parameters name = before.parameters name

theorem Bindings.isSome_lookup_congr {before after : Bindings}
    (keys : after.map Prod.fst = before.map Prod.fst) (name : String) :
    (after.lookup name).isSome = (before.lookup name).isSome := by
  rw [Bool.eq_iff_iff, lookup_isSome_iff, lookup_isSome_iff, keys]

theorem Block.Restores.flat {b : Block} {before after : Frame} (h : b.Restores before after) :
    b.RestoresFlat before.flat after.flat where
  locals := Bindings.isSome_lookup_congr h.locals
  parameters := Bindings.isSome_lookup_congr h.parameters
  declared := h.declared
  others := h.others

/--
**Blocks restore the names around them, however they end.**

From any state of any run, and whatever its calls do, a block leaves the same variables and the same
parameters; every name that it declares has its former variable again, or none; and every other name
has its former value, as a variable and as a parameter, unless a statement of the block assigns to
it. The same holds of a block that is a statement.

To declare a block's variables is to overwrite the value that each name shows, and to leave the
block is to put those values back, the last declaration first. A run that does this, and that has
one value for each name throughout, ends in the same way, in a frame that shows the same; and what
the block leaves behind there is said of its names and values alone.
-/
theorem Block.exec_restores (limits : Limits) (call : Caller) (b : Block) (machine : Machine) :
    Ends (fun after => b.Restores machine.frame after.frame) (fun _ => True)
        (b.exec limits call machine)
      ∧ Ends (fun after => b.Restores machine.frame after.frame) (fun _ => True)
        ((Stmt.block b).exec limits call machine)
      ∧ (machine.frame.enterBlock b.locals).visible
          = Visible.declare b.locals machine.frame.visible
      ∧ Ends (fun inside => (inside.frame.leaveBlock b.locals).visible
            = Visible.undo (Visible.overwritten b.locals machine.frame.visible)
                inside.frame.visible) (fun _ => True)
          (Stmt.execAll limits call b.statements
            { machine with frame := machine.frame.enterBlock b.locals })
      ∧ Flat.execBlock limits call b machine.flat = Flat.ofResult (b.exec limits call machine)
      ∧ Ends (fun after => b.RestoresFlat machine.flat.frame after.frame) (fun _ => True)
          (Flat.execBlock limits call b machine.flat)
      ∧ Ends (fun after => b.RestoresFlat machine.flat.frame after.frame) (fun _ => True)
          (Flat.exec limits call (.block b) machine.flat) := by
  have body : AssignsOnly (fun name => b.Assigns name) (b.exec limits call) := b.exec_assignsOnly
  have statement : AssignsOnly (fun name => b.Assigns name) ((Stmt.block b).exec limits call) := by
    intro start
    rw [Stmt.exec_block]
    exact Stmt.step_keeps.bind fun _ _ => body start
  have inside := (Stmt.execAll_assignsOnly limits call b.statements).ends
    { machine with frame := machine.frame.enterBlock b.locals }
  have restores := (body.ends machine).imp fun _ kept => kept.restores
  have restoresToo := (statement.ends machine).imp fun _ kept => kept.restores
  have same := (Flat.execBlock_mirrors limits call b).eq machine
  have sameToo := (Flat.exec_mirrors limits call (.block b)).eq machine
  refine ⟨restores, restoresToo, (Visible.declare_eq b.locals machine.frame).symm, ?_, same, ?_, ?_⟩
  · exact inside.imp fun _ kept => (Visible.undo_overwritten_leaveBlock kept).symm
  · rw [same]
    exact Flat.ends_ofResult restores fun _ kept => kept.flat
  · rw [sameToo]
    exact Flat.ends_ofResult restoresToo fun _ kept => kept.flat

end ArgumentGuards
