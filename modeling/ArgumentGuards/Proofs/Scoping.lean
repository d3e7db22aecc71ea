import ArgumentGuards.Proofs.CheckedEntry
import ArgumentGuards.Proofs.Throughout
import Mathlib

/-!
# Well-scoped modules never fault on a name

Names are looked up when a program runs: parameters and variables in the frame, methods in the
module. A fault on a name is avoided if every name stands where it is declared, which is a property
of the syntax and is defined here without frames.

The invariant is that the frame **binds** the scope: its variables are those of the scope in the
same order, an inner one in front of the one that it hides, and every parameter is among those of
the frame. Entering a block puts the same names in front of both, leaving it drops as many from
both, and an assignment changes no name at all, so nothing has to be said about how a block is left.

Lowering adds to the bodies of a module, and to what they call. The guards only name parameters, and
the helper is only called by guards, which are there only if it is. So a lowered module is
well-scoped in a scope where the helper can be called too.
-/

namespace ArgumentGuards

/-! ## Names that stand where they are declared -/

/-- What a body may name. -/
structure Scope where
  parameters : List String
  /-- The variables of the blocks around, those of the innermost one first. -/
  locals : List String
  /-- The methods, each with the number of arguments that it may be called with. -/
  callable : Method → Nat → Prop

/-- The scope in a block. -/
def Scope.enterBlock (scope : Scope) (declared : List Local) : Scope :=
  { scope with locals := (declared.map Local.name).reverse ++ scope.locals }

namespace Expr

mutual

/-- Whether an expression names only what its scope has. -/
def Scoped (scope : Scope) : Expr → Prop
  | .literal _ => True
  | .parameter name _ => name ∈ scope.parameters
  | .localVar name => name ∈ scope.locals
  | .unary _ operand => operand.Scoped scope
  | .binary _ left right => left.Scoped scope ∧ right.Scoped scope
  | .hasValue operand => operand.Scoped scope
  | .call method args => scope.callable method args.length ∧ AllScoped scope args
  | .construct _ args => AllScoped scope args
  | .length operand => operand.Scoped scope
  | .charAt operand index => operand.Scoped scope ∧ index.Scoped scope

/-- Whether some expressions do. -/
def AllScoped (scope : Scope) : List Expr → Prop
  | [] => True
  | e :: rest => e.Scoped scope ∧ AllScoped scope rest

end

end Expr

namespace Stmt

mutual

/-- Whether a statement names only what its scope has, and what its blocks declare. -/
def Scoped (scope : Scope) : Stmt → Prop
  | .expression expr => expr.Scoped scope
  | .ret none => True
  | .ret (some expr) => expr.Scoped scope
  | .conditional condition thenBranch none => condition.Scoped scope ∧ thenBranch.Scoped scope
  | .conditional condition thenBranch (some elseBranch) =>
    condition.Scoped scope ∧ thenBranch.Scoped scope ∧ elseBranch.Scoped scope
  | .throw expr => expr.Scoped scope
  | .assign target expr =>
    (target ∈ scope.locals ∨ target ∈ scope.parameters) ∧ expr.Scoped scope
  | .loop condition body => condition.Scoped scope ∧ body.Scoped scope
  | .block ⟨locals, statements⟩ => AllScoped (scope.enterBlock locals) statements
  | .sequencePoint _ statement => statement.Scoped scope

/-- Whether some statements do. -/
def AllScoped (scope : Scope) : List Stmt → Prop
  | [] => True
  | s :: rest => s.Scoped scope ∧ AllScoped scope rest

end

end Stmt

/-- Whether the statements of a block do, with its variables. -/
def Block.Scoped (scope : Scope) (b : Block) : Prop :=
  Stmt.AllScoped (scope.enterBlock b.locals) b.statements

/-- Whether a method is that of a function with so many parameters. -/
def CallsOneOf (functions : List SourceFunction) (method : Method) (arguments : Nat) : Prop :=
  method.kind = .ordinary
    ∧ ∃ f ∈ functions, f.name = method.name ∧ f.parameters.length = arguments

/-- The scope of a body: no variables yet. -/
def bodyScope (parameters : List Parameter) (callable : Method → Nat → Prop) : Scope :=
  ⟨parameters.map Parameter.name, [], callable⟩

/-- Whether the bodies of a module name only their parameters, the variables of the blocks around,
and functions of the module with as many arguments as they have parameters. -/
def SourceModule.WellScoped (source : SourceModule) : Prop :=
  ∀ f ∈ source.functions, f.body.Scoped (bodyScope f.parameters (CallsOneOf source.functions))

/-! ## More methods to call -/

namespace Expr

variable {parameters locals : List String} {callable callable' : Method → Nat → Prop}

mutual

theorem Scoped.mono (more : ∀ method n, callable method n → callable' method n) : ∀ e : Expr,
    e.Scoped ⟨parameters, locals, callable⟩ → e.Scoped ⟨parameters, locals, callable'⟩
  | .literal _, h => h
  | .parameter _ _, h => h
  | .localVar _, h => h
  | .unary _ operand, h => Scoped.mono more operand h
  | .binary _ left right, h => ⟨Scoped.mono more left h.1, Scoped.mono more right h.2⟩
  | .hasValue operand, h => Scoped.mono more operand h
  | .call method args, h => ⟨more method args.length h.1, AllScoped.mono more args h.2⟩
  | .construct _ args, h => AllScoped.mono more args h
  | .length operand, h => Scoped.mono more operand h
  | .charAt operand index, h => ⟨Scoped.mono more operand h.1, Scoped.mono more index h.2⟩

theorem AllScoped.mono (more : ∀ method n, callable method n → callable' method n) :
    ∀ es : List Expr, AllScoped ⟨parameters, locals, callable⟩ es →
      AllScoped ⟨parameters, locals, callable'⟩ es
  | [], h => h
  | e :: rest, h => ⟨Scoped.mono more e h.1, AllScoped.mono more rest h.2⟩

end

end Expr

namespace Stmt

variable {parameters : List String} {callable callable' : Method → Nat → Prop}

mutual

theorem Scoped.mono (more : ∀ method n, callable method n → callable' method n) :
    ∀ (locals : List String) (s : Stmt), s.Scoped ⟨parameters, locals, callable⟩ →
      s.Scoped ⟨parameters, locals, callable'⟩
  | _, .expression expr, h => Expr.Scoped.mono more expr h
  | _, .ret none, h => h
  | _, .ret (some expr), h => Expr.Scoped.mono more expr h
  | _, .conditional condition thenBranch none, h =>
      ⟨Expr.Scoped.mono more condition h.1, Scoped.mono more _ thenBranch h.2⟩
  | _, .conditional condition thenBranch (some elseBranch), h =>
      ⟨Expr.Scoped.mono more condition h.1, Scoped.mono more _ thenBranch h.2.1,
        Scoped.mono more _ elseBranch h.2.2⟩
  | _, .throw expr, h => Expr.Scoped.mono more expr h
  | _, .assign _ expr, h => ⟨h.1, Expr.Scoped.mono more expr h.2⟩
  | _, .loop condition body, h =>
      ⟨Expr.Scoped.mono more condition h.1, Scoped.mono more _ body h.2⟩
  | _, .block ⟨_, statements⟩, h => AllScoped.mono more _ statements h
  | _, .sequencePoint _ statement, h => Scoped.mono more _ statement h

theorem AllScoped.mono (more : ∀ method n, callable method n → callable' method n) :
    ∀ (locals : List String) (statements : List Stmt),
      AllScoped ⟨parameters, locals, callable⟩ statements →
        AllScoped ⟨parameters, locals, callable'⟩ statements
  | _, [], h => h
  | _, s :: rest, h => ⟨Scoped.mono more _ s h.1, AllScoped.mono more _ rest h.2⟩

end

theorem allScoped_append {scope : Scope} {before after : List Stmt}
    (hbefore : ∀ s ∈ before, s.Scoped scope) (hafter : AllScoped scope after) :
    AllScoped scope (before ++ after) := by
  induction before with
  | nil => exact hafter
  | cons s rest ih =>
      exact ⟨hbefore s List.mem_cons_self, ih fun t ht => hbefore t (List.mem_cons_of_mem _ ht)⟩

end Stmt

/-! ## Frames that bind their scope -/

/-- What a frame has to be for bodies in a scope. -/
structure Frame.Binds (scope : Scope) (frame : Frame) : Prop where
  parameters : ∀ name ∈ scope.parameters, name ∈ frame.parameters.map Prod.fst
  locals : frame.locals.map Prod.fst = scope.locals

namespace Frame.Binds

variable {scope : Scope} {frame : Frame}

theorem enterBlock (h : frame.Binds scope) (declared : List Local) :
    (frame.enterBlock declared).Binds (scope.enterBlock declared) := by
  refine ⟨h.parameters, ?_⟩
  unfold Frame.enterBlock Scope.enterBlock
  rw [List.map_append, h.locals, List.map_reverse, List.map_map]
  rfl

theorem leaveBlock {declared : List Local} (h : frame.Binds (scope.enterBlock declared)) :
    (frame.leaveBlock declared).Binds scope := by
  refine ⟨h.parameters, ?_⟩
  have locals := h.locals
  unfold Scope.enterBlock at locals
  unfold Frame.leaveBlock
  have size : declared.length = (declared.map Local.name).reverse.length := by
    rw [List.length_reverse, List.length_map]
  rw [List.map_drop, locals, size, List.drop_left]

/-- An assignment binds no name and unbinds none. -/
theorem assign? {after : Frame} {name : String} {value : Value} (h : frame.Binds scope)
    (assigned : frame.assign? name value = some after) : after.Binds scope := by
  unfold Frame.assign? at assigned
  split at assigned
  · rename_i locals hlocals
    cases assigned
    exact ⟨h.parameters, (Bindings.keys_assign? hlocals).trans h.locals⟩
  · obtain ⟨parameters, hparameters, rfl⟩ := Option.map_eq_some_iff.mp assigned
    refine ⟨fun name hname => ?_, h.locals⟩
    rw [Bindings.keys_assign? hparameters]
    exact h.parameters name hname

/-- What is in scope can be assigned. -/
theorem exists_assign? {name : String} (h : frame.Binds scope)
    (inScope : name ∈ scope.locals ∨ name ∈ scope.parameters) (value : Value) :
    ∃ after, frame.assign? name value = some after := by
  unfold Frame.assign?
  cases hl : frame.locals.assign? name value with
  | some locals => exact ⟨_, rfl⟩
  | none =>
      rcases inScope with here | here
      · rw [← h.locals] at here
        obtain ⟨locals, hlocals⟩ := Bindings.exists_assign? value here
        rw [hl] at hlocals
        cases hlocals
      · obtain ⟨parameters, hparameters⟩ :=
          Bindings.exists_assign? value (h.parameters name here)
        exact ⟨_, by rw [hparameters]; rfl⟩

/-- Every parameter of a call is bound, if there is an argument for each. -/
theorem ofArguments {parameters : List Parameter} {args : List Value}
    (fits : parameters.length = args.length) (callable : Method → Nat → Prop) :
    (Frame.ofArguments parameters args).Binds (bodyScope parameters callable) := by
  refine ⟨fun name hname => ?_, rfl⟩
  have keys : ((parameters.map Parameter.name).zip args).map Prod.fst
      = parameters.map Parameter.name :=
    List.map_fst_zip (by rw [List.length_map, fits])
  unfold Frame.ofArguments
  rw [List.map_reverse, List.mem_reverse, keys]
  exact hname

end Frame.Binds

/-! ## Faults on names -/

/-- Whether a fault is one on a name: nothing has it, or it is called with the wrong arguments. -/
def EvalError.isOnName : EvalError → Bool
  | .unknownFunction _ => true
  | .unknownVariable _ => true
  | .arity _ _ _ => true
  | _ => false

/-- Whether an interrupt is anything but a fault on a name. -/
def Interrupt.NotOnName : Interrupt → Prop
  | .fault error => error.isOnName = false
  | .thrown _ => True

theorem Interrupt.stepLimit_notOnName (limit : Nat) :
    Interrupt.NotOnName (.fault (.stepLimit limit)) := rfl

/-- Operations do not look at names. -/
theorem Interrupt.OfOperation.notOnName {interrupt : Interrupt} (h : interrupt.OfOperation) :
    interrupt.NotOnName := by
  cases interrupt with
  | thrown exception => trivial
  | fault error =>
      cases error with
      | typeMismatch operation => rfl
      | _ => exact h.elim

theorem settle_notOnName {σ α : Type} {holds : σ → Prop} {outcome : Except Interrupt α}
    (h : ∀ interrupt, outcome = .error interrupt → interrupt.OfOperation) :
    Keeps holds Interrupt.NotOnName (settle outcome : EStateM Interrupt σ α) :=
  .settle fun interrupt fails => (h interrupt fails).notOnName

theorem fetch_notOnName {bindings : Bindings} {name : String}
    (h : name ∈ bindings.map Prod.fst) : KeepsMeter Interrupt.NotOnName (fetch bindings name) := by
  obtain ⟨value, found⟩ := Option.isSome_iff_exists.mp (Bindings.lookup_isSome_iff.mpr h)
  unfold fetch
  rw [found]
  exact .pure value

/-! ## Bodies -/

section

variable {scope : Scope} {call : Caller} {limits : Limits}

/-- Whether calls that a scope allows never fault on a name. -/
def Scope.Answers (scope : Scope) (call : Caller) : Prop :=
  ∀ method args, scope.callable method args.length →
    KeepsMeter Interrupt.NotOnName (call method args)

namespace Expr

/-- As many values as expressions. -/
theorem length_of_evalAll {frame : Frame} {meter after : Meter} : ∀ {es : List Expr}
    {values : List Value}, evalAll call frame es meter = .ok values after →
      values.length = es.length
  | [], values, h => by cases h; rfl
  | e :: rest, values, h => by
      unfold evalAll at h
      obtain ⟨value, m₁, -, h⟩ := ok_of_bind h
      obtain ⟨more, m₂, evaluated, h⟩ := ok_of_bind h
      cases h
      rw [List.length_cons, List.length_cons, length_of_evalAll evaluated]

mutual

/-- **Well-scoped expressions never fault on a name.** -/
theorem eval_scoped (calls : scope.Answers call) {frame : Frame} (binds : frame.Binds scope) :
    ∀ e : Expr, e.Scoped scope → KeepsMeter Interrupt.NotOnName (e.eval call frame)
  | .literal _, _ => .pure _
  | .parameter name _, h => fetch_notOnName (binds.parameters name h)
  | .localVar name, h => fetch_notOnName (by rw [binds.locals]; exact h)
  | .unary op operand, h => by
      unfold eval
      exact (eval_scoped calls binds operand h).bind fun _ _ =>
        settle_notOnName fun _ => UnaryOp.apply_ofOperation
  | .binary op left right, h => by
      unfold eval
      exact (eval_scoped calls binds left h.1).bind fun _ _ =>
        (eval_scoped calls binds right h.2).bind fun _ _ =>
          settle_notOnName fun _ => BinaryOp.apply_ofOperation
  | .hasValue operand, h => by
      unfold eval
      exact (eval_scoped calls binds operand h).bind fun _ _ =>
        settle_notOnName fun _ => Value.holdsValue_ofOperation
  | .call method args, h => by
      unfold eval
      refine (evalAll_scoped calls binds args h.2).bind fun values ⟨_, _, evaluated⟩ => ?_
      exact calls method values (by rw [length_of_evalAll evaluated]; exact h.1)
  | .construct constructor args, h => by
      unfold eval
      exact (evalAll_scoped calls binds args h).bind fun _ _ => .pure _
  | .length operand, h => by
      unfold eval
      exact (eval_scoped calls binds operand h).bind fun _ _ =>
        settle_notOnName fun _ => Value.textLength_ofOperation
  | .charAt operand index, h => by
      unfold eval
      exact (eval_scoped calls binds operand h.1).bind fun _ _ =>
        (eval_scoped calls binds index h.2).bind fun _ _ =>
          settle_notOnName fun _ => Value.codeUnit_ofOperation

theorem evalAll_scoped (calls : scope.Answers call) {frame : Frame} (binds : frame.Binds scope) :
    ∀ es : List Expr, AllScoped scope es →
      KeepsMeter Interrupt.NotOnName (evalAll call frame es)
  | [], _ => .pure _
  | e :: rest, h => by
      unfold evalAll
      exact (eval_scoped calls binds e h.1).bind fun _ _ =>
        (evalAll_scoped calls binds rest h.2).bind fun _ _ => .pure _

end

end Expr

namespace Stmt

theorem test_scoped (calls : scope.Answers call) {condition : Expr}
    (h : condition.Scoped scope) :
    KeepsFrame (Frame.Binds scope) Interrupt.NotOnName (test call condition) :=
  inFrame_keeps fun _ binds =>
    (condition.eval_scoped calls binds h).bind fun _ _ =>
      settle_notOnName fun _ => Value.truth_ofOperation

theorem value_scoped (calls : scope.Answers call) {expr : Expr} (h : expr.Scoped scope) :
    KeepsFrame (Frame.Binds scope) Interrupt.NotOnName (inFrame (expr.eval call)) :=
  inFrame_keeps fun _ binds => expr.eval_scoped calls binds h

theorem step_scoped :
    KeepsFrame (Frame.Binds scope) Interrupt.NotOnName (takeStep limits) :=
  takeStep_keeps (Interrupt.stepLimit_notOnName limits.steps)

mutual

/-- **Well-scoped statements never fault on a name**, and the frame binds the scope again after
them, however they end. -/
theorem exec_scoped (limits : Limits) : ∀ (scope : Scope), scope.Answers call → ∀ s : Stmt,
    s.Scoped scope → KeepsFrame (Frame.Binds scope) Interrupt.NotOnName (s.exec limits call)
  | _, calls, .expression expr, h => by
      unfold exec
      exact step_scoped.bind fun _ _ => (value_scoped calls h).bind fun _ _ => .pure _
  | _, _, .ret none, _ => by
      unfold exec
      exact step_scoped.bind fun _ _ => .pure _
  | _, calls, .ret (some expr), h => by
      unfold exec
      exact step_scoped.bind fun _ _ => (value_scoped calls h).bind fun _ _ => .pure _
  | scope, calls, .conditional condition thenBranch none, h => by
      unfold exec
      exact step_scoped.bind fun _ _ => (test_scoped calls h.1).bind fun holds _ =>
        .ite holds (exec_scoped limits scope calls thenBranch h.2) (.pure _)
  | scope, calls, .conditional condition thenBranch (some elseBranch), h => by
      unfold exec
      exact step_scoped.bind fun _ _ => (test_scoped calls h.1).bind fun holds _ =>
        .ite holds (exec_scoped limits scope calls thenBranch h.2.1)
          (exec_scoped limits scope calls elseBranch h.2.2)
  | _, calls, .throw expr, h => by
      unfold exec
      exact step_scoped.bind fun _ _ => (value_scoped calls h).bind fun _ _ => .throw trivial
  | _, calls, .assign target expr, h => by
      unfold exec
      refine step_scoped.bind fun _ _ => (value_scoped calls h.2).bind fun value _ =>
        (assign_keeps (fun _ _ binds => binds.assign?) fun _ binds unbound => ?_).bind
          fun _ _ => .pure _
      obtain ⟨after, assigned⟩ := binds.exists_assign? h.1 value
      rw [unbound] at assigned
      cases assigned
  | scope, calls, .loop condition body, h => by
      unfold exec
      exact step_scoped.bind fun _ _ =>
        rounds_keep (Interrupt.stepLimit_notOnName _) (test_scoped calls h.1)
          (exec_scoped limits scope calls body h.2)
  | scope, calls, .block ⟨locals, statements⟩, h => by
      unfold exec
      exact step_scoped.bind fun _ _ =>
        withLocals_keeps (fun _ binds => binds.enterBlock locals) (fun _ binds => binds.leaveBlock)
          (execAll_scoped limits (scope.enterBlock locals) calls statements h)
  | scope, calls, .sequencePoint _ statement, h => by
      unfold exec
      exact step_scoped.bind fun _ _ => exec_scoped limits scope calls statement h

theorem execAll_scoped (limits : Limits) : ∀ (scope : Scope), scope.Answers call →
    ∀ statements : List Stmt, AllScoped scope statements →
      KeepsFrame (Frame.Binds scope) Interrupt.NotOnName (execAll limits call statements)
  | _, _, [], _ => .pure _
  | scope, calls, s :: rest, h => by
      unfold execAll
      refine (exec_scoped limits scope calls s h.1).bind fun completion _ => ?_
      cases completion with
      | normal => exact execAll_scoped limits scope calls rest h.2
      | returned value => exact .pure _

end

end Stmt

theorem Block.exec_scoped (calls : scope.Answers call) {b : Block} (h : b.Scoped scope) :
    KeepsFrame (Frame.Binds scope) Interrupt.NotOnName (b.exec limits call) :=
  withLocals_keeps (fun _ binds => binds.enterBlock b.locals) (fun _ binds => binds.leaveBlock)
    (Stmt.execAll_scoped limits (scope.enterBlock b.locals) calls b.statements h)

end

/-! ## Calls -/

/-- Whether the body of a callee names only its parameters and what it may call. -/
def Callee.Scoped (callable : Method → Nat → Prop) (callee : Callee) : Prop :=
  callee.body.Scoped (bodyScope callee.parameters callable)

namespace Interpreter

/-- What can be called is there, takes as many arguments, and is well-scoped itself. -/
def Closed (i : Interpreter) (callable : Method → Nat → Prop) : Prop :=
  ∀ method n, callable method n → ∃ callee, i.resolve method = .ok callee
    ∧ callee.parameters.length = n ∧ callee.Scoped callable

variable {i : Interpreter} {callable : Method → Nat → Prop}

/-- **Calls in a closed module never fault on a name.** -/
theorem callWithin_scoped (closed : i.Closed callable) (levels : Nat) {callee : Callee}
    {args : List Value} (inScope : callee.Scoped callable)
    (fits : callee.parameters.length = args.length) :
    KeepsMeter Interrupt.NotOnName (i.callWithin levels callee args) := by
  induction levels generalizing callee args with
  | zero =>
      rw [callWithin]
      exact enter_keeps fits rfl (.throw rfl)
  | succ levels ih =>
      have calls : (bodyScope callee.parameters callable).Answers (i.caller levels) := by
        intro method args allowed
        obtain ⟨target, found, takes, body⟩ := closed method args.length allowed
        unfold caller
        rw [found]
        exact ih body takes
      rw [callWithin_succ, runBody_eq]
      exact enter_keeps fits rfl
        (oneLevelDown_keeps (Frame.Binds.ofArguments fits callable)
          (Block.exec_scoped calls inScope))

end Interpreter

/-! ## Lowered modules -/

/-- What the bodies of a lowered module may call: functions as before, and the helper if it is
there. -/
def CallsLowered (functions : List SourceFunction) (members : Members) (method : Method)
    (arguments : Nat) : Prop :=
  CallsOneOf functions method arguments
    ∨ method = throwHelper.symbol ∧ arguments = 1
      ∧ members.get? throwHelperName = some throwHelper

theorem Parameter.guardWith_scoped {scope : Scope} {p : Parameter}
    (named : p.name ∈ scope.parameters) (helper : scope.callable throwHelper.symbol 1) :
    (p.guardWith throwHelper.symbol).Scoped scope := by
  have test : p.test.Scoped scope := by
    unfold Parameter.test
    cases p.type.kind with
    | nullableValue => exact named
    | _ => exact ⟨named, trivial⟩
  exact ⟨test, ⟨helper, trivial, trivial⟩, trivial, trivial⟩

/-- **Guards keep a body well-scoped**, if the helper that they call is there. -/
theorem SourceFunction.callee_scoped {functions : List SourceFunction} {members : Members}
    {f : SourceFunction} (inScope : f.body.Scoped (bodyScope f.parameters (CallsOneOf functions)))
    (helper : f.checked ≠ [] → members.get? throwHelperName = some throwHelper) :
    f.callee.Scoped (CallsLowered functions members) := by
  refine Stmt.allScoped_append (fun s hs => ?_) (Stmt.AllScoped.mono (fun _ _ => .inl) _ _ inScope)
  obtain ⟨p, hp, rfl⟩ := List.mem_map.mp hs
  have registered := helper (List.ne_nil_of_mem hp)
  exact Parameter.guardWith_scoped (List.mem_map_of_mem (List.mem_of_mem_filter hp))
    (.inr ⟨rfl, rfl, registered⟩)

theorem helperCallee_scoped (callable : Method → Nat → Prop) : helperCallee.Scoped callable :=
  ⟨⟨List.mem_cons_self, trivial⟩, trivial⟩

section

variable {source : SourceModule} {id : String} {options : LoweringOptions}
  {lowered : LoweredModule}

theorem closed_of_lower (h : source.lower id options = .ok lowered)
    (distinct : (source.functions.map SourceFunction.name).Nodup) (inScope : source.WellScoped)
    (limits : Limits) :
    Interpreter.Closed ⟨lowered, limits⟩
      (CallsLowered source.functions lowered.module.members) := by
  rintro method n (⟨ordinary, f, hf, named, takes⟩ | ⟨rfl, rfl, registered⟩)
  · refine ⟨f.callee, ?_, takes, SourceFunction.callee_scoped (inScope f hf)
      ((guarding_of_lower h limits).helper f hf)⟩
    have found := function?_of_mem h distinct limits hf
    rw [named] at found
    unfold Interpreter.resolve
    rw [ordinary]
    dsimp only
    rw [found]
  · exact ⟨helperCallee, resolve_helper registered, rfl, helperCallee_scoped _⟩

theorem run_scoped (h : source.lower id options = .ok lowered)
    (distinct : (source.functions.map SourceFunction.name).Nodup) (inScope : source.WellScoped)
    (limits : Limits) {f : SourceFunction} (hf : f ∈ source.functions) {args : List Value}
    (fits : args.length = f.parameters.length) :
    Ends (fun _ => True) Interrupt.NotOnName (Interpreter.run ⟨lowered, limits⟩ f.name args) := by
  have callee : f.callee.Scoped (CallsLowered source.functions lowered.module.members) :=
    SourceFunction.callee_scoped (inScope f hf) ((guarding_of_lower h limits).helper f hf)
  unfold Interpreter.run
  rw [function?_of_mem h distinct limits hf]
  exact Interpreter.callWithin_scoped (closed_of_lower h distinct inScope limits) limits.depth
    callee fits.symm .zero trivial

theorem invoke_ne_of_ends {i : Interpreter} {name : String} {args : List Value}
    (h : Ends (fun _ => True) Interrupt.NotOnName (i.run name args)) {error : EvalError}
    (onName : error.isOnName = true) : i.invoke name args ≠ .error error := by
  intro fails
  unfold Interpreter.invoke at fails
  generalize i.run name args = result at h fails
  cases h with
  | ok _ => cases fails
  | @error interrupt meter _ spares =>
      cases interrupt with
      | thrown exception => cases fails
      | fault error =>
          cases fails
          exact Bool.noConfusion (onName.symm.trans spares)

/--
**Well-scoped modules never fault on a name.**

If every name of a module stands where it is declared, then no invocation of one of its functions
with as many arguments as it has parameters ends because a variable or a function is unknown or
because of a number of arguments, within whatever limits. The guards that lowering adds and the
helper that they call are part of the runs.
-/
theorem invoke_scoped (h : source.lower id options = .ok lowered)
    (distinct : (source.functions.map SourceFunction.name).Nodup) (inScope : source.WellScoped)
    (limits : Limits) {f : SourceFunction} (hf : f ∈ source.functions) {args : List Value}
    (fits : args.length = f.parameters.length) :
    (∀ name, Interpreter.invoke ⟨lowered, limits⟩ f.name args ≠ .error (.unknownVariable name))
      ∧ (∀ name, Interpreter.invoke ⟨lowered, limits⟩ f.name args ≠ .error (.unknownFunction name))
      ∧ ∀ name expected found,
          Interpreter.invoke ⟨lowered, limits⟩ f.name args ≠ .error (.arity name expected found) :=
  have ends := run_scoped h distinct inScope limits hf fits
  ⟨fun _ => invoke_ne_of_ends ends rfl, fun _ => invoke_ne_of_ends ends rfl,
    fun _ _ _ => invoke_ne_of_ends ends rfl⟩

end

/-- A function that counts in a loop. In the loop a variable hides a checked parameter. -/
def shadowing : SourceModule :=
  let next : Method := ⟨"next", "", [⟨"k", .int, false, 0⟩], .int, .ordinary⟩
  let i : Expr := .localVar "i"
  ⟨"shadowing", none,
    [⟨"count", [⟨"s", .string, true, 0⟩, ⟨"n", .int, false, 1⟩], .string,
        ⟨[⟨"i", .int⟩], [
          .loop (.binary .lessThan i (.parameter "n" .int))
            (.block ⟨[⟨"s", .int⟩], [
              .assign "s" i,
              .assign "i" (.call next [.localVar "s"])]⟩),
          .assign "n" i,
          .ret (some (.parameter "s" .string))]⟩⟩,
      ⟨"next", next.parameters, .int,
        ⟨[], [.ret (some (.binary .add (.parameter "k" .int) (.literal (.int 1))))]⟩⟩]⟩

/-- The parameter is back after the loop. With null the helper is called: that is in scope too. -/
theorem invoke_scoped_shadowing :
    ∃ lowered f, shadowing.lower "id" {} = .ok lowered
      ∧ (shadowing.functions.map SourceFunction.name).Nodup ∧ shadowing.WellScoped
      ∧ f ∈ shadowing.functions ∧ f.name = "count"
      ∧ Interpreter.invoke ⟨lowered, {}⟩ "count" [.text "x", .int 2] = .ok (.returned (.text "x"))
      ∧ ∀ value name,
          Interpreter.invoke ⟨lowered, {}⟩ "count" [value, .int 2] ≠ .error (.unknownVariable name)
            ∧ Interpreter.invoke ⟨lowered, {}⟩ "count" [value, .int 2]
              ≠ .error (.unknownFunction name) := by
  have lowers : shadowing.lower "id" {}
      = .ok ⟨⟨"id", "shadowing", Members.empty.withHelper⟩,
          shadowing.functions.map (SourceFunction.guarded throwHelper.symbol)⟩ := rfl
  have distinct : (shadowing.functions.map SourceFunction.name).Nodup := by decide
  have inScope : shadowing.WellScoped := by
    simp [SourceModule.WellScoped, shadowing, Block.Scoped, Stmt.AllScoped, Stmt.Scoped,
      Expr.AllScoped, Expr.Scoped, bodyScope, Scope.enterBlock, CallsOneOf]
  have first : shadowing.functions[0] ∈ shadowing.functions := List.getElem_mem _
  refine ⟨_, _, lowers, distinct, inScope, first, rfl, by cbv, fun value name => ?_⟩
  have fits : [value, .int 2].length = shadowing.functions[0].parameters.length := rfl
  obtain ⟨bound, known, -⟩ := invoke_scoped lowers distinct inScope {} first fits
  exact ⟨bound name, known name⟩

end ArgumentGuards
