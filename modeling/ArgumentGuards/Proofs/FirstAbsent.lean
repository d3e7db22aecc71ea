import ArgumentGuards.Proofs.Holdings
import ArgumentGuards.Proofs.LoweredTwice
import ArgumentGuards.Proofs.Printing
import ArgumentGuards.Proofs.ReadBack
import Mathlib

/-!
# A run reports the first absent argument

The command that runs a function takes its arguments from a text. Between the text and the report
stand the decoding of the items, their conversion by the types of the parameters, the guards, and
the rendering of an exception. Two properties are proved of all of it together.

**P1: The first checked parameter with a null is reported,** whatever stands behind it: neither the
body nor another argument is looked at.

**P2: Without one, the body is entered as it was declared,** with the values that the items convert
to, after two steps for each guard.

What joins them is that null, and nothing else, converts to a value that a guard finds absent
(`absent_null`, `absent_of_ne_null`). This holds for references and for nullable values, which
guards ask in different ways.
-/

namespace ArgumentGuards

open CheckedInterpreter (tick needLevel throwAbsent checkArgument checkArguments)

/-! ## Items and their values -/

/-- Whether there is an item for each parameter that converts to its type. -/
def Converts (items : List Json) (parameters : List Parameter) : Prop :=
  List.Forall₂ (fun item p => ∃ value, Value.ofJson item p.type = .ok value) items parameters

/-- The values that items convert to, one for each parameter. -/
structure ConvertedTo (items : List Json) (parameters : List Parameter) (values : List Value) :
    Prop where
  all : Value.ofJsonAll items parameters = .ok values
  length : values.length = parameters.length
  each : ∀ (i : Nat) p, parameters[i]? = some p → ∃ item value,
    items[i]? = some item ∧ values[i]? = some value ∧ Value.ofJson item p.type = .ok value

theorem exists_converted {items : List Json} {parameters : List Parameter}
    (h : Converts items parameters) : ∃ values, ConvertedTo items parameters values := by
  induction h with
  | nil => exact ⟨[], rfl, rfl, fun i p there => by simp at there⟩
  | @cons item p items parameters first _ ih =>
      obtain ⟨value, hvalue⟩ := first
      obtain ⟨values, converted⟩ := ih
      refine ⟨value :: values, ?_, ?_, fun i q hq => ?_⟩
      · rw [Value.ofJsonAll, hvalue, converted.all]
        rfl
      · rw [List.length_cons, List.length_cons, converted.length]
      · cases i with
        | zero =>
            obtain rfl : p = q := Option.some.inj hq
            exact ⟨item, value, rfl, rfl, hvalue⟩
        | succ i => exact converted.each i q hq

/-! ### Null is what is absent -/

theorem isNull_ofScalar {type : String} {item : Json} {value : Value}
    (h : Value.ofScalar type item = .ok value) : value.isNull = false := by
  unfold Value.ofScalar Value.ofNumber at h
  split at h <;> grind [Value.isNull]

/-- For a parameter that is not a nullable value, the null reference and an empty value count. -/
theorem Parameter.absent_eq_isNull {p : Parameter} (h : p.type.kind ≠ .nullableValue)
    (value : Value) : p.absent value = .ok value.isNull := by
  unfold Parameter.absent Value.isNull
  grind

theorem absent_null {p : Parameter} {value : Value} (h : Value.ofJson .null p.type = .ok value) :
    p.absent value = .ok true := by
  unfold Value.ofJson at h
  unfold Parameter.absent
  cases hk : p.type.kind <;> simp only [hk] at h ⊢ <;> cases h <;> rfl

theorem absent_of_ne_null {p : Parameter} {item : Json} {value : Value} (there : item ≠ .null)
    (h : Value.ofJson item p.type = .ok value) : p.absent value = .ok false := by
  unfold Value.ofJson at h
  split at h
  case h_1 => exact absurd rfl there
  case h_2 kind _ =>
    split at h
    · cases h
      unfold Parameter.absent
      rw [kind]
      rfl
    · cases h
  case h_3 => exact absurd rfl there
  case h_4 => cases h
  case h_5 notNullable _ _ _ =>
    rw [p.absent_eq_isNull notNullable, isNull_ofScalar h]

/-! ### The bindings of a call -/

/-- Among distinct names each one is bound to its own value. -/
theorem lookup_of_mem {bindings : Bindings} {name : String} {value : Value}
    (distinct : (bindings.map Prod.fst).Nodup) (h : (name, value) ∈ bindings) :
    bindings.lookup name = some value := by
  obtain ⟨before, after, rfl⟩ := List.append_of_mem h
  refine List.lookup_eq_some_iff.mpr ⟨before, after, rfl, fun binding hb => ?_⟩
  rw [List.map_append, List.map_cons, List.nodup_append] at distinct
  have differs := distinct.2.2 binding.1 (List.mem_map_of_mem hb) name List.mem_cons_self
  exact bne_iff_ne.mpr (Ne.symm differs)

/-- A frame binds the names of the parameters. -/
theorem keys_ofArguments {parameters : List Parameter} {values : List Value}
    (fits : values.length = parameters.length) :
    (Frame.ofArguments parameters values).parameters.map Prod.fst
      = (parameters.map Parameter.name).reverse := by
  unfold Frame.ofArguments
  rw [List.map_reverse, List.map_fst_zip (by rw [List.length_map, fits])]

theorem lookup_ofArguments {parameters : List Parameter} {values : List Value}
    (distinct : (parameters.map Parameter.name).Nodup)
    (fits : values.length = parameters.length) {i : Nat} {p : Parameter} {value : Value}
    (hp : parameters[i]? = some p) (hvalue : values[i]? = some value) :
    (Frame.ofArguments parameters values).parameters.lookup p.name = some value := by
  have keys := keys_ofArguments fits
  refine lookup_of_mem (by rw [keys]; exact List.nodup_reverse.mpr distinct) ?_
  have there : ((parameters.map Parameter.name).zip values)[i]? = some (p.name, value) := by
    rw [List.getElem?_zip_eq_some, List.getElem?_map, hp]
    exact ⟨rfl, hvalue⟩
  exact List.mem_reverse.mpr (List.mem_of_getElem? there)

/-! ## Checks that pass, and the first that does not -/

section

variable {limits : Limits} {bound : Bindings} {p : Parameter} {c d : Nat}

theorem tick_of_lt (h : c < limits.steps) : tick limits ⟨c, d⟩ = .ok () ⟨c + 1, d⟩ :=
  if_neg (Nat.not_lt_of_le h)

theorem Passes.checkArgument_run (h : Passes bound p) (enough : c + 2 ≤ limits.steps) :
    checkArgument limits bound p ⟨c, d⟩ = .ok () ⟨c + 2, d⟩ := by
  have first : tick limits ⟨c, d⟩ = .ok () ⟨c + 1, d⟩ := tick_of_lt (by omega)
  rw [h.checkArgument_eq, bind_of_ok first]
  exact tick_of_lt (by omega)

/-- An absent argument takes five steps: two of the guard, two of its branch, and the helper's. -/
theorem checkArgument_throws {value : Value} (found : bound.lookup p.name = some value)
    (absent : p.absent value = .ok true) (enough : c + 5 ≤ limits.steps)
    (level : d < limits.depth) :
    checkArgument limits bound p ⟨c, d⟩
      = .error (exceptionOf "System.ArgumentNullException" p.name) ⟨c + 5, d⟩ := by
  have step (n : Nat) (h : n < c + 5) : tick limits ⟨n, d⟩ = .ok () ⟨n + 1, d⟩ :=
    tick_of_lt (by omega)
  have free (n : Nat) : needLevel limits ⟨n, d⟩ = .ok () ⟨n, d⟩ := if_neg (Nat.not_le_of_lt level)
  have fetched (m : Meter) : fetch bound p.name m = .ok value m := by
    unfold fetch
    rw [found]
    rfl
  have settled (m : Meter) : settle (p.absent value) m = .ok true m := by
    rw [absent]
    rfl
  unfold checkArgument throwAbsent
  rw [bind_of_ok (step c (by omega)), bind_of_ok (step (c + 1) (by omega)),
    bind_of_ok (fetched _), bind_of_ok (settled _), if_pos rfl,
    bind_of_ok (step (c + 2) (by omega)), bind_of_ok (step (c + 3) (by omega)),
    bind_of_ok (free (c + 4)), bind_of_ok (step (c + 4) (by omega))]
  rfl

/-- **Arguments that are there take two steps each.** -/
theorem checkArguments_pass {ps : List Parameter} (passes : ∀ p ∈ ps, Passes bound p)
    (enough : c + 2 * ps.length ≤ limits.steps) :
    checkArguments limits bound ps ⟨c, d⟩ = .ok () ⟨c + 2 * ps.length, d⟩ := by
  induction ps generalizing c with
  | nil => rfl
  | cons p rest ih =>
      rw [List.length_cons] at enough
      obtain ⟨here, others⟩ := List.forall_mem_cons.mp passes
      have first : checkArgument limits bound p ⟨c, d⟩ = .ok () ⟨c + 2, d⟩ :=
        here.checkArgument_run (by omega)
      have steps : c + 2 + 2 * rest.length = c + 2 * (rest.length + 1) := by omega
      rw [checkArguments, bind_of_ok first, ih others (by omega), List.length_cons, steps]

/-- **The first argument that is absent is the one that is thrown for.** -/
theorem checkArguments_throws {before after : List Parameter} {value : Value}
    (passes : ∀ q ∈ before, Passes bound q) (found : bound.lookup p.name = some value)
    (absent : p.absent value = .ok true) (enough : c + (2 * before.length + 5) ≤ limits.steps)
    (level : d < limits.depth) :
    checkArguments limits bound (before ++ p :: after) ⟨c, d⟩
      = .error (exceptionOf "System.ArgumentNullException" p.name)
          ⟨c + (2 * before.length + 5), d⟩ := by
  induction before generalizing c with
  | nil =>
      have throws := checkArgument_throws found absent enough level
      exact bind_of_error throws
  | cons q rest ih =>
      rw [List.length_cons] at enough
      obtain ⟨here, others⟩ := List.forall_mem_cons.mp passes
      have first : checkArgument limits bound q ⟨c, d⟩ = .ok () ⟨c + 2, d⟩ :=
        here.checkArgument_run (by omega)
      have steps : c + 2 + (2 * rest.length + 5) = c + (2 * (rest.length + 1) + 5) := by omega
      rw [List.cons_append, checkArguments, bind_of_ok first, ih others (by omega),
        List.length_cons, steps]

end

/-! ## Runs of a lowered function -/

section

variable {source : SourceModule} {id : String} {options : LoweringOptions}
  {lowered : LoweredModule} {f : SourceFunction} {args : List Value}

/-- The body of a function finds the helper that throws, if a parameter is checked. -/
theorem throws_of_lower (h : source.lower id options = .ok lowered) (hf : f ∈ source.functions)
    {limits : Limits} {levels : Nat} (left : limits.depth = levels + 1) (checks : f.checked ≠ []) :
    Throws (Interpreter.caller ⟨lowered, limits⟩ levels) limits 1 := by
  have guarding := guarding_of_lower h limits
  have below : 1 + levels = limits.depth := by omega
  exact caller_throws guarding below (guarding.helper f hf checks)

/-- What is run one level down is run from there only. -/
theorem oneLevelDown_congr {frame : Frame} {run other : Stepped Completion} {meter : Meter}
    (same : run ⟨{ meter with depth := meter.depth + 1 }, frame⟩
      = other ⟨{ meter with depth := meter.depth + 1 }, frame⟩) :
    oneLevelDown frame run meter = oneLevelDown frame other meter := by
  unfold oneLevelDown
  rw [same]

/-- **A run of a function is its checks and then its body as it was declared.** -/
theorem run_eq_checks (h : source.lower id options = .ok lowered)
    (distinct : (source.functions.map SourceFunction.name).Nodup) (hf : f ∈ source.functions)
    (fits : args.length = f.parameters.length) {limits : Limits} {levels : Nat}
    (left : limits.depth = levels + 1) :
    Interpreter.run ⟨lowered, limits⟩ f.name args
      = oneLevelDown (Frame.ofArguments f.parameters args)
          ((inFrame fun frame => checkArguments limits frame.parameters f.checked) >>= fun _ =>
            f.body.exec limits (Interpreter.caller ⟨lowered, limits⟩ levels)) .zero := by
  have below : 1 + levels = limits.depth := by omega
  have atDepth : (⟨⟨0, 1⟩, Frame.ofArguments f.parameters args⟩ : Machine).meter.depth = 1 := rfl
  have body := guardedBy_exec (throws_of_lower h hf left) (caller_level ⟨lowered, limits⟩ below)
    f.body atDepth
  have free : Meter.zero.depth < limits.depth := by
    rw [left]
    exact Nat.succ_pos levels
  unfold Interpreter.run
  rw [function?_of_mem h distinct limits hf]
  dsimp only
  rw [left, Interpreter.callWithin_of_fits fits.symm free, Interpreter.runBody_eq]
  exact oneLevelDown_congr body

end

/-! ### By the items that are null -/

section

variable {source : SourceModule} {id : String} {options : LoweringOptions}
  {lowered : LoweredModule} {f : SourceFunction} {items : List Json} {values : List Value}
  {limits : Limits}

theorem ConvertedTo.passes (converted : ConvertedTo items f.parameters values)
    (distinct : (f.parameters.map Parameter.name).Nodup) {i : Nat} {p : Parameter}
    (hp : f.parameters[i]? = some p) (there : items[i]? ≠ some .null) :
    Passes (Frame.ofArguments f.parameters values).parameters p := by
  obtain ⟨item, value, hitem, hvalue, converts⟩ := converted.each i p hp
  have notNull : item ≠ .null := by
    rintro rfl
    exact there hitem
  exact ⟨value, lookup_ofArguments distinct converted.length hp hvalue,
    absent_of_ne_null notNull converts⟩

/-- Whether an item of a checked parameter is null, of those in front of a position. -/
def NoNullBefore (f : SourceFunction) (items : List Json) (j : Nat) : Prop :=
  ∀ i p, i < j → f.parameters[i]? = some p → p.nullChecked = true → items[i]? ≠ some .null

theorem ConvertedTo.passes_before (converted : ConvertedTo items f.parameters values)
    (distinct : (f.parameters.map Parameter.name).Nodup) {j : Nat} (none : NoNullBefore f items j)
    {p : Parameter} (hp : p ∈ (f.parameters.take j).filter Parameter.nullChecked) :
    Passes (Frame.ofArguments f.parameters values).parameters p := by
  obtain ⟨taken, checked⟩ := List.mem_filter.mp hp
  obtain ⟨i, hi⟩ := List.getElem?_of_mem taken
  rw [List.getElem?_take] at hi
  split at hi
  case isTrue before => exact converted.passes distinct hi (none i p before hi checked)
  case isFalse => cases hi

/-- A checked parameter stands between the checked ones in front of it and those behind it. -/
theorem checked_eq_append {j : Nat} {p : Parameter} (hp : f.parameters[j]? = some p)
    (checked : p.nullChecked = true) :
    f.checked = (f.parameters.take j).filter Parameter.nullChecked
      ++ p :: (f.parameters.drop (j + 1)).filter Parameter.nullChecked := by
  obtain ⟨inside, rfl⟩ := List.getElem?_eq_some_iff.mp hp
  rw [← List.filter_cons_of_pos checked, ← List.filter_append, ← List.drop_eq_getElem_cons inside,
    List.take_append_drop]
  rfl

/-- The run ends with the exception for the first checked parameter with a null. -/
theorem run_of_null (h : source.lower id options = .ok lowered)
    (functions : (source.functions.map SourceFunction.name).Nodup) (hf : f ∈ source.functions)
    (parameters : (f.parameters.map Parameter.name).Nodup)
    (converted : ConvertedTo items f.parameters values) {j : Nat} {p : Parameter}
    (hp : f.parameters[j]? = some p) (checked : p.nullChecked = true)
    (null : items[j]? = some .null) (first : NoNullBefore f items j) {k : Nat}
    (hk : ((f.parameters.take j).filter Parameter.nullChecked).length = k)
    (deep : 1 < limits.depth) (enough : 2 * k + 5 ≤ limits.steps) :
    Interpreter.run ⟨lowered, limits⟩ f.name values
      = .error (exceptionOf "System.ArgumentNullException" p.name) ⟨2 * k + 5, 0⟩ := by
  subst hk
  obtain ⟨levels, left⟩ : ∃ n, limits.depth = n + 1 := ⟨limits.depth - 1, by omega⟩
  obtain ⟨item, value, hitem, hvalue, converts⟩ := converted.each j p hp
  obtain rfl : item = .null := Option.some.inj (hitem.symm.trans null)
  have found := lookup_ofArguments parameters converted.length hp hvalue
  have throws : checkArguments limits (Frame.ofArguments f.parameters values).parameters f.checked
        ⟨0, 1⟩
      = .error (exceptionOf "System.ArgumentNullException" p.name)
          ⟨0 + (2 * ((f.parameters.take j).filter Parameter.nullChecked).length + 5), 1⟩ := by
    rw [checked_eq_append hp checked]
    exact checkArguments_throws (fun q hq => converted.passes_before parameters first hq) found
      (absent_null converts) (by rw [Nat.zero_add]; exact enough) deep
  rw [Nat.zero_add] at throws
  rw [run_eq_checks h functions hf converted.length left]
  unfold oneLevelDown
  rw [bind_of_error (inFrame_of_error throws)]
  rfl

/-- The frame in which the statements of a function begin. -/
def SourceFunction.entry (f : SourceFunction) (values : List Value) : Frame :=
  (Frame.ofArguments f.parameters values).enterBlock f.body.locals

/--
The body of a function is entered as it was declared, with the values of the items, after guards
that have taken two steps each.
-/
structure Entered (i : Interpreter) (f : SourceFunction) (items : List Json)
    (values : List Value) : Prop where
  /-- Every parameter is bound to the value of its item. -/
  bound : ∀ (j : Nat) p, f.parameters[j]? = some p → ∃ item value, items[j]? = some item
    ∧ Value.ofJson item p.type = .ok value
    ∧ (Frame.ofArguments f.parameters values).parameters.lookup p.name = some value
  /-- Nothing but the parameters is bound. -/
  names : (Frame.ofArguments f.parameters values).parameters.map Prod.fst
    = (f.parameters.map Parameter.name).reverse
  /-- The function is the declared one with a guard for every checked parameter. -/
  guarded : i.lowered.function? f.name = some (f.guarded throwHelper.symbol)
  /-- No guard throws or faults, and they leave the frame as it is. -/
  guards : Stmt.execAll i.limits (i.caller (i.limits.depth - 1))
      (f.checked.map (Parameter.guardWith throwHelper.symbol))
      ⟨⟨0, 1⟩, f.entry values⟩
    = .ok .normal ⟨⟨2 * f.checked.length, 1⟩, f.entry values⟩
  /-- The rest of the run is that of the declared body. -/
  body : i.run f.name values
    = Interpreter.runBody i.limits (i.caller (i.limits.depth - 1)) ⟨f.name, f.parameters, f.body⟩
        values ⟨2 * f.checked.length, 0⟩

theorem entered_of_not_null (h : source.lower id options = .ok lowered)
    (functions : (source.functions.map SourceFunction.name).Nodup) (hf : f ∈ source.functions)
    (parameters : (f.parameters.map Parameter.name).Nodup)
    (converted : ConvertedTo items f.parameters values)
    (none : NoNullBefore f items f.parameters.length) (deep : 0 < limits.depth)
    (enough : 2 * f.checked.length ≤ limits.steps) :
    Entered ⟨lowered, limits⟩ f items values := by
  obtain ⟨levels, left⟩ : ∃ n, limits.depth = n + 1 := ⟨limits.depth - 1, by omega⟩
  have all : f.checked = (f.parameters.take f.parameters.length).filter Parameter.nullChecked := by
    rw [List.take_length]
    rfl
  have passes (p : Parameter) (hp : p ∈ f.checked) :
      Passes (Frame.ofArguments f.parameters values).parameters p :=
    converted.passes_before parameters none (all ▸ hp)
  have checks : checkArguments limits (Frame.ofArguments f.parameters values).parameters f.checked
      ⟨0, 1⟩ = .ok () ⟨0 + 2 * f.checked.length, 1⟩ :=
    checkArguments_pass passes (by rw [Nat.zero_add]; exact enough)
  rw [Nat.zero_add] at checks
  refine ⟨?bound, keys_ofArguments converted.length, ?guarded, ?guards, ?body⟩
  case bound =>
    intro j p hp
    obtain ⟨item, value, hitem, hvalue, converts⟩ := converted.each j p hp
    exact ⟨item, value, hitem, converts,
      lookup_ofArguments parameters converted.length hp hvalue⟩
  case guarded => exact function?_guarded h functions hf
  case guards =>
    have below : 1 + levels = limits.depth := by omega
    have inside : (inFrame fun frame => checkArguments limits frame.parameters f.checked)
        ⟨⟨0, 1⟩, f.entry values⟩ = .ok () ⟨⟨2 * f.checked.length, 1⟩, f.entry values⟩ :=
      inFrame_of_ok checks
    have atDepth : (⟨⟨0, 1⟩, f.entry values⟩ : Machine).meter.depth = 1 := rfl
    have same := (guards_simulate (throws_of_lower h hf left)
      (caller_level ⟨lowered, limits⟩ below) []).agree atDepth
    rw [List.append_nil, bind_of_ok inside] at same
    dsimp only
    rw [left]
    exact same
  case body =>
    dsimp only
    rw [run_eq_checks h functions hf converted.length left, Interpreter.runBody_eq, left,
      Nat.add_sub_cancel]
    unfold oneLevelDown
    rw [bind_of_ok (inFrame_of_ok checks)]
    rfl

end

/-! ## The command -/

namespace Command

/-- What is printed for the end of an invocation, and the exit code. -/
def Result.ofInvocation (name : String) : Except EvalError Outcome → Result
  | .ok outcome =>
    { exit := if outcome.isThrow then 1 else 0, stdout := outcome.render name ++ "\n" }
  | .error error => { exit := 2, stderr := error.report.short ++ "\n" }

/--
A command line asks for a function of a module of a file to be run. The module can be loaded and
lowered, its functions have different names, and so have the parameters of the function. The
arguments are as many items as there are parameters, and each one converts to its type.

Where the file lies, and what else there is, does not matter: the environment is asked for an
identifier and for the module, and that leads from one state to another one.
-/
structure Asks {σ : Type} (env : Environment (StateM σ)) (s after : σ) (words : List String)
    (source : SourceModule) (lowered : LoweredModule) (f : SourceFunction) (items : List Json) :
    Prop where
  request : ∃ file text, Request.ofWords words = .ok (.run file f.name text)
    ∧ (SourceModule.load env.files file).run (env.freshId.run s).2 = (.ok source, after)
    ∧ Json.decodeText Json.Decoder.json text = .ok (.array items)
  lowers : source.lower (env.freshId.run s).1 {} = .ok lowered
  functions : (source.functions.map SourceFunction.name).Nodup
  declared : f ∈ source.functions
  parameters : (f.parameters.map Parameter.name).Nodup
  converts : Converts items f.parameters

variable {σ : Type} {env : Environment (StateM σ)} {s after : σ} {words : List String}
  {source : SourceModule} {lowered : LoweredModule} {f : SourceFunction} {items : List Json}
  {values : List Value}

/-- The arguments of a request are read as the values of its items. -/
theorem readArguments_eq_ok {g : LoweredFunction} {text : String}
    (decodes : Json.decodeText Json.Decoder.json text = .ok (.array items))
    (fits : items.length = g.parameters.length)
    (converted : Value.ofJsonAll items g.parameters = .ok values) :
    readArguments g text = .ok values := by
  unfold readArguments
  rw [decodes]
  dsimp only
  rw [if_neg (not_not_intro fits), converted]
  rfl

/-- A module is lowered from where it has been loaded. -/
theorem lower_run {file : String} {options : LoweringOptions}
    (loads : (SourceModule.load env.files file).run (env.freshId.run s).2 = (.ok source, after))
    (lowers : source.lower (env.freshId.run s).1 options = .ok lowered) :
    (env.lower options file).run s = (.ok lowered, after) := by
  have lowerFile_run : (lowerFile env.files file (env.freshId.run s).1 options).run
      (env.freshId.run s).2 = (.ok lowered, after) := by
    unfold lowerFile
    rw [StateT.run_bind, loads]
    dsimp only [bind]
    rw [lowers]
    rfl
  exact lowerFile_run

theorem invoke_eq {g : LoweredFunction} {name text : String}
    (found : lowered.function? name = some g) (read : readArguments g text = .ok values) :
    invoke lowered name text
      = (Interpreter.invoke ⟨lowered, {}⟩ name values).mapError EvalError.report := by
  unfold invoke
  rw [found]
  dsimp only
  rw [read]
  rfl

/-- The command prints the end of the invocation with the values of the items. -/
theorem Asks.execute_eq (asks : Asks env s after words source lowered f items)
    (converted : ConvertedTo items f.parameters values) :
    (execute env words).run s
      = (.ofInvocation f.name (Interpreter.invoke ⟨lowered, {}⟩ f.name values), after) := by
  obtain ⟨file, text, request, loads, decodes⟩ := asks.request
  have found := function?_guarded asks.lowers asks.functions asks.declared
  have read : readArguments (f.guarded throwHelper.symbol) text = .ok values :=
    readArguments_eq_ok decodes asks.converts.length_eq converted.all
  rw [Command.execute_eq env request]
  unfold Request.settle Request.plan
  rw [StateT.run_map, StateT.run_bind, StateT.run_bind, lower_run loads asks.lowers]
  dsimp only [bind, StateT.run_pure, pure, Except.bind]
  rw [invoke_eq found read]
  cases Interpreter.invoke ⟨lowered, {}⟩ f.name values with
  | error error => rfl
  | ok outcome =>
      have one : String.join [outcome.render f.name ++ "\n"] = outcome.render f.name ++ "\n" := by
        simp
      unfold Result.ofInvocation
      dsimp only
      rw [← one]
      rfl

/-- What is printed for the exception of a guard. -/
theorem ofInvocation_absent (name parameter : String) :
    Result.ofInvocation name
        (.ok (.threw (.object "System.ArgumentNullException" [.text parameter])))
      = { exit := 1
          stdout := "exception " ++ name ++ " threw System.ArgumentNullException("
            ++ Text.quote parameter ++ ")\n"
          stderr := "" } := by
  have rendered : Value.render (.object "System.ArgumentNullException" [.text parameter])
      = "System.ArgumentNullException(" ++ (Text.quote parameter ++ ")") := by
    rw [Value.render, Value.renderAll, Value.renderAll, Value.render, String.intercalate_singleton,
      String.append_assoc, String.append_assoc]
    rfl
  have line : (Outcome.threw (.object "System.ArgumentNullException" [.text parameter])).render name
        ++ "\n"
      = "exception " ++ name ++ " threw System.ArgumentNullException(" ++ Text.quote parameter
        ++ ")\n" := by
    rw [Outcome.render, rendered]
    simp only [String.append_assoc]
    rfl
  exact congrArg (fun stdout => ({ exit := 1, stdout } : Result)) line

/--
**A run reports exactly the first absent argument.**

For every request to run a function of a module that can be loaded and lowered, with as many items
as parameters that all convert:

1. If some checked parameter has a null, and the first such parameter has `k` checked ones in front
   of it, the command exits with 1 and prints the exception for this parameter and nothing else,
   whatever the body and the other arguments are, as long as the `2 * k + 5` steps are allowed.
2. If none has one, and the steps of the guards are allowed, no guard throws or faults, the body is
   entered with exactly the values that the items convert to, and the command prints how that ends.
-/
theorem execute_reports_first_absent (asks : Asks env s after words source lowered f items) :
    (∀ (j : Nat) p, f.parameters[j]? = some p → p.nullChecked = true → items[j]? = some .null →
      NoNullBefore f items j → ∀ k,
        ((f.parameters.take j).filter Parameter.nullChecked).length = k → 2 * k + 5 ≤ 1000000 →
          (execute env words).run s
            = ({ exit := 1
                 stdout := "exception " ++ f.name ++ " threw System.ArgumentNullException("
                   ++ Text.quote p.name ++ ")\n"
                 stderr := "" }, after))
      ∧ (NoNullBefore f items f.parameters.length → f.checked.length ≤ 500000 →
        ∃ values, Entered ⟨lowered, {}⟩ f items values
          ∧ (execute env words).run s
            = (.ofInvocation f.name (Interpreter.invoke ⟨lowered, {}⟩ f.name values), after)) := by
  obtain ⟨values, converted⟩ := exists_converted asks.converts
  rw [asks.execute_eq converted]
  refine ⟨fun j p hp checked null first k hk enough => ?_, fun none few => ?_⟩
  · have deep : 1 < ({} : Limits).depth := by decide
    have ends := run_of_null asks.lowers asks.functions asks.declared asks.parameters converted hp
      checked null first hk deep enough
    unfold Interpreter.invoke
    rw [ends]
    exact congrArg (·, after) (ofInvocation_absent f.name p.name)
  · have entered : Entered ⟨lowered, {}⟩ f items values :=
      entered_of_not_null asks.lowers asks.functions asks.declared asks.parameters converted none
        (by decide) (by dsimp only; omega)
    exact ⟨values, entered, rfl⟩

/-- A file with a module document is loaded as the module. -/
theorem load_run {fs : FileSystem (StateM σ)} {file document : String}
    (read : (fs.read file).run s = (some document, after))
    (reads : SourceModule.ofText (((Path.fileName? file).map Path.stem).getD "") document
      = .ok source) :
    (SourceModule.load fs file).run s = (.ok { source with path := some file }, after) := by
  unfold SourceModule.load
  rw [StateT.run_bind, read]
  dsimp only [bind]
  rw [reads]
  rfl

/-- The environment of a tree of files, from a working directory, with one identifier for its
modules. -/
def Environment.ofTree (id : String) (cwd : List String) : Environment (StateM FileTree) where
  files := FileTree.system cwd
  freshId := pure id

/-- A root with two directories, one with a file. -/
def rootWith (name text : String) : FileTree :=
  .directory [("tmp", .directory []), ("work", .directory [(name, .file text.toUTF8)])]

theorem read_rootWith {name text path : String} {cwd : List String}
    (reached : (rootWith name text).resolve path cwd = .ok ["work", name]) :
    ((FileTree.system cwd).read path).run (rootWith name text)
      = (some text, rootWith name text) := by
  have there : (rootWith name text).holding? ["work", name] = some (.file text.toUTF8) := by
    have apart : ("work" == "tmp") = false := by decide
    unfold rootWith
    rw [FileTree.holding?_cons, List.lookup_cons, apart, List.lookup_cons_self, Option.bind_some,
      FileTree.holding?_cons, List.lookup_cons_self]
    rfl
  rw [← FileTree.textAt?_of_holding? reached there]
  rfl

/-- A function that checks a text and a nullable number. -/
def greet : SourceFunction :=
  ⟨"greet", [⟨"who", .string, true, 0⟩, ⟨"n", .nullable "int", true, 1⟩], .void, .empty⟩

/-- The document of a module with this function. -/
def greeting : String :=
  Format.json.render ⟨⟨"id", "m", .empty⟩, [⟨greet.name, greet.parameters, .void, .empty, 0⟩]⟩

theorem load_greeting {path : String} {cwd : List String}
    (reached : (rootWith "m.json" greeting).resolve path cwd = .ok ["work", "m.json"])
    (stem : ((Path.fileName? path).map Path.stem).getD "" = "m") :
    (SourceModule.load (FileTree.system cwd) path).run (rootWith "m.json" greeting)
      = (.ok ⟨"m", some path, [greet]⟩, rootWith "m.json" greeting) := by
  have document : SourceModule.ofText "m" greeting = .ok ⟨"m", none, [greet]⟩ :=
    ofText_render "m" _ (by decide +kernel)
  have reads : SourceModule.ofText (((Path.fileName? path).map Path.stem).getD "") greeting
      = .ok ⟨"m", none, [greet]⟩ := by rw [stem, document]
  exact load_run (read_rootWith reached) reads

/-- The path of the module is absolute, and the working directory is another one. -/
theorem greeting_asks :
    ∃ lowered, Asks (.ofTree "id" ["tmp"]) (rootWith "m.json" greeting) (rootWith "m.json" greeting)
      ["run", "/work/m.json", "greet", "[\"x\",null]"] ⟨"m", some "/work/m.json", [greet]⟩ lowered
      greet [.string "x", .null] := by
  have request : Request.ofWords ["run", "/work/m.json", "greet", "[\"x\",null]"]
      = .ok (.run "/work/m.json" "greet" "[\"x\",null]") := by decide +kernel
  have decodes : Json.decodeText Json.Decoder.json "[\"x\",null]"
      = .ok (.array [.string "x", .null]) := by cbv
  have reached : (rootWith "m.json" greeting).resolve "/work/m.json" ["tmp"]
      = .ok ["work", "m.json"] := by decide +kernel
  have loads := load_greeting reached (by decide +kernel)
  have distinct : (greet.parameters.map Parameter.name).Nodup := by simp [greet]
  exact ⟨_, ⟨"/work/m.json", _, request, loads, decodes⟩, rfl, List.nodup_singleton _,
    List.mem_singleton_self _, distinct, .cons ⟨_, rfl⟩ (.cons ⟨_, rfl⟩ .nil)⟩

/-- The text is there, so the number is the first absent argument. -/
theorem execute_reports_greeting :
    (execute (.ofTree "id" ["tmp"]) ["run", "/work/m.json", "greet", "[\"x\",null]"]).run
        (rootWith "m.json" greeting)
      = ({ exit := 1
           stdout := "exception greet threw System.ArgumentNullException(\"n\")\n" },
        rootWith "m.json" greeting) := by
  obtain ⟨lowered, asks⟩ := greeting_asks
  have before : NoNullBefore greet [.string "x", .null] 1 := by
    intro i p small _ _ null
    obtain rfl : i = 0 := by omega
    cases null
  have reported := (execute_reports_first_absent asks).1 1 _ rfl rfl rfl before 1 rfl (by decide)
  have quoted : Text.quote "n" = "\"n\"" := by decide +kernel
  rw [quoted] at reported
  exact reported

end Command

end ArgumentGuards
