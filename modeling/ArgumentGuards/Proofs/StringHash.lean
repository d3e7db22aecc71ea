import ArgumentGuards.Proofs.CheckedEntry
import Mathlib

/-!
# What the generated hash computes

The helper that hashes a text is a program: a loop over the code units, with a variable for the hash
and one for the index. Here it is compared with the hash as it is defined, which is a fold over
numbers, and its steps are counted.

Steps are what makes a run of it fail, and nothing else does. So a run is described by how many it
takes and by what it does if it is allowed them (`Takes`). That it is the fault of the limit
otherwise is proved once for every kind of statement, and programs are gone through statement by
statement.
-/

namespace ArgumentGuards

/-! ## The hash -/

/--
The 32-bit FNV-1a hash of some units. From the offset basis on, every unit is mixed in by an
exclusive or and then by a product modulo 2³².
-/
def Text.fnv1a (units : List Nat) : Nat :=
  units.foldl (fun hash unit => (hash ^^^ unit) * 16777619 % 2 ^ 32) 2166136261

/-- The hash of some code units as the helper computes it, in 32-bit words. -/
def hashOf (units : List UInt32) : UInt32 :=
  units.foldl (fun hash unit => (unit ^^^ hash) * fnvPrime) fnvOffsetBasis

theorem toNat_hashOf (units : List UInt32) :
    (hashOf units).toNat = Text.fnv1a (units.map UInt32.toNat) := by
  unfold hashOf Text.fnv1a
  rw [List.foldl_map]
  refine (List.foldl_hom UInt32.toNat fun hash unit => ?_).symm
  rw [UInt32.toNat_mul, UInt32.toNat_xor, Nat.xor_comm]
  rfl

theorem hashOf_eq (units : List UInt32) :
    hashOf units = .ofNat (Text.fnv1a (units.map UInt32.toNat)) := by
  rw [← toNat_hashOf, UInt32.ofNat_toNat]

/-- One more unit is one more round. -/
theorem hashOf_take {units : List UInt32} {j : Nat} {unit : UInt32} (h : units[j]? = some unit) :
    hashOf (units.take (j + 1)) = (unit ^^^ hashOf (units.take j)) * fnvPrime := by
  rw [List.take_add_one, h]
  exact List.foldl_append

/-! ## Lengths -/

/-- A character has no more code units than bytes. -/
theorem length_unitsOf_le (c : Char) : (Text.unitsOf c).length ≤ c.utf8Size := by
  unfold Text.unitsOf
  split
  · exact c.utf8Size_pos
  · next supplementary =>
    have bytes : c.utf8Size = 4 := by
      unfold Char.utf8Size
      grind
    rw [bytes]
    exact Nat.le_add_right 2 2

theorem unitCount_le_utf8ByteSize (s : String) : Text.unitCount s ≤ s.utf8ByteSize := by
  have units (cs : List Char) : (cs.flatMap Text.unitsOf).length ≤ String.utf8Len cs := by
    induction cs with
    | nil => exact Nat.le_refl 0
    | cons c rest ih =>
        have first := length_unitsOf_le c
        rw [List.flatMap_cons, List.length_append, String.utf8Len_cons]
        omega
  calc Text.unitCount s ≤ String.utf8Len s.toList := units s.toList
    _ = s.utf8ByteSize := by rw [← String.utf8ByteSize_ofList, String.ofList_toList]

/-! ## Counting steps -/

/--
How a run ends that is to end in a machine with a value: it does if the steps that were taken by
then are within the limit, and otherwise it is the fault of the limit.
-/
inductive Counted {α : Type} (limits : Limits) (a : α) (machine : Machine) :
    EStateM.Result Interrupt Machine α → Prop where
  | within : machine.meter.steps ≤ limits.steps → Counted limits a machine (.ok a machine)
  | beyond {after : Machine} : limits.steps < machine.meter.steps →
      Counted limits a machine (.error (.fault (.stepLimit limits.steps)) after)

theorem Counted.bind {α β : Type} {limits : Limits} {run : Stepped α} {next : α → Stepped β}
    {start middle final : Machine} {a : α} {b : β} (first : Counted limits a middle (run start))
    (second : middle.meter.steps ≤ limits.steps → Counted limits b final (next a middle))
    (later : middle.meter.steps ≤ final.meter.steps) :
    Counted limits b final ((run >>= next) start) := by
  cases ends : run start with
  | ok value machine =>
      rw [ends] at first
      rw [bind_of_ok ends]
      cases first with
      | within enough => exact second enough
  | error interrupt machine =>
      rw [ends] at first
      rw [bind_of_error ends]
      cases first with
      | beyond short => exact .beyond (Nat.lt_of_lt_of_le short later)

theorem takeStep_counted (limits : Limits) (c d : Nat) (frame : Frame) :
    Counted limits () ⟨⟨c + 1, d⟩, frame⟩ (takeStep limits ⟨⟨c, d⟩, frame⟩) := by
  unfold takeStep
  by_cases beyond : limits.steps < c + 1
  · rw [if_pos beyond]
    exact .beyond beyond
  · rw [if_neg beyond]
    exact .within (Nat.le_of_not_lt beyond)

/-- From a frame on, a run takes so many steps and ends in a frame with a value. -/
def Takes {α : Type} (limits : Limits) (frame : Frame) (run : Stepped α) (steps : Nat)
    (frame' : Frame) (a : α) : Prop :=
  ∀ c d, c ≤ limits.steps →
    Counted limits a ⟨⟨c + steps, d⟩, frame'⟩ (run ⟨⟨c, d⟩, frame⟩)

namespace Takes

variable {limits : Limits} {call : Caller} {frame frame' frame'' : Frame} {j k : Nat}

theorem pure {α : Type} (a : α) : Takes limits frame (Pure.pure a) 0 frame a :=
  fun _ _ enough => .within enough

theorem bind {α β : Type} {run : Stepped α} {next : α → Stepped β} {a : α} {b : β}
    (first : Takes limits frame run j frame' a)
    (second : Takes limits frame' (next a) k frame'' b) :
    Takes limits frame (run >>= next) (j + k) frame'' b := by
  intro c d enough
  refine (first c d enough).bind (fun more => ?_) (by dsimp only; omega)
  rw [← Nat.add_assoc]
  exact second (c + j) d more

theorem step {α : Type} {run : Stepped α} {a : α} (rest : Takes limits frame run k frame' a) :
    Takes limits frame (takeStep limits >>= fun _ => run) (1 + k) frame' a := by
  intro c d _
  refine (takeStep_counted limits c d frame).bind (fun enough => ?_) (by dsimp only; omega)
  rw [← Nat.add_assoc]
  exact rest (c + 1) d enough

/-! ### Statements whose expressions call nothing -/

section

variable {e : Expr} {v : Value} {name : String} {s : Stmt} {statements : List Stmt} {a : Completion}

theorem eval (value : e.eval call frame = Pure.pure v) :
    Takes limits frame (inFrame (e.eval call)) 0 frame v := by
  intro c d enough
  dsimp only [inFrame]
  rw [value]
  exact .within enough

theorem test {b : Bool} (value : e.eval call frame = Pure.pure (.bool b)) :
    Takes limits frame (Stmt.test call e) 0 frame b := by
  intro c d enough
  dsimp only [Stmt.test, inFrame]
  rw [value]
  exact .within enough

theorem assign (value : e.eval call frame = Pure.pure v)
    (assigned : frame.assign? name v = some frame') :
    Takes limits frame ((Stmt.assign name e).exec limits call) 1 frame' .normal := by
  have assigns : Takes limits frame (ArgumentGuards.assign name v) 0 frame' () := by
    intro c d enough
    dsimp only [ArgumentGuards.assign]
    rw [assigned]
    exact .within enough
  rw [Stmt.exec]
  refine .step (k := 0) ((eval value).bind (k := 0) (assigns.bind (k := 0) ?_))
  exact .pure _

theorem ret (value : e.eval call frame = Pure.pure v) :
    Takes limits frame ((Stmt.ret (some e)).exec limits call) 1 frame (.returned v) := by
  rw [Stmt.exec]
  refine .step (k := 0) ((eval value).bind (k := 0) ?_)
  exact .pure _

theorem conditional_true (holds : e.eval call frame = Pure.pure (.bool true))
    (branch : Takes limits frame (s.exec limits call) k frame' a) :
    Takes limits frame ((Stmt.conditional e s none).exec limits call) (1 + k) frame' a := by
  rw [Stmt.exec, ← Nat.zero_add k]
  exact .step ((test holds).bind branch)

theorem conditional_false (fails : e.eval call frame = Pure.pure (.bool false)) :
    Takes limits frame ((Stmt.conditional e s none).exec limits call) 1 frame .normal := by
  rw [Stmt.exec]
  refine .step (k := 0) ((test fails).bind (k := 0) ?_)
  exact .pure _

theorem braced (inside : Takes limits frame (Stmt.execAll limits call statements) k frame' a) :
    Takes limits frame ((Stmt.braced statements).exec limits call) (1 + k) frame' a := by
  rw [Stmt.braced, Stmt.exec, withLocals_nil]
  exact inside.step

theorem nil : Takes limits frame (Stmt.execAll limits call []) 0 frame .normal :=
  .pure _

theorem cons (first : Takes limits frame (s.exec limits call) j frame' .normal)
    (rest : Takes limits frame' (Stmt.execAll limits call statements) k frame'' a) :
    Takes limits frame (Stmt.execAll limits call (s :: statements)) (j + k) frame'' a := by
  rw [Stmt.execAll]
  exact first.bind rest

theorem last (returns : Takes limits frame (s.exec limits call) k frame' (.returned v)) :
    Takes limits frame (Stmt.execAll limits call (s :: statements)) k frame' (.returned v) := by
  rw [Stmt.execAll]
  refine returns.bind (k := 0) ?_
  exact .pure _

end

/-! ### Loops that count their rounds -/

variable {frames : Nat → Frame} {rounds : Nat}

/-- With `left` rounds to go, the steps that the limit leaves are rounds enough: each takes one. -/
theorem repeatWhile {test : Stepped Bool} {body : Stepped Completion} (paid : 0 < k)
    (again : ∀ j < rounds, Takes limits (frames j) test 0 (frames j) true)
    (stop : Takes limits (frames rounds) test 0 (frames rounds) false)
    (round : ∀ j < rounds, Takes limits (frames j) body k (frames (j + 1)) .normal)
    {left j c times : Nat} (d : Nat) (going : j + left = rounds) (enough : c ≤ limits.steps)
    (many : limits.steps ≤ c + times) :
    Counted limits .normal ⟨⟨c + k * left, d⟩, frames rounds⟩
      (ArgumentGuards.repeatWhile limits test body (times + 1) ⟨⟨c, d⟩, frames j⟩) := by
  induction left generalizing j c times with
  | zero =>
      obtain rfl : j = rounds := going
      exact (stop c d enough).bind (fun enough => .within enough) (Nat.le_refl _)
  | succ left ih =>
      have here : j < rounds := by omega
      have cost : c + k * (left + 1) = c + k + k * left := by ring
      rw [cost]
      refine (again j here c d enough).bind (fun _ => ?_) (by dsimp only; omega)
      refine (round j here c d enough).bind (fun more => ?_) (by dsimp only; omega)
      -- the round has taken a step at least, so with one round less there are still enough
      dsimp only at more
      obtain ⟨fewer, rfl⟩ : ∃ n, times = n + 1 := ⟨times - 1, by omega⟩
      exact ih (by omega) more (by omega)

theorem loop {e : Expr} {s : Stmt} (paid : 0 < k)
    (again : ∀ j < rounds, e.eval call (frames j) = Pure.pure (.bool true))
    (stop : e.eval call (frames rounds) = Pure.pure (.bool false))
    (round : ∀ j < rounds,
      Takes limits (frames j) (s.exec limits call) k (frames (j + 1)) .normal) :
    Takes limits (frames 0) ((Stmt.loop e s).exec limits call) (1 + k * rounds) (frames rounds)
      .normal := by
  rw [Stmt.exec]
  refine .step fun c d enough => ?_
  have left : roundsLeft limits ⟨⟨c, d⟩, frames 0⟩ = limits.steps - c + 1 :=
    Nat.sub_add_comm enough
  change Counted limits _ _ (ArgumentGuards.repeatWhile limits _ _
    (roundsLeft limits ⟨⟨c, d⟩, frames 0⟩) ⟨⟨c, d⟩, frames 0⟩)
  rw [left]
  exact repeatWhile paid (fun j here => test (again j here)) (test stop) round d
    (Nat.zero_add rounds) enough (by omega)

/-! ### Beyond the limit -/

/-- Every statement takes a step before it does anything else. -/
theorem exec_eq_takeStep (limits : Limits) (call : Caller) (s : Stmt) :
    ∃ next, s.exec limits call = takeStep limits >>= next := by
  unfold Stmt.exec
  split <;> exact ⟨_, rfl⟩

/-- Statements whose steps are counted within the limit can be counted from beyond it too. -/
theorem counted {s : Stmt} {statements : List Stmt} {a : Completion}
    (takes : Takes limits frame (Stmt.execAll limits call (s :: statements)) k frame' a)
    (paid : 0 < k) (c d : Nat) :
    Counted limits a ⟨⟨c + k, d⟩, frame'⟩
      (Stmt.execAll limits call (s :: statements) ⟨⟨c, d⟩, frame⟩) := by
  by_cases enough : c ≤ limits.steps
  · exact takes c d enough
  · obtain ⟨next, first⟩ := exec_eq_takeStep limits call s
    rw [Stmt.execAll, first, bind_assoc]
    refine (takeStep_counted limits c d frame).bind (fun more => ?_) (by dsimp only; omega)
    exact absurd (Nat.le_of_succ_le more) enough

end Takes

/-! ## The helper -/

/-- Whether code units are left: the condition of the helper's loop. -/
def hashMore : Expr := .binary .lessThan (.localVar "i") (.length (.parameter "s" .string))

/-- The hash with the next code unit mixed in. -/
def hashMix : Expr :=
  .binary .multiply
    (.binary .xor (.charAt (.parameter "s" .string) (.localVar "i")) (.localVar "hash"))
    (.literal (.uint fnvPrime))

/-- A round of the helper's loop. -/
def hashRound : Stmt :=
  .braced [.assign "hash" hashMix, .assign "i" (.binary .add (.localVar "i") (.literal (.int 1)))]

/-- What the helper does with a text. -/
def hashScan : Stmt := .braced [.assign "i" (.literal (.int 0)), .loop hashMore hashRound]

theorem hashHelper_statements :
    hashHelper.body.statements
      = [.assign "hash" (.literal (.uint fnvOffsetBasis)),
        .conditional (.isNotNull (.parameter "s" .string)) hashScan none,
        .ret (some (.localVar "hash"))] :=
  rfl

/-- The frame that the helper is entered with. -/
def hashEntry (argument : Value) : Frame :=
  (Frame.ofArguments hashHelper.symbol.parameters [argument]).enterBlock hashHelper.body.locals

/-- The frame of the helper after some rounds. -/
def hashFrame (s : String) (rounds : Nat) : Frame :=
  ⟨[("s", .text s)],
    [("i", .int (.ofNat rounds)), ("hash", .uint (hashOf ((Text.units s).take rounds)))]⟩

section

variable {limits : Limits} {call : Caller} {s : String} {j : Nat}

/-- The code unit that comes after some rounds. -/
theorem codeUnit_eq {unit : UInt32} (small : j < 2 ^ 63) (h : (Text.units s)[j]? = some unit) :
    Value.codeUnit (.text s) (.int (.ofNat j)) = .ok (.uint unit) := by
  have index : (Int64.ofNat j).toInt = j := Int64.toInt_ofNat_of_lt small
  have nonneg : ¬ Int64.ofNat j < 0 := by
    rw [Int64.lt_iff_toInt_lt, index]
    exact not_lt.mpr (Int.natCast_nonneg j)
  have found : Text.unitAt? s.toList j = some unit := (Text.unitAt?_eq_getElem? _ _).trans h
  simp only [Value.codeUnit, if_neg nonneg, index, Int.toNat_natCast, found]

theorem eval_hashMore (small : Text.unitCount s < 2 ^ 63) (h : j ≤ Text.unitCount s) :
    hashMore.eval call (hashFrame s j) = pure (.bool (decide (j < Text.unitCount s))) := by
  have below : (Int64.ofNat j < Int64.ofNat (Text.unitCount s)) = (j < Text.unitCount s) :=
    propext (Int64.ofNat_lt_iff_lt (Nat.lt_of_le_of_lt h small) small)
  change (pure (.bool (decide (Int64.ofNat j < Int64.ofNat (Text.unitCount s)))) : Metered Value)
    = _
  simp only [below]

theorem eval_hashMix {unit : UInt32} (small : j < 2 ^ 63) (h : (Text.units s)[j]? = some unit) :
    hashMix.eval call (hashFrame s j) = pure (.uint (hashOf ((Text.units s).take (j + 1)))) := by
  have next : (Expr.charAt (.parameter "s" .string) (.localVar "i")).eval call (hashFrame s j)
      = pure (.uint unit) :=
    congrArg settle (codeUnit_eq small h)
  have mixed : (Expr.binary .xor (.charAt (.parameter "s" .string) (.localVar "i"))
        (.localVar "hash")).eval call (hashFrame s j)
      = pure (.uint (unit ^^^ hashOf ((Text.units s).take j))) := by
    rw [Expr.eval, next]
    rfl
  rw [hashOf_take h, hashMix, Expr.eval, mixed]
  rfl

/-- **A round mixes a code unit in**, in three steps. -/
theorem hashRound_takes (small : Text.unitCount s < 2 ^ 63) (here : j < Text.unitCount s) :
    Takes limits (hashFrame s j) (hashRound.exec limits call) 3 (hashFrame s (j + 1)) .normal := by
  have unit : (Text.units s)[j]? = some ((Text.units s)[j]) := List.getElem?_eq_getElem here
  have index : (Expr.binary .add (.localVar "i") (.literal (.int 1))).eval call
        ⟨(hashFrame s j).parameters,
          [("i", .int (.ofNat j)), ("hash", .uint (hashOf ((Text.units s).take (j + 1))))]⟩
      = pure (.int (.ofNat (j + 1))) := by
    rw [Int64.ofNat_add]
    rfl
  have mixed : Takes limits (hashFrame s j) ((Stmt.assign "hash" hashMix).exec limits call) 1
      ⟨(hashFrame s j).parameters,
        [("i", .int (.ofNat j)), ("hash", .uint (hashOf ((Text.units s).take (j + 1))))]⟩ .normal :=
    .assign (eval_hashMix (Nat.lt_trans here small) unit) rfl
  exact .braced (k := 2) (mixed.cons (k := 1) ((Takes.assign index rfl).cons (k := 0) .nil))

/-- **A text is scanned to its end**, three steps for each of its code units. -/
theorem hashScan_takes (small : Text.unitCount s < 2 ^ 63) :
    Takes limits (hashFrame s 0) (hashScan.exec limits call) (3 + 3 * Text.unitCount s)
      (hashFrame s (Text.unitCount s)) .normal := by
  have again (j : Nat) (here : j < Text.unitCount s) :
      hashMore.eval call (hashFrame s j) = pure (.bool true) := by
    rw [eval_hashMore small (Nat.le_of_lt here), decide_eq_true here]
  have stop : hashMore.eval call (hashFrame s (Text.unitCount s)) = pure (.bool false) := by
    rw [eval_hashMore small (Nat.le_refl _), decide_eq_false (Nat.lt_irrefl _)]
  have start : Takes limits (hashFrame s 0)
      ((Stmt.assign "i" (.literal (.int 0))).exec limits call) 1 (hashFrame s 0) .normal :=
    .assign rfl rfl
  have rounds : Takes limits (hashFrame s 0) ((Stmt.loop hashMore hashRound).exec limits call)
      (1 + 3 * Text.unitCount s) (hashFrame s (Text.unitCount s)) .normal :=
    .loop (Nat.succ_pos 2) again stop fun j here => hashRound_takes small here
  have steps : 3 + 3 * Text.unitCount s = 1 + (1 + (1 + 3 * Text.unitCount s + 0)) := by omega
  rw [steps]
  exact .braced (start.cons (rounds.cons .nil))

/-- The helper starts with the offset basis, whatever its argument is. -/
theorem hashStart_takes (argument : Value) :
    Takes limits (hashEntry argument)
      ((Stmt.assign "hash" (.literal (.uint fnvOffsetBasis))).exec limits call) 1
      ⟨[("s", argument)], [("i", .int 0), ("hash", .uint fnvOffsetBasis)]⟩ .normal :=
  .assign rfl rfl

theorem hashHelper_takes_text (small : Text.unitCount s < 2 ^ 63) :
    Takes limits (hashEntry (.text s)) (Stmt.execAll limits call hashHelper.body.statements)
      (6 + 3 * Text.unitCount s) (hashFrame s (Text.unitCount s))
      (.returned (.uint (hashOf (Text.units s)))) := by
  have all : (Text.units s).take (Text.unitCount s) = Text.units s := List.take_length
  have result : (Expr.localVar "hash").eval call (hashFrame s (Text.unitCount s))
      = pure (.uint (hashOf (Text.units s))) := by
    rw [hashFrame, all]
    rfl
  have scan : Takes limits (hashFrame s 0)
      ((Stmt.conditional (.isNotNull (.parameter "s" .string)) hashScan none).exec limits call)
      (1 + (3 + 3 * Text.unitCount s)) (hashFrame s (Text.unitCount s)) .normal :=
    .conditional_true rfl (hashScan_takes small)
  have steps : 6 + 3 * Text.unitCount s = 1 + (1 + (3 + 3 * Text.unitCount s) + 1) := by omega
  rw [hashHelper_statements, steps]
  exact (hashStart_takes (.text s)).cons (scan.cons (.last (.ret result)))

theorem hashHelper_takes_null :
    Takes limits (hashEntry .null) (Stmt.execAll limits call hashHelper.body.statements) 3
      ⟨[("s", .null)], [("i", .int 0), ("hash", .uint fnvOffsetBasis)]⟩
      (.returned (.uint fnvOffsetBasis)) := by
  rw [hashHelper_statements]
  refine (hashStart_takes .null).cons (k := 2) (.cons (j := 1) (k := 1) ?_ (.last (.ret rfl)))
  exact .conditional_false rfl

end

/-! ## Calls of the helper -/

/-- The helper as it is called. -/
def hashCallee : Callee := ⟨hashHelper.name, hashHelper.symbol.parameters, hashHelper.body⟩

/-- Asked for under a free name, the helper is made and kept under it. -/
theorem getHashHelper_run {before : Members} (free : before.get? hashHelperName = none) :
    getHashHelper.run before = .ok hashHelper.symbol (before.insert hashHelper)
      ∧ (before.insert hashHelper).get? hashHelperName = some hashHelper := by
  have answer : getHashHelper.run before
      = .ok (before.getOrBuild hashHelperName fun _ => ⟨hashHelper, rfl⟩).1.1
          (before.getOrBuild hashHelperName fun _ => ⟨hashHelper, rfl⟩).2 := rfl
  refine ⟨?_, (Members.get?_insert_of_none free).trans (if_pos rfl)⟩
  rw [answer, Members.getOrBuild_of_none free]

/-- A call whose body is counted ends with its result, or with the fault of the limit. -/
theorem runBody_counted {limits : Limits} {call : Caller} {callee : Callee} {args : List Value}
    {k : Nat} {frame : Frame} {v : Value}
    (body : ∀ c d, Counted limits (.returned v) ⟨⟨c + k, d⟩, frame⟩
      (Stmt.execAll limits call callee.body.statements
        ⟨⟨c, d⟩, (Frame.ofArguments callee.parameters args).enterBlock callee.body.locals⟩))
    (c d : Nat) :
    if c + k ≤ limits.steps then
      Interpreter.runBody limits call callee args ⟨c, d⟩ = .ok v ⟨c + k, d⟩
    else ∃ meter, Interpreter.runBody limits call callee args ⟨c, d⟩
      = .error (.fault (.stepLimit limits.steps)) meter := by
  have ends := body c (d + 1)
  rw [Interpreter.runBody_eq]
  dsimp only [oneLevelDown, Block.exec, withLocals]
  generalize Stmt.execAll limits call callee.body.statements _ = result at ends
  cases ends with
  | within enough =>
      rw [if_pos enough]
      rfl
  | beyond short =>
      rw [if_neg (Nat.not_le_of_lt short)]
      exact ⟨_, rfl⟩

/-- With a level of calls left, a call of the helper runs its body. -/
theorem caller_hashHelper {i : Interpreter}
    (h : i.lowered.module.members.get? hashHelperName = some hashHelper) {levels d : Nat}
    (left : d + levels = i.limits.depth) (below : d < i.limits.depth) :
    ∃ call : Caller, ∀ value c, i.caller levels hashHelper.symbol [value] ⟨c, d⟩
      = Interpreter.runBody i.limits call hashCallee [value] ⟨c, d⟩ := by
  obtain ⟨levels, rfl⟩ : ∃ n, levels = n + 1 := ⟨levels - 1, by omega⟩
  refine ⟨i.caller levels, fun value c => ?_⟩
  have called : i.caller (levels + 1) hashHelper.symbol [value]
      = i.callWithin (levels + 1) hashCallee [value] := caller_member h rfl (levels + 1) [value]
  rw [called]
  exact Interpreter.callWithin_of_fits rfl below levels

/-- A call with one argument is made with its value, from the counters that it leaves. -/
theorem eval_call {call : Caller} {frame : Frame} {method : Method} {argument : Expr}
    {value : Value} {start meter : Meter}
    (evaluates : argument.eval call frame start = .ok value meter) :
    (Expr.call method [argument]).eval call frame start = call method [value] meter := by
  have values : Expr.evalAll call frame [argument] start = .ok [value] meter := by
    rw [Expr.evalAll, bind_of_ok evaluates]
    rfl
  rw [Expr.eval, bind_of_ok values]

/--
**The helper computes the FNV-1a hash of every text**, over its UTF-16 code units.

Take any interpreter in whose module the helper was registered under a free name. A call whose
argument has the value of a text with `n` code units takes `6 + 3 * n` steps from there on: if the
limit allows them it returns the hash, and the counters are what they were but for those steps; if
not, it is the fault of the limit. For null it is the offset basis, after three steps. So it never
throws, and there is no other fault. At a depth, as many levels of calls are left as the limit has
more. A text is held in memory that can be addressed, so it has fewer than 2⁶³ bytes.
-/
theorem eval_hashHelper {before after : Members} {helper : Method} {i : Interpreter}
    (free : before.get? hashHelperName = none)
    (registered : getHashHelper.run before = .ok helper after)
    (kept : i.lowered.module.members.get? hashHelperName = after.get? hashHelperName)
    {levels c d : Nat} (left : d + levels = i.limits.depth) (below : d < i.limits.depth)
    {frame : Frame} {argument : Expr} {value : Value} {start : Meter}
    (evaluates : argument.eval (i.caller levels) frame start = .ok value ⟨c, d⟩) :
    let result := (Expr.call helper [argument]).eval (i.caller levels) frame start
    (∀ s, value = .text s → s.utf8ByteSize < 2 ^ 63 →
      let n := Text.unitCount s
      if c + 6 + 3 * n ≤ i.limits.steps then
        result = .ok (.uint (.ofNat (Text.fnv1a ((Text.units s).map UInt32.toNat))))
          ⟨c + 6 + 3 * n, d⟩
      else ∃ meter, result = .error (.fault (.stepLimit i.limits.steps)) meter)
    ∧ (value = .null →
      if c + 3 ≤ i.limits.steps then result = .ok (.uint 2166136261) ⟨c + 3, d⟩
      else ∃ meter, result = .error (.fault (.stepLimit i.limits.steps)) meter) := by
  obtain ⟨runs, found⟩ := getHashHelper_run free
  rw [runs] at registered
  obtain ⟨rfl, rfl⟩ : hashHelper.symbol = helper ∧ before.insert hashHelper = after :=
    EStateM.Result.ok.inj registered
  obtain ⟨call, calls⟩ := caller_hashHelper (kept.trans found) left below
  intro result
  have ends : result = Interpreter.runBody i.limits call hashCallee [value] ⟨c, d⟩ :=
    (eval_call evaluates).trans (calls value c)
  rw [ends]
  refine ⟨fun s text bytes => ?_, fun null => ?_⟩
  · have small := Nat.lt_of_le_of_lt (unitCount_le_utf8ByteSize s) bytes
    subst text
    intro n
    rw [← hashOf_eq, Nat.add_assoc]
    exact runBody_counted ((hashHelper_takes_text small).counted (by omega)) c d
  · subst null
    exact runBody_counted (hashHelper_takes_null.counted (Nat.succ_pos 2)) c d

/-- A module with nothing but the helper. -/
def hashOnly : Interpreter := ⟨⟨⟨"id", "hash", Members.empty.insert hashHelper⟩, []⟩, {}⟩

/-- A character beyond U+FFFF counts twice, as its two surrogates. -/
theorem eval_hashHelper_surrogates :
    "a😀".utf8ByteSize < 2 ^ 63
      ∧ (Expr.call hashHelper.symbol [.text "a😀"]).eval (hashOnly.caller 63) ⟨[], []⟩ ⟨10, 1⟩
        = .ok (.uint 479120377) ⟨25, 1⟩ := by
  have free : Members.empty.get? hashHelperName = none := rfl
  have few : "a😀".utf8ByteSize < 2 ^ 63 := by decide
  have evaluates : (Expr.text "a😀").eval (hashOnly.caller 63) ⟨[], []⟩ ⟨10, 1⟩
      = .ok (.text "a😀") ⟨10, 1⟩ := rfl
  have ends := (eval_hashHelper free rfl rfl rfl (by decide) evaluates).1 "a😀" rfl few
  have hashed : Text.fnv1a ((Text.units "a😀").map UInt32.toNat) = 479120377 := by decide
  have three : Text.unitCount "a😀" = 3 := by decide
  dsimp only at ends
  rw [hashed, three] at ends
  exact ⟨few, ends⟩

end ArgumentGuards
