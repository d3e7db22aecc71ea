import ArgumentGuards.Proofs.LoweredTwice
import Mathlib

/-!
# Modules that are extended

A lowered module can be added to: functions of new names behind its functions, and members under
names that are free. Whatever is asked of it, the members that it has stay under their names, and so
do its functions, although the last function of a name is the one that is called. The extended module
therefore resolves every name that the module resolves to the same callee (`Extends.resolvesAs`), and
a run of the module is a run of the extended one unless it looks for a name in vain.

The steps that add to a module are those of its member table and of lowering into it. Each of them
extends it (`Extends.insertIfNew`, `Extends.getOrBuild`, `Extends.lower`), and so do many in a row.
-/

namespace ArgumentGuards

/-! ## Extended modules -/

/-- Members with others under free names behind them. -/
def Members.Extends (later earlier : Members) : Prop :=
  ∃ more, later.entries = earlier.entries ++ more
    ∧ ∀ member ∈ more, earlier.contains member.name = false

/-- A module with functions of new names behind its own and with members under free names. -/
structure LoweredModule.Extends (later earlier : LoweredModule) : Prop where
  functions : ∃ more, later.functions = earlier.functions ++ more
    ∧ ∀ f ∈ more, ∀ g ∈ earlier.functions, f.name ≠ g.name
  members : later.module.members.Extends earlier.module.members

namespace Members

variable {later middle earlier : Members} {member : Member} {name : String}

theorem contains_eq_false_iff {members : Members} :
    members.contains name = false ↔ members.get? name = none := by
  unfold contains
  exact Option.isSome_eq_false_iff.trans Option.isNone_iff_eq_none

/-- What is under a name stays under it. -/
theorem Extends.get? (h : later.Extends earlier) (there : earlier.get? name = some member) :
    later.get? name = some member := by
  obtain ⟨more, entries, -⟩ := h
  unfold Members.get? at there ⊢
  rw [entries, List.find?_append, there, Option.some_or]

theorem Extends.refl (members : Members) : members.Extends members :=
  ⟨[], (List.append_nil _).symm, fun _ h => absurd h List.not_mem_nil⟩

theorem Extends.trans (h : later.Extends middle) (h' : middle.Extends earlier) :
    later.Extends earlier := by
  obtain ⟨more, entries, free⟩ := h
  obtain ⟨first, entries', free'⟩ := h'
  refine ⟨first ++ more, by rw [entries, entries', List.append_assoc], fun member added => ?_⟩
  rcases List.mem_append.mp added with added | added
  · exact free' member added
  · -- a name that is free later was free earlier
    have freeLater := contains_eq_false_iff.mp (free member added)
    refine contains_eq_false_iff.mpr ?_
    cases there : earlier.get? member.name with
    | none => rfl
    | some old =>
        have stays := Extends.get? ⟨first, entries', free'⟩ there
        rw [stays] at freeLater
        cases freeLater

theorem Extends.insert (members : Members) (free : members.get? member.name = none) :
    (members.insert member).Extends members := by
  refine ⟨[member], rfl, fun other added => ?_⟩
  rw [List.mem_singleton.mp added]
  exact contains_eq_false_iff.mpr free

/-- A member is added under a free name or not at all. -/
theorem Extends.insertIfNew (members : Members) (member : Member) :
    (members.insertIfNew member).2.Extends members := by
  unfold Members.insertIfNew
  cases taken : members.contains member.name with
  | true => exact .refl members
  | false => exact .insert members (contains_eq_false_iff.mp taken)

/-- A member is built for a free name or not at all. -/
theorem Extends.getOrBuild (members : Members) (name : String)
    (build : Unit → { member : Member // member.name = name }) :
    (members.getOrBuild name build).2.Extends members := by
  cases h : members.get? name with
  | some member =>
    rw [getOrBuild_of_some h]
    exact .refl members
  | none =>
    rw [getOrBuild_of_none h]
    exact .insert members (by rw [(build ()).property, h])

theorem Extends.withHelper (members : Members) : members.withHelper.Extends members := by
  unfold Members.withHelper
  cases h : members.get? throwHelperName with
  | some member => exact .refl members
  | none => exact .insert members h

theorem Extends.afterGuards (members : Members) (guarded : List Parameter) :
    (members.afterGuards guarded).Extends members := by
  unfold Members.afterGuards
  split
  · exact .refl members
  · exact .withHelper members

/-- Asking for the helper that hashes leaves an extended table. -/
theorem Extends.getHashHelper {helper : Method} (run : getHashHelper.run earlier = .ok helper later) :
    later.Extends earlier := by
  have after : later = (earlier.getOrBuild hashHelperName fun _ => ⟨hashHelper, rfl⟩).2 := by
    cases run
    rfl
  rw [after]
  exact .getOrBuild earlier hashHelperName _

end Members

/-! ## Lowering into a module -/

/-- What a run over functions leaves, however it ends. -/
theorem CompiledModule.lower_cases (module : CompiledModule) (options : LoweringOptions)
    (fs : List SourceFunction) :
    module.lower options fs = (.error (.cancelled module.name), module)
      ∨ module.lower options fs
        = (verdict (checkedOf fs) (fs.map (SourceFunction.guarded module.members.helper)),
            { module with members := module.members.afterGuards (guardedPart (checkedOf fs)) }) := by
  cases stops : options.cancelled && !fs.isEmpty with
  | true =>
      left
      unfold CompiledModule.lower lowerIn
      rw [stops]
      rfl
  | false =>
      right
      have runs : ({} : LoweringOptions).cancelled = false := rfl
      have run := compiled_lower module runs fs
      unfold CompiledModule.lower lowerIn at run ⊢
      rwa [stops]

/-- What a run over functions answers if it does not fail. -/
theorem CompiledModule.lower_ok {module after : CompiledModule} {options : LoweringOptions}
    {fs : List SourceFunction} {gs : List LoweredFunction}
    (run : module.lower options fs = (.ok gs, after)) :
    gs = fs.map (SourceFunction.guarded module.members.helper)
      ∧ after.members = module.members.afterGuards (checkedOf fs) := by
  rcases module.lower_cases options fs with ends | ends
  · rw [run] at ends
    cases ends
  · rw [run] at ends
    obtain ⟨outcome, rfl⟩ := Prod.mk.inj ends
    obtain ⟨rfl, clean⟩ := verdict_eq_ok outcome.symm
    rw [guardedPart_of_forall clean]
    exact ⟨rfl, rfl⟩

/-- Lowering into a module extends its members, also if it fails. -/
theorem CompiledModule.lower_extends (module : CompiledModule) (options : LoweringOptions)
    (fs : List SourceFunction) :
    (module.lower options fs).2.members.Extends module.members := by
  rcases module.lower_cases options fs with run | run
  · rw [run]
    exact .refl module.members
  · rw [run]
    exact .afterGuards module.members _

namespace LoweredModule.Extends

variable {later middle earlier : LoweredModule}

theorem refl (lowered : LoweredModule) : lowered.Extends lowered :=
  ⟨⟨[], (List.append_nil _).symm, fun _ h => absurd h List.not_mem_nil⟩, .refl _⟩

theorem trans (h : later.Extends middle) (h' : middle.Extends earlier) :
    later.Extends earlier := by
  obtain ⟨more, functions, fresh⟩ := h.functions
  obtain ⟨first, functions', fresh'⟩ := h'.functions
  refine ⟨⟨first ++ more, by rw [functions, functions', List.append_assoc], ?_⟩,
    h.members.trans h'.members⟩
  intro f added g there
  rcases List.mem_append.mp added with added | added
  · exact fresh' f added g there
  · exact fresh f added g (functions' ▸ List.mem_append_left first there)

/-- Members may be added alone. -/
theorem of_members {members : Members} (h : members.Extends earlier.module.members) :
    LoweredModule.Extends { earlier with module := { earlier.module with members } } earlier :=
  ⟨(refl earlier).functions, h⟩

/-- **Lowering more functions into a module extends it**, if their names are new. -/
theorem lower {options : LoweringOptions} {fs : List SourceFunction} {gs : List LoweredFunction}
    {after : CompiledModule} (run : earlier.module.lower options fs = (.ok gs, after))
    (fresh : ∀ f ∈ fs, ∀ g ∈ earlier.functions, f.name ≠ g.name) :
    LoweredModule.Extends ⟨after, earlier.functions ++ gs⟩ earlier := by
  have members := earlier.module.lower_extends options fs
  rw [run] at members
  obtain ⟨rfl, -⟩ := CompiledModule.lower_ok run
  refine ⟨⟨_, rfl, fun f added => ?_⟩, members⟩
  obtain ⟨source, there, rfl⟩ := List.mem_map.mp added
  exact fresh source there

/-! ## Names in an extended module -/

variable {limits : Limits} {name : String} {callee : Callee}

/-- The last function of a name is still the last one. -/
theorem function? (h : later.Extends earlier)
    (found : Interpreter.function? ⟨earlier, limits⟩ name = some callee) :
    Interpreter.function? ⟨later, limits⟩ name = some callee := by
  obtain ⟨more, functions, fresh⟩ := h.functions
  obtain ⟨f, last, rfl⟩ := Option.map_eq_some_iff.mp found
  have there : f ∈ earlier.functions := List.mem_reverse.mp (List.mem_of_find?_eq_some last)
  have holds := List.find?_some last
  have named : f.name = name := of_decide_eq_true holds
  -- from behind, the added functions come first, and none of them has the name
  have noneAdded : more.reverse.find? (·.name = name) = none := by
    rw [List.find?_eq_none]
    intro g added
    have differs := fresh g (List.mem_reverse.mp added) f there
    rw [decide_eq_true_eq, ← named]
    exact differs
  unfold Interpreter.function?
  dsimp only at last ⊢
  rw [functions, List.reverse_append, List.find?_append, noneAdded, Option.none_or, last]
  rfl

theorem member? (h : later.Extends earlier)
    (found : Interpreter.member? ⟨earlier, limits⟩ name = some callee) :
    Interpreter.member? ⟨later, limits⟩ name = some callee := by
  obtain ⟨member, there, rfl⟩ := Option.map_eq_some_iff.mp found
  unfold Interpreter.member?
  rw [h.members.get? there]
  rfl

end LoweredModule.Extends

/-- Whether an interrupt is the fault of a name that nothing has. -/
def Interrupt.OfUnknownFunction : Interrupt → Prop
  | .fault (.unknownFunction _) => True
  | _ => False

/-- **An extended module resolves what the module resolves**, to the same callee. -/
theorem LoweredModule.Extends.resolvesAs {later earlier : LoweredModule}
    (h : later.Extends earlier) (limits : Limits) :
    Interpreter.ResolvesAs ⟨earlier, limits⟩ Interrupt.OfUnknownFunction ⟨later, limits⟩ := by
  intro method
  unfold Interpreter.resolve
  cases method.kind with
  | synthesized =>
      cases found : Interpreter.member? ⟨earlier, limits⟩ method.name with
      | some callee =>
          rw [h.member? found]
          exact .inl rfl
      | none => exact .inr ⟨_, rfl, trivial⟩
  | ordinary =>
      cases found : Interpreter.function? ⟨earlier, limits⟩ method.name with
      | some callee =>
          rw [h.function? found]
          exact .inl rfl
      | none => exact .inr ⟨_, rfl, trivial⟩
  | constructor => exact .inl rfl

/-! ## Runs in an extended module -/

theorem LoweredModule.Extends.run_eq_or_unknown {later earlier : LoweredModule}
    (h : later.Extends earlier) (limits : Limits) (name : String) (args : List Value) :
    Interpreter.run ⟨later, limits⟩ name args = Interpreter.run ⟨earlier, limits⟩ name args
      ∨ ∃ interrupt meter,
          Interpreter.run ⟨earlier, limits⟩ name args = .error interrupt meter
            ∧ interrupt.OfUnknownFunction := by
  cases found : Interpreter.function? ⟨earlier, limits⟩ name with
  | none =>
      right
      unfold Interpreter.run
      rw [found]
      exact ⟨_, _, rfl, trivial⟩
  | some callee =>
      have ends := Interpreter.callWithin_simulates (h.resolvesAs limits) (Paced.same limits)
        (.inl rfl) (Nat.zero_add limits.depth) (Nat.zero_add limits.depth) callee args
      unfold Interpreter.run
      rw [found, h.function? found]
      exact (ends .zero .zero ⟨rfl, rfl, rfl⟩).eq_or_excused

/--
**Adding to a module is conservative.**

Whatever functions of new names and whatever members under free names a module is extended by, an
invocation that does not end by an unknown name in the module ends in the same way in the extended
one, after the same steps.
-/
theorem LoweredModule.invoke_of_extends {later earlier : LoweredModule}
    (h : later.Extends earlier) (limits : Limits) (name : String) (args : List Value)
    (known : ∀ unknown,
      Interpreter.invoke ⟨earlier, limits⟩ name args ≠ .error (.unknownFunction unknown)) :
    Interpreter.invoke ⟨later, limits⟩ name args = Interpreter.invoke ⟨earlier, limits⟩ name args
      ∧ Interpreter.run ⟨later, limits⟩ name args
          = Interpreter.run ⟨earlier, limits⟩ name args := by
  rcases h.run_eq_or_unknown limits name args with same | ⟨interrupt, meter, ends, isUnknown⟩
  · exact ⟨invoke_congr same, same⟩
  · exfalso
    cases interrupt with
    | thrown exception => exact isUnknown
    | fault error =>
        cases error with
        | unknownFunction unknown =>
            refine known unknown ?_
            unfold Interpreter.invoke
            rw [ends]
        | _ => exact isUnknown

/-- One more function whose parameter is checked. -/
def lateFunction : SourceFunction := ⟨"late", [⟨"s", .string, true, 0⟩], .void, .empty⟩

/-- The module in which one function calls another one, with the helper that hashes. -/
def nestedAndHash : LoweredModule :=
  ⟨⟨"id", "nested", (nestedOnce.module.members.insertIfNew hashHelper).2⟩, nestedOnce.functions⟩

/-- The same with one more function lowered into it. -/
def nestedAndLate : LoweredModule :=
  ⟨nestedAndHash.module,
    nestedAndHash.functions ++ [lateFunction.guarded throwHelper.symbol]⟩

/-- The functions of the first module call each other and the helper that throws, as before. -/
theorem invoke_of_extends_nested :
    nestedAndLate.Extends nestedOnce
      ∧ nestedAndHash.module.lower {} [lateFunction]
        = (.ok [lateFunction.guarded throwHelper.symbol], nestedAndLate.module)
      ∧ Interpreter.run ⟨nestedAndLate, {}⟩ "outer" [.text "x"]
        = .error (exceptionOf "System.ArgumentNullException" "t") ⟨8, 0⟩
      ∧ Interpreter.invoke ⟨nestedAndLate, {}⟩ "outer" [.text "x"]
        = Interpreter.invoke ⟨nestedOnce, {}⟩ "outer" [.text "x"] := by
  have hashing : nestedAndHash.Extends nestedOnce :=
    .of_members (.insertIfNew nestedOnce.module.members hashHelper)
  have lowers : nestedAndHash.module.lower {} [lateFunction]
      = (.ok [lateFunction.guarded throwHelper.symbol], nestedAndLate.module) := rfl
  have fresh : ∀ f ∈ [lateFunction], ∀ g ∈ nestedAndHash.functions, f.name ≠ g.name := by decide
  have late : nestedAndLate.Extends nestedAndHash := .lower lowers fresh
  have extended : nestedAndLate.Extends nestedOnce := late.trans hashing
  have before : Interpreter.run ⟨nestedOnce, {}⟩ "outer" [.text "x"]
      = .error (exceptionOf "System.ArgumentNullException" "t") ⟨8, 0⟩ := by cbv
  have known : ∀ unknown, Interpreter.invoke ⟨nestedOnce, {}⟩ "outer" [.text "x"]
      ≠ .error (.unknownFunction unknown) := by
    intro unknown
    unfold Interpreter.invoke
    rw [before]
    intro same
    cases same
  have same := LoweredModule.invoke_of_extends extended {} "outer" [.text "x"] known
  exact ⟨extended, lowers, same.2.trans before, same.1⟩

end ArgumentGuards
