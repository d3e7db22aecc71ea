import ArgumentGuards.Proofs.Guarded
import Mathlib.Algebra.Ring.Nat

/-!
# A pool of workers that lowers the functions of a module

The workers share an index into the list of functions, a flag that stops them after a failure, a
flag that cancels the run from outside, and the table of members. Each of them goes round the same
loop: it looks at the two flags, draws the next index, lowers the function there, raises the stop
flag if that failed, and records the result. All of these are single accesses to what is shared, and
between any two of them the other workers may make any number of theirs.

`Sound` is the invariant. What it says of the drawn indices and of the flags is what makes the
result independent of the schedule:

* The indices held or recorded by the workers are together a **prefix** of the list, each of them
  there once.
* Every result is the one that `SourceFunction.outcome` gives, which does not depend on the table.
* The stop flag is up only if a drawn function fails. So when a late function fails first, the
  functions in front of it have been drawn already, and their workers record them before they look
  at the flag again.

Every access lowers `Pool.measure`, so every schedule comes to an end.
-/

namespace ArgumentGuards

/-- What lowering makes of a function whose guards call a helper: the same for every table. -/
def SourceFunction.outcome (helper : Method) (f : SourceFunction) :
    Except LoweringError LoweredFunction :=
  verdict f.checked (f.guarded helper)

namespace WorkerPool

/-! ## The pool -/

/-- A function's index with the result of lowering it. -/
abbrev Record := Nat × Except LoweringError LoweredFunction

/-- What a worker does next. -/
inductive Phase where
  | askCancelled
  | askFailed
  | draw
  | lower (index : Nat)
  /-- Raise the stop flag. -/
  | raise (index : Nat) (error : LoweringError)
  | record (index : Nat) (result : Except LoweringError LoweredFunction)
  | ended

/-- A worker and what it has recorded. -/
structure Worker where
  phase : Phase
  done : List Record

/-- What the workers share. -/
structure Shared where
  /-- The index that is drawn next. -/
  next : Nat
  /-- The stop flag. -/
  failed : Bool
  cancelled : Bool
  members : Members

/-- The workers and what they share. -/
structure Pool where
  shared : Shared
  workers : List Worker

/-- One access of a worker to what is shared. -/
inductive Move (decls : List SourceFunction) : Shared → Worker → Shared → Worker → Prop where
  | cancelled {sh : Shared} {done : List Record} : sh.cancelled = true →
      Move decls sh ⟨.askCancelled, done⟩ sh ⟨.ended, done⟩
  | notCancelled {sh : Shared} {done : List Record} : sh.cancelled = false →
      Move decls sh ⟨.askCancelled, done⟩ sh ⟨.askFailed, done⟩
  | failed {sh : Shared} {done : List Record} : sh.failed = true →
      Move decls sh ⟨.askFailed, done⟩ sh ⟨.ended, done⟩
  | notFailed {sh : Shared} {done : List Record} : sh.failed = false →
      Move decls sh ⟨.askFailed, done⟩ sh ⟨.draw, done⟩
  | draw {sh : Shared} {done : List Record} : sh.next < decls.length →
      Move decls sh ⟨.draw, done⟩ { sh with next := sh.next + 1 } ⟨.lower sh.next, done⟩
  | exhausted {sh : Shared} {done : List Record} : decls.length ≤ sh.next →
      Move decls sh ⟨.draw, done⟩ { sh with next := sh.next + 1 } ⟨.ended, done⟩
  | lower {sh : Shared} {done : List Record} {i : Nat} {f : SourceFunction}
      {lowered : LoweredFunction} {members : Members} : decls[i]? = some f →
      f.lower.run sh.members = .ok lowered members →
      Move decls sh ⟨.lower i, done⟩ { sh with members } ⟨.record i (.ok lowered), done⟩
  | fail {sh : Shared} {done : List Record} {i : Nat} {f : SourceFunction}
      {error : LoweringError} {members : Members} : decls[i]? = some f →
      f.lower.run sh.members = .error error members →
      Move decls sh ⟨.lower i, done⟩ { sh with members } ⟨.raise i error, done⟩
  | raise {sh : Shared} {done : List Record} {i : Nat} {error : LoweringError} :
      Move decls sh ⟨.raise i error, done⟩ { sh with failed := true }
        ⟨.record i (.error error), done⟩
  | record {sh : Shared} {done : List Record} {i : Nat}
      {result : Except LoweringError LoweredFunction} :
      Move decls sh ⟨.record i result, done⟩ sh ⟨.askCancelled, done ++ [(i, result)]⟩

/-- One step of the pool: some worker makes its move, or the run is cancelled from outside. -/
inductive Step (decls : List SourceFunction) : Pool → Pool → Prop where
  | move {sh sh' : Shared} {w w' : Worker} (left right : List Worker) : Move decls sh w sh' w' →
      Step decls ⟨sh, left ++ w :: right⟩ ⟨sh', left ++ w' :: right⟩
  | cancel {sh : Shared} {workers : List Worker} : sh.cancelled = false →
      Step decls ⟨sh, workers⟩ ⟨{ sh with cancelled := true }, workers⟩

/-- So many steps. -/
inductive Run (decls : List SourceFunction) : Nat → Pool → Pool → Prop where
  | refl {p : Pool} : Run decls 0 p p
  | tail {n : Nat} {p q r : Pool} : Run decls n p q → Step decls q r → Run decls (n + 1) p r

/-- How many workers there are: at least one, and otherwise no more than functions. -/
def workerCount (decls : List SourceFunction) (workers : Nat) : Nat :=
  max 1 (min workers (max decls.length 1))

/-- The pool before its workers begin. -/
def start (decls : List SourceFunction) (workers : Nat) (cancelled : Bool) (members : Members) :
    Pool :=
  ⟨⟨0, false, cancelled, members⟩,
    List.replicate (workerCount decls workers) ⟨.askCancelled, []⟩⟩

/-- Whether every worker has ended. -/
def Pool.Ended (p : Pool) : Prop := ∀ w ∈ p.workers, w.phase = .ended

/-- The index that a worker has drawn and not recorded yet. -/
def Phase.held : Phase → List Nat
  | .lower i => [i]
  | .raise i _ => [i]
  | .record i _ => [i]
  | _ => []

/-- The indices that a worker has drawn. -/
def Worker.taken (w : Worker) : List Nat := w.phase.held ++ w.done.map Prod.fst

/-- The indices that the workers have drawn. -/
def Pool.taken (p : Pool) : List Nat := p.workers.flatMap Worker.taken

/-- The results that the workers have recorded, worker by worker. -/
def Pool.records (p : Pool) : List Record := p.workers.flatMap Worker.done

/-- The values of some results, or the first error. -/
def collect : List (Except LoweringError LoweredFunction) →
    Except LoweringError (List LoweredFunction)
  | [] => return []
  | result :: rest => do
    let lowered ← result
    let more ← collect rest
    return lowered :: more

/-- What the pool answers when its workers have ended: the recorded results in the order of their
indices, the first error among them, or that the run was cancelled if some are missing. -/
def Pool.result (module : String) (decls : List SourceFunction) (p : Pool) :
    Except LoweringError (List LoweredFunction) :=
  match collect ((p.records.mergeSort fun a b => a.1 ≤ b.1).map Prod.snd) with
  | .error error => .error error
  | .ok lowered =>
    if lowered.length < decls.length then .error (.cancelled module) else .ok lowered

/-! ## Every schedule ends -/

/-- How many moves a worker can make before it draws again. -/
def Phase.weight : Phase → Nat
  | .ended => 0
  | .draw => 1
  | .askFailed => 2
  | .askCancelled => 3
  | .record _ _ => 4
  | .raise _ _ => 5
  | .lower _ => 6

/-- A bound for the number of steps that are left. -/
def Pool.measure (decls : List SourceFunction) (p : Pool) : Nat :=
  6 * (decls.length - p.shared.next) + (p.workers.map fun w => w.phase.weight).sum
    + if p.shared.cancelled then 0 else 1

theorem move_weight {decls : List SourceFunction} {sh sh' : Shared} {w w' : Worker}
    (h : Move decls sh w sh' w') :
    6 * (decls.length - sh'.next) + w'.phase.weight
        < 6 * (decls.length - sh.next) + w.phase.weight
      ∧ sh'.cancelled = sh.cancelled := by
  cases h with
  | draw inside =>
      refine ⟨?_, rfl⟩
      simp only [Phase.weight]
      omega
  | exhausted outside =>
      refine ⟨?_, rfl⟩
      simp only [Phase.weight]
      omega
  | _ => simp [Phase.weight]

theorem measure_step {decls : List SourceFunction} {p q : Pool} (h : Step decls p q) :
    q.measure decls < p.measure decls := by
  cases h with
  | move left right hm =>
      obtain ⟨lighter, same⟩ := move_weight hm
      simp only [Pool.measure, List.map_append, List.map_cons, List.sum_append, List.sum_cons,
        same]
      omega
  | cancel unset =>
      simp only [Pool.measure, unset]
      exact Nat.lt_succ_self _

/-- **A run is no longer than the measure of its first state.** -/
theorem run_length {decls : List SourceFunction} {n : Nat} {p q : Pool} (h : Run decls n p q) :
    n + q.measure decls ≤ p.measure decls := by
  induction h with
  | refl => omega
  | tail _ hs ih =>
      have := measure_step hs
      omega

theorem measure_start (decls : List SourceFunction) (workers : Nat) (cancelled : Bool)
    (members : Members) :
    (start decls workers cancelled members).measure decls
      ≤ 6 * decls.length + 3 * workerCount decls workers + 1 := by
  simp only [Pool.measure, start, List.map_replicate, List.sum_replicate_nat, Phase.weight,
    Nat.sub_zero]
  cases cancelled <;> simp only [Bool.false_eq_true, if_true, if_false] <;> omega

theorem exists_move {decls : List SourceFunction} {sh : Shared} {w : Worker}
    (running : w.phase ≠ .ended) (inside : ∀ i, w.phase = .lower i → i < decls.length) :
    ∃ sh' w', Move decls sh w sh' w' := by
  obtain ⟨phase, done⟩ := w
  cases phase with
  | ended => exact absurd rfl running
  | askCancelled =>
      cases hc : sh.cancelled with
      | true => exact ⟨_, _, .cancelled hc⟩
      | false => exact ⟨_, _, .notCancelled hc⟩
  | askFailed =>
      cases hf : sh.failed with
      | true => exact ⟨_, _, .failed hf⟩
      | false => exact ⟨_, _, .notFailed hf⟩
  | draw =>
      rcases Nat.lt_or_ge sh.next decls.length with h | h
      · exact ⟨_, _, .draw h⟩
      · exact ⟨_, _, .exhausted h⟩
  | lower i =>
      have within : i < decls.length := inside i rfl
      have here : decls[i]? = some decls[i] := List.getElem?_eq_getElem within
      cases hr : decls[i].lower.run sh.members with
      | ok lowered members => exact ⟨_, _, .lower here hr⟩
      | error error members => exact ⟨_, _, .fail here hr⟩
  | raise i error => exact ⟨_, _, .raise⟩
  | record i result => exact ⟨_, _, .record⟩

/-! ## The invariant -/

/-- A record with its function's result. The stop flag is up if that is an error. -/
def Settled (decls : List SourceFunction) (helper : Method) (sh : Shared) (r : Record) : Prop :=
  ∃ f, decls[r.1]? = some f ∧ r.2 = f.outcome helper
    ∧ ((∃ error, r.2 = .error error) → sh.failed = true)

/-- What a worker knows from where it stands. -/
def Phase.Holds (decls : List SourceFunction) (helper : Method) (sh : Shared) : Phase → Prop
  | .lower i => i < decls.length
  | .raise i error => ∃ f, decls[i]? = some f ∧ f.outcome helper = .error error
  | .record i result => Settled decls helper sh (i, result)
  | .ended => sh.cancelled = true ∨ sh.failed = true ∨ decls.length ≤ sh.next
  | _ => True

/-- What a worker knows from where it stands and of what it has recorded. -/
structure Worker.Holds (decls : List SourceFunction) (helper : Method) (sh : Shared)
    (w : Worker) : Prop where
  phase : w.phase.Holds decls helper sh
  done : ∀ r ∈ w.done, Settled decls helper sh r

/-- The index of a function that a worker has lowered and not recorded yet. -/
def Phase.settled : Phase → List Nat
  | .raise i _ => [i]
  | .record i _ => [i]
  | _ => []

/-- The indices of the functions that a worker has lowered. -/
def Worker.lowered (w : Worker) : List Nat := w.phase.settled ++ w.done.map Prod.fst

/-- The parameters that get a guard in the function at an index. -/
def guardedAt (decls : List SourceFunction) (i : Nat) : List Parameter :=
  match decls[i]? with
  | some f => guardedPart f.checked
  | none => []

/-- What holds of a pool whose run began with a table. -/
structure Sound (decls : List SourceFunction) (members : Members) (p : Pool) : Prop where
  /-- The drawn indices are a prefix, each drawn once. -/
  taken : p.taken.Perm (List.range (min p.shared.next decls.length))
  workers : ∀ w ∈ p.workers, w.Holds decls members.helper p.shared
  /-- The stop flag is up only if some drawn function fails. -/
  failing : p.shared.failed = true → ∃ i f error, i < p.shared.next ∧ decls[i]? = some f
    ∧ f.outcome members.helper = .error error
  /-- The table has what the lowered functions asked for. -/
  table : p.shared.members
    = members.afterGuards ((p.workers.flatMap Worker.lowered).flatMap (guardedAt decls))
  /-- There is a worker. -/
  manned : p.workers ≠ []

theorem lower_run (f : SourceFunction) (members : Members) :
    f.lower.run members
      = endedWith (f.outcome members.helper) (members.afterGuards (guardedPart f.checked)) :=
  lower_checks f members

theorem endedWith_eq_ok {α : Type} {outcome : Except LoweringError α} {members after : Members}
    {a : α} (h : endedWith outcome members = .ok a after) : outcome = .ok a ∧ after = members := by
  cases outcome with
  | ok value => cases h; exact ⟨rfl, rfl⟩
  | error error => cases h

theorem endedWith_eq_error {α : Type} {outcome : Except LoweringError α}
    {members after : Members} {error : LoweringError}
    (h : endedWith outcome members = .error error after) :
    outcome = .error error ∧ after = members := by
  cases outcome with
  | ok value => cases h
  | error error => cases h; exact ⟨rfl, rfl⟩

theorem afterGuards_perm (members : Members) {ps qs : List Parameter} (h : ps.Perm qs) :
    members.afterGuards ps = members.afterGuards qs := by
  unfold Members.afterGuards
  rw [h.isEmpty_eq]

/-! ## What one move does -/

section

variable {decls : List SourceFunction} {members : Members} {sh sh' : Shared} {w w' : Worker}

theorem move_shared (h : Move decls sh w sh' w') :
    sh.next ≤ sh'.next ∧ (sh.failed = true → sh'.failed = true)
      ∧ sh'.cancelled = sh.cancelled := by
  cases h with
  | draw _ => exact ⟨Nat.le_succ _, id, rfl⟩
  | exhausted _ => exact ⟨Nat.le_succ _, id, rfl⟩
  | raise => exact ⟨Nat.le_refl _, fun _ => rfl, rfl⟩
  | _ => exact ⟨Nat.le_refl _, id, rfl⟩

theorem Settled.mono {helper : Method} {r : Record} (h : Settled decls helper sh r)
    (failed : sh.failed = true → sh'.failed = true) : Settled decls helper sh' r := by
  obtain ⟨f, hf, same, raised⟩ := h
  exact ⟨f, hf, same, fun isError => failed (raised isError)⟩

/-- What a worker knows stays true whatever the others do. -/
theorem Worker.Holds.mono {helper : Method} (h : w.Holds decls helper sh)
    (next : sh.next ≤ sh'.next) (failed : sh.failed = true → sh'.failed = true)
    (cancelled : sh.cancelled = true → sh'.cancelled = true) : w.Holds decls helper sh' := by
  refine ⟨?_, fun r hr => (h.done r hr).mono failed⟩
  obtain ⟨phase, done⟩ := w
  have known := h.phase
  cases phase with
  | askCancelled => trivial
  | askFailed => trivial
  | draw => trivial
  | lower i => exact known
  | raise i error => exact known
  | record i result => exact Settled.mono known failed
  | ended =>
      rcases known with hc | hf | hn
      · exact .inl (cancelled hc)
      · exact .inr (.inl (failed hf))
      · exact .inr (.inr (Nat.le_trans hn next))

/-- A move draws the next index if that is inside the list, and no other one. -/
theorem move_taken (h : Move decls sh w sh' w') :
    ∃ fresh : List Nat, w'.taken.Perm (fresh ++ w.taken)
      ∧ List.range (min sh'.next decls.length)
          = List.range (min sh.next decls.length) ++ fresh := by
  have still : ∀ {sh : Shared}, List.range (min sh.next decls.length)
      = List.range (min sh.next decls.length) ++ [] := (List.append_nil _).symm
  cases h with
  | draw inside =>
      refine ⟨[sh.next], List.Perm.refl _, ?_⟩
      rw [Nat.min_eq_left inside, Nat.min_eq_left (Nat.le_of_lt inside), List.range_succ]
  | exhausted outside =>
      refine ⟨[], List.Perm.refl _, ?_⟩
      rw [Nat.min_eq_right (Nat.le_succ_of_le outside), Nat.min_eq_right outside, List.append_nil]
  | @record done i result =>
      refine ⟨[], ?_, still⟩
      show ((done ++ [(i, result)]).map Prod.fst).Perm (i :: done.map Prod.fst)
      rw [List.map_append]
      exact List.perm_append_comm
  | _ => exact ⟨[], List.Perm.refl _, still⟩

theorem move_lowered (h : Move decls sh w sh' w') :
    ∃ fresh : List Nat, w'.lowered.Perm (fresh ++ w.lowered)
      ∧ sh'.members = sh.members.afterGuards (fresh.flatMap (guardedAt decls)) := by
  have needs : ∀ {i : Nat} {f : SourceFunction}, decls[i]? = some f →
      [i].flatMap (guardedAt decls) = guardedPart f.checked := by
    intro i f hf
    rw [List.flatMap_singleton, guardedAt, hf]
  cases h with
  | @lower done i f lowered members hf run =>
      refine ⟨[i], List.Perm.refl _, ?_⟩
      rw [lower_run] at run
      rw [needs hf]
      exact (endedWith_eq_ok run).2
  | @fail done i f error members hf run =>
      refine ⟨[i], List.Perm.refl _, ?_⟩
      rw [lower_run] at run
      rw [needs hf]
      exact (endedWith_eq_error run).2
  | @record done i result =>
      refine ⟨[], ?_, rfl⟩
      show ((done ++ [(i, result)]).map Prod.fst).Perm (i :: done.map Prod.fst)
      rw [List.map_append]
      exact List.perm_append_comm
  | _ => exact ⟨[], List.Perm.refl _, rfl⟩

/-- The worker that moves knows what it should where it gets to. -/
theorem move_holds {helper : Method} (known : w.Holds decls helper sh)
    (same : sh.members.helper = helper) (h : Move decls sh w sh' w') :
    w'.Holds decls helper sh' := by
  have kept := fun r hr => (known.done r hr).mono (move_shared h).2.1
  cases h with
  | cancelled hc => exact ⟨.inl hc, kept⟩
  | notCancelled _ => exact ⟨trivial, kept⟩
  | failed hf => exact ⟨.inr (.inl hf), kept⟩
  | notFailed _ => exact ⟨trivial, kept⟩
  | draw inside => exact ⟨inside, kept⟩
  | exhausted outside => exact ⟨.inr (.inr (Nat.le_succ_of_le outside)), kept⟩
  | @lower done i f lowered members hf run =>
      rw [lower_run, same] at run
      refine ⟨⟨f, hf, (endedWith_eq_ok run).1.symm, ?_⟩, kept⟩
      rintro ⟨error, isError⟩
      cases isError
  | @fail done i f error members hf run =>
      rw [lower_run, same] at run
      exact ⟨⟨f, hf, (endedWith_eq_error run).1⟩, kept⟩
  | raise =>
      obtain ⟨f, hf, fails⟩ := known.phase
      exact ⟨⟨f, hf, fails.symm, fun _ => rfl⟩, kept⟩
  | @record done i result =>
      refine ⟨trivial, fun r hr => ?_⟩
      rcases List.mem_append.mp hr with hr | hr
      · exact kept r hr
      · rw [List.mem_singleton.mp hr]
        exact known.phase

theorem move_failed (h : Move decls sh w sh' w') (up : sh'.failed = true) :
    sh.failed = true ∨ ∃ i error, w.phase = .raise i error := by
  cases h with
  | @raise done i error => exact .inr ⟨i, error, rfl⟩
  | _ => exact .inl up

end

/-! ## The invariant holds in every run -/

section

variable {decls : List SourceFunction} {members : Members}

theorem sound_start (workers : Nat) (cancelled : Bool) :
    Sound decls members (start decls workers cancelled members) where
  taken := by simp [start, Pool.taken, Worker.taken, Phase.held]
  workers := by
    intro w hw
    rw [(List.mem_replicate.mp hw).2]
    exact ⟨trivial, fun r hr => by cases hr⟩
  failing := by intro up; cases up
  table := by simp [start, Worker.lowered, Phase.settled, Members.afterGuards]
  manned := by
    have : workerCount decls workers ≠ 0 := by unfold workerCount; omega
    simpa [start] using this

theorem flatMap_grows {f : Worker → List Nat} {left right : List Worker} {w w' : Worker}
    {fresh : List Nat} (h : (f w').Perm (fresh ++ f w)) :
    ((left ++ w' :: right).flatMap f).Perm ((left ++ w :: right).flatMap f ++ fresh) := by
  simp only [List.flatMap_append, List.flatMap_cons]
  refine ((h.append_right _).append_left _).trans ?_
  rw [List.append_assoc fresh, List.append_assoc (left.flatMap f)]
  refine List.Perm.append_left _ ?_
  exact List.perm_append_comm

theorem Sound.move {sh sh' : Shared} {w w' : Worker} {left right : List Worker}
    (h : Sound decls members ⟨sh, left ++ w :: right⟩) (hm : Move decls sh w sh' w') :
    Sound decls members ⟨sh', left ++ w' :: right⟩ := by
  obtain ⟨next, failed, cancelled⟩ := move_shared hm
  have here : w ∈ left ++ w :: right := List.mem_append_right _ List.mem_cons_self
  have known : w.Holds decls members.helper sh := h.workers w here
  refine ⟨?_, ?_, ?_, ?_, by simp⟩
  · obtain ⟨fresh, grows, range⟩ := move_taken hm
    show ((left ++ w' :: right).flatMap Worker.taken).Perm _
    rw [range]
    exact (flatMap_grows grows).trans (h.taken.append_right fresh)
  · intro v hv
    have other : v ∈ left ++ w :: right → v.Holds decls members.helper sh' := fun hv =>
      (h.workers v hv).mono next failed fun set => cancelled ▸ set
    rcases List.mem_append.mp hv with hv | hv
    · exact other (List.mem_append_left _ hv)
    · rcases List.mem_cons.mp hv with rfl | hv
      · refine move_holds known ?_ hm
        rw [h.table]
        exact members.helper_afterGuards _
      · exact other (List.mem_append_right _ (List.mem_cons_of_mem _ hv))
  · intro up
    rcases move_failed hm up with before | ⟨i, error, raising⟩
    · obtain ⟨i, f, error, hi, hf, fails⟩ := h.failing before
      exact ⟨i, f, error, Nat.lt_of_lt_of_le hi next, hf, fails⟩
    · -- the index that the worker holds has been drawn
      have standing := known.phase
      rw [raising] at standing
      obtain ⟨f, hf, fails⟩ := standing
      have drawn : i ∈ (Pool.mk sh (left ++ w :: right)).taken :=
        List.mem_flatMap.mpr ⟨w, here, by simp [Worker.taken, raising, Phase.held]⟩
      have inside : i < sh.next :=
        Nat.lt_of_lt_of_le (List.mem_range.mp (h.taken.mem_iff.mp drawn)) (Nat.min_le_left _ _)
      exact ⟨i, f, error, Nat.lt_of_lt_of_le inside next, hf, fails⟩
  · obtain ⟨fresh, grows, table⟩ := move_lowered hm
    show sh'.members = _
    rw [table, h.table, Members.afterGuards_append, ← List.flatMap_append]
    exact afterGuards_perm members ((flatMap_grows grows).symm.flatMap_right _)

/-- **Every step keeps the invariant.** -/
theorem sound_step {p q : Pool} (h : Sound decls members p) (hs : Step decls p q) :
    Sound decls members q := by
  cases hs with
  | move left right hm => exact h.move hm
  | cancel _ =>
      refine ⟨h.taken, fun w hw => ?_, h.failing, h.table, h.manned⟩
      exact (h.workers w hw).mono (Nat.le_refl _) id fun _ => rfl

theorem sound_run {n : Nat} {p q : Pool} (h : Sound decls members p) (run : Run decls n p q) :
    Sound decls members q := by
  induction run with
  | refl => exact h
  | tail _ hs ih => exact sound_step (ih h) hs

end

end WorkerPool

end ArgumentGuards
