import ArgumentGuards.Proofs.WorkerResults
import Mathlib.Data.List.Forall2

/-!
# After a failure the workers stop at once

A worker looks at the stop flag and then draws, and the flag can go up in between. So a worker that
has passed its tests when the flag goes up draws one more function. It is **due** that one, and no
other worker is due anything: with the flag up, whoever comes to the test ends. What a worker has
drawn and what it is due never grow together from then on (`Follows`), and that is the whole
argument. The worker that raised the flag was not between its tests and a draw, so it is due
nothing, and the others are due one function each at most.

Without a failure the shared index is drawn once for each function, and then once more by each
worker that finds no function left and ends.
-/

namespace ArgumentGuards.WorkerPool

variable {decls : List SourceFunction} {members : Members}

/-! ## What is due -/

/-- How many functions a worker draws at most once the stop flag is up. -/
def Phase.due : Phase → Nat
  | .draw => 1
  | _ => 0

/-- A worker at two points of a run: what it has drawn in between is part of what it was due. -/
def Follows (w v : Worker) : Prop :=
  ∃ fresh : List Nat, v.taken.Perm (fresh ++ w.taken) ∧ fresh.length + v.phase.due ≤ w.phase.due

theorem Phase.due_le_one (phase : Phase) : phase.due ≤ 1 := by
  cases phase with
  | draw => exact Nat.le_refl 1
  | _ => exact Nat.zero_le 1

theorem Phase.eq_draw_of_due {phase : Phase} (h : 0 < phase.due) : phase = .draw := by
  cases phase with
  | draw => rfl
  | _ => exact absurd h (Nat.lt_irrefl 0)

theorem Follows.refl (w : Worker) : Follows w w := ⟨[], List.Perm.refl _, by simp⟩

theorem Follows.trans {u v w : Worker} (first : Follows u v) (second : Follows v w) :
    Follows u w := by
  obtain ⟨early, grows, due⟩ := first
  obtain ⟨late, grows', due'⟩ := second
  refine ⟨late ++ early, ?_, ?_⟩
  · rw [List.append_assoc]
    exact grows'.trans (grows.append_left late)
  · rw [List.length_append]
    omega

/-- With the stop flag up a worker draws only what it is due. -/
theorem move_follows {sh sh' : Shared} {w w' : Worker} (failed : sh.failed = true)
    (h : Move decls sh w sh' w') : Follows w w' := by
  cases h with
  | notFailed unset => rw [failed] at unset; cases unset
  | draw _ => exact ⟨[sh.next], List.Perm.refl _, Nat.le_refl 1⟩
  | exhausted _ => exact ⟨[], List.Perm.refl _, Nat.zero_le 1⟩
  | @record done i result =>
      refine ⟨[], ?_, Nat.le_refl 0⟩
      show ((done ++ [(i, result)]).map Prod.fst).Perm (i :: done.map Prod.fst)
      rw [List.map_append]
      exact List.perm_append_comm
  | _ => exact ⟨[], List.Perm.refl _, Nat.le_refl 0⟩

theorem follow_trans {us vs ws : List Worker} (first : List.Forall₂ Follows us vs)
    (second : List.Forall₂ Follows vs ws) : List.Forall₂ Follows us ws := by
  induction first generalizing ws with
  | nil => exact second
  | cons early _ ih =>
      cases second with
      | cons late others => exact .cons (early.trans late) (ih others)

theorem forall₂_replace {R : Worker → Worker → Prop} (refl : ∀ w, R w w) {w w' : Worker}
    (h : R w w') (left right : List Worker) :
    List.Forall₂ R (left ++ w :: right) (left ++ w' :: right) := by
  have same : ∀ ws, List.Forall₂ R ws ws := fun ws => List.forall₂_same.mpr fun w _ => refl w
  exact List.rel_append (same left) (.cons h (same right))

theorem forall₂_split {R : Worker → Worker → Prop} {left right vs : List Worker} {w : Worker}
    (h : List.Forall₂ R (left ++ w :: right) vs) :
    ∃ left' v right', vs = left' ++ v :: right' ∧ List.Forall₂ R left left' ∧ R w v
      ∧ List.Forall₂ R right right' := by
  induction left generalizing vs with
  | nil =>
      cases h with
      | cons here others => exact ⟨[], _, _, rfl, .nil, here, others⟩
  | cons u rest ih =>
      cases h with
      | cons first others =>
          obtain ⟨left', v, right', rfl, before, here, after⟩ := ih others
          exact ⟨_ :: left', v, right', rfl, .cons first before, here, after⟩

theorem step_follows {p q : Pool} (failed : p.shared.failed = true) (hs : Step decls p q) :
    List.Forall₂ Follows p.workers q.workers ∧ q.shared.failed = true := by
  cases hs with
  | move left right hm =>
      exact ⟨forall₂_replace Follows.refl (move_follows failed hm) left right,
        (move_shared hm).2.1 failed⟩
  | cancel _ => exact ⟨List.forall₂_same.mpr fun w _ => Follows.refl w, failed⟩

/-- **With the stop flag up, no worker ever draws more than it is due.** -/
theorem run_follows {n : Nat} {p q : Pool} (failed : p.shared.failed = true)
    (run : Run decls n p q) :
    List.Forall₂ Follows p.workers q.workers ∧ q.shared.failed = true := by
  induction run with
  | refl => exact ⟨List.forall₂_same.mpr fun w _ => Follows.refl w, failed⟩
  | tail _ hs ih =>
      obtain ⟨before, up⟩ := ih failed
      obtain ⟨last, up'⟩ := step_follows up hs
      exact ⟨follow_trans before last, up'⟩

/-! ## How many functions are drawn after a failure -/

/-- A worker at two points of a run: it has drawn no function in between, or a single one, because it
had passed the tests of its loop already. -/
def DrawsLast (w v : Worker) : Prop :=
  ∃ fresh : List Nat, v.taken.Perm (fresh ++ w.taken)
    ∧ (fresh = [] ∨ fresh.length = 1 ∧ w.phase = .draw)

theorem Follows.drawsLast {w v : Worker} (h : Follows w v) : DrawsLast w v := by
  obtain ⟨fresh, grows, due⟩ := h
  refine ⟨fresh, grows, ?_⟩
  have atMostOne := w.phase.due_le_one
  rcases Nat.eq_zero_or_pos fresh.length with none | some
  · exact .inl (List.length_eq_zero_iff.mp none)
  · exact .inr ⟨by omega, Phase.eq_draw_of_due (by omega)⟩

theorem Follows.taken_of_due {w v : Worker} (h : Follows w v) (due : w.phase.due = 0) :
    v.taken.Perm w.taken ∧ v.phase.due = 0 := by
  obtain ⟨fresh, grows, less⟩ := h
  have none : fresh = [] := List.length_eq_zero_iff.mp (by omega)
  subst none
  exact ⟨grows, by omega⟩

/-- How many functions some workers are due. -/
def totalDue (ws : List Worker) : Nat := (ws.map fun w => w.phase.due).sum

theorem length_taken_le {ws vs : List Worker} (h : List.Forall₂ Follows ws vs) :
    (vs.flatMap Worker.taken).length + totalDue vs
      ≤ (ws.flatMap Worker.taken).length + totalDue ws := by
  unfold totalDue
  induction h with
  | nil => exact Nat.le_refl _
  | cons first _ ih =>
      obtain ⟨fresh, grows, due⟩ := first
      have size := grows.length_eq
      rw [List.length_append] at size
      simp only [List.flatMap_cons, List.length_append, List.map_cons, List.sum_cons]
      omega

theorem totalDue_le (ws : List Worker) : totalDue ws ≤ ws.length := by
  unfold totalDue
  induction ws with
  | nil => exact Nat.le_refl 0
  | cons w rest ih =>
      have atMostOne := w.phase.due_le_one
      rw [List.map_cons, List.sum_cons, List.length_cons]
      omega

/-- If some worker is due nothing, it is one less than there are workers. -/
theorem totalDue_lt {ws : List Worker} (h : ∃ w ∈ ws, w.phase.due = 0) :
    totalDue ws < ws.length := by
  obtain ⟨w, hw, due⟩ := h
  obtain ⟨left, right, rfl⟩ := List.append_of_mem hw
  have first := totalDue_le left
  have last := totalDue_le right
  unfold totalDue at *
  rw [List.map_append, List.map_cons, List.sum_append, List.sum_cons, due, List.length_append,
    List.length_cons]
  omega

/-- With the stop flag up, the worker that raised it is due nothing. -/
def Stopping (p : Pool) : Prop :=
  p.shared.failed = true → ∃ w ∈ p.workers, w.phase.due = 0

theorem stopping_step {p q : Pool} (h : Stopping p) (hs : Step decls p q) : Stopping q := by
  intro up
  cases before : p.shared.failed with
  | true =>
      obtain ⟨w, hw, due⟩ := h before
      obtain ⟨i, hi, rfl⟩ := List.mem_iff_getElem.mp hw
      have follow := (step_follows before hs).1
      have hi' : i < q.workers.length := by rwa [← follow.length_eq]
      have follows := (List.forall₂_iff_get.mp follow).2 i hi hi'
      exact ⟨q.workers[i], List.getElem_mem hi', (follows.taken_of_due due).2⟩
  | false =>
      cases hs with
      | cancel _ => exact absurd (before.symm.trans up) Bool.noConfusion
      | @move sh sh' w w' left right hm =>
          refine ⟨w', List.mem_append_right _ List.mem_cons_self, ?_⟩
          have down : sh.failed = false := before
          have up' : sh'.failed = true := up
          cases hm with
          | raise => rfl
          | _ => exact absurd (down.symm.trans up') Bool.noConfusion

theorem length_workers_step {p q : Pool} (hs : Step decls p q) :
    q.workers.length = p.workers.length := by
  cases hs with
  | move left right _ => rw [List.length_append, List.length_append]; rfl
  | cancel _ => rfl

/-! ## How often the index is drawn -/

/-- Whether a worker has ended, as a number. -/
def Phase.ends : Phase → Nat
  | .ended => 1
  | _ => 0

/-- How many workers have ended. -/
def Pool.endedCount (p : Pool) : Nat := (p.workers.map fun w => w.phase.ends).sum

theorem Phase.ends_le_one (phase : Phase) : phase.ends ≤ 1 := by
  cases phase with
  | ended => exact Nat.le_refl 1
  | _ => exact Nat.zero_le 1

theorem endedCount_le (p : Pool) : p.endedCount ≤ p.workers.length := by
  unfold Pool.endedCount
  induction p.workers with
  | nil => exact Nat.le_refl 0
  | cons w rest ih =>
      have atMostOne := w.phase.ends_le_one
      rw [List.map_cons, List.sum_cons, List.length_cons]
      omega

/-- Beyond the list the index is drawn once by each worker that ends. -/
theorem move_next {sh sh' : Shared} {w w' : Worker} (others : Nat)
    (h : sh.next ≤ decls.length + (others + w.phase.ends)) (hm : Move decls sh w sh' w') :
    sh'.next ≤ decls.length + (others + w'.phase.ends) := by
  cases hm with
  | draw inside => exact Nat.le_trans inside (Nat.le_add_right _ _)
  | exhausted _ => exact Nat.succ_le_succ h
  | cancelled _ => exact Nat.le_succ_of_le h
  | failed _ => exact Nat.le_succ_of_le h
  | _ => exact h

theorem next_step {p q : Pool} (h : p.shared.next ≤ decls.length + p.endedCount)
    (hs : Step decls p q) : q.shared.next ≤ decls.length + q.endedCount := by
  cases hs with
  | cancel _ => exact h
  | @move sh sh' w w' left right hm =>
      have count : ∀ v : Worker, (left ++ v :: right).map (fun w => w.phase.ends)
          = left.map (fun w => w.phase.ends) ++ v.phase.ends :: right.map fun w => w.phase.ends :=
        fun v => by rw [List.map_append, List.map_cons]
      unfold Pool.endedCount at h ⊢
      dsimp only at h ⊢
      rw [count, List.sum_append, List.sum_cons] at h ⊢
      have moved := move_next
        ((left.map fun w => w.phase.ends).sum + (right.map fun w => w.phase.ends).sum)
        (by omega) hm
      omega

/-! ## A single worker -/

/-- Whether a function fails does not depend on the table. -/
theorem outcome_error_congr {f : SourceFunction} {helper other : Method} {error : LoweringError}
    (h : f.outcome helper = .error error) : f.outcome other = .error error := by
  unfold SourceFunction.outcome verdict at *
  cases hf : f.checked.find? Parameter.isPlain with
  | none => rw [hf] at h; cases h
  | some p => rw [hf] at h; exact h

/-- What is left of a worker that is alone with a function that fails: it has not come to it, or it
is at work on it, or it has raised the flag and draws nothing more. -/
def Halts (j : Nat) (sh : Shared) (w : Worker) : Prop :=
  sh.next ≤ j ∨ sh.next = j + 1 ∧ (w.phase = .lower j ∨ (∃ error, w.phase = .raise j error)
    ∨ sh.failed = true ∧ w.phase.due = 0)

theorem move_halts {j : Nat} {f : SourceFunction} {helper : Method} {error : LoweringError}
    (hf : decls[j]? = some f) (fails : f.outcome helper = .error error) {sh sh' : Shared}
    {w w' : Worker} (h : Halts j sh w) (hm : Move decls sh w sh' w') : Halts j sh' w' := by
  have inside : j < decls.length := (List.getElem?_eq_some_iff.mp hf).1
  rcases h with early | ⟨drawn, lowering | ⟨raised, raising⟩ | ⟨up, due⟩⟩
  · -- before the function is drawn only a draw matters
    cases hm with
    | draw _ =>
        rcases Nat.lt_or_eq_of_le early with before | here
        · exact .inl before
        · exact .inr ⟨by rw [here], .inl (by rw [here])⟩
    | exhausted outside => omega
    | _ => exact .inl early
  · cases hm with
    | @lower done i g lowered members hg run =>
        cases lowering
        rw [hf] at hg
        cases hg
        rw [lower_run, outcome_error_congr fails] at run
        cases run
    | @fail done i g raised members hg run =>
        cases lowering
        exact .inr ⟨drawn, .inr (.inl ⟨raised, rfl⟩)⟩
    | _ => cases lowering
  · cases hm with
    | raise => exact .inr ⟨drawn, .inr (.inr ⟨rfl, rfl⟩)⟩
    | _ => cases raising
  · cases hm with
    | draw _ => cases due
    | exhausted _ => cases due
    | notFailed unset => rw [up] at unset; cases unset
    | raise => exact .inr ⟨drawn, .inr (.inr ⟨rfl, rfl⟩)⟩
    | _ => exact .inr ⟨drawn, .inr (.inr ⟨up, rfl⟩)⟩

theorem halts_step {j : Nat} {f : SourceFunction} {helper : Method} {error : LoweringError}
    (hf : decls[j]? = some f) (fails : f.outcome helper = .error error) {p q : Pool} {w : Worker}
    (single : p.workers = [w]) (h : Halts j p.shared w) (hs : Step decls p q) :
    ∃ w', q.workers = [w'] ∧ Halts j q.shared w' := by
  cases hs with
  | cancel _ => exact ⟨w, single, h⟩
  | @move sh sh' u u' left right hm =>
      cases left with
      | nil =>
          injection single with here none
          subst here none
          exact ⟨u', rfl, move_halts hf fails h hm⟩
      | cons v rest =>
          have size := congrArg List.length single
          simp at size

/-! ## Every schedule -/

/-- What a run of the pool keeps, besides `Sound`. -/
structure Winding (decls : List SourceFunction) (workers : Nat) (p : Pool) : Prop where
  size : p.workers.length = workerCount decls workers
  stopping : Stopping p
  next : p.shared.next ≤ decls.length + p.endedCount

theorem winding_start (workers : Nat) (cancelled : Bool) (members : Members) :
    Winding decls workers (start decls workers cancelled members) where
  size := List.length_replicate
  stopping := by intro up; cases up
  next := Nat.zero_le _

theorem winding_run {workers n : Nat} {p q : Pool} (h : Winding decls workers p)
    (run : Run decls n p q) : Winding decls workers q := by
  induction run with
  | refl => exact h
  | tail _ hs ih =>
      have before := ih h
      exact ⟨(length_workers_step hs).trans before.size, stopping_step before.stopping hs,
        next_step before.next hs⟩

theorem halts_run {j n : Nat} {f : SourceFunction} {helper : Method} {error : LoweringError}
    (hf : decls[j]? = some f) (fails : f.outcome helper = .error error) {p q : Pool} {w : Worker}
    (single : p.workers = [w]) (h : Halts j p.shared w) (run : Run decls n p q) :
    ∃ w', q.workers = [w'] ∧ Halts j q.shared w' := by
  induction run with
  | refl => exact ⟨w, single, h⟩
  | tail _ hs ih =>
      obtain ⟨v, alone, halts⟩ := ih single h
      exact halts_step hf fails alone halts hs

/-- What a pool of workers does after a failure, whatever its schedule. -/
structure StopsAtOnce (decls : List SourceFunction) (members : Members) (workers : Nat) :
    Prop where
  /-- From the moment that a worker raises the stop flag it draws no function. Every other worker
  draws one more at most, and only if it has passed the tests of its loop by then. -/
  raised : ∀ cancelled n sh left right i error done,
    Run decls n (start decls workers cancelled members)
      ⟨sh, left ++ ⟨.raise i error, done⟩ :: right⟩ →
    ∀ m q, Run decls m
        ⟨{ sh with failed := true }, left ++ ⟨.record i (.error error), done⟩ :: right⟩ q →
      ∃ left' v right', q.workers = left' ++ v :: right' ∧ v.taken.Perm (i :: done.map Prod.fst)
        ∧ List.Forall₂ DrawsLast left left' ∧ List.Forall₂ DrawsLast right right'
  /-- So with the stop flag up, all workers together draw one function less than they are. -/
  total : ∀ cancelled n p, Run decls n (start decls workers cancelled members) p →
    p.shared.failed = true → ∀ m q, Run decls m p q →
      q.taken.length ≤ p.taken.length + (workerCount decls workers - 1)
  /-- A single worker draws nothing after a function that fails. -/
  single : workerCount decls workers = 1 → ∀ j f error after, decls[j]? = some f →
    f.lower.run members = .error error after →
    ∀ cancelled n p, Run decls n (start decls workers cancelled members) p →
      ∀ i ∈ p.taken, i ≤ j
  /-- The index is drawn once for each function, and once by each worker that finds none left. -/
  draws : ∀ cancelled n p, Run decls n (start decls workers cancelled members) p →
    p.shared.next ≤ decls.length + workerCount decls workers
  /-- So no run goes on for ever, and until all workers have ended there is a step. -/
  ends : ∀ cancelled n p, Run decls n (start decls workers cancelled members) p →
    n ≤ 6 * decls.length + 3 * workerCount decls workers + 1
      ∧ (p.Ended ∨ ∃ q, Step decls p q)

theorem drawsLast_of_follow {ws vs : List Worker} (h : List.Forall₂ Follows ws vs) :
    List.Forall₂ DrawsLast ws vs :=
  h.imp fun _ _ follows => follows.drawsLast

/-- **After a failure the workers stop at once, under every schedule.** -/
theorem workers_stop (decls : List SourceFunction) (members : Members) (workers : Nat) :
    StopsAtOnce decls members workers := by
  have sound : ∀ {cancelled n p}, Run decls n (start decls workers cancelled members) p →
      Sound decls members p := fun run => sound_run (sound_start workers _) run
  have winding : ∀ {cancelled n p}, Run decls n (start decls workers cancelled members) p →
      Winding decls workers p := fun run => winding_run (winding_start workers _ members) run
  exact {
    raised := fun cancelled n sh left right i error done _ m q run => by
      have follow := (run_follows rfl run).1
      obtain ⟨left', v, right', split, before, here, after⟩ := forall₂_split follow
      exact ⟨left', v, right', split, (here.taken_of_due rfl).1, drawsLast_of_follow before,
        drawsLast_of_follow after⟩
    total := fun cancelled n p first failed m q run => by
      have follow := (run_follows failed run).1
      have drawn := length_taken_le follow
      have due := totalDue_lt ((winding first).stopping failed)
      rw [(winding first).size] at due
      unfold Pool.taken
      omega
    single := fun alone j f error after hf fails cancelled n p run i hi => by
      have outcome := outcome_eq_error_iff.mpr ⟨after, fails⟩
      have one : (start decls workers cancelled members).workers = [⟨.askCancelled, []⟩] := by
        unfold start
        rw [alone]
        rfl
      obtain ⟨w, -, halts⟩ := halts_run hf outcome one (.inl (Nat.zero_le j)) run
      have within := List.mem_range.mp ((sound run).taken.mem_iff.mp hi)
      rcases halts with early | ⟨drawn, -⟩ <;> omega
    draws := fun cancelled n p run => by
      have next := (winding run).next
      have ended := endedCount_le p
      rw [(winding run).size] at ended
      omega
    ends := fun cancelled n p run => by
      refine ⟨?_, (exists_step (sound run)).imp_right fun ⟨q, hs, _⟩ => ⟨q, hs⟩⟩
      have bound := run_length run
      have first := measure_start decls workers cancelled members
      omega }

/-- A function that cannot be lowered: its parameter is checked, and can never be absent. -/
def unguardable : SourceFunction := ⟨"f", [⟨"n", .int, true, 0⟩], .void, .empty⟩

/-- The second worker has passed its tests when the first one raises the flag: the bound is met. -/
theorem workers_stop_last_draw :
    ∃ p q, Run [unguardable, unguardable] 7 (start [unguardable, unguardable] 2 false .empty) p
      ∧ p.shared.failed = true ∧ p.taken = [0]
      ∧ Run [unguardable, unguardable] 1 p q ∧ q.taken = [0, 1]
      ∧ q.taken.length ≤ p.taken.length + (workerCount [unguardable, unguardable] 2 - 1) := by
  let fault : LoweringError := .neverAbsent "n" "int"
  have fails : unguardable.lower.run .empty = .error fault .empty := rfl
  -- the first worker draws, the second one passes its tests, and then the first one fails
  have run : Run [unguardable, unguardable] 7 (start [unguardable, unguardable] 2 false .empty)
      ⟨⟨1, true, false, .empty⟩, [⟨.record 0 (.error fault), []⟩, ⟨.draw, []⟩]⟩ :=
    ((((((Run.refl.tail (.move [] [_] (.notCancelled rfl))).tail
      (.move [] [_] (.notFailed rfl))).tail
      (.move [] [_] (.draw (by decide)))).tail
      (.move [_] [] (.notCancelled rfl))).tail
      (.move [_] [] (.notFailed rfl))).tail
      (.move [] [_] (.fail rfl fails))).tail
      (.move [] [_] .raise)
  have last : Run [unguardable, unguardable] 1
      ⟨⟨1, true, false, .empty⟩, [⟨.record 0 (.error fault), []⟩, ⟨.draw, []⟩]⟩
      ⟨⟨2, true, false, .empty⟩, [⟨.record 0 (.error fault), []⟩, ⟨.lower 1, []⟩]⟩ :=
    Run.refl.tail (.move [_] [] (.draw (by decide)))
  exact ⟨_, _, run, rfl, rfl, last, rfl,
    (workers_stop _ .empty 2).total false 7 _ run rfl 1 _ last⟩

end ArgumentGuards.WorkerPool
