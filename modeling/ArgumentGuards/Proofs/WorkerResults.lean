import ArgumentGuards.Proofs.Workers
import Mathlib.Data.List.Basic
import Mathlib.Data.List.Forall2
import Mathlib.Data.List.Induction

/-!
# The pool answers what a single worker would

When all workers have ended, their records are the results of a prefix of the functions. The prefix
is the whole list unless the workers stopped early, which happens for two reasons only: the run was
cancelled, or the stop flag is up. In the second case some drawn function fails, and since the drawn
indices are a prefix, the **first** failing function of the whole list is among them. So the first
error in the order of the indices is the first error of the list.

The table takes the same argument one step further: what a run adds to it does not depend on the
order of the requests, only on whether there was one.
-/

namespace ArgumentGuards.WorkerPool

variable {decls : List SourceFunction} {members : Members}

/-! ## Records in order -/

theorem collect_outcomes (helper : Method) (fs : List SourceFunction) :
    collect (fs.map (SourceFunction.outcome helper))
      = verdict (checkedOf fs) (fs.map (SourceFunction.guarded helper)) := by
  induction fs with
  | nil => rfl
  | cons f rest ih =>
      rw [List.map_cons, collect, ih]
      exact (verdict_append List.cons f.checked (checkedOf rest) _ _).symm

theorem taken_of_ended {p : Pool} (ended : p.Ended) : p.taken = p.records.map Prod.fst := by
  unfold Pool.taken Pool.records
  rw [List.map_flatMap]
  refine List.flatMap_congr fun w hw => ?_
  rw [Worker.taken, ended w hw]
  exact List.nil_append _

theorem settled_of_mem_records {p : Pool} (h : Sound decls members p) {r : Record}
    (hr : r ∈ p.records) : Settled decls members.helper p.shared r := by
  obtain ⟨w, hw, hr⟩ := List.mem_flatMap.mp hr
  exact (h.workers w hw).done r hr

theorem sorted_indices {p : Pool} (h : Sound decls members p) (ended : p.Ended) :
    (p.records.mergeSort fun a b => a.1 ≤ b.1).map Prod.fst
      = List.range (min p.shared.next decls.length) := by
  have ascending : ((p.records.mergeSort fun a b => a.1 ≤ b.1).map Prod.fst).Pairwise (· ≤ ·) := by
    refine List.pairwise_map.mpr ((List.pairwise_mergeSort ?_ ?_ p.records).imp ?_)
    · intro a b c hab hbc
      rw [decide_eq_true_eq] at *
      exact Nat.le_trans hab hbc
    · intro a b
      rw [Bool.or_eq_true, decide_eq_true_eq, decide_eq_true_eq]
      exact Nat.le_total a.1 b.1
    · intro a b le
      exact decide_eq_true_eq.mp le
  have same : ((p.records.mergeSort fun a b => a.1 ≤ b.1).map Prod.fst).Perm
      (List.range (min p.shared.next decls.length)) :=
    ((List.mergeSort_perm p.records _).map Prod.fst).trans (taken_of_ended ended ▸ h.taken)
  -- in order, the first indices can only be the range itself
  exact same.eq_of_pairwise (fun a b _ _ => Nat.le_antisymm) ascending List.pairwise_le_range

/-- **Sorted by their indices, the records are the results of a prefix of the functions.** -/
theorem sorted_records {p : Pool} (h : Sound decls members p) (ended : p.Ended) :
    (p.records.mergeSort fun a b => a.1 ≤ b.1).map Prod.snd
      = (decls.take p.shared.next).map (SourceFunction.outcome members.helper) := by
  have indices := sorted_indices h ended
  have size : (p.records.mergeSort fun a b => a.1 ≤ b.1).length
      = min p.shared.next decls.length := by
    rw [← List.length_map Prod.fst, indices, List.length_range]
  refine List.ext_getElem ?_ fun k hk hk' => ?_
  · rw [List.length_map, size, List.length_map, List.length_take]
  · rw [List.length_map] at hk
    rw [List.getElem_map, List.getElem_map, List.getElem_take]
    have index : ((p.records.mergeSort fun a b => a.1 ≤ b.1)[k]).1 = k := by
      have := List.getElem_of_eq indices (by rw [List.length_map]; exact hk)
      rwa [List.getElem_map, List.getElem_range] at this
    have known : (p.records.mergeSort fun a b => a.1 ≤ b.1)[k] ∈ p.records :=
      List.mem_mergeSort.mp (List.getElem_mem hk)
    obtain ⟨f, hf, result, -⟩ := settled_of_mem_records h known
    rw [index] at hf
    obtain ⟨inside, rfl⟩ := List.getElem?_eq_some_iff.mp hf
    exact result

/-! ## The answer -/

/-- What lowering answers for a list of functions, as `compiled_lower` says. -/
def answerOf (helper : Method) (decls : List SourceFunction) :
    Except LoweringError (List LoweredFunction) :=
  verdict (checkedOf decls) (decls.map (SourceFunction.guarded helper))

theorem checkedOf_take_drop (n : Nat) :
    checkedOf decls = checkedOf (decls.take n) ++ checkedOf (decls.drop n) := by
  unfold checkedOf
  rw [← List.flatMap_append, List.take_append_drop]

/-- A prefix that fails has the error of the whole list. -/
theorem answerOf_take_error {helper : Method} {n : Nat} {error : LoweringError}
    (h : answerOf helper (decls.take n) = .error error) :
    answerOf helper decls = .error error := by
  unfold answerOf verdict at *
  rw [checkedOf_take_drop n, List.find?_append]
  cases hf : (checkedOf (decls.take n)).find? Parameter.isPlain with
  | none => rw [hf] at h; cases h
  | some p => rw [hf] at h; exact h

theorem answerOf_eq_ok {helper : Method} {fs : List SourceFunction} {lowered}
    (h : answerOf helper fs = .ok lowered) :
    lowered = fs.map (SourceFunction.guarded helper) ∧ ∀ p ∈ checkedOf fs, p.isPlain = false :=
  verdict_eq_ok h

theorem answerOf_error_of_mem {helper : Method} {fs : List SourceFunction} {f : SourceFunction}
    (hf : f ∈ fs) {error : LoweringError} (fails : f.outcome helper = .error error) :
    ∃ first, answerOf helper fs = .error first := by
  cases h : answerOf helper fs with
  | error first => exact ⟨first, rfl⟩
  | ok lowered =>
      have clean : ∀ p ∈ f.checked, p.isPlain = false := fun p hp =>
        (answerOf_eq_ok h).2 p (List.mem_flatMap.mpr ⟨f, hf, hp⟩)
      rw [SourceFunction.outcome, verdict_of_forall clean] at fails
      cases fails

/-- Results of a prefix: the pool answers with their first error, or with all of them, or that the
run was cancelled. -/
theorem result_of_ended {module : String} {p : Pool} (h : Sound decls members p)
    (ended : p.Ended) :
    p.result module decls
      = match answerOf members.helper (decls.take p.shared.next) with
        | .error error => .error error
        | .ok lowered =>
          if lowered.length < decls.length then .error (.cancelled module) else .ok lowered := by
  rw [Pool.result, sorted_records h ended, collect_outcomes]
  rfl

/-- A pool that has ended for no other reason has drawn every index or a failing one. -/
theorem exhausted_or_failed {p : Pool} (h : Sound decls members p) (ended : p.Ended)
    (uncancelled : p.shared.cancelled = false) :
    decls.length ≤ p.shared.next
      ∨ ∃ error, answerOf members.helper (decls.take p.shared.next) = .error error := by
  -- any worker will do: each of them knows why it ended
  obtain ⟨w, hw⟩ := List.exists_mem_of_ne_nil _ h.manned
  have why := (h.workers w hw).phase
  rw [ended w hw] at why
  rcases why with cancelled | failed | exhausted
  · rw [uncancelled] at cancelled; cases cancelled
  · obtain ⟨i, f, error, hi, hf, fails⟩ := h.failing failed
    have drawn : f ∈ decls.take p.shared.next :=
      List.mem_of_getElem? (i := i) (by rw [List.getElem?_take_of_lt hi]; exact hf)
    exact .inr (answerOf_error_of_mem drawn fails)
  · exact .inl exhausted

/-- **Uncancelled, the pool answers what one worker would.** -/
theorem result_eq_answerOf {module : String} {p : Pool} (h : Sound decls members p)
    (ended : p.Ended) (uncancelled : p.shared.cancelled = false) :
    p.result module decls = answerOf members.helper decls := by
  rw [result_of_ended h ended]
  rcases exhausted_or_failed h ended uncancelled with all | ⟨error, fails⟩
  · rw [List.take_of_length_le all]
    cases ha : answerOf members.helper decls with
    | error error => rfl
    | ok lowered =>
        have size : lowered.length = decls.length := by
          rw [(answerOf_eq_ok ha).1, List.length_map]
        exact if_neg (Nat.not_lt.mpr (Nat.le_of_eq size.symm))
  · rw [fails, answerOf_take_error fails]

/-- Whenever it is cancelled, the pool answers that, or what one worker would. -/
theorem result_eq_or_cancelled {module : String} {p : Pool} (h : Sound decls members p)
    (ended : p.Ended) :
    p.result module decls = answerOf members.helper decls
      ∨ p.result module decls = .error (.cancelled module) := by
  rw [result_of_ended h ended]
  cases ha : answerOf members.helper (decls.take p.shared.next) with
  | error error => exact .inl (answerOf_take_error ha).symm
  | ok lowered =>
      rcases Nat.lt_or_ge lowered.length decls.length with short | full
      · exact .inr (if_pos short)
      · left
        have all : decls.take p.shared.next = decls := by
          rw [(answerOf_eq_ok ha).1, List.length_map, List.length_take] at full
          exact List.take_of_length_le (by omega)
        rw [all] at ha
        rw [ha]
        exact if_neg (Nat.not_lt.mpr full)

/-! ## The table -/

theorem lowered_of_ended {p : Pool} (ended : p.Ended) :
    p.workers.flatMap Worker.lowered = p.taken := by
  refine List.flatMap_congr fun w hw => ?_
  rw [Worker.lowered, Worker.taken, ended w hw]
  rfl

theorem flatMap_guardedAt :
    (List.range decls.length).flatMap (guardedAt decls)
      = decls.flatMap fun f => guardedPart f.checked := by
  induction decls using List.reverseRecOn with
  | nil => rfl
  | append_singleton fs f ih =>
      rw [List.length_append, List.length_singleton, List.range_succ, List.flatMap_append,
        List.flatMap_append, ← ih]
      congr 1
      · refine List.flatMap_congr fun i hi => ?_
        rw [guardedAt, guardedAt, List.getElem?_append_left (List.mem_range.mp hi)]
      · rw [List.flatMap_singleton, List.flatMap_singleton, guardedAt,
          List.getElem?_concat_length]

/-- **A run that succeeds leaves the table that one worker would.** -/
theorem table_of_ok {module : String} {p : Pool} (h : Sound decls members p) (ended : p.Ended)
    {lowered : List LoweredFunction} (ok : p.result module decls = .ok lowered) :
    p.shared.members = members.afterGuards (guardedPart (checkedOf decls)) := by
  have answer : answerOf members.helper decls = .ok lowered := by
    have either : p.result module decls = _ ∨ p.result module decls = _ :=
      result_eq_or_cancelled h ended
    rw [ok] at either
    rcases either with same | cancelled
    · exact same.symm
    · cases cancelled
  have clean := (answerOf_eq_ok answer).2
  have all : decls.length ≤ p.shared.next := by
    rw [result_of_ended h ended] at ok
    cases ha : answerOf members.helper (decls.take p.shared.next) with
    | error error => rw [ha] at ok; cases ok
    | ok some =>
        have size : some.length = min p.shared.next decls.length := by
          rw [(answerOf_eq_ok ha).1, List.length_map, List.length_take]
        rw [ha] at ok
        dsimp only at ok
        split at ok
        · cases ok
        · omega
  -- the requests came in some other order, and that does not show in the table
  rw [h.table, lowered_of_ended ended]
  have indices := h.taken.flatMap_right (guardedAt decls)
  rw [Nat.min_eq_right all, flatMap_guardedAt] at indices
  rw [afterGuards_perm members indices, guardedPart_of_forall clean]
  refine congrArg members.afterGuards (List.flatMap_congr fun f hf => ?_)
  exact guardedPart_of_forall fun p hp => clean p (List.mem_flatMap.mpr ⟨f, hf, hp⟩)

/-! ## Cancelled before it begins -/

/-- A pool of workers that have done nothing and will do nothing. -/
structure Idle (members : Members) (p : Pool) : Prop where
  cancelled : p.shared.cancelled = true
  next : p.shared.next = 0
  members : p.shared.members = members
  workers : ∀ w ∈ p.workers, w = ⟨.askCancelled, []⟩ ∨ w = ⟨.ended, []⟩

theorem idle_start (workers : Nat) : Idle members (start decls workers true members) where
  cancelled := rfl
  next := rfl
  members := rfl
  workers := fun _ hw => .inl (List.mem_replicate.mp hw).2

theorem idle_step {p q : Pool} (h : Idle members p) (hs : Step decls p q) : Idle members q := by
  cases hs with
  | cancel unset => rw [h.cancelled] at unset; cases unset
  | @move sh sh' w w' left right hm =>
      have others : ∀ v ∈ left ++ w :: right, v = ⟨.askCancelled, []⟩ ∨ v = ⟨.ended, []⟩ :=
        h.workers
      have here := others w (List.mem_append_right _ List.mem_cons_self)
      have set : sh.cancelled = true := h.cancelled
      obtain ⟨same, idle⟩ : sh' = sh ∧ w' = ⟨.ended, []⟩ := by
        rcases here with rfl | rfl
        · cases hm with
          | cancelled _ => exact ⟨rfl, rfl⟩
          | notCancelled unset => rw [set] at unset; cases unset
        · cases hm
      subst same idle
      refine ⟨h.cancelled, h.next, h.members, fun v hv => ?_⟩
      rcases List.mem_append.mp hv with hv | hv
      · exact others v (List.mem_append_left _ hv)
      · rcases List.mem_cons.mp hv with rfl | hv
        · exact .inr rfl
        · exact others v (List.mem_append_right _ (List.mem_cons_of_mem _ hv))

theorem idle_run {n : Nat} {p q : Pool} (h : Idle members p) (run : Run decls n p q) :
    Idle members q := by
  induction run with
  | refl => exact h
  | tail _ hs ih => exact idle_step (ih h) hs

theorem result_of_idle {module : String} {p : Pool} (h : Idle members p) :
    p.result module decls
      = if decls.isEmpty then .ok [] else .error (.cancelled module) := by
  have nothing : p.records = [] := by
    refine List.flatMap_eq_nil_iff.mpr fun w hw => ?_
    rcases h.workers w hw with rfl | rfl <;> rfl
  rw [Pool.result, nothing, List.mergeSort_nil]
  cases decls with
  | nil => rfl
  | cons f rest => rfl

/-! ## Single functions -/

theorem outcome_eq_ok_iff {f : SourceFunction} {lowered : LoweredFunction} :
    f.outcome members.helper = .ok lowered
      ↔ ∃ after, f.lower.run members = .ok lowered after := by
  rw [lower_run]
  constructor
  · intro h
    exact ⟨_, by rw [h]; rfl⟩
  · rintro ⟨after, run⟩
    exact (endedWith_eq_ok run).1

theorem outcome_eq_error_iff {f : SourceFunction} {error : LoweringError} :
    f.outcome members.helper = .error error
      ↔ ∃ after, f.lower.run members = .error error after := by
  rw [lower_run]
  constructor
  · intro h
    exact ⟨_, by rw [h]; rfl⟩
  · rintro ⟨after, run⟩
    exact (endedWith_eq_error run).1

theorem clean_of_outcome {helper : Method} {f : SourceFunction} {lowered : LoweredFunction}
    (h : f.outcome helper = .ok lowered) :
    lowered = f.guarded helper ∧ ∀ p ∈ f.checked, p.isPlain = false :=
  verdict_eq_ok h

theorem answerOf_append_error {helper : Method} {before : List SourceFunction}
    {f : SourceFunction} {after : List SourceFunction} {error : LoweringError}
    (clean : ∀ g ∈ before, ∃ lowered, g.outcome helper = .ok lowered)
    (fails : f.outcome helper = .error error) :
    answerOf helper (before ++ f :: after) = .error error := by
  have none : ∀ p ∈ checkedOf before, p.isPlain = false := by
    intro p hp
    obtain ⟨g, hg, hp⟩ := List.mem_flatMap.mp hp
    obtain ⟨lowered, ok⟩ := clean g hg
    exact (clean_of_outcome ok).2 p hp
  unfold SourceFunction.outcome at fails
  rcases all_or_first_plain f.checked with clean' | ⟨passed, p, rest, split, hp, clean'⟩
  · rw [verdict_of_forall clean'] at fails; cases fails
  · rw [split, verdict_append_plain clean' hp] at fails
    have whole : checkedOf (before ++ f :: after)
        = (checkedOf before ++ passed) ++ p :: (rest ++ checkedOf after) := by
      simp [checkedOf, split]
    have both : ∀ q ∈ checkedOf before ++ passed, q.isPlain = false := fun q hq =>
      (List.mem_append.mp hq).elim (none q) (clean' q)
    rw [answerOf, whole, verdict_append_plain both hp]
    injection fails with fails
    rw [fails]

/-! ## Every schedule -/

theorem answerOf_of_outcomes {helper : Method} {fs : List SourceFunction}
    {lowered : List LoweredFunction}
    (h : List.Forall₂ (fun f g => SourceFunction.outcome helper f = .ok g) fs lowered) :
    answerOf helper fs = .ok lowered := by
  induction h with
  | nil => rfl
  | @cons f g fs lowered first _ ih =>
      obtain ⟨rfl, clean⟩ := clean_of_outcome first
      obtain ⟨rfl, cleanRest⟩ := answerOf_eq_ok ih
      have all : ∀ p ∈ checkedOf (f :: fs), p.isPlain = false := by
        intro p hp
        rcases List.mem_append.mp hp with hp | hp
        · exact clean p hp
        · exact cleanRest p hp
      exact verdict_of_forall all _

theorem exists_outcomes {helper : Method} {fs : List SourceFunction}
    (h : ∀ f ∈ fs, ∃ lowered, SourceFunction.outcome helper f = .ok lowered) :
    ∃ lowered, List.Forall₂ (fun f g => SourceFunction.outcome helper f = .ok g) fs lowered := by
  induction fs with
  | nil => exact ⟨[], .nil⟩
  | cons f rest ih =>
      obtain ⟨first, hf⟩ := h f List.mem_cons_self
      obtain ⟨more, hrest⟩ := ih fun g hg => h g (List.mem_cons_of_mem _ hg)
      exact ⟨first :: more, .cons hf hrest⟩

theorem outcome_of_not_error {f : SourceFunction}
    (h : ∀ error after, f.lower.run members ≠ .error error after) :
    ∃ lowered, f.outcome members.helper = .ok lowered := by
  cases hf : f.outcome members.helper with
  | ok lowered => exact ⟨lowered, rfl⟩
  | error error =>
      obtain ⟨after, run⟩ := outcome_eq_error_iff.mp hf
      exact absurd run (h error after)

theorem recorded_of_ended {p : Pool} (h : Sound decls members p) (ended : p.Ended) {i : Nat}
    (drawn : i < p.shared.next) {f : SourceFunction} (hf : decls[i]? = some f) :
    (i, f.outcome members.helper) ∈ p.records := by
  have inside : i < decls.length := (List.getElem?_eq_some_iff.mp hf).1
  have held : i ∈ p.taken := h.taken.mem_iff.mpr (List.mem_range.mpr (by omega))
  rw [taken_of_ended ended] at held
  obtain ⟨⟨j, result⟩, hr, rfl⟩ := List.mem_map.mp held
  obtain ⟨g, hg, same, -⟩ := settled_of_mem_records h hr
  rw [hf] at hg
  injection hg with hg
  dsimp only at same
  rwa [same, ← hg] at hr

/-- A pool that has ended for no other reason has drawn all functions that do not fail and have none
in front of them that does. -/
theorem drawn_of_ended {p : Pool} (h : Sound decls members p) (ended : p.Ended)
    (uncancelled : p.shared.cancelled = false) {before rest : List SourceFunction}
    (split : decls = before ++ rest)
    (passed : ∀ g ∈ before, ∃ lowered, g.outcome members.helper = .ok lowered) :
    before.length ≤ p.shared.next := by
  rcases exhausted_or_failed h ended uncancelled with all | ⟨error, fails⟩
  · rw [split, List.length_append] at all
    omega
  · by_contra short
    -- a shorter part would have nothing in it that fails
    rw [split, List.take_append_of_le_length (by omega)] at fails
    obtain ⟨lowered, outcomes⟩ :=
      exists_outcomes fun g hg => passed g (List.mem_of_mem_take hg)
    rw [answerOf_of_outcomes outcomes] at fails
    cases fails

theorem exists_step {p : Pool} (h : Sound decls members p) :
    p.Ended ∨ ∃ q, Step decls p q ∧ q.shared.cancelled = p.shared.cancelled := by
  by_cases ended : p.Ended
  · exact .inl ended
  · right
    unfold Pool.Ended at ended
    push Not at ended
    obtain ⟨w, hw, running⟩ := ended
    have inside : ∀ i, w.phase = .lower i → i < decls.length := by
      intro i hi
      have known := (h.workers w hw).phase
      rwa [hi] at known
    obtain ⟨sh', w', hm⟩ : ∃ sh' w', Move decls p.shared w sh' w' := exists_move running inside
    obtain ⟨left, right, split⟩ := List.append_of_mem hw
    obtain ⟨sh, workers⟩ := p
    dsimp only at split
    subst split
    exact ⟨_, .move left right hm, (move_shared hm).2.2⟩

theorem exists_ended {n : Nat} {first p : Pool} (sound : Sound decls members first)
    (run : Run decls n first p) :
    ∃ m q, Run decls m first q ∧ q.Ended ∧ q.shared.cancelled = p.shared.cancelled := by
  induction hm : p.measure decls using Nat.strong_induction_on generalizing n p with
  | _ m ih =>
      rcases exists_step (sound_run sound run) with ended | ⟨q, hs, same⟩
      · exact ⟨n, p, run, ended, rfl⟩
      · obtain ⟨k, r, run, ended, kept⟩ := ih _ (hm ▸ measure_step hs) (run.tail hs) rfl
        exact ⟨k, r, run, ended, kept.trans same⟩

/-- What a pool of workers has to do to be taken for a single one, whatever its schedule. -/
structure Agrees (module : CompiledModule) (decls : List SourceFunction) (workers : Nat) :
    Prop where
  /-- Every schedule ends. -/
  ends : ∀ cancelled n p, Run decls n (start decls workers cancelled module.members) p →
    n ≤ 6 * decls.length + 3 * workerCount decls workers + 1
  /-- Until all workers have ended, some worker can move. -/
  proceeds : ∀ cancelled n p, Run decls n (start decls workers cancelled module.members) p →
    p.Ended ∨ ∃ q, Step decls p q ∧ q.shared.cancelled = p.shared.cancelled
  /-- So all workers can end, and without the run being cancelled on the way. -/
  finishes : ∀ cancelled, ∃ n p, Run decls n (start decls workers cancelled module.members) p
    ∧ p.Ended ∧ p.shared.cancelled = cancelled
  /-- The drawn indices are a prefix, each drawn once. -/
  taken : ∀ cancelled n p, Run decls n (start decls workers cancelled module.members) p →
    p.taken.Perm (List.range (min p.shared.next decls.length))
  /-- Uncancelled, the pool answers what a single worker does. -/
  answer : ∀ n p, Run decls n (start decls workers false module.members) p → p.Ended →
    p.shared.cancelled = false →
    p.result module.name decls = (module.lower ⟨workers, false⟩ decls).1
  /-- If no function fails, the answer is what becomes of each of them, in order, and the table is
  the one that a single worker leaves. -/
  success : ∀ n p, Run decls n (start decls workers false module.members) p → p.Ended →
    p.shared.cancelled = false →
    (∀ f ∈ decls, ∀ error after, f.lower.run module.members ≠ .error error after) →
    ∃ lowered, p.result module.name decls = .ok lowered
      ∧ List.Forall₂ (fun f g => ∃ after, f.lower.run module.members = .ok g after) decls lowered
      ∧ p.shared.members = (module.lower ⟨workers, false⟩ decls).2.members
  /-- If some function fails, the answer is the error of the first one, and all functions in front
  of it have been lowered. -/
  failure : ∀ n p, Run decls n (start decls workers false module.members) p → p.Ended →
    p.shared.cancelled = false →
    ∀ before f rest error after, decls = before ++ f :: rest →
    (∀ g ∈ before, ∀ error after, g.lower.run module.members ≠ .error error after) →
    f.lower.run module.members = .error error after →
    p.result module.name decls = .error error
      ∧ ∀ i g, before[i]? = some g → ∃ lowered after,
          g.lower.run module.members = .ok lowered after ∧ (i, .ok lowered) ∈ p.records
  /-- Cancelled before it begins, the pool draws nothing and leaves the table alone. That is an
  error if there was anything to draw. -/
  cancelledBefore : ∀ n p, Run decls n (start decls workers true module.members) p →
    p.shared.next = 0 ∧ p.shared.members = module.members
      ∧ (p.Ended → p.result module.name decls = (module.lower ⟨workers, true⟩ decls).1
        ∧ p.result module.name decls
          = if decls.isEmpty then .ok [] else .error (.cancelled module.name))
  /-- Cancelled at any time, the pool has lowered the functions that it has drawn. If none of them
  fails and some function has not been drawn, the answer is that the run was cancelled. -/
  cancelledLater : ∀ n p, Run decls n (start decls workers false module.members) p → p.Ended →
    p.result module.name decls
        = match (module.lower ⟨workers, false⟩ (decls.take p.shared.next)).1 with
          | .error error => .error error
          | .ok lowered =>
            if lowered.length < decls.length then .error (.cancelled module.name) else .ok lowered

/--
**A pool of any size agrees with a single worker under every schedule.**

A late function may fail first and raise the stop flag. The functions in front of it have been drawn
by then, and every worker records what it has drawn, so the first error in the order of the list is
always among the results.
-/
theorem pool_agrees (module : CompiledModule) (decls : List SourceFunction) (workers : Nat) :
    Agrees module decls workers := by
  have sound : ∀ {cancelled n p}, Run decls n (start decls workers cancelled module.members) p →
      Sound decls module.members p := fun run => sound_run (sound_start workers _) run
  have single : ∀ fs, (module.lower ⟨workers, false⟩ fs).1 = answerOf module.members.helper fs :=
    fun fs => congrArg Prod.fst (compiled_lower module rfl fs)
  exact {
    ends := fun cancelled n p run => by
      have bound := run_length run
      have first := measure_start decls workers cancelled module.members
      omega
    proceeds := fun cancelled n p run => exists_step (sound run)
    finishes := fun cancelled => exists_ended (sound_start workers cancelled) .refl
    taken := fun cancelled n p run => (sound run).taken
    answer := fun n p run ended uncancelled => by
      rw [result_eq_answerOf (sound run) ended uncancelled, single]
    success := fun n p run ended uncancelled clean => by
      obtain ⟨lowered, outcomes⟩ :=
        exists_outcomes fun f hf => outcome_of_not_error (clean f hf)
      have answer : p.result module.name decls = .ok lowered := by
        rw [result_eq_answerOf (sound run) ended uncancelled, answerOf_of_outcomes outcomes]
      have none := (answerOf_eq_ok (answerOf_of_outcomes outcomes)).2
      refine ⟨lowered, answer, outcomes.imp fun f g => outcome_eq_ok_iff.mp, ?_⟩
      rw [table_of_ok (sound run) ended answer, compiled_lower module rfl,
        guardedPart_of_forall none]
    failure := fun n p run ended uncancelled before f rest error after split clean fails => by
      have outcome := outcome_eq_error_iff.mpr ⟨after, fails⟩
      have passed := fun g hg => outcome_of_not_error (clean g hg)
      have answer : answerOf module.members.helper decls = .error error :=
        split ▸ answerOf_append_error passed outcome
      refine ⟨by rw [result_eq_answerOf (sound run) ended uncancelled, answer], ?_⟩
      intro i g hg
      obtain ⟨lowered, lowers⟩ := passed g (List.mem_of_getElem? hg)
      obtain ⟨after, runs⟩ := outcome_eq_ok_iff.mp lowers
      have inside : i < before.length := (List.getElem?_eq_some_iff.mp hg).1
      have here : decls[i]? = some g := by
        rw [split, List.getElem?_append_left inside, hg]
      refine ⟨lowered, after, runs, lowers ▸ recorded_of_ended (sound run) ended ?_ here⟩
      -- what was drawn reaches at least to the function that fails
      exact Nat.lt_of_lt_of_le inside (drawn_of_ended (sound run) ended uncancelled split passed)
    cancelledBefore := fun n p run => by
      have idle := idle_run (idle_start workers) run
      refine ⟨idle.next, idle.members, fun _ => ?_⟩
      rw [result_of_idle idle]
      refine ⟨?_, rfl⟩
      cases decls <;> rfl
    cancelledLater := fun n p run ended => by
      rw [result_of_ended (sound run) ended, single] }

end ArgumentGuards.WorkerPool
