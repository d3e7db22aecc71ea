import ArgumentGuards.Module.Members
import Mathlib.Data.String.Basic
import Mathlib.Logic.Function.Basic

/-!
# The member table is write-once, however its clients interleave

Any number of clients share one table. Each of them makes one call after the other: it reads a name,
tries to add a member, or asks for a member to be built. Single accesses are atomic, but asking is
two of them: a look without a lock, and only if that finds nothing, a locked access that looks again
before it builds. Between the two, other clients may do anything, so the first look proves nothing
by the time the lock is taken.

`Shared.history` lists the answered calls in the order in which they took effect, each with the
members that were built for it. Building is an action that keeps a record of what it builds, so what
is listed is what `Members.getOrBuildM` had built and not what it should have. The invariant is
`Consistent`:

* every answer in the history that shows a member shows the one that the table has now;
* once an answer shows that a name is taken, no later answer shows it free.

A member is only ever created by a call that found its name free under the lock, so the second
point leaves room for one creation of each name, and the first one makes every answer agree with it.
-/

namespace ArgumentGuards.MemberTable

/-! ## Calls and clients -/

/-- An answered call. -/
inductive Event where
  /-- The member under a name was read. -/
  | read (name : String) (found : Option Member)
  /-- The symbol under a name was read. -/
  | readSymbol (name : String) (found : Option Method)
  /-- A name was looked up. -/
  | looked (name : String) (present : Bool)
  /-- A member was offered, and added or refused. -/
  | offered (member : Member) (added : Bool)
  /-- A name was asked for: the symbol of the answer, whether the call reports that it created the
  member, and all that was built for it. -/
  | asked (name : String) (symbol : Method) (created : Bool) (built : List Member)

namespace Event

/-- The name that a call is about. -/
def name : Event → String
  | .read name _ => name
  | .readSymbol name _ => name
  | .looked name _ => name
  | .offered member _ => member.name
  | .asked name _ _ _ => name

/-- Whether the answer reports that the call put a member into the table. -/
def creates : Event → Bool
  | .offered _ added => added
  | .asked _ _ created _ => created
  | _ => false

/-- The members that the call has built. -/
def built : Event → List Member
  | .asked _ _ _ built => built
  | _ => []

/-- Whether the call is one that asks for a member. -/
def asks : Event → Bool
  | .asked .. => true
  | _ => false

/-- Whether the answer shows that the name was free when the call took effect. -/
def foundFree : Event → Bool
  | .read _ found => found.isNone
  | .readSymbol _ found => found.isNone
  | .looked _ present => !present
  | .offered _ added => added
  | .asked _ _ created _ => created

/-- Whether the answer is about this very member: all that it tells of a member is true of it. -/
def Shows (member : Member) : Event → Prop
  | .read _ found => found = some member
  | .readSymbol _ found => found = some member.symbol
  | .looked _ present => present = true
  | .offered offer added => added = true → offer = member
  | .asked _ symbol _ built => symbol = member.symbol ∧ ∀ new ∈ built, new = member

/-- Whether the name is taken once the call has been answered. -/
def leavesTaken (e : Event) : Bool := !e.foundFree || e.creates

end Event

/-- What a client does: it may make a call, or it has looked for a name in vain and is about to lock
its entry. -/
inductive Client where
  | idle
  | locking (name : String) (build : Unit → { member : Member // member.name = name })

/-- A table with its clients, of which there are as many as one likes. The keys under which the
members were put are kept apart from the names of their symbols. -/
structure Shared where
  members : Members
  keys : List String
  clients : Nat → Client
  history : List Event

namespace Shared

/-- A new table: no members, and no client has called yet. -/
def init : Shared := ⟨.empty, [], fun _ => .idle, []⟩

/-- The keys with one more if a member was put under it. -/
def keyed (keys : List String) (key : String) (added : Bool) : List String :=
  if added then keys ++ [key] else keys

/-- Building a member, with a record of what has been built. -/
def recorded {name : String} (build : Unit → { member : Member // member.name = name })
    (asked : Unit) : StateM (List Member) { member : Member // member.name = name } := do
  let member := build asked
  modify (· ++ [member.val])
  return member

/-- One atomic access of one client. -/
inductive Step : Shared → Shared → Prop where
  | read {s : Shared} {c : Nat} (name : String) : s.clients c = .idle →
      Step s { s with history := s.history ++ [.read name (s.members.get? name)] }
  | readSymbol {s : Shared} {c : Nat} (name : String) : s.clients c = .idle →
      Step s { s with
        history := s.history ++ [.readSymbol name ((s.members.get? name).map Member.symbol)] }
  | look {s : Shared} {c : Nat} (name : String) : s.clients c = .idle →
      Step s { s with history := s.history ++ [.looked name (s.members.contains name)] }
  | offer {s : Shared} {c : Nat} (member : Member) : s.clients c = .idle →
      Step s { s with
        members := (s.members.insertIfNew member).2
        keys := keyed s.keys member.name (s.members.insertIfNew member).1
        history := s.history ++ [.offered member (s.members.insertIfNew member).1] }
  /-- The look without a lock finds a member, which is the answer. -/
  | askFound {s : Shared} {c : Nat} {name : String} {member : Member} : s.clients c = .idle →
      s.members.get? name = some member →
      Step s { s with history := s.history ++ [.asked name member.symbol false []] }
  /-- The look without a lock finds nothing. -/
  | askMissed {s : Shared} {c : Nat} {name : String}
      (build : Unit → { member : Member // member.name = name }) : s.clients c = .idle →
      s.members.get? name = none →
      Step s { s with clients := Function.update s.clients c (.locking name build) }
  /-- The locked access looks again. What it builds is what its builds leave in the record. -/
  | enter {s : Shared} {c : Nat} {name : String}
      {build : Unit → { member : Member // member.name = name }} {symbol : Method}
      {created : Bool} {members : Members} {built : List Member} :
      s.clients c = .locking name build →
      (s.members.getOrBuildM name (recorded build)).run []
        = (((symbol, created), members), built) →
      Step s {
        members
        keys := keyed s.keys name created
        clients := Function.update s.clients c .idle
        history := s.history ++ [.asked name symbol created built] }

/-- Any number of accesses, of any clients in any order. -/
inductive Steps : Shared → Shared → Prop where
  | refl {s : Shared} : Steps s s
  | tail {s t u : Shared} : Steps s t → Step t u → Steps s u

/-- A state that some interleaving leads to. -/
def Reachable (s : Shared) : Prop := Steps init s

/-! ## What one access does -/

/-- A call whose answer fits a table that it leaves alone. -/
def ReadsOff (members : Members) (e : Event) : Prop :=
  e.creates = false ∧ e.built = [] ∧
    match members.get? e.name with
    | none => e.foundFree = true
    | some member => e.foundFree = false ∧ e.Shows member

/-- A call that puts a member under its free name. -/
def Puts (members : Members) (member : Member) (e : Event) : Prop :=
  members.get? e.name = none ∧ e.name = member.name ∧ e.creates = true ∧ e.foundFree = true
    ∧ e.built.length ≤ 1 ∧ e.Shows member

/--
**Everything that an access can do.** Either the table stays and the call, if one is answered, reads
off what is there; or the call finds a name free and puts a member under it.
-/
theorem step_cases {s t : Shared} (h : Step s t) :
    (t.members = s.members ∧ t.keys = s.keys
        ∧ (t.history = s.history ∨ ∃ e, t.history = s.history ++ [e] ∧ ReadsOff s.members e))
      ∨ ∃ member e, t.members = s.members.insert member ∧ t.keys = s.keys ++ [member.name]
          ∧ t.history = s.history ++ [e] ∧ Puts s.members member e := by
  cases h with
  | read name _ =>
      refine .inl ⟨rfl, rfl, .inr ⟨_, rfl, rfl, rfl, ?_⟩⟩
      show match s.members.get? name with | none => _ | some member => _
      cases hn : s.members.get? name with
      | none => rfl
      | some member => exact ⟨rfl, rfl⟩
  | readSymbol name _ =>
      refine .inl ⟨rfl, rfl, .inr ⟨_, rfl, rfl, rfl, ?_⟩⟩
      show match s.members.get? name with | none => _ | some member => _
      cases hn : s.members.get? name with
      | none => rfl
      | some member => exact ⟨rfl, rfl⟩
  | look name _ =>
      refine .inl ⟨rfl, rfl, .inr ⟨_, rfl, rfl, rfl, ?_⟩⟩
      show match s.members.get? name with | none => _ | some member => _
      unfold Members.contains
      cases hn : s.members.get? name with
      | none => rfl
      | some member => exact ⟨rfl, rfl⟩
  | offer member _ =>
      unfold Members.insertIfNew Members.contains keyed
      cases hn : s.members.get? member.name with
      | none =>
          exact .inr ⟨member, _, rfl, rfl, rfl, hn, rfl, rfl, rfl, Nat.zero_le 1, fun _ => rfl⟩
      | some old =>
          refine .inl ⟨rfl, rfl, .inr ⟨_, rfl, rfl, rfl, ?_⟩⟩
          show match s.members.get? member.name with | none => _ | some member => _
          rw [hn]
          exact ⟨rfl, fun added => by cases added⟩
  | @askFound c name member _ hn =>
      refine .inl ⟨rfl, rfl, .inr ⟨_, rfl, rfl, rfl, ?_⟩⟩
      show match s.members.get? name with | none => _ | some member => _
      rw [hn]
      exact ⟨rfl, rfl, fun _ new => by cases new⟩
  | askMissed build _ hn => exact .inl ⟨rfl, rfl, .inl rfl⟩
  | @enter c name build _ _ _ _ _ run =>
      cases hn : s.members.get? name with
      | none =>
          rw [Members.getOrBuildM_of_none hn] at run
          cases run
          have named : (build ()).val.name = name := (build ()).property
          refine .inr ⟨(build ()).val, _, rfl, ?_, rfl, hn, named.symm, rfl, rfl, Nat.le_refl 1,
            rfl, ?_⟩
          · rw [named]; rfl
          · intro new built
            exact List.mem_singleton.mp built
      | some old =>
          rw [Members.getOrBuildM_of_some hn] at run
          cases run
          refine .inl ⟨rfl, rfl, .inr ⟨_, rfl, rfl, rfl, ?_⟩⟩
          show match s.members.get? name with | none => _ | some member => _
          rw [hn]
          exact ⟨rfl, rfl, fun _ new => by cases new⟩

/-! ## The invariant -/

/-- What the table, its keys and the answered calls have to do with one another. -/
structure Consistent (s : Shared) : Prop where
  /-- Every member is under the name of its symbol. -/
  keys : s.keys = s.members.entries.map Member.name
  /-- No name has two members. -/
  nodup : s.keys.Nodup
  /-- Every member was put there by an answered call. -/
  created : ∀ member ∈ s.members.entries, ∃ e ∈ s.history, e.creates = true ∧ e.name = member.name
  /-- A call that leaves a name taken shows the member that is there. -/
  shows : ∀ e ∈ s.history, e.leavesTaken = true →
    ∃ member, s.members.get? e.name = some member ∧ e.Shows member
  /-- Whoever builds puts what was built into the table, and builds no more than that. -/
  builds : ∀ e ∈ s.history, e.built.length ≤ if e.creates then 1 else 0
  /-- No name is found free after it was taken. -/
  order : s.history.Pairwise fun earlier later =>
    earlier.name = later.name → earlier.leavesTaken = true → later.foundFree = false

theorem consistent_init : Consistent init where
  keys := rfl
  nodup := List.nodup_nil
  created := by intro member h; cases h
  shows := by intro e h; cases h
  builds := by intro e h; cases h
  order := List.Pairwise.nil

theorem foundFree_of_creates {e : Event} (h : e.creates = true) : e.foundFree = true := by
  cases e with
  | offered member added => exact h
  | asked name symbol created built => exact h
  | read name found => cases h
  | readSymbol name found => cases h
  | looked name present => cases h

theorem get?_of_mem {members : Members} (h : (members.entries.map Member.name).Nodup)
    {member : Member} (hm : member ∈ members.entries) :
    members.get? member.name = some member := by
  obtain ⟨entries⟩ := members
  unfold Members.get?
  induction entries with
  | nil => cases hm
  | cons first rest ih =>
      obtain ⟨fresh, hrest⟩ := List.nodup_cons.mp h
      rcases List.mem_cons.mp hm with rfl | hm
      · exact List.find?_cons_of_pos (decide_eq_true rfl)
      · have differs : first.name ≠ member.name := fun same =>
          fresh (same ▸ List.mem_map_of_mem hm)
        exact (List.find?_cons_of_neg (by simpa using differs)).trans (ih hrest hm)

theorem mem_of_get? {members : Members} {name : String} {member : Member}
    (h : members.get? name = some member) : member ∈ members.entries :=
  List.mem_of_find?_eq_some h

theorem name_not_mem_of_get?_none {members : Members} {name : String}
    (h : members.get? name = none) : name ∉ members.entries.map Member.name := by
  intro hn
  obtain ⟨member, hm, same⟩ := List.mem_map.mp hn
  have := List.find?_eq_none.mp h member hm
  exact this (decide_eq_true same)

/-- A call that leaves the table alone keeps the invariant. -/
theorem Consistent.read {s : Shared} (h : Consistent s) {e : Event}
    (reads : ReadsOff s.members e) {clients : Nat → Client} :
    Consistent ⟨s.members, s.keys, clients, s.history ++ [e]⟩ where
  keys := h.keys
  nodup := h.nodup
  created := by
    intro member hm
    obtain ⟨x, hx, made⟩ := h.created member hm
    exact ⟨x, List.mem_append_left _ hx, made⟩
  shows := by
    intro x hx taken
    rcases List.mem_append.mp hx with hx | hx
    · exact h.shows x hx taken
    · obtain rfl := List.mem_singleton.mp hx
      obtain ⟨quiet, -, answer⟩ := reads
      cases hn : s.members.get? x.name with
      | some member => rw [hn] at answer; exact ⟨member, rfl, answer.2⟩
      | none =>
          rw [hn] at answer
          unfold Event.leavesTaken at taken
          rw [answer, quiet] at taken
          cases taken
  builds := by
    intro x hx
    rcases List.mem_append.mp hx with hx | hx
    · exact h.builds x hx
    · rw [List.mem_singleton.mp hx, reads.2.1]
      exact Nat.zero_le _
  order := by
    refine List.pairwise_append.mpr ⟨h.order, List.pairwise_singleton _ _, ?_⟩
    intro x hx later hlater same taken
    obtain rfl := List.mem_singleton.mp hlater
    -- what the earlier call shows is still there
    obtain ⟨member, hn, -⟩ := h.shows x hx taken
    have answer := reads.2.2
    rw [← same, hn] at answer
    exact answer.1

/-- A call that puts a member under a free name keeps the invariant. -/
theorem Consistent.put {s : Shared} (h : Consistent s) {member : Member} {e : Event}
    (puts : Puts s.members member e) {clients : Nat → Client} :
    Consistent ⟨s.members.insert member, s.keys ++ [member.name], clients, s.history ++ [e]⟩ := by
  obtain ⟨free, named, creates, foundFree, builtOne, shown⟩ := puts
  have entries : (s.members.insert member).entries = s.members.entries ++ [member] := rfl
  have here : (s.members.insert member).get? e.name = some member := by
    rw [Members.get?_insert_of_none free, if_pos named.symm]
  refine ⟨?_, ?_, ?_, ?_, ?_, ?_⟩
  · show s.keys ++ [member.name] = (s.members.insert member).entries.map Member.name
    rw [entries, List.map_append, h.keys]
    rfl
  · show (s.keys ++ [member.name]).Nodup
    refine List.nodup_append.mpr ⟨h.nodup, List.pairwise_singleton _ _, ?_⟩
    intro key hkey other hother same
    have fresh := name_not_mem_of_get?_none free
    rw [List.mem_singleton.mp hother, ← named] at same
    exact fresh (h.keys ▸ same ▸ hkey)
  · intro m hm
    rw [entries] at hm
    rcases List.mem_append.mp hm with hm | hm
    · obtain ⟨x, hx, made⟩ := h.created m hm
      exact ⟨x, List.mem_append_left _ hx, made⟩
    · obtain rfl := List.mem_singleton.mp hm
      exact ⟨e, List.mem_append_right _ (List.mem_singleton_self e), creates, named⟩
  · intro x hx taken
    rcases List.mem_append.mp hx with hx | hx
    · obtain ⟨m, hn, shows⟩ := h.shows x hx taken
      exact ⟨m, Members.get?_insert_of_some hn, shows⟩
    · obtain rfl := List.mem_singleton.mp hx
      exact ⟨member, here, shown⟩
  · intro x hx
    rcases List.mem_append.mp hx with hx | hx
    · exact h.builds x hx
    · rw [List.mem_singleton.mp hx, creates, if_pos rfl]
      exact builtOne
  · refine List.pairwise_append.mpr ⟨h.order, List.pairwise_singleton _ _, ?_⟩
    intro x hx later hlater same taken
    obtain rfl := List.mem_singleton.mp hlater
    -- the name was free, so no earlier call can have left it taken
    obtain ⟨m, hn, -⟩ := h.shows x hx taken
    rw [same, free] at hn
    cases hn

/-- **Every access keeps the invariant.** -/
theorem consistent_step {s t : Shared} (h : Consistent s) (hs : Step s t) : Consistent t := by
  obtain ⟨members, keys, clients, history⟩ := t
  rcases step_cases hs with ⟨rfl, rfl, rfl | ⟨e, rfl, reads⟩⟩ | ⟨member, e, rfl, rfl, rfl, puts⟩
  · exact ⟨h.keys, h.nodup, h.created, h.shows, h.builds, h.order⟩
  · exact h.read reads
  · exact h.put puts

theorem consistent_reachable {s : Shared} (h : Reachable s) : Consistent s := by
  induction h with
  | refl => exact consistent_init
  | tail _ hs ih => exact consistent_step ih hs

/-! ## What follows for answers -/

theorem stays_step {s t : Shared} (h : Step s t) {name : String} {member : Member}
    (hn : s.members.get? name = some member) : t.members.get? name = some member := by
  rcases step_cases h with ⟨same, -, -⟩ | ⟨new, e, grown, -, -, -⟩
  · rw [same]; exact hn
  · rw [grown]; exact Members.get?_insert_of_some hn

theorem stays_steps {s t : Shared} (h : Steps s t) {name : String} {member : Member}
    (hn : s.members.get? name = some member) : t.members.get? name = some member := by
  induction h with
  | refl => exact hn
  | tail _ hs ih => exact stays_step hs ih

/-- Of two calls that created under one name the later one would have found it free. -/
theorem Consistent.creations {s : Shared} (h : Consistent s) (name : String) :
    (s.history.filter fun e => e.name = name && e.creates).length ≤ 1 := by
  have apart : (s.history.filter fun e => e.name = name && e.creates).Pairwise
      fun _ _ => False := by
    refine (h.order.filter _).imp_of_mem ?_
    intro earlier later hearlier hlater later_taken
    have ⟨_, first⟩ := List.mem_filter.mp hearlier
    have ⟨_, second⟩ := List.mem_filter.mp hlater
    rw [Bool.and_eq_true, decide_eq_true_eq] at first second
    have taken : earlier.leavesTaken = true := by rw [Event.leavesTaken, first.2, Bool.or_true]
    have notFree := later_taken (first.1.trans second.1.symm) taken
    rw [foundFree_of_creates second.2] at notFree
    cases notFree
  cases hf : s.history.filter fun e => e.name = name && e.creates with
  | nil => exact Nat.zero_le 1
  | cons first rest =>
      cases rest with
      | nil => exact Nat.le_refl 1
      | cons second others =>
          rw [hf] at apart
          exact ((List.pairwise_cons.mp apart).1 second List.mem_cons_self).elim

/-- No more is built for a name than is created under it. -/
theorem Consistent.builds_le {s : Shared} (h : Consistent s) (name : String) :
    ((s.history.filter fun e => e.name = name).flatMap Event.built).length
      ≤ (s.history.filter fun e => e.name = name && e.creates).length := by
  have each := h.builds
  generalize s.history = history at each ⊢
  induction history with
  | nil => exact Nat.zero_le _
  | cons e rest ih =>
      obtain ⟨here, others⟩ := List.forall_mem_cons.mp each
      have below := ih others
      by_cases named : e.name = name
      · cases creates : e.creates with
        | true =>
            rw [creates, if_pos rfl] at here
            simp only [List.filter_cons, named, creates, decide_true, Bool.and_true, if_true,
              List.flatMap_cons, List.length_append, List.length_cons]
            omega
        | false =>
            rw [creates, if_neg Bool.false_ne_true] at here
            simp only [List.filter_cons, named, creates, decide_true, Bool.and_false, if_true,
              Bool.false_eq_true, if_false, List.flatMap_cons, List.length_append]
            omega
      · simpa only [List.filter_cons, named, decide_false, Bool.false_and, Bool.false_eq_true,
          if_false] using below

/-- All calls before a creation find the name free, all calls after it show what was created. -/
theorem Consistent.around {s : Shared} (h : Consistent s) {before after : List Event} {e : Event}
    (split : s.history = before ++ e :: after) (creates : e.creates = true) :
    ∃ member, s.members.get? e.name = some member ∧ e.Shows member
      ∧ (∀ x ∈ before, x.name = e.name → x.foundFree = true ∧ x.creates = false)
      ∧ ∀ x ∈ after, x.name = e.name → x.foundFree = false ∧ x.Shows member := by
  have taken : e.leavesTaken = true := by rw [Event.leavesTaken, creates, Bool.or_true]
  have here : e ∈ s.history := split ▸ List.mem_append_right _ List.mem_cons_self
  have order := h.order
  rw [split] at order
  obtain ⟨-, tail, across⟩ := List.pairwise_append.mp order
  obtain ⟨following, -⟩ := List.pairwise_cons.mp tail
  obtain ⟨member, hn, shows⟩ := h.shows e here taken
  refine ⟨member, hn, shows, ?_, ?_⟩
  · intro x hx same
    have free := foundFree_of_creates creates
    have unmade : x.leavesTaken = false := by
      cases hx' : x.leavesTaken with
      | false => rfl
      | true =>
          rw [across x hx e List.mem_cons_self same hx'] at free
          cases free
    unfold Event.leavesTaken at unmade
    rwa [Bool.or_eq_false_iff, Bool.not_eq_false'] at unmade
  · intro x hx same
    have notFree := following x hx same.symm taken
    have there : x ∈ s.history := split ▸ List.mem_append_right _ (List.mem_cons_of_mem _ hx)
    obtain ⟨m, hm, hshows⟩ := h.shows x there (by rw [Event.leavesTaken, notFree]; rfl)
    rw [same, hn] at hm
    obtain rfl := Option.some.inj hm
    exact ⟨notFree, hshows⟩

/-- Behind every answer that leaves a name taken there is a creation, and none that comes later. -/
theorem Consistent.creation_before {s : Shared} (h : Consistent s) {before after : List Event}
    {e : Event} (split : s.history = before ++ e :: after) (taken : e.leavesTaken = true) :
    ∃ x ∈ before ++ [e], x.name = e.name ∧ x.creates = true := by
  have here : e ∈ s.history := split ▸ List.mem_append_right _ List.mem_cons_self
  obtain ⟨member, hn, -⟩ := h.shows e here taken
  obtain ⟨x, hx, creates, named⟩ := h.created member (mem_of_get? hn)
  rw [Members.name_of_get? hn] at named
  refine ⟨x, ?_, named, creates⟩
  have order := h.order
  rw [split] at order hx
  obtain ⟨-, tail, -⟩ := List.pairwise_append.mp order
  obtain ⟨following, -⟩ := List.pairwise_cons.mp tail
  rcases List.mem_append.mp hx with hx | hx
  · exact List.mem_append_left _ hx
  · rcases List.mem_cons.mp hx with rfl | hx
    · exact List.mem_append_right _ (List.mem_singleton_self x)
    · have free := foundFree_of_creates creates
      rw [following x hx named.symm taken] at free
      cases free

/-! ## The list of all members -/

theorem pairwise_toList {members : Members} (h : (members.entries.map Member.name).Nodup) :
    members.toList.Pairwise fun a b => a.name < b.name := by
  have ascending : members.toList.Pairwise fun a b => decide (a.name ≤ b.name) = true := by
    refine List.pairwise_mergeSort ?_ ?_ members.entries
    · intro a b c hab hbc
      rw [decide_eq_true_eq] at *
      exact le_trans hab hbc
    · intro a b
      rw [Bool.or_eq_true, decide_eq_true_eq, decide_eq_true_eq]
      exact le_total a.name b.name
  have distinct : (members.toList.map Member.name).Nodup :=
    ((List.mergeSort_perm members.entries _).map Member.name).nodup_iff.mpr h
  have apart : members.toList.Pairwise fun a b => a.name ≠ b.name := List.pairwise_map.mp distinct
  refine (ascending.and apart).imp ?_
  rintro a b ⟨le, ne⟩
  exact lt_of_le_of_ne (decide_eq_true_eq.mp le) ne

theorem mem_toList_iff {members : Members} (h : (members.entries.map Member.name).Nodup)
    (member : Member) : member ∈ members.toList ↔ members.get? member.name = some member := by
  unfold Members.toList
  rw [List.mem_mergeSort]
  exact ⟨get?_of_mem h, mem_of_get?⟩

/-! ## The table is write-once -/

/-- What it is for a table to be written once under each name, as its clients see it. -/
structure WriteOnce (s : Shared) : Prop where
  /-- A name keeps its member, symbol and body, for ever. -/
  stays : ∀ t, Steps s t → ∀ name member, s.members.get? name = some member →
    t.members.get? name = some member
  /-- At most one of all calls reports that it put a member under a name. -/
  oneCreation : ∀ name, (s.history.filter fun e => e.name = name && e.creates).length ≤ 1
  /-- At most one member is built for a name. -/
  oneBuild : ∀ name, ((s.history.filter fun e => e.name = name).flatMap Event.built).length ≤ 1
  /-- That call found its name free, as all calls before it did; what it put there is there now, and
  every later call about the name shows it. -/
  firstWins : ∀ before e after, s.history = before ++ e :: after → e.creates = true →
    ∃ member, s.members.get? e.name = some member ∧ e.Shows member
      ∧ (∀ x ∈ before, x.name = e.name → x.foundFree = true ∧ x.creates = false)
      ∧ ∀ x ∈ after, x.name = e.name → x.foundFree = false ∧ x.Shows member
  /-- A call that asks is answered with a member that it or an earlier call put there. -/
  answered : ∀ before e after, s.history = before ++ e :: after → e.asks = true →
    ∃ x ∈ before ++ [e], x.name = e.name ∧ x.creates = true
  /-- An offer that is refused changes nothing. -/
  refusal : ∀ t member, Step s t → t.history = s.history ++ [.offered member false] →
    t.members = s.members ∧ t.keys = s.keys ∧ t.clients = s.clients
  /-- Every member is under the name of its symbol, and no name has two. -/
  keys : s.keys = s.members.entries.map Member.name ∧ s.keys.Nodup
  /-- The list of members is strictly increasing by name. -/
  ascending : s.members.toList.Pairwise fun a b => a.name < b.name
  /-- It has the members that are found under their names, and no others. -/
  listed : ∀ member, member ∈ s.members.toList ↔ s.members.get? member.name = some member
  /-- It is as long as the table has members. -/
  counted : s.members.toList.length = s.members.size

theorem refused_step {s t : Shared} {member : Member} (h : Step s t)
    (refused : t.history = s.history ++ [.offered member false]) :
    t.members = s.members ∧ t.keys = s.keys ∧ t.clients = s.clients := by
  have last : ∀ {x : Event}, s.history ++ [x] = s.history ++ [.offered member false] →
      x = .offered member false := fun same => by
    simpa using List.append_cancel_left same
  cases h with
  | read name _ => cases last refused
  | readSymbol name _ => cases last refused
  | look name _ => cases last refused
  | offer offered _ =>
      have answer : (s.members.insertIfNew offered).1 = false := by
        have same := last refused
        injection same
      unfold Members.insertIfNew at answer ⊢
      cases hc : s.members.contains offered.name with
      | true => exact ⟨rfl, rfl, rfl⟩
      | false => rw [hc] at answer; cases answer
  | askFound _ _ => cases last refused
  | askMissed build _ _ => exact absurd refused (by simp)
  | enter _ _ => cases last refused

/--
**The member table is write-once under every interleaving of its clients.**

However many clients call it, whatever they call, and wherever the other accesses fall between the
two of a call that asks: what was put under a name first stays, and every answer agrees with it.
-/
theorem writeOnce_reachable {s : Shared} (h : Reachable s) : WriteOnce s := by
  have inv := consistent_reachable h
  have distinct : (s.members.entries.map Member.name).Nodup := inv.keys ▸ inv.nodup
  exact {
    stays := fun t steps name member hn => stays_steps steps hn
    oneCreation := inv.creations
    oneBuild := fun name => Nat.le_trans (inv.builds_le name) (inv.creations name)
    firstWins := fun before e after split creates => inv.around split creates
    answered := by
      intro before e after split asks
      refine inv.creation_before split ?_
      cases e with
      | asked name symbol created built => cases created <;> rfl
      | read name found => cases asks
      | readSymbol name found => cases asks
      | looked name present => cases asks
      | offered member added => cases asks
    refusal := fun t member step refused => refused_step step refused
    keys := ⟨inv.keys, inv.nodup⟩
    ascending := pairwise_toList distinct
    listed := mem_toList_iff distinct
    counted := List.length_mergeSort _ }

/-- A member for a race of two clients. -/
def contested : Member := ⟨⟨"Contested", Members.container, [], .void, .synthesized⟩, .empty⟩

/-- Two clients look for one name in vain. The first one to take the lock builds the member, and the
second one gets what is there by then. -/
theorem writeOnce_race :
    ∃ s : Shared, Reachable s ∧ WriteOnce s
      ∧ s.history = [.asked contested.name contested.symbol true [contested],
          .asked contested.name contested.symbol false []] := by
  have looked : Reachable _ :=
    .tail .refl (.askMissed (c := 0) (fun _ => ⟨contested, rfl⟩) rfl rfl)
  have both : Reachable _ := looked.tail (.askMissed (c := 1) (fun _ => ⟨contested, rfl⟩) rfl rfl)
  have built : Reachable _ := both.tail (.enter (c := 1) rfl rfl)
  have found : Reachable _ := built.tail (.enter (c := 0) rfl rfl)
  exact ⟨_, found, writeOnce_reachable found, rfl⟩

end Shared

end ArgumentGuards.MemberTable
