import ArgumentGuards.Proofs.FirstAbsent
import ArgumentGuards.Proofs.Holdings
import Mathlib

/-!
# Reading leaves files alone

Finding the files that match a pattern, reading them and lowering what they hold leaves all files as
they were (`Quiet`). So whether a module can be loaded and lowered (`Lowers`) does not change on the
way, and has nothing to do with what else an environment keeps, nor with the identifiers that it
gives to modules.

The files are a tree, from the root on, that is seen through the state of an environment. Three
things are assumed of the environment (`Serves`): to read, to look and to ask for an identifier
changes no file; what a file is read as depends on the files only; and a write either changes the
tree as `FileTree.write` does, or fails and leaves it alone. It is not assumed that a file can be
read, or written, just because it is there.
-/

namespace ArgumentGuards

variable {σ α β : Type} {files : σ → FileTree}

/-! ## Leaving files alone -/

/-- Whether an action leaves all files as they were. -/
def Quiet (files : σ → FileTree) (act : StateM σ α) : Prop := ∀ s, files (act.run s).2 = files s

theorem run_bind_fst (act : StateM σ α) (next : α → StateM σ β) (s : σ) :
    ((act >>= next).run s).1 = ((next (act.run s).1).run (act.run s).2).1 := rfl

theorem Quiet.pure (a : α) : Quiet files (Pure.pure a : StateM σ α) := fun _ => rfl

theorem Quiet.bind {act : StateM σ α} {next : α → StateM σ β} (first : Quiet files act)
    (second : ∀ a, Quiet files (next a)) : Quiet files (act >>= next) := by
  intro s
  calc files ((act >>= next).run s).2
      = files ((next (act.run s).1).run (act.run s).2).2 := rfl
    _ = files (act.run s).2 := second _ _
    _ = files s := first s

theorem Quiet.ite {c : Prop} [Decidable c] {yes no : StateM σ α} (h : Quiet files yes)
    (h' : Quiet files no) : Quiet files (if c then yes else no) := by
  split
  · exact h
  · exact h'

/-- An environment in which the files are those of a tree, from a working directory. -/
structure Command.Environment.Serves (env : Command.Environment (StateM σ)) (files : σ → FileTree)
    (cwd : List String) : Prop where
  /-- What is read depends on the files. -/
  read : ∀ path s t, files s = files t →
    ((env.files.read path).run s).1 = ((env.files.read path).run t).1
  quiet_read : ∀ path, Quiet files (env.files.read path)
  quiet_present : ∀ path, Quiet files (env.files.present path)
  quiet_isDirectory : ∀ path, Quiet files (env.files.isDirectory path)
  quiet_list : ∀ path, Quiet files (env.files.list path)
  quiet_freshId : Quiet files env.freshId
  /-- A write that fails leaves its target as it was. -/
  write : ∀ path text s,
    (((env.files.write path text).run s).1 = none
        ∧ (files s).write path text cwd = .ok (files ((env.files.write path text).run s).2))
      ∨ (((env.files.write path text).run s).1 ≠ none
        ∧ files ((env.files.write path text).run s).2 = files s)

namespace Command

theorem write_run (path text : String) (cwd : List String) (tree : FileTree) :
    ((FileTree.system cwd).write path text).run tree
      = match tree.write path text cwd with
        | .ok after => (none, after)
        | .error failure => (some failure, tree) := by
  change (match tree.write path text cwd with
    | .ok after => (do set after; return none : StateM FileTree (Option WriteFailure))
    | .error failure => return some failure).run tree = _
  cases tree.write path text cwd <;> rfl

/-- The files of a tree are served by the tree. -/
theorem Environment.serves_ofTree (id : String) (cwd : List String) :
    (Environment.ofTree id cwd).Serves (fun tree => tree) cwd where
  read _ s t same := by rw [show s = t from same]
  quiet_read _ _ := rfl
  quiet_present _ _ := rfl
  quiet_isDirectory _ _ := rfl
  quiet_list _ _ := rfl
  quiet_freshId _ := rfl
  write path text tree := by
    have run : ((Environment.ofTree id cwd).files.write path text).run tree = _ :=
      write_run path text cwd tree
    rw [run]
    cases tree.write path text cwd with
    | ok after => exact .inl ⟨rfl, rfl⟩
    | error failure => exact .inr ⟨Option.some_ne_none _, rfl⟩

/-! ## Finding files -/

section

variable {env : Environment (StateM σ)} {cwd : List String} (serves : env.Serves files cwd)

include serves

theorem quiet_find (path : String) : Quiet files (PathPattern.find env.files path) :=
  (serves.quiet_isDirectory path).bind fun _ => .pure _

omit serves in
theorem quiet_gather {f : α → StateM σ (List String)} (each : ∀ a, Quiet files (f a))
    (things : List α) : Quiet files (PathPattern.gather f things) := by
  induction things with
  | nil => exact .pure _
  | cons a rest ih => exact (each a).bind fun _ => ih.bind fun _ => .pure _

theorem quiet_search (directoriesOnly : Bool) (bound : Nat) :
    (∀ parts here, Quiet files (PathPattern.search env.files directoriesOnly bound parts here))
      ∧ ∀ parts here entry,
        Quiet files (PathPattern.consider env.files directoriesOnly bound parts here entry) := by
  induction bound with
  | zero => exact ⟨fun _ _ => .pure _, fun _ _ _ => .pure _⟩
  | succ bound ih =>
      obtain ⟨searches, considers⟩ := ih
      constructor
      · intro parts here
        cases parts with
        | nil => exact .pure _
        | cons part rest =>
            have reach : ∀ path, Quiet files (do
                let next ← PathPattern.find env.files path
                if rest.isEmpty then return PathPattern.result directoriesOnly next
                else PathPattern.search env.files directoriesOnly bound rest next) := by
              intro path
              exact (quiet_find serves path).bind fun next => .ite (.pure _) (searches rest next)
            rw [PathPattern.search]
            cases part.literal? with
            | some name =>
                have goOn : ∀ reached : Bool, Quiet files (if reached then _ else pure []) :=
                  fun reached => .ite (reach (PathPattern.below here.path name)) (.pure _)
                exact .ite ((Quiet.pure _).bind goOn) ((serves.quiet_present _).bind goOn)
            | none =>
                refine .ite (.pure _) ((serves.quiet_list here.path).bind fun entries => ?_)
                cases entries with
                | none => exact .pure _
                | some entries =>
                    exact (quiet_gather (fun dot => reach _) _).bind fun special =>
                      (quiet_gather (considers (part :: rest) here) entries).bind fun _ => .pure _
      · intro parts here entry
        rw [PathPattern.consider]
        -- what is deeper has been searched or is not searched at all
        refine .ite ((searches _ _).bind ?_) ((Quiet.pure []).bind ?_)
        all_goals
          intro deeper
          dsimp only
          cases PathPattern.afterRecursive parts with
          | nil => exact .pure _
          | cons part rest =>
              exact .ite (.pure _) (.ite (.pure _) ((searches rest _).bind fun _ => .pure _))

theorem quiet_discover (pattern : String) :
    Quiet files (SourceModule.discover env.files pattern) := by
  unfold SourceModule.discover
  cases PathPattern.parse pattern with
  | error error => exact .pure _
  | ok parsed =>
      have searched : Quiet files (parsed.discover env.files) :=
        (quiet_find serves _).bind fun start =>
          ((quiet_search serves _ _).1 _ start).bind fun _ => .pure _
      exact searched.bind fun _ => .pure _

/-! ## Reading and lowering files -/

/-- What a file is loaded as depends on the files only. -/
theorem load_run_congr (path : String) {s t : σ} (same : files s = files t) :
    ((SourceModule.load env.files path).run s).1
      = ((SourceModule.load env.files path).run t).1 := by
  unfold SourceModule.load
  rw [run_bind_fst, run_bind_fst, serves.read path s t same]
  cases ((env.files.read path).run t).1 with
  | none => rfl
  | some text =>
      dsimp only
      cases SourceModule.ofText (((Path.fileName? path).map Path.stem).getD "") text <;> rfl

theorem quiet_load (path : String) : Quiet files (SourceModule.load env.files path) := by
  unfold SourceModule.load
  refine (serves.quiet_read path).bind fun answer => ?_
  cases answer with
  | none => exact .pure _
  | some text =>
      dsimp only
      cases SourceModule.ofText (((Path.fileName? path).map Path.stem).getD "") text with
      | ok source => exact .pure _
      | error error => exact .pure _

theorem quiet_lower (options : LoweringOptions) (path : String) :
    Quiet files (env.lower options path) := by
  unfold Environment.lower lowerFile
  refine serves.quiet_freshId.bind fun id => (quiet_load serves path).bind fun loaded => ?_
  cases loaded with
  | error error => exact .pure _
  | ok source =>
      dsimp only
      cases source.lower id options with
      | error error => exact .pure _
      | ok lowered => exact .pure _

theorem quiet_lowerAll (options : LoweringOptions) (paths : List String) :
    Quiet files (env.lowerAll options paths) := by
  induction paths with
  | nil => exact .pure _
  | cons path rest ih =>
      unfold Environment.lowerAll
      refine (quiet_lower serves options path).bind fun answer => ?_
      cases answer with
      | error report => exact .pure _
      | ok lowered => exact ih.bind fun _ => .pure _

end

/-- What becomes of a file is decided by what it is loaded as. -/
theorem lowerFile_run_fst (fs : FileSystem (StateM σ)) (path id : String)
    (options : LoweringOptions) (s : σ) :
    ((lowerFile fs path id options).run s).1
      = match ((SourceModule.load fs path).run s).1 with
        | .error error => .error error.report
        | .ok source => (source.lower id options).mapError LoweringError.report := by
  unfold lowerFile
  rw [run_bind_fst]
  cases ((SourceModule.load fs path).run s).1 with
  | error error => rfl
  | ok source =>
      dsimp only
      cases source.lower id options <;> rfl

/-- Whether the module of a file can be loaded and lowered, by whatever identifier. -/
def Lowers (env : Environment (StateM σ)) (s : σ) (options : LoweringOptions) (path : String) :
    Prop :=
  ∀ id, ∃ lowered, ((lowerFile env.files path id options).run s).1 = .ok lowered

/-- An identifier makes no module fail. -/
theorem exists_lower {source : SourceModule} {id : String} {options : LoweringOptions}
    {lowered : LoweredModule} (lowers : source.lower id options = .ok lowered) (other : String) :
    ∃ lowered, source.lower other options = .ok lowered := by
  unfold SourceModule.lower CompiledModule.lower at lowers ⊢
  dsimp only at lowers ⊢
  cases ends : (lowerIn source.name options source.functions).run .empty with
  | ok functions members => exact ⟨_, rfl⟩
  | error error members =>
      rw [ends] at lowers
      cases lowers

section

variable {env : Environment (StateM σ)} {cwd : List String} (serves : env.Serves files cwd)

include serves

theorem Lowers.congr {options : LoweringOptions} {path : String} {s t : σ}
    (lowers : Lowers env s options path) (same : files s = files t) :
    Lowers env t options path := by
  intro id
  obtain ⟨lowered, done⟩ := lowers id
  rw [lowerFile_run_fst, load_run_congr serves path same, ← lowerFile_run_fst] at done
  exact ⟨lowered, done⟩

theorem lowers_of_lower {options : LoweringOptions} {path : String} {s : σ}
    {lowered : LoweredModule} (done : ((env.lower options path).run s).1 = .ok lowered) :
    Lowers env s options path := by
  intro other
  unfold Environment.lower at done
  rw [run_bind_fst] at done
  rw [lowerFile_run_fst, load_run_congr serves path (serves.quiet_freshId s)] at done
  rw [lowerFile_run_fst]
  cases loaded : ((SourceModule.load env.files path).run s).1 with
  | error error =>
      rw [loaded] at done
      cases done
  | ok source =>
      rw [loaded] at done
      dsimp only at done ⊢
      cases lowers : source.lower ((env.freshId).run s).1 options with
      | error error =>
          rw [lowers] at done
          cases done
      | ok first =>
          obtain ⟨lowered, again⟩ := exists_lower lowers other
          exact ⟨lowered, by rw [again]; rfl⟩

/-- **Modules are lowered all or not at all.** -/
theorem lowers_of_lowerAll {options : LoweringOptions} (paths : List String) :
    ∀ {s : σ} {modules : List LoweredModule},
      ((env.lowerAll options paths).run s).1 = .ok modules →
      ∀ path ∈ paths, Lowers env s options path := by
  induction paths with
  | nil =>
      intro s modules _ path there
      cases there
  | cons first rest ih =>
      intro s modules done path there
      unfold Environment.lowerAll at done
      rw [run_bind_fst] at done
      cases firstDone : ((env.lower options first).run s).1 with
      | error report =>
          rw [firstDone] at done
          cases done
      | ok lowered =>
          rw [firstDone] at done
          dsimp only at done
          rw [run_bind_fst] at done
          cases restDone : ((env.lowerAll options rest).run ((env.lower options first).run s).2).1
              with
          | error report =>
              rw [restDone] at done
              cases done
          | ok others =>
              rcases List.mem_cons.mp there with rfl | there
              · exact lowers_of_lower serves firstDone
              · have later := ih restDone path there
                exact later.congr serves (quiet_lower serves options first s)

end

end Command

end ArgumentGuards
