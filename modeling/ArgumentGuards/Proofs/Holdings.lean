import ArgumentGuards.Files.System
import Mathlib

/-!
# What a write changes

Where names lead in a tree there is a file, a directory, or nothing. That is all that can be seen of
a tree, since a directory says no more than which names lead somewhere below it. A write changes it
at one place, from nothing or a file to a file with the text (`holding?_put`). All other places stay
what they were, so directories do and so do the ways through them, and the path that was written to
leads to the text.
-/

namespace ArgumentGuards

/-- What is at a place. -/
inductive Holding where
  | file (content : ByteArray)
  | directory
  deriving DecidableEq

namespace FileTree

/-- What a tree is at its top. -/
def holding : FileTree → Holding
  | .file content => .file content
  | .directory _ => .directory

/-- What is where some names lead. -/
def holding? (tree : FileTree) (names : List String) : Option Holding :=
  (tree.at? names).map holding

/-! ## Changing one entry -/

section

variable {name : String} {rest names : List String} {entries : List (String × FileTree)}
  {tree new : FileTree}

theorem holding?_cons (entries : List (String × FileTree)) (name : String) (rest : List String) :
    (directory entries).holding? (name :: rest) = (entries.lookup name).bind (·.holding? rest) := by
  unfold holding?
  rw [at?]
  cases entries.lookup name <;> rfl

theorem exists_of_holding?_nil (h : tree.holding? [] = some .directory) :
    ∃ entries, tree = .directory entries := by
  cases tree with
  | file content => cases h
  | directory entries => exact ⟨entries, rfl⟩

theorem exists_of_holding?_cons {found : Holding} (h : tree.holding? (name :: rest) = some found) :
    ∃ entries below, tree = .directory entries ∧ entries.lookup name = some below
      ∧ below.holding? rest = some found := by
  cases tree with
  | file content => cases h
  | directory entries =>
      rw [holding?_cons, Option.bind_eq_some_iff] at h
      obtain ⟨below, there, h⟩ := h
      exact ⟨entries, below, rfl, there, h⟩

theorem lookup_insertEntry (name other : String) (new : FileTree)
    (entries : List (String × FileTree)) :
    (insertEntry name new entries).lookup other
      = if other = name then some new else entries.lookup other := by
  induction entries with
  | nil =>
      by_cases same : other = name
      · simp [insertEntry, same]
      · simp [insertEntry, same, List.lookup_cons, beq_false_of_ne same]
  | cons entry more ih =>
      obtain ⟨n, t⟩ := entry
      rw [insertEntry]
      by_cases replaced : n = name
      · subst replaced
        by_cases same : other = n
        · simp [same]
        · simp [same, List.lookup_cons, beq_false_of_ne same]
      · rw [if_neg replaced]
        by_cases first : other = n
        · subst first
          simp [replaced]
        · simp [List.lookup_cons, beq_false_of_ne first, ih]

/-- A tree with another entry under a name holds what that entry holds there, and elsewhere what it
held. -/
theorem holding?_insertEntry (entries : List (String × FileTree)) (name : String)
    (new : FileTree) :
    (directory (insertEntry name new entries)).holding? (name :: rest) = new.holding? rest := by
  rw [holding?_cons, lookup_insertEntry, if_pos rfl, Option.bind_some]

theorem holding?_insertEntry_of_ne {other : String} (apart : other ≠ name)
    (entries : List (String × FileTree)) (new : FileTree) :
    (directory (insertEntry name new entries)).holding? (other :: rest)
      = (directory entries).holding? (other :: rest) := by
  rw [holding?_cons, holding?_cons, lookup_insertEntry, if_neg apart]

end

/-- **A file that is put into a directory is all that changes**, unless it takes the place of a
directory. -/
theorem holding?_put {content : ByteArray} {last : String} (names : List String) :
    ∀ {tree : FileTree}, tree.holding? names = some .directory →
      tree.holding? (names ++ [last]) ≠ some .directory →
      (put (.file content) (names ++ [last]) tree).holding?
        = Function.update tree.holding? (names ++ [last]) (some (.file content)) := by
  induction names with
  | nil =>
      intro tree isDirectory free
      obtain ⟨entries, rfl⟩ := exists_of_holding?_nil isDirectory
      funext names
      cases names with
      | nil => rfl
      | cons name rest =>
          rw [List.nil_append, put, put]
          by_cases same : name = last
          · subst same
            rw [holding?_insertEntry]
            cases rest with
            | nil => rw [Function.update_self]; rfl
            | cons next rest =>
                rw [Function.update_of_ne (by simp), holding?_cons]
                -- what was there was no directory, so nothing was below it
                cases old : entries.lookup name with
                | none => rfl
                | some below =>
                    cases below with
                    | file content => rfl
                    | directory inside =>
                        refine absurd ?_ free
                        rw [List.nil_append, holding?_cons, old]
                        rfl
          · have elsewhere : name :: rest ≠ [last] := by simp [same]
            rw [holding?_insertEntry_of_ne same, Function.update_of_ne elsewhere]
  | cons first names ih =>
      intro tree isDirectory free
      obtain ⟨entries, below, rfl, there, inside⟩ := exists_of_holding?_cons isDirectory
      have freeBelow : below.holding? (names ++ [last]) ≠ some .directory := by
        rwa [List.cons_append, holding?_cons, there, Option.bind_some] at free
      funext q
      cases q with
      | nil => rfl
      | cons name rest =>
          rw [List.cons_append, put, there, Option.getD_some]
          by_cases same : name = first
          · -- below the first name the change is that of the entry there
            subst same
            rw [holding?_insertEntry, ih inside freeBelow]
            by_cases reached : rest = names ++ [last]
            · rw [reached, Function.update_self, Function.update_self]
            · have elsewhere : name :: rest ≠ name :: (names ++ [last]) := by simp [reached]
              rw [Function.update_of_ne reached, Function.update_of_ne elsewhere, holding?_cons,
                there, Option.bind_some]
          · have elsewhere : name :: rest ≠ first :: (names ++ [last]) := by simp [same]
            rw [holding?_insertEntry_of_ne same, Function.update_of_ne elsewhere]

/-! ## Ways -/

theorem isDirectoryAt_iff (tree : FileTree) (names : List String) :
    tree.isDirectoryAt names = true ↔ tree.holding? names = some .directory := by
  change ((tree.at? names).map isDirectory).getD false = true
    ↔ (tree.at? names).map holding = some .directory
  cases tree.at? names with
  | none => simp
  | some found => cases found <;> simp [isDirectory, holding]

/-- Whether everything that is in a tree is in another one too, and directories as such. -/
structure Stays (tree after : FileTree) : Prop where
  directory : ∀ names, tree.holding? names = some .directory →
    after.holding? names = some .directory
  present : ∀ names, tree.holding? names ≠ none → after.holding? names ≠ none

theorem stays_of_update {tree after : FileTree} {names : List String} {content : ByteArray}
    (free : tree.holding? names ≠ some .directory)
    (changed : after.holding? = Function.update tree.holding? names (some (.file content))) :
    tree.Stays after := by
  constructor
  · intro other isDirectory
    have elsewhere : other ≠ names := by
      rintro rfl
      exact free isDirectory
    rw [changed, Function.update_of_ne elsewhere, isDirectory]
  · intro other present
    rw [changed]
    by_cases same : other = names
    · subst same
      rw [Function.update_self]
      exact Option.some_ne_none _
    · rwa [Function.update_of_ne same]

theorem Stays.isDirectoryAt {tree after : FileTree} (h : tree.Stays after) {names : List String}
    (isDirectory : tree.isDirectoryAt names = true) : after.isDirectoryAt names = true := by
  rw [isDirectoryAt_iff] at isDirectory ⊢
  exact h.directory names isDirectory

theorem Stays.step {tree after : FileTree} (h : tree.Stays after) {names next : List String}
    {piece : String} (taken : tree.step names piece = .ok next) :
    after.step names piece = .ok next := by
  have isDirectory : tree.isDirectoryAt names = true := by
    by_contra none
    unfold FileTree.step at taken
    rw [if_pos (by simpa using none)] at taken
    cases taken
  unfold FileTree.step at taken ⊢
  rw [isDirectory] at taken
  rw [h.isDirectoryAt isDirectory]
  split_ifs at taken ⊢ with here long above
  all_goals try exact taken
  cases found : tree.at? (names ++ [piece]) with
  | none =>
      rw [found] at taken
      cases taken
  | some below =>
      have present := h.present (names ++ [piece]) (by simp [holding?, found])
      rw [found] at taken
      cases afterwards : after.at? (names ++ [piece]) with
      | none => exact absurd (by simp [holding?, afterwards]) present
      | some other => exact taken

/-- **Ways stay ways.** -/
theorem Stays.walk {tree after : FileTree} (h : tree.Stays after) (pieces : List String) :
    ∀ {names reached : List String}, tree.walk names pieces = .ok reached →
      after.walk names pieces = .ok reached := by
  induction pieces with
  | nil =>
      intro names reached walked
      exact walked
  | cons piece rest ih =>
      intro names reached walked
      unfold FileTree.walk at walked ⊢
      cases taken : tree.step names piece with
      | error failure =>
          rw [taken] at walked
          cases walked
      | ok next =>
          rw [taken] at walked
          rw [h.step taken]
          exact ih walked

theorem walk_append {tree : FileTree} {names reached pieces : List String}
    (walked : tree.walk names pieces = .ok reached) (more : List String) :
    tree.walk names (pieces ++ more) = tree.walk reached more := by
  induction pieces generalizing names with
  | nil =>
      cases walked
      rfl
  | cons piece rest ih =>
      unfold walk at walked
      rw [List.cons_append, walk]
      cases taken : tree.step names piece with
      | error failure =>
          rw [taken] at walked
          cases walked
      | ok next =>
          rw [taken] at walked
          exact ih walked

/-! ## Writing -/

/-- Where the last name of a path stands: in the directory that the names before it lead to. -/
def parentOf (tree : FileTree) (path : String) (cwd : List String) :
    Except WriteFailure (List String) :=
  tree.walk (origin path cwd) (Path.pieces path).dropLast

/-- What makes a write succeed, and what becomes of the tree. -/
structure Writes (tree : FileTree) (path text : String) (cwd : List String) (last : String)
    (names : List String) (after : FileTree) : Prop where
  given : path ≠ ""
  short : isLongPath path = false
  split : (Path.pieces path).getLast? = some last
  name : last ≠ "" ∧ last ≠ "." ∧ last ≠ ".." ∧ isLongName last = false
  directory : tree.parentOf path cwd = .ok names ∧ tree.isDirectoryAt names = true
  free : tree.holding? (names ++ [last]) ≠ some .directory
  changed : after = put (.file text.toUTF8) (names ++ [last]) tree

/-- What comes after a check, if nothing was thrown. -/
theorem of_check {ε α : Type} {fails : Prop} [Decidable fails] {e : ε} {next : Unit → Except ε α}
    {a : α} (h : (if fails then throw e >>= next else next ()) = .ok a) :
    ¬ fails ∧ next () = .ok a := by
  by_cases thrown : fails
  · rw [if_pos thrown] at h
    cases h
  · rw [if_neg thrown] at h
    exact ⟨thrown, h⟩

/-- What comes after a part, if that has a value. -/
theorem of_bind {ε α β : Type} {part : Except ε α} {next : α → Except ε β} {b : β}
    (h : part >>= next = .ok b) : ∃ a, part = .ok a ∧ next a = .ok b := by
  cases part with
  | ok a => exact ⟨a, rfl, h⟩
  | error e => cases h

theorem exists_writes {tree after : FileTree} {path text : String} {cwd : List String}
    (written : tree.write path text cwd = .ok after) :
    ∃ last names, tree.Writes path text cwd last names after := by
  unfold write at written
  obtain ⟨given, written⟩ := of_check written
  obtain ⟨short, written⟩ := of_check written
  rw [List.span_eq_takeWhile_dropWhile] at written
  have parts := List.takeWhile_append_dropWhile (p := (· = "")) (l := (Path.pieces path).reverse)
  cases left : (Path.pieces path).reverse.dropWhile (· = "") with
  | nil =>
      rw [left] at written
      cases written
  | cons last above =>
      rw [left] at written parts
      obtain ⟨names, walked, written⟩ := of_bind written
      obtain ⟨isDirectory, written⟩ := of_check written
      obtain ⟨plain, written⟩ := of_check written
      obtain ⟨fits, written⟩ := of_check written
      rw [not_or, not_or] at plain
      obtain ⟨noSlash, notHere, notAbove⟩ := plain
      have slashes : (Path.pieces path).reverse.takeWhile (· = "") = [] := by
        simpa using noSlash
      rw [slashes, List.nil_append] at parts
      -- with no slash at the end the last piece is the name of the file
      have pieces : Path.pieces path = above.reverse ++ [last] := by
        rw [← List.reverse_cons, parts, List.reverse_reverse]
      have named : last ≠ "" := by
        have some : (Path.pieces path).reverse.dropWhile (· = "") ≠ [] := by simp [left]
        have first := List.head_dropWhile_not (· = "") some
        simpa [left] using first
      have way : tree.parentOf path cwd = .ok names := by
        rw [parentOf, pieces, List.dropLast_concat]
        exact walked
      have changed : tree.holding? (names ++ [last]) ≠ some .directory
          ∧ after = put (.file text.toUTF8) (names ++ [last]) tree := by
        cases found : tree.at? (names ++ [last]) with
        | none =>
            rw [found] at written
            cases written
            exact ⟨by simp [holding?, found], rfl⟩
        | some old =>
            rw [found] at written
            cases old with
            | directory entries => cases written
            | file content =>
                cases written
                exact ⟨by simp [holding?, found, holding], rfl⟩
      exact ⟨last, names, given, by simpa using short, by simp [pieces],
        ⟨named, notHere, notAbove, by simpa using fits⟩, ⟨way, by simpa using isDirectory⟩,
        changed.1, changed.2⟩

/-- One step to a name of a directory. -/
theorem walk_name {tree : FileTree} {names : List String} {last : String} {found : Holding}
    (isDirectory : tree.isDirectoryAt names = true) (named : last ≠ "") (notHere : last ≠ ".")
    (notAbove : last ≠ "..") (fits : isLongName last = false)
    (there : tree.holding? (names ++ [last]) = some found) :
    tree.walk names [last] = .ok (names ++ [last]) := by
  have plain : ¬ (last = "" ∨ last = ".") := by simp [named, notHere]
  have taken : tree.step names last = .ok (names ++ [last]) := by
    unfold step
    rw [isDirectory, fits, if_neg (by decide), if_neg plain, if_neg Bool.false_ne_true,
      if_neg notAbove]
    unfold holding? at there
    cases found : tree.at? (names ++ [last]) with
    | none =>
        rw [found] at there
        cases there
    | some below => rfl
  unfold walk
  rw [taken]
  rfl

/-- A path to a file with a text leads to the text. -/
theorem textAt?_of_holding? {tree : FileTree} {path text : String} {cwd names : List String}
    (reached : tree.resolve path cwd = .ok names)
    (there : tree.holding? names = some (.file text.toUTF8)) :
    tree.textAt? path cwd = some text := by
  unfold textAt? contentAt? find?
  rw [reached]
  dsimp only
  unfold holding? at there
  cases found : tree.at? names with
  | none =>
      rw [found] at there
      cases there
  | some below =>
      rw [found] at there
      cases below with
      | directory entries => cases there
      | file content =>
          cases there
          exact dif_pos text.isValidUTF8

/--
A tree has become another one by the writing of a text. One place of it has changed, to which the
path leads: it holds a file with the text.
-/
def Rewritten (tree : FileTree) (path text : String) (cwd : List String) (after : FileTree) :
    Prop :=
  ∃ names, after.resolve path cwd = .ok names
    ∧ after.holding? = Function.update tree.holding? names (some (.file text.toUTF8))
    ∧ after.textAt? path cwd = some text

/-- **A write changes one file.** -/
theorem rewritten_of_write {tree after : FileTree} {path text : String} {cwd : List String}
    (written : tree.write path text cwd = .ok after) : tree.Rewritten path text cwd after := by
  obtain ⟨last, names, writes⟩ := exists_writes written
  obtain ⟨reached, isDirectory⟩ := writes.directory
  obtain rfl := writes.changed
  have top := (isDirectoryAt_iff tree names).mp isDirectory
  have changed : (put (.file text.toUTF8) (names ++ [last]) tree).holding? = _ :=
    holding?_put names top writes.free
  -- the way to the directory is there after the write as it was before
  have stays := stays_of_update writes.free changed
  have way := stays.walk _ reached
  obtain ⟨named, notHere, notAbove, fits⟩ := writes.name
  have there : (put (.file text.toUTF8) (names ++ [last]) tree).holding? (names ++ [last])
      = some (.file text.toUTF8) := by
    rw [changed, Function.update_self]
  have pieces : Path.pieces path = (Path.pieces path).dropLast ++ [last] :=
    (List.dropLast_append_getLast? last writes.split).symm
  have resolved : (put (.file text.toUTF8) (names ++ [last]) tree).resolve path cwd
      = .ok (names ++ [last]) := by
    unfold resolve
    rw [if_neg writes.given, writes.short, if_neg Bool.false_ne_true, pieces, walk_append way]
    exact walk_name (stays.isDirectoryAt isDirectory) named notHere notAbove fits there
  exact ⟨names ++ [last], resolved, changed, textAt?_of_holding? resolved there⟩

end FileTree

end ArgumentGuards
