import ArgumentGuards.Module.Source
import ArgumentGuards.Proofs.FirstAbsent
import ArgumentGuards.Proofs.Places

/-!
# Where a text was rejected

What a message calls line and column comes from the number of bytes that had been taken. Such a
number splits a text into the characters that were taken and those that were not, perhaps with a few
bytes of the next one (`TakenAt`). The line is one more than the line feeds among the characters
taken; the column counts the bytes after the last of them. So lines begin at one, and go on no
further than the text does, but columns begin at zero: that is what a text gives that is wrong where
a line begins, and the empty text is one (`column_zero`).
-/

namespace ArgumentGuards

open Json

namespace Text

/-! ## Lines and columns -/

/-- What stands after the last line feed. -/
def lastLine (cs : List Char) : List Char := (cs.reverse.takeWhile (· ≠ '\n')).reverse

theorem lastLine_lineFeed (cs : List Char) : lastLine (cs ++ ['\n']) = [] := by
  simp [lastLine]

theorem lastLine_append {c : Char} (same : c ≠ '\n') (cs : List Char) :
    lastLine (cs ++ [c]) = lastLine cs ++ [c] := by
  simp [lastLine, same]

theorem lastLine_eq_nil {cs : List Char} :
    lastLine cs = [] ↔ cs = [] ∨ cs.getLast? = some '\n' := by
  induction cs using List.reverseRecOn with
  | nil => simp [lastLine]
  | append_singleton cs c _ =>
      by_cases same : c = '\n'
      · subst same
        simp [lastLine_lineFeed]
      · simp [lastLine_append same, same]

theorem byteLength_eq_utf8Len (cs : List Char) : byteLength cs = String.utf8Len cs := by
  induction cs with
  | nil => rfl
  | cons c rest ih =>
      rw [String.utf8Len_cons, ← ih, Nat.add_comm]
      rfl

theorem byteLength_append (cs more : List Char) :
    byteLength (cs ++ more) = byteLength cs + byteLength more := by
  rw [byteLength_eq_utf8Len, String.utf8Len_append, ← byteLength_eq_utf8Len,
    ← byteLength_eq_utf8Len]

theorem length_le_byteLength (cs : List Char) : cs.length ≤ byteLength cs := by
  induction cs with
  | nil => exact Nat.zero_le _
  | cons c rest ih =>
      have positive := c.utf8Size_pos
      rw [byteLength_eq_utf8Len, String.utf8Len_cons, ← byteLength_eq_utf8Len, List.length_cons]
      omega

theorem byteLength_eq_zero {cs : List Char} : byteLength cs = 0 ↔ cs = [] := by
  have least := length_le_byteLength cs
  constructor
  · intro none
    exact List.length_eq_zero_iff.mp (by omega)
  · rintro rfl
    rfl

/-- The position after some characters from the start of a text. -/
theorem foldl_advance (taken : List Char) :
    taken.foldl Position.advance .start = ⟨1 + taken.count '\n', byteLength (lastLine taken)⟩ := by
  induction taken using List.reverseRecOn with
  | nil => rfl
  | append_singleton taken c ih =>
      rw [List.foldl_append, ih, List.foldl_cons, List.foldl_nil, Position.advance]
      by_cases same : c = '\n'
      · subst same
        rw [if_pos rfl, lastLine_lineFeed, List.count_append]
        rfl
      · have noMore : [c].count '\n' = 0 := by simp [same]
        rw [if_neg same, lastLine_append same, byteLength_append, List.count_append, noMore]
        rfl

/-- A position is reached in a text when some characters have been taken, and so many bytes of the
next one. -/
structure TakenAt (text : String) (p : Position) (taken rest : List Char) (inside : Nat) :
    Prop where
  text : text.toList = taken ++ rest
  line : p.line = 1 + taken.count '\n'
  column : p.column = byteLength (lastLine taken) + inside
  inside : inside = 0 ∨ ∃ c more, rest = c :: more ∧ inside < c.utf8Size

/-- How far some bytes lead from a position. -/
theorem exists_after (cs : List Char) : ∀ (p : Position) (bytes : Nat), ∃ taken rest inside,
    cs = taken ++ rest
      ∧ p.after bytes cs = ⟨(taken.foldl .advance p).line,
          (taken.foldl .advance p).column + inside⟩
      ∧ (inside = 0 ∨ ∃ c more, rest = c :: more ∧ inside < c.utf8Size) := by
  induction cs with
  | nil =>
      intro p bytes
      exact ⟨[], [], 0, rfl, rfl, .inl rfl⟩
  | cons c rest ih =>
      intro p bytes
      rw [Position.after]
      by_cases whole : c.utf8Size ≤ bytes
      · obtain ⟨taken, left, inside, split, reached, part⟩ := ih (p.advance c) (bytes - c.utf8Size)
        refine ⟨c :: taken, left, inside, ?_, ?_, part⟩
        · rw [split, List.cons_append]
        · rw [if_pos whole, reached, List.foldl_cons]
      · refine ⟨[], c :: rest, bytes, rfl, if_neg whole, .inr ⟨c, rest, rfl, ?_⟩⟩
        omega

/-- **Every number of bytes leads to a position of the text.** -/
theorem exists_takenAt (text : String) (place : Nat) :
    ∃ taken rest inside, TakenAt text (positionAt text place) taken rest inside := by
  obtain ⟨taken, rest, inside, split, reached, part⟩ := exists_after text.toList .start place
  rw [foldl_advance] at reached
  refine ⟨taken, rest, inside, split, ?_, ?_, part⟩
  · rw [positionAt, reached]
  · rw [positionAt, reached]

namespace TakenAt

variable {text : String} {p : Position} {taken rest : List Char} {inside : Nat}

theorem one_le_line (h : TakenAt text p taken rest inside) : 1 ≤ p.line := by
  rw [h.line]
  exact Nat.le_add_right 1 _

/-- No line is counted that the text does not have. -/
theorem line_le (h : TakenAt text p taken rest inside) :
    p.line ≤ 1 + text.toList.count '\n' := by
  rw [h.line, h.text, List.count_append]
  omega

/-- The column is zero where a line begins. -/
theorem column_eq_zero (h : TakenAt text p taken rest inside) :
    p.column = 0 ↔ inside = 0 ∧ (taken = [] ∨ taken.getLast? = some '\n') := by
  rw [h.column, ← lastLine_eq_nil, ← byteLength_eq_zero]
  omega

/-- The number of a line or column is small if the text is. -/
theorem lt_of_size (h : TakenAt text p taken rest inside) (short : text.utf8ByteSize + 1 < 2 ^ 64) :
    p.line < 2 ^ 64 ∧ p.column < 2 ^ 64 := by
  have size : byteLength text.toList = text.utf8ByteSize := by
    rw [byteLength_eq_utf8Len, String.utf8Len_toList]
  -- each line feed is a byte, and so each line but the first has one of its own
  have lines : text.toList.count '\n' ≤ byteLength text.toList :=
    List.count_le_length.trans (length_le_byteLength _)
  have line := h.line_le
  obtain ⟨front, split⟩ : ∃ front, taken = front ++ lastLine taken := by
    obtain ⟨back, whole⟩ := taken.reverse.takeWhile_prefix (· ≠ '\n')
    refine ⟨back.reverse, ?_⟩
    rw [lastLine, ← List.reverse_append, whole, List.reverse_reverse]
  have column : byteLength (lastLine taken) + byteLength rest ≤ byteLength text.toList := by
    rw [h.text, byteLength_append, split, byteLength_append, ← split]
    omega
  have part : inside ≤ byteLength rest := by
    rcases h.inside with rfl | ⟨c, more, rfl, small⟩
    · exact Nat.zero_le _
    · rw [byteLength_eq_utf8Len, String.utf8Len_cons]
      omega
  have reached := h.column
  omega

end TakenAt

end Text

/-! ## Rejected texts -/

/-- A file is rejected with what is wrong with its text, whatever the module is called. -/
theorem load_rejected {σ : Type} {fs : FileSystem (StateM σ)} {s after : σ} {path text : String}
    {error : DocumentError} (read : (fs.read path).run s = (some text, after))
    (wrong : decodeText SourceModule.record.decoder text = .error error) :
    (SourceModule.load fs path).run s
      = (.error (.malformed (((Path.fileName? path).map Path.stem).getD "") path error),
        after) := by
  unfold SourceModule.load SourceModule.ofText
  rw [StateT.run_bind, read]
  dsimp only [bind]
  rw [wrong]
  rfl

/--
**What is wrong with a text has a line and a column.**

Whatever makes a document unreadable, its error is about the document and has a place in it. The
line is at least one, and no greater than the text has lines; the column is the number of bytes that
were read on the line. So it is zero where a line has just begun. A file that is read as that text,
wherever it lies, is rejected with the same line and column, in the name of its path.
-/
theorem rejected_at {name text : String} {e : SourceError}
    (rejected : SourceModule.ofText name text = .error e) :
    ∃ cause p taken rest inside,
      e = .malformed name name ⟨cause, some p⟩
        ∧ e.location? = some ⟨name, UInt64.ofNat p.line, UInt64.ofNat p.column⟩
        ∧ (text.utf8ByteSize + 1 < 2 ^ 64 → (UInt64.ofNat p.line).toNat = p.line
            ∧ (UInt64.ofNat p.column).toNat = p.column)
        ∧ Text.TakenAt text p taken rest inside
        ∧ 1 ≤ p.line ∧ p.line ≤ 1 + text.toList.count '\n'
        ∧ (p.column = 0 ↔ inside = 0 ∧ (taken = [] ∨ taken.getLast? = some '\n'))
        ∧ ∀ {σ : Type} (fs : FileSystem (StateM σ)) (s after : σ) (path : String),
          (fs.read path).run s = (some text, after) →
          ∃ stem, (SourceModule.load fs path).run s
              = (.error (.malformed stem path ⟨cause, some p⟩), after)
            ∧ (SourceError.malformed stem path ⟨cause, some p⟩).location?
              = some ⟨path, UInt64.ofNat p.line, UInt64.ofNat p.column⟩ := by
  unfold SourceModule.ofText at rejected
  cases decoded : decodeText SourceModule.record.decoder text with
  | ok found =>
      rw [decoded] at rejected
      cases rejected
  | error error =>
      rw [decoded] at rejected
      cases rejected
      obtain ⟨place, position⟩ := exists_position decoded
      obtain ⟨cause, _⟩ := error
      subst position
      obtain ⟨taken, rest, inside, takenAt⟩ := Text.exists_takenAt text place
      refine ⟨cause, _, taken, rest, inside, rfl, rfl, ?small, takenAt, takenAt.one_le_line,
        takenAt.line_le, takenAt.column_eq_zero, ?load⟩
      case small =>
        intro short
        obtain ⟨line, column⟩ := takenAt.lt_of_size short
        exact ⟨UInt64.toNat_ofNat_of_lt line, UInt64.toNat_ofNat_of_lt column⟩
      case load =>
        intro σ fs s after path read
        exact ⟨_, load_rejected read decoded, rfl⟩

/-- An object with a number where a key is due, on its second line. -/
def numberedKey : String := "\x7b\n 3"

theorem rejected_at_numberedKey :
    ∃ e, SourceModule.ofText "m" numberedKey = .error e
      ∧ e.location? = some ⟨"m", 2, 2⟩
      ∧ ∃ e', (SourceModule.load (FileTree.system ["tmp"]) "/work/a.json").run
            (Command.rootWith "a.json" numberedKey)
          = (.error e', Command.rootWith "a.json" numberedKey)
        ∧ e'.location? = some ⟨"/work/a.json", 2, 2⟩ := by
  have wrong : SourceModule.ofText "m" numberedKey
      = .error (.malformed "m" "m" ⟨.keyNotString, some ⟨2, 2⟩⟩) := by
    cbv
  have reached : (Command.rootWith "a.json" numberedKey).resolve "/work/a.json" ["tmp"]
      = .ok ["work", "a.json"] := by decide +kernel
  obtain ⟨cause, p, taken, rest, inside, same, _, _, _, _, _, _, load⟩ := rejected_at wrong
  cases same
  obtain ⟨stem, run, location⟩ := load _ _ _ _ (Command.read_rootWith reached)
  exact ⟨_, wrong, rfl, _, run, location⟩

/-- The empty text ends where its first line begins, and the column that is reported is zero. -/
theorem column_zero :
    (¬ ∀ (name text : String) (e : SourceError) (here : Location),
        SourceModule.ofText name text = .error e → e.location? = some here →
          1 ≤ here.line.toNat ∧ 1 ≤ here.column.toNat)
      ∧ ∃ e, SourceModule.ofText "m" "" = .error e ∧ e.location? = some ⟨"m", 1, 0⟩ := by
  have empty : SourceModule.ofText "m" ""
      = .error (.malformed "m" "m" ⟨.endOfValue, some ⟨1, 0⟩⟩) := by
    rfl
  refine ⟨?_, _, empty, rfl⟩
  intro fromOne
  have column := (fromOne "m" "" _ _ empty rfl).2
  exact absurd column (by decide)

end ArgumentGuards
