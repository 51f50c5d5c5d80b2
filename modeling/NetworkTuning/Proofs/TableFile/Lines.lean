import NetworkTuning.Proofs.TableFile.Grammar
import NetworkTuning.TableFile.Basic

/-!
# Which table files are read

The rows of a table file are its lines but the first, the blank ones left out; each keeps its number
among all lines, which starts at one (`numberedRows`). A file of text is read exactly if every row
is, one profile for each in their order, and otherwise it is refused for its first row that is
refused, under that row's number (`read_lined`). Only a file of no characters has no line.
-/

namespace NetworkTuning

/-- The line of the file that a refusal is about. -/
def TableFileError.line? : TableFileError → Option Nat
  | partCount line _ => some line
  | badValue line _ _ => some line
  | _ => none

/-- A refused row is refused under its number. -/
theorem ofRow_error_line? {line : Nat} {row : List Char} {e : TableFileError}
    (refused : Profile.ofRow line row = .error e) : e.line? = some line := by
  unfold Profile.ofRow at refused
  simp only at refused
  split at refused
  next complete =>
    obtain ⟨c, part, -, rfl⟩ := (readParts_error_iff complete).mp refused
    rfl
  next =>
    cases refused
    rfl

namespace TableFile

variable {path : String} {number : Nat} {ls : List (List Char)} {line : List Char}

/-! ## Rows with their numbers -/

/-- The lines that are not blank, each with its number, counted from `number` on. -/
def rowsFrom (number : Nat) (ls : List (List Char)) : List (List Char × Nat) :=
  (ls.zipIdx number).filter fun row => !row.1.all Text.isBlank

/-- The rows of a file: its lines but the first, and but the blank ones, each with its number among
all lines. -/
def numberedRows (ls : List (List Char)) : List (List Char × Nat) :=
  ((ls.zipIdx 1).drop 1).filter fun row => !row.1.all Text.isBlank

theorem numberedRows_cons (header : List Char) (rest : List (List Char)) :
    numberedRows (header :: rest) = rowsFrom 2 rest := rfl

theorem trim_isEmpty_iff : (Text.trim line).isEmpty = true ↔ line.all Text.isBlank = true := by
  rw [List.isEmpty_iff, Text.trim_eq_nil_iff, List.all_eq_true]
  rfl

theorem rowsFrom_blank (blank : line.all Text.isBlank = true) :
    rowsFrom number (line :: ls) = rowsFrom (number + 1) ls := by
  rw [rowsFrom, List.zipIdx_cons, List.filter_cons_of_neg (by simp [blank])]
  rfl

theorem rowsFrom_row (visible : ¬line.all Text.isBlank = true) :
    rowsFrom number (line :: ls) = (line, number) :: rowsFrom (number + 1) ls := by
  rw [rowsFrom, List.zipIdx_cons, List.filter_cons_of_pos (by simp [visible])]
  rfl

/-! ## Reading the rows -/

theorem readRows_blank (blank : line.all Text.isBlank = true) :
    readRows path number ((line :: ls).map .ok) = readRows path (number + 1) (ls.map .ok) := by
  rw [List.map_cons, readRows, if_pos (trim_isEmpty_iff.mpr blank)]

theorem readRows_row (visible : ¬line.all Text.isBlank = true) :
    readRows path number ((line :: ls).map .ok) =
      match Profile.ofRow number line with
      | .error e => .error e
      | .ok p => (readRows path (number + 1) (ls.map .ok)).map (p :: ·) := by
  rw [List.map_cons, readRows, if_neg (trim_isEmpty_iff.not.mpr visible)]
  cases Profile.ofRow number line with
  | error e => rfl
  | ok p => cases readRows path (number + 1) (ls.map .ok) <;> rfl

/-- Rows are read exactly if each of them is. -/
theorem readRows_ok_iff {ps : List Profile} :
    readRows path number (ls.map .ok) = .ok ps ↔
      List.Forall₂ (fun row p => Profile.ofRow row.2 row.1 = .ok p) (rowsFrom number ls) ps := by
  induction ls generalizing number ps with
  | nil =>
    refine ⟨fun h => ?_, fun h => ?_⟩
    · cases h
      exact .nil
    · cases h
      rfl
  | cons line ls ih =>
    by_cases hblank : line.all Text.isBlank = true
    · rw [readRows_blank hblank, rowsFrom_blank hblank]
      exact ih
    · rw [readRows_row hblank, rowsFrom_row hblank, List.forall₂_cons_left_iff]
      simp only [← ih]
      cases Profile.ofRow number line with
      | error e => simp
      | ok p =>
        cases readRows path (number + 1) (ls.map .ok) with
        | error e => simp [Except.map]
        | ok others => simp [Except.map, eq_comm]

/-- The first row that is refused, and why. -/
def FirstRefused (rows : List (List Char × Nat)) (row : List Char × Nat) (e : TableFileError) :
    Prop :=
  ∃ before after, rows = before ++ row :: after ∧
    (∀ r ∈ before, ∃ p, Profile.ofRow r.2 r.1 = .ok p) ∧ Profile.ofRow row.2 row.1 = .error e

/-- The first refused row is the one in front, or that is read and the row is the first refused one
of the others. -/
theorem firstRefused_cons {front row : List Char × Nat} {rows : List (List Char × Nat)}
    {e : TableFileError} :
    FirstRefused (front :: rows) row e ↔
      front = row ∧ Profile.ofRow front.2 front.1 = .error e ∨
        (∃ p, Profile.ofRow front.2 front.1 = .ok p) ∧ FirstRefused rows row e := by
  constructor
  · rintro ⟨_ | ⟨first, before⟩, after, hrows, hread, hrefused⟩
    · obtain ⟨rfl, rfl⟩ := List.cons.inj hrows
      exact .inl ⟨rfl, hrefused⟩
    · obtain ⟨rfl, rfl⟩ := List.cons.inj hrows
      obtain ⟨hfirst, hbefore⟩ := List.forall_mem_cons.mp hread
      exact .inr ⟨hfirst, before, after, rfl, hbefore, hrefused⟩
  · rintro (⟨rfl, hrefused⟩ | ⟨hfirst, before, after, rfl, hbefore, hrefused⟩)
    · exact ⟨[], rows, rfl, List.forall_mem_nil _, hrefused⟩
    · exact ⟨front :: before, after, rfl, List.forall_mem_cons.mpr ⟨hfirst, hbefore⟩, hrefused⟩

/-- Rows are refused for the first of them that is. -/
theorem readRows_error_iff {e : TableFileError} :
    readRows path number (ls.map .ok) = .error e ↔
      ∃ row, FirstRefused (rowsFrom number ls) row e := by
  induction ls generalizing number with
  | nil =>
    refine iff_of_false (fun h => by cases h) ?_
    rintro ⟨row, before, after, hrows, -⟩
    simp [rowsFrom] at hrows
  | cons line ls ih =>
    by_cases hblank : line.all Text.isBlank = true
    · rw [readRows_blank hblank, rowsFrom_blank hblank]
      exact ih
    · rw [readRows_row hblank, rowsFrom_row hblank]
      simp only [firstRefused_cons, exists_or, exists_and_left, ← ih]
      cases Profile.ofRow number line with
      | error e => simp
      | ok p =>
        cases readRows path (number + 1) (ls.map .ok) <;> simp [Except.map]

/-! ## Files -/

/-- **A file of text is read line by line.** -/
theorem read_lined {files : FileTree} {s : String} (contents : files.read path = .ok (.text s)) :
    (read files path = .error (.noLines path) ↔ s = "") ∧
      (s ≠ "" → ∃ header rest, Text.Lined (header :: rest) s.toList ∧
        (∀ ps, read files path = .ok ps ↔
          List.Forall₂ (fun row p => Profile.ofRow row.2 row.1 = .ok p)
            (numberedRows (header :: rest)) ps) ∧
        ∀ e, read files path = .error e ↔
          ∃ row, FirstRefused (numberedRows (header :: rest)) row e ∧ e.line? = some row.2) := by
  have hread : read files path = readLines path ((Text.lines s.toList).map .ok) := by
    rw [read, contents]
    rfl
  have hlined := Text.lined_lines s.toList
  rw [hread]
  cases hlines : Text.lines s.toList with
  | nil =>
    rw [hlines] at hlined
    have hempty : s = "" := String.toList_eq_nil_iff.mp hlined.eq_nil
    exact ⟨iff_of_true rfl hempty, fun hsome => absurd hempty hsome⟩
  | cons header rest =>
    rw [hlines] at hlined
    have hrows : readLines path ((header :: rest).map .ok) = readRows path 2 (rest.map .ok) := rfl
    have herror (e : TableFileError) : readRows path 2 (rest.map .ok) = .error e ↔
        ∃ row, FirstRefused (numberedRows (header :: rest)) row e ∧ e.line? = some row.2 := by
      refine readRows_error_iff.trans (exists_congr fun row => ?_)
      rw [numberedRows_cons, iff_self_and]
      rintro ⟨-, -, -, -, hrefused⟩
      exact ofRow_error_line? hrefused
    rw [hrows]
    refine ⟨iff_of_false (fun h => ?_) (fun hempty => ?_), fun _ => ?_⟩
    · obtain ⟨row, -, hline⟩ := (herror _).mp h
      cases hline
    · rw [hempty] at hlined
      cases hlined.lines_eq
    · exact ⟨header, rest, hlined, fun _ => readRows_ok_iff, herror⟩

/-- A file of a first line, a blank line, and a row of one part. -/
def shortRow : FileTree := FileTree.put {} "t.csv" (.file (.text "h\n \n1\r\n"))

/-- The row is refused under the number three. -/
theorem shortRow_refused : read shortRow "t.csv" = .error (.partCount 3 1) := by
  have hcontents : shortRow.read "t.csv" = .ok (.text "h\n \n1\r\n") := rfl
  obtain ⟨header, rest, hlined, -, herror⟩ := (read_lined hcontents).2 (by decide)
  have hlines : Text.lines "h\n \n1\r\n".toList = [['h'], [' '], ['1']] := by decide
  obtain ⟨rfl, rfl⟩ := List.cons.inj (hlined.lines_eq.symm.trans hlines)
  refine (herror _).mpr ⟨(['1'], 3), ⟨[], [], by decide, List.forall_mem_nil _, ?_⟩, rfl⟩
  rfl

end TableFile

end NetworkTuning
