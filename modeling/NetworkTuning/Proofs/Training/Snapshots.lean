import NetworkTuning.Proofs.TableFile.RoundTrip
import NetworkTuning.Proofs.Training.Copies

/-!
# Copies on their way to the file

A copy of the rows is taken in the step that makes it due, and written in a later one, while others
move. So the copies reach the file in any order, and one that is written late puts fewer rows in
place of more.

**One step** either leaves what the file reads as, or writes one of the copies that were on their
way (`move_file`); of these and the copy that is taken none is written twice (`move_subperm`).
**A run** therefore writes some of its copies, each once, and the file holds the one written last
(`run_file`). How many rows the file has grows and falls with the copies as they are written
(`rowCounts_isChain`), which is as they were taken if and only if the number never falls.
-/

namespace NetworkTuning

/-- The number of rows in the table file at a path; none, if there is no table file. -/
def TableFile.rowCount (files : FileTree) (path : String) : Nat :=
  match TableFile.read files path with
  | .ok rows => rows.length
  | .error _ => 0

/-- The table file at a path reads as what comes back of the rows. -/
def TableFile.Holds (files : FileTree) (path : String) (rows : List Profile) : Prop :=
  ∃ read, TableFile.read files path = .ok read ∧ List.Forall₂ Restored rows read

namespace TableFile

variable {files after : FileTree} {path : String} {rows : List Profile}

theorem Holds.rowCount_eq (holds : Holds files path rows) :
    rowCount files path = rows.length := by
  obtain ⟨read, hread, back⟩ := holds
  simp only [rowCount, hread, back.length_eq]

/-- A table file is read from what is read at its path. -/
theorem read_congr (same : (after.read path).toOption = (files.read path).toOption) :
    (TableFile.read after path).toOption = (TableFile.read files path).toOption := by
  unfold TableFile.read
  cases hafter : after.read path <;> cases hfiles : files.read path <;>
    simp_all [Except.toOption]

theorem rowCount_congr (same : (after.read path).toOption = (files.read path).toOption) :
    rowCount after path = rowCount files path := by
  have hread := read_congr same
  unfold rowCount
  cases hafter : TableFile.read after path <;> cases hfiles : TableFile.read files path <;>
    simp_all [Except.toOption]

theorem Holds.congr (holds : Holds files path rows)
    (same : (after.read path).toOption = (files.read path).toOption) : Holds after path rows := by
  obtain ⟨read, hread, back⟩ := holds
  refine ⟨read, ?_, back⟩
  have hsame := read_congr same
  rw [hread] at hsame
  cases hafter : TableFile.read after path <;> simp_all [Except.toOption]

end TableFile

namespace Training.Team

open NetworkTuning.Random
open scoped List

variable {path : String} {first : Table}

/-- The number of rows in the file. -/
def rowsIn (path : String) (t : Team) : Nat := TableFile.rowCount t.shared.files path

/-- The number of rows in the file after each move of a run. -/
def rowCounts (path : String) : Team → List Move → List Nat
  | _, [] => []
  | t, m :: rest => (t.move path m).rowsIn path :: rowCounts path (t.move path m) rest

/-- The copy that a move writes, unless there is none to write or writing it fails. -/
def writtenAt (path : String) (t : Team) : Move → Option (List Profile)
  | .save place => (t.pendingAt place).filter fun rows =>
      (TableFile.write t.shared.files path rows).2.isOk
  | .advance _ _ _ _ | .stop _ => none

/-- The copies that a run writes, in their order. -/
def written (path : String) : Team → List Move → List (List Profile)
  | _, [] => []
  | t, m :: rest => (t.writtenAt path m).toList ++ written path (t.move path m) rest

/-- The copies that are on their way. -/
def pendings (t : Team) : List (List Profile) := t.workers.filterMap Worker.pending

/-! ## One step -/

theorem advance_files (w : Worker) (s : Shared) : (w.advance s).2.files = s.files := by
  rcases advance_cases w s with ⟨_, h⟩ | ⟨_, _, -, _, _, _, _, -, h⟩
  · rw [h]
  · rw [h]
    rfl

/-- A snapshot that is written replaces the file, and one that fails leaves what is read there. -/
theorem saveSnapshot_cases (s : Shared) (path : String) (rows : List Profile) :
    ((TableFile.write s.files path rows).2.isOk = false ∧
        ((s.saveSnapshot path rows).1.files.read path).toOption = (s.files.read path).toOption) ∨
      ((TableFile.write s.files path rows).2.isOk = true ∧ ∃ count,
        TableFile.write s.files path rows = ((s.saveSnapshot path rows).1.files, .ok count)) := by
  unfold Shared.saveSnapshot
  rcases hwrite : TableFile.write s.files path rows with ⟨after, e | count⟩
  · exact .inl ⟨rfl, TableFile.write_error hwrite⟩
  · exact .inr ⟨rfl, count, rfl⟩

/-- A worker that has nothing to write writes nothing. -/
theorem writtenAt_eq_none {t : Team} {m : Move} (idle : t.pendingAt m.place = none) :
    t.writtenAt path m = none := by
  cases m with
  | advance | stop => rfl
  | save place =>
    rw [Move.place] at idle
    rw [writtenAt, idle, Option.filter_none]

/-- **One step** leaves what is read at the path, or writes a copy to it. -/
theorem move_file (path : String) (t : Team) (m : Move) :
    (t.writtenAt path m = none ∧ ((t.move path m).shared.files.read path).toOption =
        (t.shared.files.read path).toOption) ∨
      ∃ rows count, t.writtenAt path m = some rows ∧
        TableFile.write t.shared.files path rows = ((t.move path m).shared.files, .ok count) := by
  have hkept (place : Nat) (f : Worker → Shared → Worker × Shared)
      (kept : ∀ w, (f w t.shared).2.files = t.shared.files) :
      (t.act place f).shared.files = t.shared.files :=
    act_shared (motive := fun s => s.files = t.shared.files) rfl kept
  cases m with
  | advance place draws settings readings =>
    refine .inl ⟨rfl, ?_⟩
    rw [move, hkept]
    intro w
    split
    next => rfl
    next => exact advance_files _ _
  | stop place =>
    refine .inl ⟨rfl, ?_⟩
    rw [move, hkept]
    intro w
    rfl
  | save place =>
    cases hw : t.workers[place]? with
    | none =>
      have hidle : t.pendingAt place = none := by rw [pendingAt, hw, Option.bind_none]
      exact .inl ⟨writtenAt_eq_none hidle, by rw [move, act_nobody hw]⟩
    | some w =>
      rw [move, (act_here hw _).2, writtenAt, pendingAt_of_some hw, Worker.save]
      cases hpending : w.pending with
      | none => exact .inl ⟨rfl, rfl⟩
      | some rows =>
        dsimp only
        rcases saveSnapshot_cases t.shared path rows with ⟨hfailed, hsame⟩ | ⟨hdone, count, hwrite⟩
        · exact .inl ⟨by simp [Option.filter, hfailed], hsame⟩
        · exact .inr ⟨rows, count, by simp [Option.filter, hdone], hwrite⟩

/-- What a worker writes and still has to write is no more than it had to write and the copy that it
takes. -/
theorem move_pending (path : String) (t : Team) (m : Move) :
    ((t.writtenAt path m).toList ++ ((t.move path m).pendingAt m.place).toList).Sublist
      ((t.pendingAt m.place).toList ++ (t.copyAt path m).toList) := by
  unfold copyAt
  cases hbefore : t.pendingAt m.place with
  | none =>
    rw [writtenAt_eq_none hbefore]
  | some rows =>
    obtain ⟨w, hw, hpending⟩ := Option.bind_eq_some_iff.mp hbefore
    rw [Option.toList_none, List.append_nil]
    cases m with
    | save place =>
      rw [Move.place] at hw hbefore ⊢
      have hafter : (t.move path (.save place)).pendingAt place = none := by
        rw [move, pendingAt_of_some (act_here hw _).1]
        exact save_pending path w t.shared
      rw [hafter, Option.toList_none, List.append_nil, writtenAt, hbefore, Option.filter_some]
      split
      next => exact List.Sublist.refl _
      next => exact List.nil_sublist _
    | stop place =>
      rw [Move.place] at hw ⊢
      rw [move, pendingAt_of_some (act_here hw _).1, writtenAt]
      simp [hpending]
    | advance place draws settings readings =>
      rw [Move.place] at hw ⊢
      rw [move, pendingAt_of_some (act_here hw _).1, writtenAt]
      simp [hpending]

theorem filterMap_cons_toList (w : Worker) (rest : List Worker) :
    (w :: rest).filterMap Worker.pending = w.pending.toList ++ rest.filterMap Worker.pending := by
  rw [List.filterMap_cons]
  cases w.pending with
  | none | some => rfl

/-- Next to what the worker that moves has to write, the others have what they had. -/
theorem exists_rest (path : String) (t : Team) (m : Move) :
    ∃ rest, t.pendings.Perm ((t.pendingAt m.place).toList ++ rest) ∧
      (t.move path m).pendings.Perm (((t.move path m).pendingAt m.place).toList ++ rest) := by
  obtain ⟨f, hmove⟩ := exists_act path t m
  rw [hmove]
  cases hw : t.workers[m.place]? with
  | none =>
    refine ⟨t.pendings, ?_⟩
    rw [act_nobody hw, pendingAt, hw]
    exact ⟨.refl _, .refl _⟩
  | some w =>
    rw [pendingAt_of_some hw, pendingAt_of_some (act_here hw f).1]
    obtain ⟨hplace, rfl⟩ := List.getElem?_eq_some_iff.mp hw
    have hworkers : (t.act m.place f).workers =
        t.workers.set m.place (f t.workers[m.place] t.shared).1 := by
      rw [act, hw]
    refine ⟨(t.workers.take m.place).filterMap Worker.pending ++
      (t.workers.drop (m.place + 1)).filterMap Worker.pending, ?_, ?_⟩
    · conv_lhs =>
        rw [pendings, ← List.take_append_drop m.place t.workers, ← List.getElem_cons_drop hplace]
      rw [List.filterMap_append, filterMap_cons_toList]
      exact List.perm_append_comm_assoc _ _ _
    · rw [pendings, hworkers, List.set_eq_take_append_cons_drop, if_pos hplace,
        List.filterMap_append, filterMap_cons_toList]
      exact List.perm_append_comm_assoc _ _ _

/-- What a move writes and leaves to be written is no more than there was to write and the copy that
it takes. -/
theorem move_subperm (path : String) (t : Team) (m : Move) :
    (t.writtenAt path m).toList ++ (t.move path m).pendings <+~
      t.pendings ++ (t.copyAt path m).toList := by
  obtain ⟨rest, hbefore, hafter⟩ := exists_rest path t m
  have hleft : (t.writtenAt path m).toList ++ (t.move path m).pendings ~
      ((t.writtenAt path m).toList ++ ((t.move path m).pendingAt m.place).toList) ++ rest := by
    rw [List.append_assoc]
    exact hafter.append_left _
  have hright : ((t.pendingAt m.place).toList ++ (t.copyAt path m).toList) ++ rest ~
      t.pendings ++ (t.copyAt path m).toList := by
    rw [List.append_assoc]
    apply (List.perm_append_comm.append_left _).trans
    rw [← List.append_assoc]
    exact hbefore.symm.append_right _
  have hmoved := (move_pending path t m).append_right rest
  exact (hleft.subperm.trans hmoved.subperm).trans hright.subperm

/-- The rows of a copy keep apart the keys of neighbours, so that all of them are written. -/
def Clean (t : Team) : Prop :=
  ∀ rows ∈ t.pendings, TableFile.withoutRepeats none rows = rows

/-- **One step** keeps the copies on their way clean, and what is written is clean. -/
theorem move_clean (path : String) {t : Team} (sound : t.Sound first) (clean : t.Clean) (m : Move) :
    (t.move path m).Clean ∧
      ∀ rows, t.writtenAt path m = some rows → TableFile.withoutRepeats none rows = rows := by
  have hcopy : ∀ rows, t.copyAt path m = some rows → TableFile.withoutRepeats none rows = rows := by
    intro rows h
    rcases move_sizes path t m with ⟨-, hnone⟩ | ⟨-, hcopied⟩
    · rw [hnone] at h
      cases h
    · rw [(hcopied rows h).1]
      exact TableFile.withoutRepeats_keys (move_sound sound m).ordered
  have hall : ∀ rows ∈ (t.writtenAt path m).toList ++ (t.move path m).pendings,
      TableFile.withoutRepeats none rows = rows := by
    intro rows hrows
    rcases List.mem_append.mp ((move_subperm path t m).subset hrows) with hrows | hrows
    · exact clean rows hrows
    · exact hcopy rows (Option.mem_toList.mp hrows)
  constructor
  · intro rows hrows
    exact hall rows (List.mem_append_right _ hrows)
  · intro rows hrows
    exact hall rows (List.mem_append_left _ (Option.mem_toList.mpr hrows))

/-- **One step** leaves what is read at the path, or the file holds the copy that was written. -/
theorem move_holds (path : String) {t : Team} (sound : t.Sound first) (clean : t.Clean) (m : Move) :
    (t.writtenAt path m = none ∧ ((t.move path m).shared.files.read path).toOption =
        (t.shared.files.read path).toOption) ∨
      ∃ rows, t.writtenAt path m = some rows ∧
        TableFile.Holds (t.move path m).shared.files path rows := by
  rcases move_file path t m with hsame | ⟨rows, count, hwritten, hwrite⟩
  · exact .inl hsame
  · obtain ⟨read, hread, back, -⟩ := TableFile.read_written hwrite
    rw [(move_clean path sound clean m).2 rows hwritten] at back
    exact .inr ⟨rows, hwritten, read, hread, back⟩

/-! ## Runs -/

/-- **A run** writes copies that were on their way or that it has taken, each at most once. -/
theorem written_subperm (path : String) (t : Team) (moves : List Move) :
    t.written path moves <+~ t.pendings ++ t.copies path moves := by
  induction moves generalizing t with
  | nil => exact List.nil_subperm
  | cons m rest ih =>
    rw [written, copies, ← List.append_assoc]
    have hlater : (t.writtenAt path m).toList ++ written path (t.move path m) rest <+~
        (t.writtenAt path m).toList ++
          ((t.move path m).pendings ++ copies path (t.move path m) rest) :=
      (List.subperm_append_left _).mpr (ih (t.move path m))
    rw [← List.append_assoc] at hlater
    exact hlater.trans ((List.subperm_append_right _).mpr (move_subperm path t m))

/-- A worker that is alone writes its copies as it takes them. -/
theorem written_sublist (path : String) {t : Team} (alone : t.workers.length ≤ 1)
    (moves : List Move) :
    (t.written path moves).Sublist ((t.pendingAt 0).toList ++ t.copies path moves) := by
  induction moves generalizing t with
  | nil => exact List.nil_sublist _
  | cons m rest ih =>
    have hlength : (t.move path m).workers.length = t.workers.length := by
      obtain ⟨f, hmove⟩ := exists_act path t m
      rw [hmove, act]
      split
      next => rfl
      next => rw [List.length_set]
    have hlater := ih (hlength ▸ alone)
    rw [written, copies, ← List.append_assoc]
    have hstep : ((t.writtenAt path m).toList ++ ((t.move path m).pendingAt 0).toList).Sublist
        ((t.pendingAt 0).toList ++ (t.copyAt path m).toList) := by
      by_cases hplace : m.place = 0
      · rw [← hplace]
        exact move_pending path t m
      · -- there is nobody else to move
        have hnobody : t.pendingAt m.place = none := by
          rw [pendingAt, List.getElem?_eq_none (by omega), Option.bind_none]
        rw [writtenAt_eq_none hnobody, move_pendingAt_ne t hplace]
        exact List.sublist_append_left _ _
    refine (hlater.append_left _).trans ?_
    rw [← List.append_assoc]
    exact hstep.append_right _

/-- **A run** leaves in the file what it has written last. -/
theorem run_file (path : String) {t : Team} (sound : t.Sound first) (clean : t.Clean)
    (moves : List Move) :
    (t.written path moves = [] ∧ ((t.run path moves).shared.files.read path).toOption =
        (t.shared.files.read path).toOption) ∨
      ∃ rows, (t.written path moves).getLast? = some rows ∧
        TableFile.Holds (t.run path moves).shared.files path rows := by
  induction moves generalizing t with
  | nil => exact .inl ⟨rfl, rfl⟩
  | cons m rest ih =>
    obtain ⟨hclean, -⟩ := move_clean path sound clean m
    rw [written, run_cons]
    rcases ih (move_sound sound m) hclean with ⟨hnone, hlater⟩ | ⟨rows, hlast, hholds⟩
    · rw [hnone, List.append_nil]
      rcases move_holds path sound clean m with ⟨hidle, hsame⟩ | ⟨rows, hwritten, hholds⟩
      · exact .inl ⟨by rw [hidle, Option.toList_none], hlater.trans hsame⟩
      · exact .inr ⟨rows, by rw [hwritten]; rfl, hholds.congr hlater⟩
    · refine .inr ⟨rows, ?_, hholds⟩
      rw [List.getLast?_append, hlast, Option.some_or]

/-- The number of rows in the file grows and falls with the copies as they are written. -/
theorem rowCounts_isChain {t : Team} (sound : t.Sound first) (clean : t.Clean)
    (moves : List Move) :
    List.IsChain (· ≤ ·) (t.rowsIn path :: t.rowCounts path moves) ↔
      List.IsChain (· ≤ ·) (t.rowsIn path :: (t.written path moves).map List.length) := by
  induction moves generalizing t with
  | nil => exact Iff.rfl
  | cons m rest ih =>
    obtain ⟨hclean, -⟩ := move_clean path sound clean m
    have hlater := ih (move_sound sound m) hclean
    rw [rowCounts, written, List.map_append, List.isChain_cons_cons, hlater]
    rcases move_holds path sound clean m with ⟨hidle, hsame⟩ | ⟨rows, hwritten, hholds⟩
    · have hcount : (t.move path m).rowsIn path = t.rowsIn path := TableFile.rowCount_congr hsame
      rw [hidle, hcount]
      simp
    · have hcount : (t.move path m).rowsIn path = rows.length := hholds.rowCount_eq
      rw [hwritten, hcount, Option.toList_some, List.map_singleton, List.singleton_append,
        List.isChain_cons_cons]

/-- Of copies that were taken at growing sizes some are written at growing sizes exactly when they
are written in the order in which they were taken. -/
theorem pairwise_iff_sublist {written copies : List (List Profile)} (some : written <+~ copies)
    (ascending : copies.Pairwise fun a b => a.length < b.length) :
    (written.map List.length).Pairwise (· ≤ ·) ↔ written.Sublist copies := by
  rw [List.pairwise_map]
  constructor
  · intro hwritten
    obtain ⟨taken, hperm, hsublist⟩ := some
    have htaken := ascending.sublist hsublist
    have hsizes : (taken.map List.length).Nodup :=
      (List.pairwise_map.mpr htaken).imp fun h => Nat.ne_of_lt h
    have hgrowing : taken.Pairwise fun a b => a.length ≤ b.length :=
      htaken.imp fun h => Nat.le_of_lt h
    have hsame : taken = written := by
      refine hperm.eq_of_pairwise ?_ hgrowing hwritten
      intro a b ha hb hab hba
      exact List.inj_on_of_nodup_map hsizes ha (hperm.mem_iff.mpr hb) (Nat.le_antisymm hab hba)
    exact hsame ▸ hsublist
  · intro hsublist
    exact (ascending.sublist hsublist).imp fun h => Nat.le_of_lt h

theorem start_clean (streams : List Draws) (s : Shared) : (start streams s).Clean := by
  intro rows hrows
  simp [pendings, start] at hrows

/-- **What the snapshot file holds.** However many workers start on a table that was made by
inserting, whatever they draw and look up, however their steps and their writing interleave: the
file reads as the copy that was written last, and as before if none was. The copies that are written
are some of those that are taken, each once, and copies are taken at growing sizes. So the number of
rows in the file never falls exactly when the copies are written in the order in which they were
taken and the first one has as many rows as there were before. A worker that is alone writes its
copies in that order. -/
theorem rows_never_fall_iff (path : String) (capacity : Nat) (profiles : List Profile)
    (streams : List Draws) (s : Shared) (moves : List Move) :
    let start := start streams { s with table := Table.ofList capacity profiles }
    let t := start.run path moves
    let taken := start.copies path moves
    let written := start.written path moves
    ((written = [] ∧
          (t.shared.files.read path).toOption = (start.shared.files.read path).toOption) ∨
        ∃ rows, written.getLast? = some rows ∧ TableFile.Holds t.shared.files path rows) ∧
      written <+~ taken ∧ taken.Pairwise (fun a b => a.length < b.length) ∧
      ((start.rowsIn path :: start.rowCounts path moves).Pairwise (· ≤ ·) ↔
        written.Sublist taken ∧ ∀ first ∈ written.head?, start.rowsIn path ≤ first.length) ∧
      (streams.length ≤ 1 → written.Sublist taken) := by
  intro start t taken written
  obtain ⟨hordered, -⟩ := Table.ofList_ordered capacity profiles
  have hsound : start.Sound (Table.ofList capacity profiles) :=
    start_sound streams (s := { s with table := Table.ofList capacity profiles }) hordered
  have hclean : start.Clean := start_clean _ _
  have hnothing : start.pendings = [] := by simp [start, pendings, Team.start]
  have hsome : written <+~ taken := by
    have hsubperm := written_subperm path start moves
    rwa [hnothing, List.nil_append] at hsubperm
  have hascending := (copies_ascending path start moves).1
  refine ⟨run_file path hsound hclean moves, hsome, hascending, ?_, ?_⟩
  · rw [← List.isChain_iff_pairwise, rowCounts_isChain hsound hclean, List.isChain_cons,
      List.isChain_iff_pairwise, pairwise_iff_sublist hsome hascending, and_comm]
    simp [written]
  · intro halone
    have hidle : start.pendingAt 0 = none := by
      simp [start, pendingAt, Team.start]
    have halone : start.workers.length ≤ 1 := by
      simpa [start, Team.start] using halone
    have hsublist := written_sublist path halone moves
    rwa [hidle, Option.toList_none, List.nil_append] at hsublist

/-- Of two workers the one that has copied six rows writes before the one that has copied four. -/
def late : List Move := turns ++ [.save 0, .save 1]

/-- A worker that starts on two rows again, where a file with six rows was left. -/
def again : Team :=
  start [{}]
    { table := Table.ofList 6 [{ transferRate := 100 }, { transferRate := 200 }]
      files := (pair.run "rows.csv" (turns ++ [.save 0])).shared.files }

/-- The number of rows falls when a copy is written late, and when a run starts over. -/
theorem rows_fall :
    ¬(pair.rowsIn "rows.csv" :: pair.rowCounts "rows.csv" late).Pairwise (· ≤ ·) ∧
      ¬(again.rowsIn "rows.csv" :: again.rowCounts "rows.csv"
        [drawing 0 0x4000000000000000, drawing 0 0xC000000000000000, .save 0]).Pairwise
          (· ≤ ·) := by
  have hpair : pair.Sound pair.shared.table := start_sound _ (Table.ofList_ordered 6 _).1
  have hagain : again.Sound again.shared.table := start_sound _ (Table.ofList_ordered 6 _).1
  constructor
  · intro hgrows
    have hwritten : (pair.written "rows.csv" late).map List.length = [6, 4] := by decide +kernel
    rw [← List.isChain_iff_pairwise, rowCounts_isChain hpair (start_clean _ _), hwritten,
      List.isChain_cons_cons, List.isChain_cons_cons] at hgrows
    exact absurd hgrows.2.1 (by decide)
  · intro hgrows
    have hwritten : (again.written "rows.csv" [drawing 0 0x4000000000000000,
        drawing 0 0xC000000000000000, .save 0]).map List.length = [4] := by decide +kernel
    have hleft : again.rowsIn "rows.csv" = 6 := by
      have hlast : ((pair.written "rows.csv" (turns ++ [.save 0])).getLast?.map List.length) =
          some 6 := by decide +kernel
      rcases run_file "rows.csv" hpair (start_clean _ _) (turns ++ [.save 0]) with
        ⟨hnone, -⟩ | ⟨rows, hrows, hholds⟩
      · rw [hnone] at hlast
        cases hlast
      · rw [hrows] at hlast
        exact hholds.rowCount_eq.trans (Option.some.inj hlast)
    rw [← List.isChain_iff_pairwise, rowCounts_isChain hagain (start_clean _ _), hwritten,
      hleft, List.isChain_cons_cons] at hgrows
    exact absurd hgrows.1 (by decide)

end Training.Team

end NetworkTuning
