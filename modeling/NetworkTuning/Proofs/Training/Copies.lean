import NetworkTuning.Proofs.Training.Patience

/-!
# Copies of the table

A worker whose insertion makes the table as large as a multiple of the saving loop copies the rows,
in the same step in which it inserted, and writes the copy later. While it has a copy to write it
does not advance, so a copy is taken exactly when a worker that had none has one.

**One step** (`move_copy`): a move leaves the table and takes no copy, or the table gains one row
and the worker that inserted it takes a copy of all rows if one is due. **A run** of any moves takes
its copies at growing sizes (`copies_ascending`), and under one saving loop at exactly the multiples
of it that the table reaches (`copies_sizes`). Nothing is assumed of the table.
-/

namespace NetworkTuning

/-- A row more makes a table larger by one. -/
theorem Table.Gains.size_eq {t grown : Table} {p : Profile} (gains : t.Gains p grown) :
    grown.size = t.size + 1 := by
  have hlength := gains.perm.length_eq
  rw [List.length_append, List.length_singleton] at hlength
  simpa only [Table.size, Array.length_toList] using hlength

namespace Training

open NetworkTuning.Random

/-- The place of the worker that moves. -/
def Move.place : Move → Nat
  | .advance place _ _ _ | .save place | .stop place => place

/-- A move under settings that call for a snapshot at every multiple of `every`. -/
def Move.SavesEvery (every : Nat) : Move → Prop
  | .advance _ _ settings _ => settings.savingLoop = every
  | .save _ | .stop _ => True

/-- The copy that is due of a table that has just grown: all rows, if their number is a multiple of
the saving loop. -/
def copyDue (t : Table) (savingLoop : Nat) : Option (List Profile) :=
  if t.size % max savingLoop 1 = 0 then some t.rows.toList else none

namespace Team

variable {path : String}

/-- The rows that the worker at a place still has to write. -/
def pendingAt (t : Team) (place : Nat) : Option (List Profile) :=
  t.workers[place]?.bind Worker.pending

/-- A move takes a copy for the worker at a place, which had nothing to write before it and has
these rows to write after it. -/
def Captures (path : String) (t : Team) (m : Move) (place : Nat) (rows : List Profile) : Prop :=
  t.pendingAt place = none ∧ (t.move path m).pendingAt place = some rows

/-- The copy that a move takes for the worker that moves. -/
def copyAt (path : String) (t : Team) (m : Move) : Option (List Profile) :=
  match t.pendingAt m.place with
  | none => (t.move path m).pendingAt m.place
  | some _ => none

/-- The copies that a run takes, in their order. -/
def copies (path : String) : Team → List Move → List (List Profile)
  | _, [] => []
  | t, m :: rest => (t.copyAt path m).toList ++ copies path (t.move path m) rest

end Team

/-! ## One step -/

theorem settle_pending (w : Worker) (r : Step) : (w.settle r).pending = w.pending := by
  cases r with
  | full | inserted => rfl
  | duplicate | missed =>
    simp only [Worker.settle]
    split <;> rfl

/-- A worker that advances leaves the table and has what it had to write, or the table gains one row
and the worker has the copy to write that is due. -/
theorem advance_copy (w : Worker) (s : Shared) :
    ((w.advance s).2.table = s.table ∧
      ((w.advance s).1.pending = w.pending ∨ (w.advance s).1.pending = none)) ∨
      ∃ p, s.table.Gains p (w.advance s).2.table ∧
        (w.advance s).1.pending = copyDue (w.advance s).2.table s.settings.savingLoop := by
  rcases advance_cases w s with
    ⟨draws, h⟩ | ⟨key, draws, -, g, table, metrics, result, hstep, h⟩
  · rw [h]
    exact .inl ⟨rfl, .inl rfl⟩
  · have htaken := step_taken s.table key g s.settings none s.metrics
    rw [hstep] at htaken
    rw [h, settle_pending]
    cases htaken with
    | full | missed | duplicate => exact .inl ⟨rfl, .inr rfl⟩
    | inserted _ _ haugment =>
      obtain ⟨new, -, hgains⟩ := Table.augment_gains haugment
      exact .inr ⟨new.profile, hgains, rfl⟩

namespace Team

theorem pendingAt_of_some {t : Team} {place : Nat} {w : Worker}
    (here : t.workers[place]? = some w) : t.pendingAt place = w.pending := by
  rw [pendingAt, here, Option.bind_some]

/-- A move is an act of the worker that moves. -/
theorem exists_act (path : String) (t : Team) (m : Move) :
    ∃ f, t.move path m = t.act m.place f := by
  cases m with
  | advance | save | stop =>
    rw [move]
    exact ⟨_, rfl⟩

/-- Nobody but the worker that moves has something else to write. -/
theorem move_pendingAt_ne (t : Team) {m : Move} {place : Nat} (other : m.place ≠ place) :
    (t.move path m).pendingAt place = t.pendingAt place := by
  obtain ⟨f, hmove⟩ := exists_act path t m
  rw [hmove, pendingAt, act_elsewhere t other f, ← pendingAt]

/-- Only the worker that moves takes a copy. -/
theorem captures_iff {t : Team} {m : Move} {place : Nat} {rows : List Profile} :
    t.Captures path m place rows ↔ m.place = place ∧ t.copyAt path m = some rows := by
  unfold Captures copyAt
  constructor
  · rintro ⟨hbefore, hafter⟩
    have hplace : m.place = place := by
      by_contra hother
      rw [move_pendingAt_ne t hother, hbefore] at hafter
      cases hafter
    subst hplace
    rw [hbefore]
    exact ⟨rfl, hafter⟩
  · rintro ⟨rfl, hcopy⟩
    cases hbefore : t.pendingAt m.place with
    | none =>
      rw [hbefore] at hcopy
      exact ⟨rfl, hcopy⟩
    | some rows =>
      rw [hbefore] at hcopy
      cases hcopy

/-- No copy is taken when the worker that moves has nothing new to write after it. -/
theorem copyAt_eq_none {t : Team} {m : Move}
    (h : (t.move path m).pendingAt m.place = t.pendingAt m.place ∨
      (t.move path m).pendingAt m.place = none) : t.copyAt path m = none := by
  unfold copyAt
  cases hbefore : t.pendingAt m.place with
  | none =>
    rcases h with h | h
    · exact h.trans hbefore
    · exact h
  | some rows => rfl

/-- An act that leaves the table and what is to be written, or drops it, takes no copy. -/
theorem copyAt_of_act {t : Team} {m : Move} {f : Worker → Shared → Worker × Shared}
    (acts : t.move path m = t.act m.place f)
    (table : ∀ w, (f w t.shared).2.table = t.shared.table)
    (pending : ∀ w : Worker, (f w t.shared).1.pending = w.pending ∨
      (f w t.shared).1.pending = none) :
    (t.move path m).shared.table = t.shared.table ∧ t.copyAt path m = none := by
  constructor
  · rw [acts]
    exact act_shared (motive := fun s => s.table = t.shared.table) rfl table
  · apply copyAt_eq_none
    rw [acts]
    cases hw : t.workers[m.place]? with
    | none => exact .inl (by rw [act_nobody hw])
    | some w =>
      rw [pendingAt_of_some (act_here hw f).1, pendingAt_of_some hw]
      exact pending w

/-- **One step.** A move leaves the table and takes no copy, or the table gains one row and the
worker that moved takes the copy that is due. -/
theorem move_copy (path : String) (t : Team) (m : Move) :
    ((t.move path m).shared.table = t.shared.table ∧ t.copyAt path m = none) ∨
      ∃ place draws settings readings p, m = .advance place draws settings readings ∧
        t.shared.table.Gains p (t.move path m).shared.table ∧
        t.copyAt path m = copyDue (t.move path m).shared.table settings.savingLoop := by
  cases m with
  | save place =>
    refine .inl (copyAt_of_act (f := Worker.save path) rfl ?_ ?_)
    · intro w
      exact (save_saved path w t.shared).1.table
    · intro w
      exact .inr (save_pending path w t.shared)
  | stop place =>
    refine .inl (copyAt_of_act (f := fun w s => ({ w with ended := true }, s)) rfl ?_ ?_)
    · intro w
      rfl
    · intro w
      exact .inl rfl
  | advance place draws settings readings =>
    rcases move_advance path t place draws settings readings with
      ⟨hsame, -⟩ | ⟨w, hw, -, hidle, -, hworker, hshared⟩
    · exact .inl ⟨by rw [hsame], copyAt_eq_none (.inl (by rw [hsame]))⟩
    · have hbefore : t.pendingAt place = none := (pendingAt_of_some hw).trans hidle
      have hafter := pendingAt_of_some hworker
      have htable := congrArg Shared.table hshared
      rcases advance_copy { w with draws } { t.shared with settings, readings } with
        ⟨hsame, hkept⟩ | ⟨p, hgains, hdue⟩
      · refine .inl ⟨htable.trans hsame, copyAt_eq_none (.inr (hafter.trans ?_))⟩
        rcases hkept with hkept | hkept
        · exact hkept.trans hidle
        · exact hkept
      · refine .inr ⟨place, draws, settings, readings, p, rfl, ?_, ?_⟩
        · rw [htable]
          exact hgains
        · rw [copyAt, Move.place, hbefore, htable]
          exact hafter.trans hdue

/-- A copy that is due holds all rows of the table. -/
theorem copyDue_eq_some {grown : Table} {savingLoop : Nat} {rows : List Profile}
    (due : copyDue grown savingLoop = some rows) :
    rows = grown.rows.toList ∧ rows.length = grown.size := by
  unfold copyDue at due
  split at due
  next =>
    cases due
    exact ⟨rfl, Array.length_toList⟩
  next => cases due

/-- A move leaves the size of the table and takes no copy, or the table is larger by one and a copy
holds all its rows. -/
theorem move_sizes (path : String) (t : Team) (m : Move) :
    ((t.move path m).shared.table.size = t.shared.table.size ∧ t.copyAt path m = none) ∨
      ((t.move path m).shared.table.size = t.shared.table.size + 1 ∧
        ∀ rows, t.copyAt path m = some rows →
          rows = (t.move path m).shared.table.rows.toList ∧
            rows.length = (t.move path m).shared.table.size) := by
  rcases move_copy path t m with ⟨hsame, hnone⟩ | ⟨_, _, settings, _, _, -, hgains, hcopy⟩
  · exact .inl ⟨congrArg Table.size hsame, hnone⟩
  · exact .inr ⟨hgains.size_eq, fun rows h => copyDue_eq_some (hcopy ▸ h)⟩

/-- A move under settings that call for a snapshot at every multiple leaves the table and takes no
copy, or the table gains one row and a copy is taken at a multiple. -/
theorem move_copy_of_savesEvery (path : String) (t : Team) {m : Move} {every : Nat}
    (positive : 0 < every) (fixed : m.SavesEvery every) :
    ((t.move path m).shared.table = t.shared.table ∧ t.copyAt path m = none) ∨
      ∃ p, t.shared.table.Gains p (t.move path m).shared.table ∧
        t.copyAt path m = if every ∣ (t.move path m).shared.table.size then
          some (t.move path m).shared.table.rows.toList else none := by
  rcases move_copy path t m with hsame | ⟨place, draws, settings, readings, p, rfl, hgains, hcopy⟩
  · exact .inl hsame
  · have hloop : settings.savingLoop = every := fixed
    have hmax : max every 1 = every := by omega
    refine .inr ⟨p, hgains, hcopy.trans ?_⟩
    simp only [copyDue, hloop, hmax, Nat.dvd_iff_mod_eq_zero]

end Team

/-! ## Runs -/

namespace Team

variable {path : String} {every : Nat}

theorem run_cons (t : Team) (m : Move) (rest : List Move) :
    t.run path (m :: rest) = (t.move path m).run path rest := rfl

theorem run_size_le (path : String) (t : Team) (moves : List Move) :
    t.shared.table.size ≤ (t.run path moves).shared.table.size := by
  induction moves generalizing t with
  | nil => exact Nat.le_refl _
  | cons m rest ih =>
    have hrest := ih (t.move path m)
    rw [run_cons]
    rcases move_sizes path t m with ⟨hsize, -⟩ | ⟨hsize, -⟩ <;> omega

/-- The sizes that a table goes through when it grows from one size to another, row by row. -/
def sizes (before after : Nat) : List Nat := List.range' (before + 1) (after - before)

theorem sizes_cons {before after : Nat} (reached : before < after) :
    sizes before after = (before + 1) :: sizes (before + 1) after := by
  have hlength : after - before = after - (before + 1) + 1 := by omega
  rw [sizes, hlength, List.range'_succ, sizes]

theorem mem_sizes {before after n : Nat} (h : n ∈ sizes before after) :
    before < n ∧ n ≤ after := by
  obtain ⟨i, hi, rfl⟩ := List.mem_range'.mp h
  omega

/-- **A run** takes its copies at some of the sizes that the table goes through, one for each. -/
theorem copies_sublist_sizes (path : String) (t : Team) (moves : List Move) :
    ((t.copies path moves).map List.length).Sublist
      (sizes t.shared.table.size (t.run path moves).shared.table.size) := by
  induction moves generalizing t with
  | nil => exact List.nil_sublist _
  | cons m rest ih =>
    have hrest := ih (t.move path m)
    have hlast := run_size_le path (t.move path m) rest
    rw [copies, List.map_append, run_cons]
    rcases move_sizes path t m with ⟨hsize, hnone⟩ | ⟨hsize, hcopied⟩
    · rw [hnone, ← hsize]
      exact hrest
    · rw [sizes_cons (by omega), ← hsize]
      cases hcopy : t.copyAt path m with
      | none => exact hrest.cons _
      | some rows =>
        rw [Option.toList_some, List.map_singleton, (hcopied rows hcopy).2]
        exact hrest.cons_cons _

/-- Copies are taken at growing sizes, and none is as small as the table was at the start. -/
theorem copies_ascending (path : String) (t : Team) (moves : List Move) :
    (t.copies path moves).Pairwise (fun a b => a.length < b.length) ∧
      ∀ rows ∈ t.copies path moves, t.shared.table.size < rows.length := by
  have hsublist := copies_sublist_sizes path t moves
  constructor
  · exact List.pairwise_map.mp (List.Pairwise.sublist hsublist List.pairwise_lt_range')
  · intro rows hrows
    exact (mem_sizes (hsublist.subset (List.mem_map_of_mem hrows))).1

/-- Under one saving loop, a run takes its copies at all multiples of it that the table reaches. -/
theorem copies_sizes (path : String) (t : Team) {moves : List Move} (positive : 0 < every)
    (fixed : ∀ m ∈ moves, m.SavesEvery every) :
    (t.copies path moves).map List.length =
      (sizes t.shared.table.size (t.run path moves).shared.table.size).filter (every ∣ ·) := by
  induction moves generalizing t with
  | nil =>
    rw [run, List.foldl_nil, sizes, Nat.sub_self]
    rfl
  | cons m rest ih =>
    have hrest := ih (t.move path m) fun m hm => fixed m (List.mem_cons_of_mem _ hm)
    have hlast := run_size_le path (t.move path m) rest
    rw [copies, List.map_append, hrest, run_cons]
    rcases move_copy_of_savesEvery path t positive (fixed m List.mem_cons_self) with
      ⟨hsame, hnone⟩ | ⟨p, hgains, hcopy⟩
    · rw [hnone, hsame]
      rfl
    · have hsize := hgains.size_eq
      have hreached : t.shared.table.size < ((t.move path m).run path rest).shared.table.size := by
        omega
      rw [hcopy, sizes_cons hreached, ← hsize, List.filter_cons]
      by_cases hdue : every ∣ (t.move path m).shared.table.size
      · rw [if_pos hdue, if_pos (decide_eq_true hdue)]
        rfl
      · rw [if_neg hdue, if_neg fun h => hdue (of_decide_eq_true h)]
        rfl

/-- **Every snapshot is copied once.** However many workers start on a table, whatever they draw and
look up and however their steps interleave, as long as the saving loop stays the same: when an
insertion makes the table as large as a multiple of it, exactly one worker takes a copy in that
step; whoever takes a copy takes all rows of the table that has just grown to such a size. So the
copies of a run are as large as the multiples that the table has reached, one for each. -/
theorem snapshots_copied_once (path : String) (streams : List Draws) (s : Shared)
    (moves : List Move) (every : Nat) (positive : 0 < every)
    (fixed : ∀ m ∈ moves, m.SavesEvery every) :
    let start := start streams s
    (∀ before m after, moves = before ++ m :: after →
      let t := start.run path before
      let grown := (t.move path m).shared.table
      (grown.size ≠ t.shared.table.size → every ∣ grown.size →
          ∃! copy : Nat × List Profile, t.Captures path m copy.1 copy.2) ∧
        ∀ place rows, t.Captures path m place rows →
          grown.size = t.shared.table.size + 1 ∧ every ∣ grown.size ∧
            rows = grown.rows.toList ∧ rows.length = grown.size) ∧
      (start.copies path moves).map List.length =
        (List.range' (s.table.size + 1)
          ((start.run path moves).shared.table.size - s.table.size)).filter (every ∣ ·) := by
  intro start
  refine ⟨fun before m after hmoves => ?_, copies_sizes path start positive fixed⟩
  have hm : m ∈ moves := by
    rw [hmoves]
    exact List.mem_append_right _ List.mem_cons_self
  intro t grown
  rcases move_copy_of_savesEvery path t positive (fixed m hm) with
    ⟨hsame, hnone⟩ | ⟨p, hgains, hcopy⟩
  · refine ⟨fun hgrown _ => absurd (congrArg Table.size hsame) hgrown, fun place rows h => ?_⟩
    rw [captures_iff, hnone] at h
    cases h.2
  · constructor
    · intro _ hdue
      rw [if_pos hdue] at hcopy
      refine ⟨(m.place, grown.rows.toList), captures_iff.mpr ⟨rfl, hcopy⟩, ?_⟩
      rintro ⟨place, rows⟩ h
      obtain ⟨rfl, hrows⟩ := captures_iff.mp h
      rw [hcopy] at hrows
      cases hrows
      rfl
    · intro place rows h
      obtain ⟨-, hrows⟩ := captures_iff.mp h
      rw [hcopy] at hrows
      by_cases hdue : every ∣ grown.size
      · rw [if_pos hdue] at hrows
        cases hrows
        exact ⟨hgains.size_eq, hdue, rfl, Array.length_toList⟩
      · rw [if_neg hdue] at hrows
        cases hrows

/-- The worker at a place draws from one word, under settings that let every row match. -/
def drawing (place : Nat) (word : UInt64) : Move :=
  .advance place { listed := [word] } { weights := { transfer := 0.0 }, savingLoop := 2 } {}

/-- Two workers over two rows, with room for four more. -/
def pair : Team :=
  start [{}, {}] { table := Table.ofList 6 [{ transferRate := 100 }, { transferRate := 200 }] }

/-- Each of two workers takes a copy, the second one before the first has written. -/
def turns : List Move :=
  [drawing 0 0x4000000000000000, drawing 1 0xC000000000000000, drawing 0 0x2000000000000000,
    drawing 0 0x6000000000000000]

theorem pair_copies_four_and_six :
    0 < 2 ∧ (∀ m ∈ turns, m.SavesEvery 2) ∧
      (pair.run "rows.csv" turns).shared.table.keys = [25, 50, 75, 100, 150, 200] ∧
      (pair.copies "rows.csv" turns).map List.length = [4, 6] := by
  have hfixed : ∀ m ∈ turns, m.SavesEvery 2 := by
    simp [turns, drawing, Move.SavesEvery]
  refine ⟨by decide, hfixed, by decide +kernel, ?_⟩
  refine (snapshots_copied_once "rows.csv" _ _ turns 2 (by decide) hfixed).2.trans ?_
  decide +kernel

end Team

end Training

end NetworkTuning
