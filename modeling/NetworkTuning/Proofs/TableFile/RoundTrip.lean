import Mathlib.Data.List.Destutter
import NetworkTuning.Proofs.Table.Calls
import NetworkTuning.Proofs.TableFile.Draft
import NetworkTuning.Proofs.TableFile.Row
import NetworkTuning.Proofs.Text.Pieces

/-!
# Table files that are written and read

The writer passes over a profile that repeats the key of the one written just before
(`withoutRepeats_eq_destutter`), puts every other one in a line of its own behind the header, and
moves the whole file to its place. No line holds a blank, so the reader finds the same lines
(`lines_text`) and what comes back of the profile in each (`readRows_rows`).

**The law** (`read_of_write`): a file that was written is read as what comes back of the profiles
that were not passed over, in their order, and the number the writer gives is the number of rows the
reader finds. Of a table in order nothing is passed over (`withoutRepeats_keys`).

A table is loaded from what was read if there is room for its places (`exists_load_of_read`), and
how much room it is loaded with makes no difference to its rows (`load_without_learning`).
-/

namespace NetworkTuning

/-- A table with the same rows, and room for so many in all. -/
def Table.withCapacity (t : Table) (capacity : Nat) : Table := { t with capacity }

@[simp] theorem Table.rows_withCapacity (t : Table) (capacity : Nat) :
    (t.withCapacity capacity).rows = t.rows := rfl

/-- An insertion needs a free place, and it does not matter how many there are. -/
theorem Table.insert_withCapacity {t : Table} {capacity : Nat} (p : Profile)
    (room : t.size < t.capacity) (room' : t.size < capacity) :
    (t.withCapacity capacity).insert p =
      (t.insert p).map fun r => (r.1.withCapacity capacity, r.2) := by
  have hfull := isFull_eq_false_iff.mpr room
  have hfull' : (t.withCapacity capacity).isFull = false := isFull_eq_false_iff.mpr room'
  have hplace : (t.withCapacity capacity).place p.key = t.place p.key := rfl
  unfold insert
  rw [hfull, hfull', hplace, if_neg Bool.false_ne_true, if_neg Bool.false_ne_true]
  cases t.place p.key with
  | error e => rfl
  | ok index =>
    simp only [insertAt, openAt, hfull, hfull', Bool.false_eq_true, if_false, bind, Except.bind]
    by_cases hinside : t.rows.size < index
    · have hinside' : (t.withCapacity capacity).rows.size < index := hinside
      rw [if_pos hinside, if_pos hinside']
      rfl
    · have hinside' : ¬(t.withCapacity capacity).rows.size < index := hinside
      rw [if_neg hinside, if_neg hinside']
      rfl

namespace TableFile

/-! ## Which profiles are written -/

/-- The key of a profile is not that of the one just before. -/
def Fresh (before p : Profile) : Prop := before.key ≠ p.key

instance : DecidableRel Fresh := fun p q => inferInstanceAs (Decidable (p.key ≠ q.key))

theorem withoutRepeats_some (p : Profile) (rest : List Profile) :
    p :: withoutRepeats (some p.key) rest = rest.destutter' Fresh p := by
  induction rest generalizing p with
  | nil => rfl
  | cons q rest ih =>
    by_cases hkey : p.key = q.key
    · have hrepeat : ¬Fresh p q := fun fresh => fresh hkey
      rw [List.destutter'_cons_neg rest hrepeat, withoutRepeats, if_pos (congrArg some hkey), ih]
    · have hnew : some p.key ≠ some q.key := fun h => hkey (Option.some.inj h)
      rw [List.destutter'_cons_pos rest hkey, withoutRepeats, if_neg hnew, ih]

/-- What is written is the list without each profile that repeats the key of the one written just
before it. -/
theorem withoutRepeats_eq_destutter (profiles : List Profile) :
    withoutRepeats none profiles = profiles.destutter Fresh := by
  cases profiles with
  | nil => rfl
  | cons p rest =>
    rw [List.destutter_cons', withoutRepeats, if_neg nofun]
    exact withoutRepeats_some p rest

/-- Where the keys ascend strictly there are no repeats. -/
theorem withoutRepeats_keys {t : Table} (ordered : t.Ordered) :
    withoutRepeats none t.rows.toList = t.rows.toList := by
  have hfresh : t.rows.toList.Pairwise Fresh :=
    (List.pairwise_map.mp ordered.ascending).imp fun hlt => UInt64.ne_of_lt hlt
  rw [withoutRepeats_eq_destutter]
  exact List.destutter_of_isChain _ _ hfresh.isChain

/-! ## Lines -/

theorem row_ne_nil (p : Profile) : p.row.toList ≠ [] := by
  intro hnil
  have hparts := splitAll_row p
  rw [hnil] at hparts
  have hlength := congrArg List.length hparts
  rw [p.parts_length] at hlength
  exact absurd hlength (by decide)

theorem headerLine_solid : Text.Solid headerLine.toList := by
  have hheader (c : Column) : Text.Solid c.header.toList := by cases c <;> decide
  rw [headerLine, String.toList_intercalate]
  refine Text.solid_intercalate (by decide) fun piece hpiece => ?_
  obtain ⟨s, hs, rfl⟩ := List.mem_map.mp hpiece
  obtain ⟨c, -, rfl⟩ := List.mem_map.mp hs
  exact hheader c

/-- The lines of the text are the header and the rows. -/
theorem lines_text (profiles : List Profile) :
    (Contents.text (text profiles)).lines =
      .ok headerLine.toList :: profiles.map fun p => .ok p.row.toList := by
  have hsolid : ∀ line ∈ (headerLine :: profiles.map Profile.row).map String.toList,
      Text.Solid line := by
    intro line hline
    obtain ⟨s, hs, rfl⟩ := List.mem_map.mp hline
    rcases List.mem_cons.mp hs with rfl | hs
    · exact headerLine_solid
    · obtain ⟨p, -, rfl⟩ := List.mem_map.mp hs
      exact row_solid p
  have htext : (text profiles).toList =
      ((headerLine :: profiles.map Profile.row).map String.toList).flatMap (· ++ ['\n']) := by
    rw [text, String.toList_join, List.flatMap_map, List.flatMap_map]
    exact congrArg (fun f => List.flatMap f _) (funext fun line => String.toList_append)
  rw [Contents.lines, htext, Text.lines_ended hsolid]
  simp only [List.map_cons, List.map_map]
  rfl

/-- Each row is read as what comes back of its profile. -/
theorem readRows_rows {written read : List Profile} (back : List.Forall₂ Restored written read)
    (path : String) (line : Nat) :
    readRows path line (written.map fun p => .ok p.row.toList) = .ok read := by
  induction back generalizing line with
  | nil => rfl
  | @cons p q written read restored _ ih =>
    have hvisible : (Text.trim p.row.toList).isEmpty = false := by
      rw [Text.trim_solid (row_solid p), List.isEmpty_eq_false_iff]
      exact row_ne_nil p
    simp only [List.map_cons, readRows, hvisible, Bool.false_eq_true, if_false,
      ofRow_row restored, ih, bind, Except.bind, pure, Except.pure]

/-! ## Files -/

/-- What comes back of profiles, one by one. -/
theorem exists_forall₂_restored (profiles : List Profile) :
    ∃ read, List.Forall₂ Restored profiles read := by
  induction profiles with
  | nil => exact ⟨[], .nil⟩
  | cons p rest ih =>
    obtain ⟨q, restored⟩ := exists_restored p
    obtain ⟨read, back⟩ := ih
    exact ⟨q :: read, .cons restored back⟩

/-- The text of a table file is read wherever it stands. -/
theorem read_text {files : FileTree} {path : String} {profiles : List Profile}
    (stands : files.read path = .ok (.text (text profiles))) :
    ∃ read, TableFile.read files path = .ok read ∧ List.Forall₂ Restored profiles read := by
  obtain ⟨read, back⟩ := exists_forall₂_restored profiles
  refine ⟨read, ?_, back⟩
  rw [TableFile.read, stands]
  dsimp only
  rw [lines_text, readLines]
  exact readRows_rows back path 2

/-- A write that succeeds is read back from the path. -/
theorem read_written {files after : FileTree} {path : String} {profiles : List Profile}
    {faults : Faults} {count : Nat}
    (written : write files path profiles faults = (after, .ok count)) :
    ∃ read, TableFile.read after path = .ok read ∧
      List.Forall₂ Restored (withoutRepeats none profiles) read ∧ count = read.length := by
  obtain ⟨hread, rfl⟩ := write_ok written
  obtain ⟨read, hback, back⟩ := read_text hread
  exact ⟨read, hback, back, back.length_eq⟩

/-- A table in order is read back row by row. -/
theorem read_written_table {files after : FileTree} {path : String} {t : Table} {faults : Faults}
    {count : Nat} (ordered : t.Ordered)
    (written : write files path t.rows.toList faults = (after, .ok count)) :
    count = t.size ∧ ∃ read, TableFile.read after path = .ok read ∧
      List.Forall₂ Restored t.rows.toList read := by
  obtain ⟨read, hread, back, rfl⟩ := read_written written
  rw [withoutRepeats_keys ordered] at back
  exact ⟨back.length_eq.symm, read, hread, back⟩

/-! ## Loading -/

/-- A table that is loaded is in order. -/
theorem insertAll_ordered (profiles : List Profile) {t loaded : Table} (ordered : t.Ordered)
    (h : insertAll t profiles = .ok loaded) : loaded.Ordered := by
  induction profiles generalizing t with
  | nil =>
    cases h
    exact ordered
  | cons p rest ih =>
    rw [insertAll] at h
    split at h
    next grown index hinsert =>
      exact ih (((Table.insert_eq_ok_iff ordered).mp hinsert).ordered ordered) h
    next => exact ih ordered h
    next => cases h

theorem allocate_ok_iff {memory : Memory} {places : Nat} {done : Unit} :
    allocate memory places = .ok done ↔ places ≤ memory.rows := by
  unfold allocate
  split
  next h => simpa using h
  next h => simpa using h

/-- What it takes to load a table: the rows are read, there is room for them and for the places of
the table, and all rows are inserted or passed over. -/
theorem load_ok_iff {files : FileTree} {path : String} {learning : UInt64} {memory : Memory}
    {loaded : Table} :
    load files path learning memory = .ok loaded ↔
      ∃ profiles, read files path = .ok profiles ∧ profiles.length ≤ memory.rows ∧
        (learning + profiles.length.toUInt64).toNat ≤ memory.rows ∧
        insertAll (Table.ofCapacity (learning + profiles.length.toUInt64).toNat) profiles =
          .ok loaded := by
  simp only [load, bind_ok_iff, allocate_ok_iff, exists_const]

/-- Where there is room, a table is loaded by inserting its rows. -/
theorem load_eq_insertAll {files : FileTree} {path : String} {profiles : List Profile}
    (accepted : read files path = .ok profiles) {learning : UInt64} {memory : Memory}
    (rows : profiles.length ≤ memory.rows)
    (places : (learning + profiles.length.toUInt64).toNat ≤ memory.rows) :
    load files path learning memory =
      insertAll (Table.ofCapacity (learning + profiles.length.toUInt64).toNat) profiles := by
  have hrows : allocate memory profiles.length = .ok () := allocate_ok_iff.mpr rows
  have hplaces : allocate memory (learning + profiles.length.toUInt64).toNat = .ok () :=
    allocate_ok_iff.mpr places
  rw [load, accepted]
  simp only [bind, Except.bind, hrows, hplaces]

theorem load_ordered {files : FileTree} {path : String} {learning : UInt64} {memory : Memory}
    {loaded : Table} (h : load files path learning memory = .ok loaded) : loaded.Ordered := by
  obtain ⟨profiles, -, -, -, hinserted⟩ := load_ok_iff.mp h
  exact insertAll_ordered profiles (Table.ordered_ofCapacity _) hinserted

/-- Where there is room for all profiles, no profile is refused. -/
theorem exists_insertAll (profiles : List Profile) {t : Table} (ordered : t.Ordered)
    (room : t.size + profiles.length ≤ t.capacity) :
    ∃ loaded, insertAll t profiles = .ok loaded := by
  induction profiles generalizing t with
  | nil => exact ⟨t, rfl⟩
  | cons p rest ih =>
    rw [List.length_cons] at room
    rw [insertAll]
    split
    next grown index hinsert =>
      have step := (Table.insert_eq_ok_iff ordered).mp hinsert
      refine ih (step.ordered ordered) ?_
      rw [step.size_eq, step.capacity]
      omega
    next => exact ih ordered (by omega)
    next e hnew hinsert =>
      rcases (Table.insert_eq_error_iff ordered).mp hinsert with ⟨hfull, -⟩ | ⟨-, -, rfl⟩
      · omega
      · exact absurd rfl (hnew _)

/-- Two counts are added as numbers, unless the sum starts over. -/
theorem toNat_places {learning : UInt64} {count : Nat}
    (counted : learning.toNat + count < UInt64.size) :
    (learning + count.toUInt64).toNat = learning.toNat + count := by
  have hcount : count.toUInt64.toNat = count :=
    UInt64.toNat_ofNat_of_lt' (Nat.lt_of_le_of_lt (Nat.le_add_left _ _) counted)
  rw [UInt64.toNat_add, hcount]
  exact Nat.mod_eq_of_lt counted

/-- What there is room for can be counted. -/
theorem rows_lt (memory : Memory) : memory.rows < UInt64.size :=
  Nat.lt_of_le_of_lt memory.bounded (by decide)

/-- Rows that can be read are loaded, if there is room for their places and for those asked for. -/
theorem exists_load_of_read {files : FileTree} {path : String} {profiles : List Profile}
    (accepted : read files path = .ok profiles) {learning : UInt64} {memory : Memory}
    (room : learning.toNat + profiles.length ≤ memory.rows) :
    ∃ loaded, load files path learning memory = .ok loaded ∧
      insertAll (Table.ofCapacity (learning.toNat + profiles.length)) profiles = .ok loaded := by
  obtain ⟨loaded, hinserted⟩ := exists_insertAll profiles
    (Table.ordered_ofCapacity (learning.toNat + profiles.length))
    (by rw [Table.ofCapacity, Table.size]; simp)
  have hplaces := toNat_places (room.trans_lt (rows_lt memory))
  refine ⟨loaded, ?_, hinserted⟩
  rw [load_eq_insertAll accepted (by omega) (by omega), hplaces, hinserted]

/-- A table file that was written can be loaded. -/
theorem exists_load {files after : FileTree} {path : String} {profiles : List Profile}
    {faults : Faults} {count : Nat}
    (written : write files path profiles faults = (after, .ok count)) {learning : UInt64}
    {memory : Memory} (room : learning.toNat + count ≤ memory.rows) :
    ∃ loaded, load after path learning memory = .ok loaded := by
  obtain ⟨read, hread, -, rfl⟩ := read_written written
  obtain ⟨loaded, hload, -⟩ := exists_load_of_read hread room
  exact ⟨loaded, hload⟩

/-- What can be inserted into a table can be inserted into one with more room. -/
theorem insertAll_withCapacity (profiles : List Profile) {t loaded : Table} {capacity : Nat}
    (ordered : t.Ordered) (larger : t.capacity ≤ capacity)
    (inserted : insertAll t profiles = .ok loaded) :
    insertAll (t.withCapacity capacity) profiles = .ok (loaded.withCapacity capacity) := by
  induction profiles generalizing t with
  | nil =>
    cases inserted
    rfl
  | cons p rest ih =>
    rw [insertAll] at inserted
    by_cases hroom : t.size < t.capacity
    · rw [insertAll, Table.insert_withCapacity p hroom (hroom.trans_le larger)]
      cases hinsert : t.insert p with
      | ok r =>
        rw [hinsert] at inserted
        have hgrows := (Table.insert_eq_ok_iff ordered).mp hinsert
        exact ih (hgrows.ordered ordered) (hgrows.capacity ▸ larger) inserted
      | error e =>
        rw [hinsert] at inserted
        cases e with
        | duplicateKey => exact ih ordered larger inserted
        | full | outOfRange => cases inserted
    · have hfull : t.insert p = .error (.full t.capacity) :=
        (Table.insert_eq_error_iff ordered).mpr
          (.inl ⟨Nat.le_antisymm ordered.fits (Nat.not_lt.mp hroom), rfl⟩)
      rw [hfull] at inserted
      cases inserted

/-- A table file that can be loaded with some room to learn can be loaded without, and with the same
rows. -/
theorem load_without_learning {files : FileTree} {path : String} {learning : UInt64}
    {memory : Memory} {table : Table} (loaded : load files path learning memory = .ok table) :
    ∃ same, load files path 0 memory = .ok same ∧ same.rows = table.rows := by
  obtain ⟨profiles, hread, hroom, -, hinserted⟩ := load_ok_iff.mp loaded
  have hnone : (0 : UInt64).toNat + profiles.length ≤ memory.rows := by simpa using hroom
  obtain ⟨same, hload, hsame⟩ := exists_load_of_read hread hnone
  refine ⟨same, hload, ?_⟩
  -- the sum may have started over, and all rows have found room in less places than there are rows
  rcases Nat.le_total (learning + profiles.length.toUInt64).toNat
    ((0 : UInt64).toNat + profiles.length) with hless | hmore
  · have hlarger := insertAll_withCapacity profiles (Table.ordered_ofCapacity _) hless hinserted
    rw [Except.ok.inj (hsame.symm.trans hlarger), Table.rows_withCapacity]
  · have hlarger := insertAll_withCapacity profiles (Table.ordered_ofCapacity _) hmore hsame
    rw [← Except.ok.inj (hlarger.symm.trans hinserted), Table.rows_withCapacity]

/-! ## The law -/

/-- **A table file is read as it was written.** After a write that succeeds, reading succeeds and
gives the profiles, less each one that repeats the key of the one written just before, in order;
each comes back with all its columns but the share, which is what its text reads as. The number the
writer gives is the number of rows read. Of a table that calls built nothing is left out. -/
theorem read_of_write {files after : FileTree} {path : String} {profiles : List Profile}
    {faults : Faults} {count : Nat}
    (written : write files path profiles faults = (after, .ok count)) :
    (∃ read, TableFile.read after path = .ok read ∧
      List.Forall₂ Restored (profiles.destutter Fresh) read ∧ count = read.length) ∧
    ∀ capacity calls, profiles = ((Table.ofCapacity capacity).afterAll calls).rows.toList →
      profiles.destutter Fresh = profiles ∧ count = profiles.length := by
  obtain ⟨read, hread, back, hcount⟩ := read_written written
  refine ⟨⟨read, hread, withoutRepeats_eq_destutter profiles ▸ back, hcount⟩, ?_⟩
  rintro capacity calls rfl
  have ordered := (Table.afterAll_ordered calls (Table.ordered_ofCapacity capacity)).1
  have hkeys := withoutRepeats_keys ordered
  rw [hkeys] at back
  exact ⟨(withoutRepeats_eq_destutter _).symm.trans hkeys, hcount.trans back.length_eq.symm⟩

/-- Of three profiles the second repeats the key of the first; a table of two rows is written as it
is. -/
theorem read_of_repeats_and_table :
    let repeats : List Profile := [{ transferRate := 5, cpuUsage := 1.5 },
      { transferRate := 5, dropRate := 1 }, { transferRate := 3, rxRing := 7 }]
    let calls : List Table.Call := [.insert { transferRate := 5 }, .insert { transferRate := 3 }]
    let table := (Table.ofCapacity 2).afterAll calls
    (∃ after read, write {} "a.csv" repeats = (after, .ok 2) ∧
      TableFile.read after "a.csv" = .ok read ∧ read.length = 2) ∧
    ∃ after, write {} "a.csv" table.rows.toList = (after, .ok 2) ∧
      table.rows.toList.destutter Fresh = table.rows.toList := by
  intro repeats calls table
  have hrepeats : write {} "a.csv" repeats = ((write {} "a.csv" repeats).1, .ok 2) :=
    Prod.ext rfl (by decide +kernel)
  have htable : write {} "a.csv" table.rows.toList =
      ((write {} "a.csv" table.rows.toList).1, .ok 2) := Prod.ext rfl (by decide +kernel)
  obtain ⟨⟨read, hread, -, hcount⟩, -⟩ := read_of_write hrepeats
  obtain ⟨-, hnone⟩ := read_of_write htable
  exact ⟨⟨_, read, hrepeats, hread, hcount.symm⟩, _, htable, (hnone 2 calls rfl).1⟩

end TableFile

end NetworkTuning
