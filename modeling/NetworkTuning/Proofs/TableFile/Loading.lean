import NetworkTuning.Proofs.Table.Extremes
import NetworkTuning.Proofs.TableFile.RoundTrip

/-!
# Tables that are loaded

A table file is loaded by inserting its rows one by one, and a row whose key is there already is
passed over. So of all rows with one key the table holds the first (`insertAll_mem_iff`), in the
order of the keys whatever their order in the file is, and a place is never missing, because each
row of the file has one whether it is passed over or not. A table in order is decided by its
capacity and by which rows it holds (`Ordered.eq_of_mem_iff`), so files that hold the same rows in
another order are loaded alike.

The room for all places is asked for before the first row is inserted. A machine that has none stops
there (`load_stops`), so what is said of the table is said of machines that have it
(`load_first_rows`), and no machine has it for every number that may be asked for (`room_runs_out`).
-/

namespace NetworkTuning

namespace Table

variable {t t' grown : Table} {p q : Profile} {index : Nat}

theorem Ordered.rows_ascending (ordered : t.Ordered) :
    t.rows.toList.Pairwise fun p q => p.key < q.key :=
  List.pairwise_map.mp ordered.ascending

/-- A table in order is decided by its rows, whatever order they are told in. -/
theorem Ordered.eq_of_mem_iff (ordered : t.Ordered) (ordered' : t'.Ordered)
    (capacity : t.capacity = t'.capacity) (rows : ∀ p, p ∈ t.rows.toList ↔ p ∈ t'.rows.toList) :
    t = t' := by
  have hnodup {t : Table} (ordered : t.Ordered) : t.rows.toList.Nodup := by
    refine ordered.rows_ascending.imp fun {p q} hlt heq => ?_
    rw [heq] at hlt
    exact UInt64.lt_irrefl _ hlt
  have hrows : t.rows.toList = t'.rows.toList :=
    List.Perm.eq_of_pairwise (fun p q _ _ hpq hqp => absurd hqp (UInt64.lt_asymm hpq))
      ordered.rows_ascending ordered'.rows_ascending
      ((List.perm_ext_iff_of_nodup (hnodup ordered) (hnodup ordered')).mpr rows)
  obtain ⟨⟨rows⟩, capacity⟩ := t
  obtain ⟨⟨rows'⟩, capacity'⟩ := t'
  cases capacity
  cases hrows
  rfl

theorem Grows.mem_iff (step : t.Grows p index grown) :
    q ∈ grown.rows.toList ↔ q = p ∨ q ∈ t.rows.toList := by
  obtain ⟨before, after, hrows, hgrown, -⟩ := step.split
  simp only [hrows, hgrown, List.mem_append, List.mem_cons]
  exact or_left_comm

end Table

namespace TableFile

variable {files : FileTree} {path : String} {profiles : List Profile} {t loaded : Table}
  {learning : UInt64} {memory : Memory}

/-- Rows that are inserted one by one leave the capacity, and of those with a key that is not yet
there the first one is added. -/
theorem insertAll_mem_iff (ordered : t.Ordered) (inserted : insertAll t profiles = .ok loaded) :
    loaded.capacity = t.capacity ∧ ∀ p, p ∈ loaded.rows.toList ↔
      p ∈ t.rows.toList ∨ p.key ∉ t.keys ∧ profiles.find? (·.key = p.key) = some p := by
  induction profiles generalizing t with
  | nil =>
    cases inserted
    simp
  | cons first rest ih =>
    rw [insertAll] at inserted
    split at inserted
    next grown index hinsert =>
      have step := (Table.insert_eq_ok_iff ordered).mp hinsert
      obtain ⟨hcapacity, hmem⟩ := ih (step.ordered ordered) inserted
      refine ⟨hcapacity.trans step.capacity, fun p => ?_⟩
      rw [hmem, step.mem_iff, step.mem_keys_iff]
      by_cases hkey : first.key = p.key
      · have hnew : p.key ∉ t.keys := hkey ▸ step.key_not_mem
        rw [List.find?_cons_of_pos (by simpa using hkey), Option.some.injEq]
        simp only [hkey, not_true_eq_false, false_and, or_false, hnew, not_false_eq_true, true_and]
        rw [or_comm, eq_comm]
      · have hother : p ≠ first := fun h => hkey (congrArg Profile.key h.symm)
        rw [List.find?_cons_of_neg (by simpa using hkey)]
        simp only [hother, false_or, Ne.symm hkey]
    next key hinsert =>
      obtain ⟨hcapacity, hmem⟩ := ih ordered inserted
      have hthere : first.key ∈ t.keys := by
        rcases (Table.insert_eq_error_iff ordered).mp hinsert with ⟨-, h⟩ | ⟨-, h, -⟩
        · cases h
        · exact h
      refine ⟨hcapacity, fun p => ?_⟩
      rw [hmem]
      by_cases hkey : first.key = p.key
      · rw [hkey] at hthere
        simp only [hthere, not_true_eq_false, false_and]
      · rw [List.find?_cons_of_neg (by simpa using hkey)]
    next => cases inserted

/-- Where every key comes once, each row is the first one with its key. -/
theorem find?_key_iff (once : (profiles.map Profile.key).Nodup) (p : Profile) :
    profiles.find? (·.key = p.key) = some p ↔ p ∈ profiles := by
  refine ⟨List.mem_of_find?_eq_some, fun hp => ?_⟩
  cases hfind : profiles.find? (·.key = p.key) with
  | none => simpa using List.find?_eq_none.mp hfind p hp
  | some q =>
    have hkey : q.key = p.key := by simpa using List.find?_some hfind
    rw [List.inj_on_of_nodup_map once (List.mem_of_find?_eq_some hfind) hp hkey]

/-- A file whose rows can be read is loaded where there is room for them and for those asked for, as
a table in order that holds the first row of each key. -/
theorem load_of_read (accepted : read files path = .ok profiles)
    (room : learning.toNat + profiles.length ≤ memory.rows) :
    ∃ table, load files path learning memory = .ok table ∧ table.Ordered ∧
      table.capacity = learning.toNat + profiles.length ∧
      ∀ p, p ∈ table.rows.toList ↔ profiles.find? (·.key = p.key) = some p := by
  obtain ⟨table, hload, hinserted⟩ := exists_load_of_read accepted room
  obtain ⟨hcapacity, hmem⟩ := insertAll_mem_iff (Table.ordered_ofCapacity _) hinserted
  refine ⟨table, hload, load_ordered hload, hcapacity, fun p => ?_⟩
  simpa [Table.ofCapacity, Table.keys] using hmem p

/-- Where there is no room for the places, as far as they can be counted, loading stops. -/
theorem load_stops (accepted : read files path = .ok profiles)
    (counted : learning.toNat + profiles.length < UInt64.size)
    (short : memory.rows < learning.toNat + profiles.length) :
    ∃ places, memory.rows < places ∧ load files path learning memory = .error (.noRoom places) := by
  have hstops {places : Nat} (h : memory.rows < places) :
      allocate memory places = .error (.noRoom places) := if_pos h
  by_cases hrows : memory.rows < profiles.length
  · refine ⟨_, hrows, ?_⟩
    rw [load, accepted]
    simp only [bind, Except.bind, hstops hrows]
  · have hread : allocate memory profiles.length = .ok () :=
      allocate_ok_iff.mpr (Nat.not_lt.mp hrows)
    refine ⟨_, short, ?_⟩
    rw [load, accepted]
    simp only [bind, Except.bind, hread, toNat_places counted, hstops short]

/-- **A table holds the first row of each key, in order.** Whatever order the rows of a table file
stand in, and however often a key comes: if they can be read, and there is room for a place for each
of them and for as many more as are asked for, then the table is loaded with all these places. Its
keys ascend, and its rows are those that are the first with their key in the file. So two files that
hold the same rows, each key once, in different orders are loaded as one table. If there is no room
for all these places, though their number can be counted, loading stops, and the table is not asked.
-/
theorem load_first_rows (accepted : read files path = .ok profiles) (learning : UInt64)
    (memory : Memory) :
    (learning.toNat + profiles.length ≤ memory.rows →
      ∃ table, load files path learning memory = .ok table ∧
        table.capacity = learning.toNat + profiles.length ∧
        table.keys.Pairwise (· < ·) ∧
        (∀ p, p ∈ table.rows.toList ↔ profiles.find? (·.key = p.key) = some p) ∧
        ∀ files' path' profiles', read files' path' = .ok profiles' →
          (profiles.map Profile.key).Nodup → profiles.Perm profiles' →
            load files' path' learning memory = .ok table) ∧
      (memory.rows < learning.toNat + profiles.length →
        learning.toNat + profiles.length < UInt64.size →
          ∃ places, memory.rows < places ∧
            load files path learning memory = .error (.noRoom places)) := by
  refine ⟨fun room => ?_, fun short counted => load_stops accepted counted short⟩
  obtain ⟨table, hload, hordered, hcapacity, hmem⟩ := load_of_read accepted room
  refine ⟨table, hload, hcapacity, hordered.ascending, hmem, ?_⟩
  intro files' path' profiles' accepted' once perm
  obtain ⟨table', hload', hordered', hcapacity', hmem'⟩ :=
    load_of_read accepted' (perm.length_eq ▸ room)
  have once' : (profiles'.map Profile.key).Nodup :=
    (perm.map Profile.key).nodup_iff.mp once
  have hsame : table' = table := by
    refine hordered'.eq_of_mem_iff hordered ?_ fun p => ?_
    · rw [hcapacity, hcapacity', perm.length_eq]
    · rw [hmem, hmem', find?_key_iff once, find?_key_iff once', perm.mem_iff]
  rw [hload', hsame]

/-- Without a share a profile comes back as it was. -/
theorem read_text_plain {files : FileTree} {path : String} {profiles : List Profile}
    (stands : files.read path = .ok (.text (text profiles)))
    (plain : ∀ p ∈ profiles, p.cpuUsage = 0.0) : read files path = .ok profiles := by
  obtain ⟨back, hread, hback⟩ := read_text stands
  have hzero : Decimal.float? (Decimal.fixed 6 0.0).toList = some 0.0 := by decide +kernel
  suffices back = profiles by rw [hread, this]
  clear stands hread
  induction hback with
  | nil => rfl
  | @cons p q _ _ restored _ ih =>
    obtain ⟨hp, hrest⟩ := List.forall_mem_cons.mp plain
    have hshare := restored.share
    rw [hp, hzero, ← hp] at hshare
    rw [ih hrest, restored.others, ← Option.some.inj hshare]

/-- Two rows in both orders, and with a third row that repeats a key. -/
def shuffledFiles : FileTree :=
  let rows : List Profile := [{ transferRate := 300 }, { transferRate := 100 }]
  ⟨[(["a.csv"], .file (.text (text rows))), (["b.csv"], .file (.text (text rows.reverse))),
    (["c.csv"], .file (.text (text (rows ++ [{ transferRate := 300, dropRate := 1 }]))))]⟩

theorem read_shuffled : read shuffledFiles "a.csv" =
    .ok [{ transferRate := 300 }, { transferRate := 100 }] :=
  read_text_plain rfl (by simp)

/-- Both orders are loaded alike; a place is left for the row that is passed over. -/
theorem shuffled_first_rows :
    (∃ table, load shuffledFiles "a.csv" 5 = .ok table ∧ load shuffledFiles "b.csv" 5 = .ok table) ∧
      (∃ table, load shuffledFiles "c.csv" 0 = .ok table ∧ table.capacity = 3 ∧
        { transferRate := 300 } ∈ table.rows.toList) ∧
      ∃ places, 1000 < places ∧
        load shuffledFiles "a.csv" 999 ⟨1000, by decide⟩ = .error (.noRoom places) := by
  have hreversed : read shuffledFiles "b.csv" =
      .ok [{ transferRate := 100 }, { transferRate := 300 }] :=
    read_text_plain rfl (by simp)
  have hrepeated : read shuffledFiles "c.csv" =
      .ok [{ transferRate := 300 }, { transferRate := 100 },
        { transferRate := 300, dropRate := 1 }] :=
    read_text_plain rfl (by simp)
  obtain ⟨table, hload, -, -, -, hsame⟩ := (load_first_rows read_shuffled 5 .ample).1 (by decide)
  obtain ⟨table', hload', hcapacity, -, hmem, -⟩ :=
    (load_first_rows hrepeated 0 .ample).1 (by decide)
  refine ⟨⟨table, hload, hsame _ _ _ hreversed (by decide) (.swap _ _ _)⟩,
    ⟨table', hload', hcapacity, (hmem _).mpr ?_⟩, ?_⟩
  · simp
  · exact (load_first_rows read_shuffled 999 ⟨1000, by decide⟩).2 (by decide) (by decide)

/-- There is no room for as many more rows as half the machine words count, and the sum of two
counts that is larger than any machine word starts over, which leaves one place for two rows. -/
theorem room_runs_out :
    (∃ rows, read shuffledFiles "a.csv" = .ok rows) ∧
      load shuffledFiles "a.csv" 9223372036854775807 = .error (.noRoom 9223372036854775809) ∧
      load shuffledFiles "a.csv" 18446744073709551615 = .error (.refused (.full 1)) := by
  have hplaces : ((18446744073709551615 : UInt64) + (2 : Nat).toUInt64).toNat = 1 := by decide
  refine ⟨⟨_, read_shuffled⟩, ?_, ?_⟩
  · rw [load, read_shuffled]
    rfl
  · rw [load_eq_insertAll read_shuffled (by decide) (by decide), List.length_cons,
      List.length_singleton, hplaces]
    simp [insertAll, Table.insert, Table.isFull, Table.ofCapacity, Table.place, Table.scan,
      Table.insertAt, Table.openAt, Table.setAt, bind, Except.bind, pure, Except.pure, Except.map]

end TableFile

end NetworkTuning
