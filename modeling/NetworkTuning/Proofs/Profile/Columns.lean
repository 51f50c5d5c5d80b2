import NetworkTuning.Table.Synthesis

/-!
# Columns apart from each other

Writing one column changes it (`Column.get_set`) and leaves the others (`Column.get_set_ne`), so
storing in some columns leaves each of the rest (`Profile.get_storeAll`) and puts in each of them
what it is given (`Profile.get_storeAll_mem`).
-/

namespace NetworkTuning

/-- Setting a column sets it. -/
@[simp] theorem Column.get_set (c : Column) (v : c.width.Value) (p : Profile) :
    c.get (c.set v p) = v := by
  cases c <;> rfl

/-- Setting one column leaves the others. -/
theorem Column.get_set_ne {c d : Column} (other : d ≠ c) (v : c.width.Value) (p : Profile) :
    d.get (c.set v p) = d.get p := by
  cases c <;> cases d <;> first | rfl | exact absurd rfl other

theorem Profile.get_storeAll {columns : List Column} {d : Column} (others : d ∉ columns)
    (value : Column → Float) (p : Profile) : d.get (p.storeAll columns value) = d.get p := by
  induction columns generalizing p with
  | nil => rfl
  | cons c rest ih =>
    obtain ⟨hc, hrest⟩ := not_or.mp fun h => others (List.mem_cons.mpr h)
    exact (ih hrest _).trans (Column.get_set_ne hc _ p)

theorem Profile.get_storeAll_mem {columns : List Column} (distinct : columns.Nodup) {c : Column}
    (mem : c ∈ columns) (value : Column → Float) (p : Profile) :
    c.get (p.storeAll columns value) = c.width.store (value c) := by
  induction columns generalizing p with
  | nil => cases mem
  | cons d rest ih =>
    obtain ⟨hd, hrest⟩ := List.nodup_cons.mp distinct
    rcases List.mem_cons.mp mem with rfl | hc
    · exact (Profile.get_storeAll hd value _).trans (c.get_set _ p)
    · exact ih hrest hc _

/-- A profile keeps its key when something is stored in other columns. -/
theorem Profile.key_storeAll {columns : List Column} (others : .transferRate ∉ columns)
    (value : Column → Float) (p : Profile) : (p.storeAll columns value).key = p.key :=
  p.get_storeAll others value

/-- A profile keeps the load it was recorded under when something is stored in other columns. -/
theorem Profile.load_storeAll {columns : List Column}
    (others : ∀ c ∈ Column.transferRate :: Column.loads, c ∉ columns) (value : Column → Float)
    (p : Profile) : (p.storeAll columns value).load = p.load := by
  have hkept : ∀ c ∈ Column.transferRate :: Column.loads,
      c.get (p.storeAll columns value) = c.get p := fun c hc => p.get_storeAll (others c hc) value
  rw [Profile.load, Profile.load, Load.mk.injEq]
  exact ⟨hkept .transferRate (by decide), hkept .dropRate (by decide), hkept .errorRate (by decide),
    hkept .fifoErrorRate (by decide), hkept .cpuUsage (by decide)⟩

end NetworkTuning
