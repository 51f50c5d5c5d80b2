import NetworkTuning.Statistics.Readings

/-!
# Marks of the transfer rate

The rates of the interface are published one after the other, or that nothing is known of it. The
marks are numbers that start at the two ends of their range, and a mark that stands where it started
counts as absent.

**One step** (`publish_marks`): a transfer rate other than zero draws the low mark down to it and
the high mark up to it, and anything else leaves both. **A run** therefore leaves the least and the
greatest of these rates (`after_lowMark`, `after_highMark`). Zero, where the high mark starts, is
none of them, but the largest number, where the low mark starts, may be one. So the marks are exact
unless there was no rate below the largest number, and then the low mark is missing
(`watermarks_exact_iff`).
-/

namespace NetworkTuning

/-- What is published of the interface: its rates, or that nothing is known. -/
inductive Publication where
  | rates (transfer drop errors fifo : UInt64)
  | unknown
  deriving Repr, DecidableEq, Inhabited

/-- The transfer rate that is published, unless it is zero. -/
def Publication.transfer? : Publication → Option UInt64
  | rates transfer _ _ _ => if transfer = 0 then none else some transfer
  | unknown => none

/-- The transfer rates other than zero that were published. -/
def transfers (ps : List Publication) : List UInt64 := ps.filterMap Publication.transfer?

/-- The largest transfer rate that can be published. -/
def largestRate : UInt64 := 0xFFFFFFFFFFFFFFFF

instance lawfulMaxWord64 : Std.LawfulOrderMax UInt64 where
  max_eq_or a b := by
    change (if a ≤ b then b else a) = a ∨ (if a ≤ b then b else a) = b
    split <;> simp
  max_le_iff a b c := by
    change (if a ≤ b then b else a) ≤ c ↔ a ≤ c ∧ b ≤ c
    split
    next h => exact ⟨fun h' => ⟨UInt64.le_trans h h', h'⟩, And.right⟩
    next h =>
      have hba : b ≤ a := UInt64.le_of_lt (UInt64.not_le.mp h)
      exact ⟨fun h' => ⟨h', UInt64.le_trans hba h'⟩, And.left⟩

namespace Readings

/-- Publishes once. -/
def publish (r : Readings) : Publication → Readings
  | .rates transfer drop errors fifo => r.publishRates transfer drop errors fifo
  | .unknown => r.clearRates

/-- What fresh readings come to when something is published again and again. -/
def after (ps : List Publication) : Readings := ps.foldl publish {}

variable {ps : List Publication}

theorem publishRates_marks (r : Readings) (transfer drop errors fifo : UInt64) :
    (r.publishRates transfer drop errors fifo).lowMark =
        (if transfer = 0 then r.lowMark else min r.lowMark transfer) ∧
      (r.publishRates transfer drop errors fifo).highMark =
        (if transfer = 0 then r.highMark else max r.highMark transfer) := by
  unfold publishRates
  by_cases h : transfer = 0
  · subst h
    exact ⟨rfl, rfl⟩
  · have hpos : 0 < transfer := UInt64.pos_iff_ne_zero.mpr h
    simp only [if_pos hpos, if_neg h, and_self]

/-- **One step.** The marks move to a transfer rate that is beyond them. -/
theorem publish_marks (r : Readings) (p : Publication) :
    (r.publish p).lowMark = p.transfer?.elim r.lowMark (min r.lowMark) ∧
      (r.publish p).highMark = p.transfer?.elim r.highMark (max r.highMark) := by
  cases p with
  | unknown => exact publishRates_marks r 0 0 0 0
  | rates transfer drop errors fifo =>
    obtain ⟨hlow, hhigh⟩ := publishRates_marks r transfer drop errors fifo
    rw [publish, hlow, hhigh, Publication.transfer?]
    split <;> exact ⟨rfl, rfl⟩

/-- **A run** moves the marks over all transfer rates. -/
theorem foldl_publish_marks (ps : List Publication) (r : Readings) :
    (ps.foldl publish r).lowMark = (transfers ps).foldl min r.lowMark ∧
      (ps.foldl publish r).highMark = (transfers ps).foldl max r.highMark := by
  induction ps generalizing r with
  | nil => exact ⟨rfl, rfl⟩
  | cons p rest ih =>
    obtain ⟨hlow, hhigh⟩ := publish_marks r p
    rw [List.foldl_cons, (ih _).1, (ih _).2, hlow, hhigh, transfers, transfers,
      List.filterMap_cons]
    cases p.transfer? with
    | none | some => exact ⟨rfl, rfl⟩

theorem le_largestRate (n : UInt64) : n ≤ largestRate :=
  UInt64.le_iff_toNat_le.mpr (Nat.le_of_lt_succ n.toNat_lt)

theorem after_lowMark (ps : List Publication) :
    (after ps).lowMark = (transfers ps).min?.getD largestRate := by
  have hmin (n : UInt64) : min largestRate n = n := by
    change (if largestRate ≤ n then largestRate else n) = n
    split
    next h => exact UInt64.le_antisymm h (le_largestRate n)
    next => rfl
  rw [after, (foldl_publish_marks ps {}).1, List.foldl_min]
  exact hmin _

theorem after_highMark (ps : List Publication) :
    (after ps).highMark = (transfers ps).max?.getD 0 := by
  have hmax (n : UInt64) : max 0 n = n := if_pos UInt64.zero_le
  rw [after, (foldl_publish_marks ps {}).2, List.foldl_max]
  exact hmax _

theorem transfers_ne_zero : ∀ t ∈ transfers ps, t ≠ 0 := by
  intro t ht
  obtain ⟨p, -, hp⟩ := List.mem_filterMap.mp ht
  cases p with
  | unknown => cases hp
  | rates transfer =>
    simp only [Publication.transfer?] at hp
    split at hp
    next => cases hp
    next h =>
      obtain rfl := Option.some.inj hp
      exact h

/-- **The marks are exact** as soon as there was a transfer rate below the largest one: the low mark
is the least of all transfer rates other than zero that were published, and the high mark the
greatest. They are absent if there was none. Where all of them were the largest one, the high mark
is exact, and the low mark is absent nevertheless. -/
theorem watermarks_exact_iff (ps : List Publication) :
    (after ps).watermarks =
        ⟨(transfers ps).min?.filter (· ≠ largestRate), (transfers ps).max?⟩ ∧
      ((after ps).watermarks = ⟨(transfers ps).min?, (transfers ps).max?⟩ ↔
        transfers ps = [] ∨ ∃ t ∈ transfers ps, t < largestRate) := by
  have hmarks : (after ps).watermarks =
      ⟨(transfers ps).min?.filter (· ≠ largestRate), (transfers ps).max?⟩ := by
    rw [watermarks, after_lowMark, after_highMark, Watermarks.mk.injEq]
    constructor
    · change (if _ = largestRate then none else some _) = _
      cases (transfers ps).min? with
      | none => rfl
      | some least => by_cases h : least = largestRate <;> simp [Option.filter_some, h]
    · cases hmost : (transfers ps).max? with
      | none => rfl
      | some most => exact if_neg (transfers_ne_zero most (List.max?_eq_some_iff.mp hmost).1)
  refine ⟨hmarks, ?_⟩
  rw [hmarks, Watermarks.mk.injEq, and_iff_left rfl]
  cases hleast : (transfers ps).min? with
  | none => simp [List.min?_eq_none_iff.mp hleast]
  | some least =>
    obtain ⟨hmem, hle⟩ := List.min?_eq_some_iff.mp hleast
    have hsome : transfers ps ≠ [] := List.ne_nil_of_mem hmem
    rw [or_iff_right hsome, Option.filter_eq_some_iff]
    constructor
    · rintro ⟨-, h⟩
      exact ⟨least, hmem, UInt64.lt_of_le_of_ne (le_largestRate least) (of_decide_eq_true h)⟩
    · rintro ⟨t, ht, hless⟩
      have hbelow : least < largestRate := UInt64.lt_of_le_of_lt (hle t ht) hless
      exact ⟨rfl, decide_eq_true (UInt64.ne_of_lt hbelow)⟩

/-- The least of the transfer rates that were published is not always the low mark: of the largest
one alone there is none. -/
theorem full_speed_unmarked :
    (after [.rates largestRate 0 0 0]).watermarks ≠
      ⟨(transfers [.rates largestRate 0 0 0]).min?, (transfers [.rates largestRate 0 0 0]).max?⟩ := by
  decide

end Readings

end NetworkTuning
