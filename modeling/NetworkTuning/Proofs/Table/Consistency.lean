import NetworkTuning.Proofs.Load.Tolerance
import NetworkTuning.Proofs.Profile.Columns
import NetworkTuning.Proofs.Profile.Sizes
import NetworkTuning.Proofs.Table.Growth

/-!
# Derived profiles beside their neighbours

What a derived profile takes over or scales is pulled back to the neighbour toward which its place
moved, by the tolerance around the neighbour's value. It then lies on the reference's side of that
neighbour, as the order of the table wants it, unless the tolerance is negative and pushes it beyond
(`Adjustment.slack_means`). Only a logarithm is ever negative here, and that of what is neither zero
nor at least one (`Approximation.Widens`). `synthesize_consistent` says so of every column that does
not come from a live reading.
-/

open Float.Model Float.Model.UnpackedFloat

namespace NetworkTuning

open Double

/-! ## Tolerances around a neighbour's value -/

/-- Whether an approximation makes no negative tolerance of a product that is not negative. -/
def Approximation.Widens (f : Approximation) (product : Float) : Prop :=
  f.IsLogarithm → product == 0.0 ∨ 1.0 ≤ product

/-- The tolerances that are numbers, and zero in place of the others. -/
theorem Adjustment.slack_means {a : Adjustment} {x : Float} {q : ℝ}
    (hproduct : Means (x * a.precision) q) (nonneg : 0 ≤ q) :
    ∃ s : ℝ, Means (a.slack x) s ∧ (0 ≤ s ↔ a.approximation.Widens (x * a.precision)) := by
  have hzero : (x * a.precision == 0.0) = true ↔ q = 0 := by
    rw [hproduct.beq_iff means_zero, EReal.coe_eq_coe_iff]
  have hone : 1.0 ≤ x * a.precision ↔ 1 ≤ q := by
    rw [means_one.le_iff hproduct, EReal.coe_le_coe_iff]
  rw [Approximation.Widens, hzero, hone, slack]
  by_cases hfinite : (tolerance x a.precision a.approximation).isFinite = true
  · obtain ⟨s, hs⟩ := isFinite_iff.mp hfinite
    refine ⟨s, (if_pos hfinite).symm ▸ hs, ?_⟩
    by_cases hlogarithm : a.approximation.IsLogarithm
    · have hpositive : q ≠ 0 := by
        rintro rfl
        exact EReal.coe_ne_bot s (hs.unique (hlogarithm.of_zero hproduct))
      have hsign := hlogarithm.nonneg_iff hproduct
      rw [← tolerance, means_zero.le_iff hs, EReal.coe_le_coe_iff] at hsign
      rw [hsign]
      simp only [hlogarithm, hpositive, false_or, true_imp_iff]
    · have hnonneg : 0.0 ≤ x * a.precision :=
        (means_zero.le_iff hproduct).mpr (EReal.coe_nonneg.mpr nonneg)
      have hsign := (a.approximation.nonneg_apply_iff hproduct).mpr
        (Approximation.nonnegAt_of_nonneg hlogarithm hnonneg)
      rw [← tolerance, means_zero.le_iff hs, EReal.coe_le_coe_iff] at hsign
      exact iff_of_true hsign fun h => absurd h hlogarithm
  · refine ⟨0, (if_neg hfinite).symm ▸ means_zero, iff_of_true le_rfl fun hlogarithm => ?_⟩
    by_contra hnone
    have hpositive : 0 < q := lt_of_le_of_ne nonneg fun h => hnone (.inl h.symm)
    obtain ⟨l, hl, -⟩ := hlogarithm.of_pos hproduct hpositive
    exact hfinite (isFinite_iff.mpr ⟨l, hl⟩)

/-! ## Values pulled back -/

/-- A column's value in the range in which every whole number has a double of its own. -/
def Column.InRange (c : Column) (p : Profile) : Prop :=
  0.0 ≤ c.measure p ∧ c.measure p < 9007199254740992.0

instance (c : Column) (p : Profile) : Decidable (c.InRange p) :=
  inferInstanceAs (Decidable (_ ∧ _))

theorem means_two_pow_53 : Means 9007199254740992.0 (2 ^ 53 : ℝ) := by
  have hword : (9007199254740992.0 : Float) = (9007199254740992 : UInt64).toFloat := by
    decide +kernel
  have h := means_toFloat 9007199254740992
  rw [show (9007199254740992 : UInt64).toNat = 2 ^ 53 from rfl, nearest_two_pow] at h
  rw [hword]
  exact_mod_cast h

theorem Column.InRange.means {c : Column} {p : Profile} (inRange : c.InRange p) :
    ∃ r : ℝ, Means (c.measure p) r ∧ 0 ≤ r ∧ r < 2 ^ 53 := by
  obtain ⟨r, hr, hr0, -⟩ :=
    real_of_between inRange.1 means_two_pow_53 (float_le_of_lt inRange.2)
  exact ⟨r, hr, hr0, EReal.coe_lt_coe_iff.mp ((hr.lt_iff means_two_pow_53).mp inRange.2)⟩

section

variable {a : Adjustment} {c : Column} {p : Profile} {x : Float} {b : EReal}

/-- The product with a precision is a real that is not negative. -/
theorem Column.InRange.product (inRange : c.InRange p) {precision : Float}
    (precise : UpTo precision 0) : ∃ q : ℝ, Means (c.measure p * precision) q ∧ 0 ≤ q := by
  obtain ⟨r, hr, hr0, hr1⟩ := inRange.means
  have hvalue : UpTo (c.measure p) 53 := ⟨r, hr, hr0, by exact_mod_cast hr1.le⟩
  obtain ⟨q, hq, hq0, -⟩ := hvalue.mul precise (by norm_num)
  exact ⟨q, hq, hq0⟩

/-- A tolerance that is a number is what pulls back. -/
theorem Adjustment.slack_of_means {y : Float} {l : ℝ}
    (hl : Means (tolerance y a.precision a.approximation) l) :
    a.slack y = tolerance y a.precision a.approximation :=
  if_pos (isFinite_iff.mpr ⟨l, hl⟩)

/-- What lies above the right neighbour's value comes to lie a tolerance below it. -/
theorem Adjustment.adjust_right (right : a.toward = .right (some p)) (above : c.measure p < x) :
    a.adjust c x = c.measure p - a.slack (c.measure p) := by
  simp only [adjust, right, if_pos above]

/-- **What is pulled up to the left neighbour is stored as at least the neighbour's value.** -/
theorem Adjustment.atMost_adjust (left : a.toward = .left (some p)) (inRange : c.InRange p)
    (precise : UpTo a.precision 0) (widens : a.approximation.Widens (c.measure p * a.precision))
    (hx : Means x b) : c.width.AtMost (c.get p) (c.width.store (a.adjust c x)) := by
  obtain ⟨r, hr, hr0, hr1⟩ := inRange.means
  obtain ⟨q, hq, hq0⟩ := inRange.product precise
  obtain ⟨s, hs, hsign⟩ := slack_means hq hq0
  simp only [adjust, left]
  split_ifs with hbelow
  · refine c.width.atMost_store hr hr1 (hr.add hs) ?_
    rw [← hr.rounded_eq]
    exact rounded_mono (le_add_of_nonneg_right (hsign.mpr widens))
  · rw [hx.lt_iff hr, not_lt] at hbelow
    exact c.width.atMost_store hr hr1 hx hbelow

/-- **What is pulled down to the right neighbour is stored as at most the neighbour's value.** -/
theorem Adjustment.adjust_atMost (right : a.toward = .right (some p)) (inRange : c.InRange p)
    (precise : UpTo a.precision 0) (widens : a.approximation.Widens (c.measure p * a.precision))
    (hx : Means x b) : c.width.AtMost (c.width.store (a.adjust c x)) (c.get p) := by
  obtain ⟨r, hr, hr0, hr1⟩ := inRange.means
  obtain ⟨q, hq, hq0⟩ := inRange.product precise
  obtain ⟨s, hs, hsign⟩ := slack_means hq hq0
  by_cases habove : c.measure p < x
  · rw [adjust_right right habove]
    refine c.width.store_atMost hr hr0 hr1 (hr.sub hs) ?_
    rw [← hr.rounded_eq]
    exact rounded_mono (sub_le_self r (hsign.mpr widens))
  · simp only [adjust, right, if_neg habove]
    rw [hr.lt_iff hx, not_lt] at habove
    exact c.width.store_atMost hr hr0 hr1 hx habove

/-! ## Derived columns -/

/-- The columns of a derived profile that do not come from a live reading. -/
def Column.derived (live : Option Load) : List Column :=
  (if live.isNone then loads else []) ++ seeded ++ scaled

/-- The double from which a derived column is stored, before it is pulled back. -/
def Column.draft (c : Column) (row : Profile) (side : Side) (precision : Float) : Float :=
  if c ∈ scaled then clampToWord32 (scaleValue (c.measure row) side precision) else c.measure row

/-- A draft is some number, even if it may be infinite. -/
theorem Column.exists_draft {row : Profile} (inRange : c.InRange row) {precision : Float}
    (precise : UpTo precision 0) (side : Side) :
    ∃ b : EReal, Means (c.draft row side precision) b := by
  obtain ⟨r, hr, -, -⟩ := inRange.means
  obtain ⟨q, hq, -⟩ := inRange.product precise
  have hscaled : ∃ b : EReal, Means (scaleValue (c.measure row) side precision) b := by
    cases side with
    | below => exact ⟨_, hr.sub hq⟩
    | above => exact ⟨_, hr.add hq⟩
  obtain ⟨b, hb⟩ := hscaled
  rw [draft, clampToWord32]
  split_ifs
  · exact ⟨_, means_zero⟩
  · exact not_not.mp fun h => absurd (isNaN_iff.mpr h) (by decide +kernel)
  · exact ⟨b, hb⟩
  · exact ⟨r, hr⟩

namespace Table

variable {t : Table} {reference : Nat} {key : UInt64} {precision : Float} {f : Approximation}
  {live : Option Load} {row : Profile}

/-- A key that is in no row has a place, so a profile can be derived for it from any row. -/
theorem exists_synthesize (hrow : t.rows[reference]? = some row) (absent : key ∉ t.keys) :
    ∃ new, t.synthesize reference key precision f live = .ok new := by
  obtain ⟨index, hplace⟩ := exists_place absent
  unfold synthesize
  rw [hrow, hplace]
  exact ⟨_, rfl⟩

/-- A derived column holds its draft, pulled back. -/
theorem get_synthesize (hrow : t.rows[reference]? = some row) {new : Synthesized}
    (derived : t.synthesize reference key precision f live = .ok new) {c : Column}
    (mem : c ∈ Column.derived live) :
    c.get new.profile = c.width.store
      (Adjustment.adjust ⟨t.toward new.index reference, precision, f⟩ c
        (c.draft row (if key < row.key then .below else .above) precision)) := by
  have hseeded : ∀ c ∈ Column.seeded, c ∉ Column.scaled := by decide
  have hloads : ∀ c ∈ Column.loads, c ∉ Column.seeded ∧ c ∉ Column.scaled := by decide
  unfold synthesize at derived
  rw [hrow] at derived
  cases hplace : t.place key with
  | error e => rw [hplace] at derived; cases derived
  | ok index =>
    rw [hplace] at derived
    cases derived
    rw [Column.draft]
    rcases List.mem_append.mp mem with hmem | hscaled
    · rcases List.mem_append.mp hmem with hload | hseed
      · cases live with
        | some l => cases hload
        | none =>
          obtain ⟨hother, hrest⟩ := hloads c hload
          rw [Profile.get_storeAll hrest, Profile.get_storeAll hother, if_neg hrest]
          exact Profile.get_storeAll_mem (by decide) hload _ _
      · rw [Profile.get_storeAll (hseeded c hseed), if_neg (hseeded c hseed)]
        exact Profile.get_storeAll_mem (by decide) hseed _ _
    · rw [if_pos hscaled, Profile.get_storeAll_mem (by decide) hscaled]

/-- **A derived profile lies on the reference's side of the neighbour that its place moved toward,
in every column in which the tolerance around the neighbour's value is not negative.** -/
theorem synthesize_consistent (hrow : t.rows[reference]? = some row) (absent : key ∉ t.keys)
    (positive : 0.0 < precision) (share : precision ≤ 1.0)
    (inRange : ∀ p ∈ t.rows, ∀ c ∈ Column.derived live, c.InRange p) :
    ∃ new, t.synthesize reference key precision f live = .ok new ∧
      ∀ c ∈ Column.derived live,
        (∀ left, new.index < reference → t.leftOf? new.index = some left →
          f.Widens (c.measure left * precision) →
            c.width.AtMost (c.get left) (c.get new.profile)) ∧
        (∀ right, reference < new.index → t.rightOf? new.index = some right →
          f.Widens (c.measure right * precision) →
            c.width.AtMost (c.get new.profile) (c.get right)) := by
  obtain ⟨new, hnew⟩ := exists_synthesize hrow absent
  have hprecise : UpTo precision 0 := upTo_of_le_one (float_le_of_lt positive) share
  refine ⟨new, hnew, fun c hc => ?_⟩
  have hinRange : ∀ {i p}, t.rows[i]? = some p → c.InRange p := fun h =>
    inRange _ (Array.mem_of_getElem? h) c hc
  obtain ⟨b, hdraft⟩ := Column.exists_draft (hinRange hrow) hprecise
    (if key < row.key then .below else .above)
  rw [get_synthesize hrow hnew hc]
  refine ⟨fun left hbelow hleft hwidens => ?_, fun right habove hright hwidens => ?_⟩
  · have htoward : t.toward new.index reference = .left (some left) := by
      rw [toward, if_pos hbelow, hleft]
    have hneighbour : c.InRange left := by
      rw [leftOf?] at hleft
      split at hleft
      · cases hleft
      · exact hinRange hleft
    exact Adjustment.atMost_adjust htoward hneighbour hprecise hwidens hdraft
  · have htoward : t.toward new.index reference = .right (some right) := by
      rw [toward, if_neg habove.le.not_gt, if_pos habove, hright]
    exact Adjustment.adjust_atMost htoward (hinRange hright) hprecise hwidens hdraft

/-- Two rows of which the lower one was recorded with more dropped packets. -/
def uneven (more less : UInt64) : Table where
  rows := #[{ transferRate := 100, dropRate := more }, { transferRate := 300, dropRate := less }]
  capacity := 3

/-- With many drops, a hundredth of them has a logarithm that is not negative. -/
theorem uneven_consistent :
    ∃ new, (uneven 900 500).synthesize 0 200 0.01 .commonLogarithm none = .ok new ∧
      new.profile.dropRate ≤ 500 := by
  have hreference : (uneven 900 500).rows[0]? = some { transferRate := 100, dropRate := 900 } := rfl
  have habsent : 200 ∉ (uneven 900 500).keys := by decide
  have hpositive : (0.0 : Float) < 0.01 := by decide +kernel
  have hinRange : ∀ p ∈ (uneven 900 500).rows, ∀ c ∈ Column.derived none, c.InRange p := by
    decide +kernel
  obtain ⟨new, hnew, hcolumns⟩ := synthesize_consistent (f := .commonLogarithm) hreference habsent
    hpositive (by decide +kernel) hinRange
  have hindex : new.index = 1 := (Except.ok.inj (synthesize_ok hnew).1).symm
  refine ⟨new, hnew, ?_⟩
  exact (hcolumns .dropRate (by decide)).2 _ (by rw [hindex]; decide) (by rw [hindex]; rfl)
    fun _ => .inr (by decide +kernel)

/-- With few drops it is negative, and the new row gets more of them than either of the two. -/
theorem uneven_overshoots :
    (∀ p ∈ (uneven 2 1).rows, ∀ c ∈ Column.derived none, c.InRange p) ∧
      ∃ new right, (uneven 2 1).synthesize 0 200 0.001 .commonLogarithm none = .ok new ∧
        0 < new.index ∧ (uneven 2 1).rightOf? new.index = some right ∧
        ∀ p ∈ [{ transferRate := 100, dropRate := 2 }, right],
          ¬Column.dropRate.width.AtMost (Column.dropRate.get new.profile) (Column.dropRate.get p)
    := by
  obtain ⟨new, hnew⟩ : ∃ new, (uneven 2 1).synthesize 0 200 0.001 .commonLogarithm none = .ok new :=
    exists_synthesize rfl (by decide)
  have hindex : new.index = 1 := (Except.ok.inj (synthesize_ok hnew).1).symm
  refine ⟨by decide +kernel, new, _, hnew, by rw [hindex]; decide, by rw [hindex]; rfl, ?_⟩
  have hget := get_synthesize (c := .dropRate) rfl hnew (by decide)
  rw [hindex] at hget
  obtain ⟨l, hl, -, hhigh⟩ := log10_between (x := (1 : UInt64).toFloat * 0.001) (k := -3)
    (by decide +kernel) (by decide) (by decide)
  have hone : Means (1 : UInt64).toFloat ((1 : ℕ) : ℝ) := means_toFloat_of_lt (by decide)
  have hthree : Means (3 : UInt64).toFloat ((3 : ℕ) : ℝ) := means_toFloat_of_lt (by decide)
  let a : Adjustment := ⟨(uneven 2 1).toward 1 0, 0.001, .commonLogarithm⟩
  have hpulled : a.adjust .dropRate (2 : UInt64).toFloat =
      (1 : UInt64).toFloat - tolerance (1 : UInt64).toFloat 0.001 .commonLogarithm := by
    rw [Adjustment.adjust_right (p := { transferRate := 300, dropRate := 1 }) rfl
      (by decide +kernel)]
    exact congrArg _ (Adjustment.slack_of_means hl)
  have hstored : Width.word64.AtMost 3 (Width.word64.store (a.adjust .dropRate
      (2 : UInt64).toFloat)) := by
    have hsum : ((3 : ℕ) : ℝ) ≤ (1 : ℕ) - l := by
      norm_num at hhigh ⊢
      linarith
    refine Width.word64.atMost_store hthree (by norm_num) (hpulled ▸ hone.sub hl) ?_
    rw [← hthree.rounded_eq]
    exact rounded_mono hsum
  rw [hget]
  have hmore {n : UInt64} (hn : n < 3) (hbelow : Width.word64.AtMost (Width.word64.store
      (a.adjust .dropRate (2 : UInt64).toFloat)) n) : False :=
    absurd (UInt64.le_trans hstored hbelow) (UInt64.not_le.mpr hn)
  intro p hp
  rcases List.mem_pair.mp hp with rfl | rfl
  · exact hmore (n := 2) (by decide)
  · exact hmore (n := 1) (by decide)

end Table

end

end NetworkTuning
