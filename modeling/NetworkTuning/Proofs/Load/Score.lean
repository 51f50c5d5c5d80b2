import NetworkTuning.Proofs.Double.Extremes
import NetworkTuning.Settings.Basic
import NetworkTuning.Table.Search

/-!
# Scores under accepted weights

Weights that are accepted lie between zero and one (`Weights.validate_shares`), so the counters of a
load come to a real that is far below the largest double, and only the bias can make a score
infinite or no number at all. It does so for every load alike (`Weights.Shares.score_cases`). Hence
a row never matches such a score: a score that a row lies within a tolerance of is a real
(`Profile.real_of_within`).
-/

open Float.Model Float.Model.UnpackedFloat

namespace NetworkTuning

open Double

/-! ## Weights -/

/-- Each weight lies between zero and one. -/
structure Weights.Shares (w : Weights) : Prop where
  transfer : UpTo w.transfer 0
  drop : UpTo w.drop 0
  errors : UpTo w.errors 0
  fifo : UpTo w.fifo 0

/-- A sum of doubles that are not negative is infinite, or both are reals. -/
theorem add_cases {x y : Float} (hx : 0.0 ≤ x) (hy : 0.0 ≤ y) :
    Means (x + y) ⊤ ∨ ∃ a b : ℝ, Means x a ∧ 0 ≤ a ∧ Means y b ∧ 0 ≤ b := by
  obtain ⟨z, a, hz, ha, hza⟩ := means_of_le hx
  obtain ⟨z', b, hz', hb, hzb⟩ := means_of_le hy
  rw [hz.unique means_zero, EReal.coe_zero] at hza
  rw [hz'.unique means_zero, EReal.coe_zero] at hzb
  induction a with
  | bot => exact absurd hza (by simp)
  | top => exact .inl (ha.top_add hb fun h => by simp [h] at hzb)
  | coe a =>
    induction b with
    | bot => exact absurd hzb (by simp)
    | top => exact .inl (ha.add_top hb)
    | coe b => exact .inr ⟨a, b, ha, EReal.coe_nonneg.mp hza, hb, EReal.coe_nonneg.mp hzb⟩

theorem add_nonneg_of_nonneg {x y : Float} (hx : 0.0 ≤ x) (hy : 0.0 ≤ y) : 0.0 ≤ x + y := by
  rcases add_cases hx hy with h | ⟨a, b, ha, ha0, hb, hb0⟩
  · exact (means_zero.le_iff h).mpr le_top
  · rw [means_zero.le_iff (ha.add hb), ← means_zero.rounded_eq]
    exact rounded_mono (add_nonneg ha0 hb0)

/-- Doubles that are not negative and come to no more than one are shares. -/
theorem upTo_of_add {x y : Float} (hx : 0.0 ≤ x) (hy : 0.0 ≤ y) (h : ¬1.0 < x + y) :
    UpTo x 0 ∧ UpTo y 0 := by
  rcases add_cases hx hy with htop | ⟨a, b, ha, ha0, hb, hb0⟩
  · exact absurd ((means_one.lt_iff htop).mpr (EReal.coe_lt_top 1)) h
  · have hsum : rounded (a + b) ≤ (1 : ℝ) := not_lt.mp fun hlt =>
      h ((means_one.lt_iff (ha.add hb)).mpr hlt)
    have hbound {r : ℝ} {z : Float} (hz : Means z r) (hr : r ≤ a + b) : r ≤ (2 ^ 0 : ℕ) := by
      rw [pow_zero, Nat.cast_one]
      exact EReal.coe_le_coe_iff.mp (hz.rounded_eq ▸ (rounded_mono hr).trans hsum)
    exact ⟨⟨a, ha, ha0, hbound ha (by linarith)⟩, ⟨b, hb, hb0, hbound hb (by linarith)⟩⟩

theorem not_lt_of_upTo {x : Float} (h : UpTo x 0) : ¬1.0 < x := by
  obtain ⟨r, hr, -, h1⟩ := h
  rw [means_one.lt_iff hr, not_lt, EReal.coe_le_coe_iff]
  rwa [pow_zero, Nat.cast_one] at h1

/-- Accepted weights are shares. -/
theorem Weights.validate_shares {w : Weights} (accepted : w.validate = .ok ()) : w.Shares := by
  unfold validate at accepted
  split at accepted
  next => cases accepted
  next hnone =>
    split at accepted
    next => cases accepted
    next hsum =>
      have hnonneg : ∀ entry ∈ w.named, 0.0 ≤ entry.2 := by
        simpa using List.find?_eq_none.mp hnone
      simp only [named, List.forall_mem_cons] at hnonneg
      obtain ⟨htransfer, hdrop, herrors, hfifo, -⟩ := hnonneg
      have htwo := add_nonneg_of_nonneg htransfer hdrop
      obtain ⟨hthree, hlast⟩ := upTo_of_add (add_nonneg_of_nonneg htwo herrors) hfifo hsum
      obtain ⟨hfirst, hthird⟩ := upTo_of_add htwo herrors (not_lt_of_upTo hthree)
      obtain ⟨hone, hsecond⟩ := upTo_of_add htransfer hdrop (not_lt_of_upTo hfirst)
      exact ⟨hone, hsecond, hthird, hlast⟩

/-- The weights of settings that are accepted are accepted. -/
theorem Settings.ofDocument_validate {d : Document} {settings : Settings}
    (accepted : Settings.ofDocument d = .ok settings) : settings.weights.validate = .ok () := by
  unfold ofDocument at accepted
  simp only [bind, Except.bind, pure, Except.pure] at accepted
  -- each check but the last one stands before the weights are looked at
  repeat' split at accepted
  all_goals cases accepted
  next hvalid => exact hvalid

/-- The settings of a document that is accepted, when evaluating it shows that it is. -/
theorem Settings.ofDocument_accepted {d : Document}
    (accepted : (Settings.ofDocument d).toOption.isSome = true) :
    Settings.ofDocument d = .ok ((Settings.ofDocument d).toOption.getD {}) := by
  cases h : Settings.ofDocument d with
  | error e =>
    rw [h] at accepted
    cases accepted
  | ok settings => rfl

/-- The counters of a load come to a small number. -/
theorem Weights.Shares.counted_upTo {w : Weights} (shares : w.Shares)
    (transfer drop errors fifo : UInt64) :
    UpTo (transfer.toFloat * w.transfer + drop.toFloat * w.drop + errors.toFloat * w.errors +
      fifo.toFloat * w.fifo) 67 := by
  have htransfer := (upTo_toFloat transfer).mul shares.transfer (by norm_num)
  have hdrop := (upTo_toFloat drop).mul shares.drop (by norm_num)
  have herrors := (upTo_toFloat errors).mul shares.errors (by norm_num)
  have hfifo := (upTo_toFloat fifo).mul shares.fifo (by norm_num)
  have htwo := htransfer.add hdrop (by norm_num)
  have hthree := htwo.add (herrors.mono (Nat.le_succ 64)) (by norm_num)
  exact hthree.add (hfifo.mono (Nat.le_add_right 64 2)) (by norm_num)

/-! ## Scores -/

/-- Whether a score is a real, an infinity or no number is decided by the bias, for every load
alike. -/
theorem Weights.Shares.score_cases {w : Weights} (shares : w.Shares) :
    (∀ transfer drop errors fifo, ∃ r : ℝ, Means (w.score transfer drop errors fifo) r) ∨
      (∀ transfer drop errors fifo, Means (w.score transfer drop errors fifo) ⊤) ∨
      (∀ transfer drop errors fifo, Means (w.score transfer drop errors fifo) ⊥) ∨
      ∀ transfer drop errors fifo,
        (w.score transfer drop errors fifo).toModel.unpack = .notANumber := by
  rcases means_or_nan w.bias with ⟨c, hbias⟩ | hbias
  · induction c with
    | coe b =>
      refine .inl fun transfer drop errors fifo => ?_
      exact Means.add_small (shares.counted_upTo transfer drop errors fifo) hbias
    | top =>
      refine .inr (.inl fun transfer drop errors fifo => ?_)
      obtain ⟨r, hr, -⟩ := shares.counted_upTo transfer drop errors fifo
      exact hr.add_top hbias
    | bot =>
      refine .inr (.inr (.inl fun transfer drop errors fifo => ?_))
      obtain ⟨r, hr, -⟩ := shares.counted_upTo transfer drop errors fifo
      exact hr.add_bot hbias
  · refine .inr (.inr (.inr fun transfer drop errors fifo => ?_))
    obtain ⟨r, hr, -⟩ := shares.counted_upTo transfer drop errors fifo
    exact hr.add_nan hbias

/-- **A score that a row matches is a real**, under accepted weights. -/
theorem Profile.real_of_within {w : Weights} (accepted : w.validate = .ok ()) {l : Load}
    {p : Profile} {tolerance : Float} (within : p.within (l.score w) tolerance w = true) :
    ∃ r : ℝ, Means (l.score w) r := by
  obtain ⟨c, -, hdistance, -, -⟩ := means_of_le (of_decide_eq_true within)
  obtain ⟨d, hdelta⟩ := means_of_abs hdistance
  obtain ⟨⟨a, hl⟩, b, hp⟩ := means_of_sub hdelta
  rcases (Weights.validate_shares accepted).score_cases with hreal | htop | hbot | hnan
  · exact hreal _ _ _ _
  · exact absurd hdelta (Means.not_sub_self (value?_eq_top (htop _ _ _ _))
      (value?_eq_top (htop _ _ _ _)))
  · exact absurd hdelta (Means.not_sub_self (value?_eq_bot (hbot _ _ _ _))
      (value?_eq_bot (hbot _ _ _ _)))
  · rw [Means, Load.score, hnan] at hl
    cases hl

end NetworkTuning
