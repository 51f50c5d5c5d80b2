import NetworkTuning.Proofs.Load.Score
import NetworkTuning.Proofs.Settings.Duration

/-!
# Acceptance of settings

What a document must satisfy is a list of requirements on the reals that its doubles stand for
(`Document.requirements`), each with its refusal. A document is refused for the first requirement
that it violates, and it is accepted if it violates none; then the settings are its own, but for a
floor under the snapshots and for its units (`Document.Gives`). What is asked of periods is asked of
seconds, so a period that is accepted may still come to no nanosecond at all
(`Settings.periods_pos_iff`).

Each check of a chain answers for the requirements that it looks at (`Answers`), and a chain of
checks answers for all of them in order (`Answers.guard`, `Answers.bind`).
-/

namespace NetworkTuning

open Double

/-! ## Requirements -/

/-- Something that must hold of a document, and what the document is refused with otherwise. -/
structure Requirement where
  holds : Prop
  refusal : SettingsError

/-- The refusal is that of the first requirement that does not hold. -/
inductive Refused : List Requirement → SettingsError → Prop
  | here {c : Requirement} {rest : List Requirement} (violated : ¬c.holds) :
    Refused (c :: rest) c.refusal
  | later {c : Requirement} {rest : List Requirement} {e : SettingsError} (met : c.holds)
    (refused : Refused rest e) : Refused (c :: rest) e

namespace Refused

variable {cs cs' : List Requirement} {e e' : SettingsError}

theorem not_met (h : Refused cs e) : ¬∀ c ∈ cs, c.holds := by
  induction h with
  | here violated => exact fun met => violated (met _ List.mem_cons_self)
  | later _ _ ih => exact fun met => ih fun c hc => met c (List.mem_cons_of_mem _ hc)

theorem unique (h : Refused cs e) (h' : Refused cs e') : e = e' := by
  induction h with
  | here violated =>
    cases h' with
    | here _ => rfl
    | later met _ => exact absurd met violated
  | later met _ ih =>
    cases h' with
    | here violated => exact absurd met violated
    | later _ refused => exact ih refused

theorem append_right (h : Refused cs e) : Refused (cs ++ cs') e := by
  induction h with
  | here violated => exact .here violated
  | later met _ ih => exact .later met ih

theorem append_left (met : ∀ c ∈ cs, c.holds) (h : Refused cs' e) : Refused (cs ++ cs') e := by
  induction cs with
  | nil => exact h
  | cons c cs ih =>
    obtain ⟨hc, hcs⟩ := List.forall_mem_cons.mp met
    exact .later hc (ih hcs)

end Refused

/-! ## Chains of checks -/

/-- A check refuses for the first requirement that does not hold, and if all of them hold it gives
something of the kind that is wanted. -/
def Answers (cs : List Requirement) {α : Type} (wanted : α → Prop) :
    Except SettingsError α → Prop
  | .error e => Refused cs e
  | .ok a => (∀ c ∈ cs, c.holds) ∧ wanted a

namespace Answers

variable {α β : Type} {c : Requirement} {cs cs' : List Requirement} {P : α → Prop} {Q : β → Prop}
  {x : Except SettingsError α} {e : SettingsError}

theorem error_iff (h : Answers cs P x) : x = .error e ↔ Refused cs e := by
  cases x with
  | error e' =>
    constructor
    · rintro ⟨⟩
      exact h
    · intro refused
      rw [Refused.unique h refused]
  | ok a =>
    constructor
    · rintro ⟨⟩
    · exact fun refused => absurd h.1 refused.not_met

theorem exists_ok_iff (h : Answers cs P x) : (∃ a, x = .ok a) ↔ ∀ c ∈ cs, c.holds := by
  cases x with
  | error e =>
    constructor
    · rintro ⟨a, ⟨⟩⟩
    · exact fun met => absurd met (Refused.not_met h)
  | ok a => exact ⟨fun _ => h.1, fun _ => ⟨a, rfl⟩⟩

theorem wanted_of_ok {a : α} (h : Answers cs P x) (hx : x = .ok a) : P a := by
  subst hx
  exact h.2

/-- Requirements that hold may stand before those that are checked. -/
theorem append_left (met : ∀ c ∈ cs, c.holds) (h : Answers cs' P x) :
    Answers (cs ++ cs') P x := by
  cases x with
  | error e => exact Refused.append_left met h
  | ok a => exact ⟨List.forall_mem_append.mpr ⟨met, h.1⟩, h.2⟩

theorem cons (hc : c.holds) (h : Answers cs P x) : Answers (c :: cs) P x :=
  append_left (List.forall_mem_singleton.mpr hc) h

/-- A test for one requirement, before the rest. -/
theorem guard {p : Prop} [Decidable p] (hp : p ↔ ¬c.holds) (h : c.holds → Answers cs P x) :
    Answers (c :: cs) P (if p then .error c.refusal else x) := by
  split_ifs with hviolated
  · exact .here (hp.mp hviolated)
  · have hc : c.holds := by
      by_contra hnot
      exact hviolated (hp.mpr hnot)
    exact cons hc (h hc)

/-- Checks one after the other, the second with what the first one gave. -/
theorem bind {f : α → Except SettingsError β} (hx : Answers cs P x)
    (hf : ∀ a, P a → Answers cs' Q (f a)) : Answers (cs ++ cs') Q (x >>= f) := by
  cases x with
  | error e => exact Refused.append_right hx
  | ok a => exact append_left hx.1 (hf a hx.2)

/-- What is made of the result of a check needs no further requirement. -/
theorem give {f : α → β} (hx : Answers cs P x) (hf : ∀ a, P a → Q (f a)) :
    Answers cs Q (x >>= fun a => pure (f a)) := by
  cases x with
  | error e => exact hx
  | ok a => exact ⟨hx.1, hf a hx.2⟩

end Answers

/-! ## Single checks -/

/-- The period that is used: the given one if it is positive, one second otherwise. -/
noncomputable def positiveOrOne (x : Float) : Float :=
  open Classical in if ∃ a : EReal, Means x a ∧ 0 < a then x else 1.0

theorem effectivePeriod_eq (x : Float) : effectivePeriod x = positiveOrOne x := by
  have hrefused : (x.isNaN || x ≤ 0.0) = true ↔ ¬∃ a : EReal, Means x a ∧ 0 < a := by
    rw [Bool.or_eq_true, isNaN_iff, decide_eq_true_iff]
    by_cases hnumber : ∃ a, Means x a
    · obtain ⟨a, ha⟩ := hnumber
      have hsome : ¬¬∃ a, Means x a := not_not_intro ⟨a, ha⟩
      rw [or_iff_right hsome, ha.le_iff means_zero, ← pos_iff_exists, means_zero.lt_iff ha, not_lt]
    · exact iff_of_true (.inl hnumber) fun ⟨a, ha, _⟩ => hnumber ⟨a, ha⟩
  unfold effectivePeriod positiveOrOne
  split_ifs with hbad hgood hgood
  · exact absurd hgood (hrefused.mp hbad)
  · rfl
  · rfl
  · exact absurd (hrefused.mpr hgood) hbad

/-- A positive real is what a finite double above zero stands for. -/
theorem pos_real_iff {x : Float} :
    0.0 < x ∧ x.isFinite = true ↔ ∃ r : ℝ, Means x r ∧ 0 < r := by
  rw [isFinite_iff]
  constructor
  · rintro ⟨hpos, r, hr⟩
    exact ⟨r, hr, EReal.coe_lt_coe_iff.mp ((means_zero.lt_iff hr).mp hpos)⟩
  · rintro ⟨r, hr, hpos⟩
    exact ⟨(means_zero.lt_iff hr).mpr (EReal.coe_lt_coe_iff.mpr hpos), r, hr⟩

/-- A share of one is a real; no infinity lies below one and is not negative. -/
theorem share_iff {x : Float} :
    0.0 ≤ x ∧ x < 1.0 ↔ ∃ r : ℝ, Means x r ∧ 0 ≤ r ∧ r < 1 := by
  constructor
  · rintro ⟨hnonneg, hone⟩
    obtain ⟨a, ha, ha0⟩ := nonneg_iff_exists.mp hnonneg
    have ha1 := (ha.lt_iff means_one).mp hone
    lift a to ℝ using ⟨(ha1.trans (EReal.coe_lt_top 1)).ne, (EReal.bot_lt_zero.trans_le ha0).ne'⟩
    exact ⟨a, ha, EReal.coe_nonneg.mp ha0, EReal.coe_lt_coe_iff.mp ha1⟩
  · rintro ⟨r, hr, h0, h1⟩
    exact ⟨(means_zero.le_iff hr).mpr (EReal.coe_le_coe_iff.mpr h0),
      (hr.lt_iff means_one).mpr (EReal.coe_lt_coe_iff.mpr h1)⟩

theorem durationOf_answers (name : String) (x : Float) :
    Answers [⟨Spans x, .outOfRange name x⟩] (Lasts x) (durationOf name x) := by
  unfold durationOf
  cases h : Nanoseconds.ofSeconds? x with
  | none => exact .here (Nanoseconds.ofSeconds?_eq_none_iff.mp h)
  | some n =>
    obtain ⟨hspans, hlasts⟩ := Nanoseconds.ofSeconds?_eq_some h
    exact ⟨List.forall_mem_singleton.mpr hspans, hlasts⟩

theorem Approximation.ofSelector?_eq_none_iff {n : ℤ} :
    Approximation.ofSelector? n = none ↔ ¬(0 ≤ n ∧ n ≤ 4) := by
  unfold Approximation.ofSelector?
  split_ifs with h
  · exact iff_of_true rfl (by omega)
  · rw [List.getElem?_eq_none_iff, show Approximation.all.length = 5 from rfl]
    omega

theorem Approximation.ofSelector?_eq_some {n : ℤ} {f : Approximation}
    (h : Approximation.ofSelector? n = some f) :
    (0 ≤ n ∧ n ≤ 4) ∧ Approximation.all[n.toNat]? = some f := by
  have hrange : 0 ≤ n ∧ n ≤ 4 := by
    by_contra hnot
    rw [Approximation.ofSelector?_eq_none_iff.mpr hnot] at h
    cases h
  refine ⟨hrange, ?_⟩
  rwa [Approximation.ofSelector?, if_neg (not_lt.mpr hrange.1)] at h

/-- A weight is zero or more. -/
def weightRequirement (entry : String × Float) : Requirement :=
  ⟨∃ a : EReal, Means entry.2 a ∧ 0 ≤ a, .negativeWeight entry.1 entry.2⟩

theorem weightRequirement_holds {entry : String × Float} :
    (weightRequirement entry).holds ↔ 0.0 ≤ entry.2 := nonneg_iff_exists.symm

/-- What is asked of weights: each is zero or more, and they come to no more than one when they are
added up as doubles, from the left. -/
def Weights.requirements (w : Weights) : List Requirement := [
  weightRequirement ("transfer_rate_weight", w.transfer),
  weightRequirement ("drop_rate_weight", w.drop),
  weightRequirement ("errors_rate_weight", w.errors),
  weightRequirement ("fifo_errors_rate_weight", w.fifo),
  ⟨∃ a : EReal, Means (w.transfer + w.drop + w.errors + w.fifo) a ∧ a ≤ 1,
    .weightsExceedOne (w.transfer + w.drop + w.errors + w.fifo)⟩]

theorem Weights.requirements_eq (w : Weights) :
    w.requirements = w.named.map weightRequirement ++
      [⟨∃ a : EReal, Means w.sum a ∧ a ≤ 1, .weightsExceedOne w.sum⟩] := rfl

theorem Weights.sum_nonneg {w : Weights} (h : ∀ entry ∈ w.named, 0.0 ≤ entry.2) : 0.0 ≤ w.sum := by
  simp only [named, List.forall_mem_cons] at h
  obtain ⟨htransfer, hdrop, herrors, hfifo, -⟩ := h
  exact add_nonneg_of_nonneg
    (add_nonneg_of_nonneg (add_nonneg_of_nonneg htransfer hdrop) herrors) hfifo

theorem Weights.validate_answers (w : Weights) :
    Answers w.requirements (fun _ => True) w.validate := by
  rw [requirements_eq]
  unfold validate
  cases hfind : w.named.find? fun entry => !(0.0 ≤ entry.2) with
  | some entry =>
    obtain ⟨hentry, before, after, hnamed, hbefore⟩ := List.find?_eq_some_iff_append.mp hfind
    have hviolated : ¬(weightRequirement entry).holds := by
      rw [weightRequirement_holds]
      simpa using hentry
    have hmet : ∀ c ∈ before.map weightRequirement, c.holds := by
      rw [List.forall_mem_map]
      intro earlier hearlier
      rw [weightRequirement_holds]
      simpa using hbefore earlier hearlier
    rw [hnamed, List.map_append, List.map_cons, List.append_assoc]
    exact Refused.append_left hmet (.here hviolated)
  | none =>
    have hnonneg : ∀ entry ∈ w.named, 0.0 ≤ entry.2 := by
      simpa using List.find?_eq_none.mp hfind
    have hmet : ∀ c ∈ w.named.map weightRequirement, c.holds := by
      rw [List.forall_mem_map]
      exact fun entry hentry => weightRequirement_holds.mpr (hnonneg entry hentry)
    -- a sum of weights that are not negative is a number, so it is above one or it is not
    obtain ⟨a, ha, -⟩ := nonneg_iff_exists.mp (sum_nonneg hnonneg)
    refine .append_left hmet (.guard ?_ fun hle => ⟨List.forall_mem_nil _, trivial⟩)
    rw [ha.exists_iff, means_one.lt_iff ha, not_le]
    rfl

/-! ## Documents -/

/-- What is asked of a document, in the order in which it is looked at. -/
noncomputable def Document.requirements (d : Document) : List Requirement :=
  ⟨0 ≤ d.learning, .negativeCount "max_learning_values" d.learning⟩ ::
  ⟨∃ r : ℝ, Means d.inferencePeriod r ∧ 0 < r,
    .badPeriod "inference_loop_period" d.inferencePeriod⟩ ::
  ⟨∃ r : ℝ, Means d.accuracy r ∧ 0 ≤ r ∧ r < 1, .badAccuracy d.accuracy⟩ ::
  ⟨0 ≤ d.approximation ∧ d.approximation ≤ 4, .unknownApproximation d.approximation⟩ ::
  ⟨0 ≤ d.gracePeriod, .negativeCount "grace_period" d.gracePeriod⟩ ::
  ⟨60 * d.gracePeriod < 2 ^ 64, .outOfRange "grace_period" (Float.ofInt d.gracePeriod)⟩ ::
  ⟨Spans (positiveOrOne d.statsPeriod),
    .outOfRange "stats_collection_period" (positiveOrOne d.statsPeriod)⟩ ::
  ⟨Spans d.inferencePeriod, .outOfRange "inference_loop_period" d.inferencePeriod⟩ ::
  d.weights.requirements

/-- The settings are those of the document: at least 1000 insertions between two snapshots, minutes
of grace in nanoseconds, periods to the nearest nanosecond, and everything else as it is given. -/
structure Document.Gives (d : Document) (s : Settings) : Prop where
  learning : (s.learning : ℤ) = d.learning
  savingLoop : (s.savingLoop : ℤ) = max 1000 d.savingLoop
  accuracy : s.accuracy = d.accuracy
  approximation : Approximation.all[d.approximation.toNat]? = some s.approximation
  gracePeriod : (s.gracePeriod : ℤ) = 60 * d.gracePeriod * 10 ^ 9
  statsPeriod : Lasts (positiveOrOne d.statsPeriod) s.statsPeriod
  inferencePeriod : Lasts d.inferencePeriod s.inferencePeriod
  pluginsPath : s.pluginsPath = d.pluginsPath
  weights : s.weights = d.weights
  labels : s.labels = d.labels

theorem Settings.ofDocument_answers (d : Document) :
    Answers d.requirements d.Gives (Settings.ofDocument d) := by
  unfold Settings.ofDocument
  simp only [effectivePeriod_eq]
  -- check by check, in the order of the requirements
  refine .guard not_le.symm fun hlearning => .guard ?_ fun _ => .guard ?_ fun _ => ?_
  · rw [← pos_real_iff]
    simp [imp_iff_not_or]
  · rw [← share_iff]
    simp [imp_iff_not_or]
  · cases hf : Approximation.ofSelector? d.approximation with
    | none => exact .here (Approximation.ofSelector?_eq_none_iff.mp hf)
    | some f =>
      obtain ⟨hselector, happroximation⟩ := Approximation.ofSelector?_eq_some hf
      refine .cons hselector ?_
      refine .guard not_le.symm fun hgrace => .guard ?_ fun _ => ?_
      · change 0 ≤ d.gracePeriod at hgrace
        change 2 ^ 64 ≤ d.gracePeriod.toNat * 60 ↔ ¬60 * d.gracePeriod < 2 ^ 64
        omega
      · refine .bind (durationOf_answers _ _) fun stats hstats =>
          .bind (durationOf_answers _ _) fun inference hinference => ?_
        refine .give d.weights.validate_answers fun _ _ => {
          learning := Int.toNat_of_nonneg hlearning
          savingLoop := by
            show ((max 1000 d.savingLoop.toNat : ℕ) : ℤ) = max 1000 d.savingLoop
            omega
          accuracy := rfl
          approximation := happroximation
          gracePeriod := by
            show ((d.gracePeriod.toNat * 60 * 1000000000 : ℕ) : ℤ) = 60 * d.gracePeriod * 10 ^ 9
            change 0 ≤ d.gracePeriod at hgrace
            omega
          statsPeriod := hstats
          inferencePeriod := hinference
          pluginsPath := rfl
          weights := rfl
          labels := rfl }

/-- The accuracy of accepted settings is a share of one. -/
theorem Settings.accuracy_share {d : Document} {s : Settings}
    (accepted : Settings.ofDocument d = .ok s) : ∃ r : ℝ, Means s.accuracy r ∧ 0 ≤ r ∧ r < 1 := by
  have hmet := (ofDocument_answers d).exists_ok_iff.mp ⟨s, accepted⟩
  rw [((ofDocument_answers d).wanted_of_ok accepted).accuracy]
  exact hmet ⟨∃ r : ℝ, Means d.accuracy r ∧ 0 ≤ r ∧ r < 1, .badAccuracy d.accuracy⟩
    (by simp [Document.requirements])

/-- **Acceptance is exact.** A document is accepted if it violates no requirement, and refused for
the first one that it violates; the settings of an accepted document are its own. -/
theorem Settings.ofDocument_exact (d : Document) :
    ((∃ s, Settings.ofDocument d = .ok s) ↔ ∀ c ∈ d.requirements, c.holds) ∧
      (∀ e, Settings.ofDocument d = .error e ↔ Refused d.requirements e) ∧
      ∀ s, Settings.ofDocument d = .ok s → d.Gives s :=
  ⟨(Settings.ofDocument_answers d).exists_ok_iff, fun _ => (Settings.ofDocument_answers d).error_iff,
    fun _ => (Settings.ofDocument_answers d).wanted_of_ok⟩

/-! ## Periods -/

/-- **An accepted period can be empty.** It is positive exactly if more than half a nanosecond was
asked for. -/
theorem Settings.periods_pos_iff {d : Document} {s : Settings}
    (accepted : Settings.ofDocument d = .ok s) :
    (0 < s.statsPeriod ↔ Noticeable (positiveOrOne d.statsPeriod)) ∧
      (0 < s.inferencePeriod ↔ Noticeable d.inferencePeriod) :=
  have given : d.Gives s := (Settings.ofDocument_answers d).wanted_of_ok accepted
  ⟨given.statsPeriod.pos_iff, given.inferencePeriod.pos_iff⟩

/-- A document that asks for a tenth of a nanosecond between two evaluations, and between two
readings. -/
def hurried : Document where
  learning := 500
  savingLoop := 2000
  accuracy := 0.5
  approximation := 1
  gracePeriod := 10
  statsPeriod := 1e-10
  inferencePeriod := 1e-10
  pluginsPath := "/usr/lib/phoebe"
  weights := { transfer := 1.0, drop := 0.0, errors := 0.0, fifo := 0.0, bias := 0.0 }
  labels := {}

/-- What that document gives. -/
def hurriedSettings : Settings := (Settings.ofDocument hurried).toOption.getD {}

theorem hurried_accepted : Settings.ofDocument hurried = .ok hurriedSettings :=
  Settings.ofDocument_accepted (by decide +kernel)

/-- Neither of the times that it asks for is more than half a nanosecond. -/
theorem hurried_unnoticeable :
    Settings.ofDocument hurried = .ok hurriedSettings ∧
      ¬Noticeable (positiveOrOne hurried.statsPeriod) ∧ ¬Noticeable hurried.inferencePeriod := by
  obtain ⟨hstats, hinference⟩ := Settings.periods_pos_iff hurried_accepted
  exact ⟨hurried_accepted, hstats.not.mp (by decide +kernel),
    hinference.not.mp (by decide +kernel)⟩

/-- It is accepted, and both of its periods are empty. -/
theorem hurried_stands_still :
    ∃ s, Settings.ofDocument hurried = .ok s ∧ ¬0 < s.statsPeriod ∧ ¬0 < s.inferencePeriod :=
  ⟨hurriedSettings, hurried_accepted, by decide +kernel, by decide +kernel⟩

end NetworkTuning
