import Mathlib.Data.List.Basic
import NetworkTuning.Command.Applier

/-!
# Appliers that never go down

An applier with a guard is handed profiles one after the other, each for an interface of its own and
while programs answer as they please. `Upgrade` says that a profile lowers none of the five settings
that a guard looks at, and `Lowers` which is the first one that it does lower, each setting at its
own width; the guard refuses by a search of its own through a table of the settings
(`refusal?_eq_none_iff`, `refusal?_eq_some_iff`).

**One profile** (`hand_cases`): it lowers a setting below the baseline, and is refused, and nothing
at all has happened; or it lowers none and is the next baseline, whether its commands are run or
only shown and whatever comes of them. **A run** therefore has the last profile that was let through
as its baseline (`after_guardedBy`), what was let through never goes down (`passed_pairwise`), and
what was refused may be left out (`run_passed`).
-/

namespace NetworkTuning

/-- None of the five settings that a guard looks at is lower in the second profile. -/
structure Upgrade (base p : Profile) : Prop where
  rxRing : base.rxRing ≤ p.rxRing
  txRing : base.txRing ≤ p.txRing
  somaxconn : base.somaxconn ≤ p.somaxconn
  netdevBudget : base.netdevBudget ≤ p.netdevBudget
  netdevMaxBacklog : base.netdevMaxBacklog ≤ p.netdevMaxBacklog

/-- The first of the five settings that is lower in the second profile, by its name and its two
values. -/
inductive Lowers (base p : Profile) : String → Nat → Nat → Prop
  | rxRing : p.rxRing < base.rxRing →
      Lowers base p "rx_ring_size" base.rxRing.toNat p.rxRing.toNat
  | txRing : base.rxRing ≤ p.rxRing → p.txRing < base.txRing →
      Lowers base p "tx_ring_size" base.txRing.toNat p.txRing.toNat
  | somaxconn : base.rxRing ≤ p.rxRing → base.txRing ≤ p.txRing → p.somaxconn < base.somaxconn →
      Lowers base p "net.core.somaxconn" base.somaxconn.toNat p.somaxconn.toNat
  | netdevBudget : base.rxRing ≤ p.rxRing → base.txRing ≤ p.txRing →
      base.somaxconn ≤ p.somaxconn → p.netdevBudget < base.netdevBudget →
      Lowers base p "net.core.netdev_budget" base.netdevBudget.toNat p.netdevBudget.toNat
  | netdevMaxBacklog : base.rxRing ≤ p.rxRing → base.txRing ≤ p.txRing →
      base.somaxconn ≤ p.somaxconn → base.netdevBudget ≤ p.netdevBudget →
      p.netdevMaxBacklog < base.netdevMaxBacklog →
      Lowers base p "net.core.netdev_max_backlog" base.netdevMaxBacklog.toNat
        p.netdevMaxBacklog.toNat

/-- The reason that names a setting, the value in place and the one that a profile has. -/
def refusalText (name : String) (current proposed : Nat) : String :=
  name ++ " is " ++ toString current ++ ", profile would set " ++ toString proposed

namespace Upgrade

theorem refl (p : Profile) : Upgrade p p :=
  ⟨UInt16.le_refl _, UInt16.le_refl _, UInt32.le_refl _, UInt32.le_refl _, UInt32.le_refl _⟩

theorem trans {p q r : Profile} (first : Upgrade p q) (second : Upgrade q r) : Upgrade p r :=
  ⟨UInt16.le_trans first.rxRing second.rxRing, UInt16.le_trans first.txRing second.txRing,
    UInt32.le_trans first.somaxconn second.somaxconn,
    UInt32.le_trans first.netdevBudget second.netdevBudget,
    UInt32.le_trans first.netdevMaxBacklog second.netdevMaxBacklog⟩

end Upgrade

/-! ## What a guard refuses -/

section

variable {base p : Profile}

/-- A setting that is lower leaves no upgrade. -/
theorem Lowers.not_upgrade {name : String} {current proposed : Nat}
    (lowers : Lowers base p name current proposed) : ¬Upgrade base p := by
  intro upgrade
  cases lowers with
  | rxRing h => exact absurd upgrade.rxRing (UInt16.not_le.mpr h)
  | txRing _ h => exact absurd upgrade.txRing (UInt16.not_le.mpr h)
  | somaxconn _ _ h => exact absurd upgrade.somaxconn (UInt32.not_le.mpr h)
  | netdevBudget _ _ _ h => exact absurd upgrade.netdevBudget (UInt32.not_le.mpr h)
  | netdevMaxBacklog _ _ _ _ h => exact absurd upgrade.netdevMaxBacklog (UInt32.not_le.mpr h)

/-- A profile lowers none of the settings, or there is a first one that it lowers. -/
theorem upgrade_or_lowers (base p : Profile) :
    Upgrade base p ∨ ∃ name current proposed, Lowers base p name current proposed := by
  by_cases hrx : p.rxRing < base.rxRing
  · exact .inr ⟨_, _, _, .rxRing hrx⟩
  replace hrx := UInt16.not_lt.mp hrx
  by_cases htx : p.txRing < base.txRing
  · exact .inr ⟨_, _, _, .txRing hrx htx⟩
  replace htx := UInt16.not_lt.mp htx
  by_cases hconn : p.somaxconn < base.somaxconn
  · exact .inr ⟨_, _, _, .somaxconn hrx htx hconn⟩
  replace hconn := UInt32.not_lt.mp hconn
  by_cases hbudget : p.netdevBudget < base.netdevBudget
  · exact .inr ⟨_, _, _, .netdevBudget hrx htx hconn hbudget⟩
  replace hbudget := UInt32.not_lt.mp hbudget
  by_cases hbacklog : p.netdevMaxBacklog < base.netdevMaxBacklog
  · exact .inr ⟨_, _, _, .netdevMaxBacklog hrx htx hconn hbudget hbacklog⟩
  · exact .inl ⟨hrx, htx, hconn, hbudget, UInt32.not_lt.mp hbacklog⟩

theorem map_find?_cons {α β : Type} (q : α → Bool) (f : α → β) (x : α) (rest : List α) :
    ((x :: rest).find? q).map f = if q x = true then some (f x) else (rest.find? q).map f := by
  rw [List.find?_cons]
  cases q x <;> rfl

/-- The guard looks at the settings one after the other. -/
theorem refusal?_eq (base p : Profile) :
    refusal? base p =
      if p.rxRing < base.rxRing then
        some (refusalText "rx_ring_size" base.rxRing.toNat p.rxRing.toNat)
      else if p.txRing < base.txRing then
        some (refusalText "tx_ring_size" base.txRing.toNat p.txRing.toNat)
      else if p.somaxconn < base.somaxconn then
        some (refusalText "net.core.somaxconn" base.somaxconn.toNat p.somaxconn.toNat)
      else if p.netdevBudget < base.netdevBudget then
        some (refusalText "net.core.netdev_budget" base.netdevBudget.toNat p.netdevBudget.toNat)
      else if p.netdevMaxBacklog < base.netdevMaxBacklog then
        some (refusalText "net.core.netdev_max_backlog" base.netdevMaxBacklog.toNat
          p.netdevMaxBacklog.toNat)
      else none := by
  unfold refusal? guarded
  simp only [map_find?_cons, List.find?_nil, Option.map_none, decide_eq_true_eq]
  -- words of any width are compared as the numbers that they hold
  rfl

/-- A profile that lowers nothing is let through. -/
theorem Upgrade.refusal?_eq_none (upgrade : Upgrade base p) : refusal? base p = none := by
  obtain ⟨hrx, htx, hconn, hbudget, hbacklog⟩ := upgrade
  rw [refusal?_eq, if_neg (UInt16.not_lt.mpr hrx), if_neg (UInt16.not_lt.mpr htx),
    if_neg (UInt32.not_lt.mpr hconn), if_neg (UInt32.not_lt.mpr hbudget),
    if_neg (UInt32.not_lt.mpr hbacklog)]

/-- A profile that lowers something is refused for the first setting that it lowers. -/
theorem Lowers.refusal?_eq_some {name : String} {current proposed : Nat}
    (lowers : Lowers base p name current proposed) :
    refusal? base p = some (refusalText name current proposed) := by
  rw [refusal?_eq]
  cases lowers with
  | rxRing h => rw [if_pos h]
  | txRing hrx h => rw [if_neg (UInt16.not_lt.mpr hrx), if_pos h]
  | somaxconn hrx htx h =>
    rw [if_neg (UInt16.not_lt.mpr hrx), if_neg (UInt16.not_lt.mpr htx), if_pos h]
  | netdevBudget hrx htx hconn h =>
    rw [if_neg (UInt16.not_lt.mpr hrx), if_neg (UInt16.not_lt.mpr htx),
      if_neg (UInt32.not_lt.mpr hconn), if_pos h]
  | netdevMaxBacklog hrx htx hconn hbudget h =>
    rw [if_neg (UInt16.not_lt.mpr hrx), if_neg (UInt16.not_lt.mpr htx),
      if_neg (UInt32.not_lt.mpr hconn), if_neg (UInt32.not_lt.mpr hbudget), if_pos h]

theorem refusal?_eq_none_iff : refusal? base p = none ↔ Upgrade base p := by
  refine ⟨fun h => ?_, Upgrade.refusal?_eq_none⟩
  rcases upgrade_or_lowers base p with upgrade | ⟨name, current, proposed, lowers⟩
  · exact upgrade
  · rw [lowers.refusal?_eq_some] at h
    cases h

theorem refusal?_eq_some_iff {reason : String} :
    refusal? base p = some reason ↔ ∃ name current proposed,
      Lowers base p name current proposed ∧ reason = refusalText name current proposed := by
  constructor
  · intro h
    rcases upgrade_or_lowers base p with upgrade | ⟨name, current, proposed, lowers⟩
    · rw [upgrade.refusal?_eq_none] at h
      cases h
    · rw [lowers.refusal?_eq_some] at h
      exact ⟨name, current, proposed, lowers, (Option.some.inj h).symm⟩
  · rintro ⟨name, current, proposed, lowers, rfl⟩
    exact lowers.refusal?_eq_some

end

/-! ## Profiles handed to an applier -/

/-- A profile that is handed to an applier, with its interface and what programs answer meanwhile.
-/
structure Handing where
  interface : String
  profile : Profile
  answer : List Command → Command → Except String Exit

/-- An applier between two profiles, with the commands that were run so far. -/
structure Applying where
  applier : Applier
  ran : List Command := []

def Outcome.isRefused : Outcome → Bool
  | refused _ => true
  | _ => false

namespace Applying

/-- Hands one profile to the applier. -/
def hand (s : Applying) (h : Handing) : Applying × Outcome :=
  let (applier, shell, outcome) := s.applier.apply ⟨h.answer, s.ran⟩ h.interface h.profile
  (⟨applier, shell.ran⟩, outcome)

/-- The applier after any number of profiles. -/
def after (s : Applying) : List Handing → Applying
  | [] => s
  | h :: rest => (s.hand h).1.after rest

/-- What becomes of the profiles, one after the other. -/
def outcomes (s : Applying) : List Handing → List Outcome
  | [] => []
  | h :: rest => (s.hand h).2 :: (s.hand h).1.outcomes rest

/-- Those that are let through. -/
def passed (s : Applying) : List Handing → List Handing
  | [] => []
  | h :: rest =>
    let later := (s.hand h).1.passed rest
    if (s.hand h).2.isRefused then later else h :: later

/-- An applier with a guard. -/
def guardedBy (dryRun : Bool) (base : Profile) (ran : List Command) : Applying :=
  ⟨{ dryRun, baseline := some base }, ran⟩

variable {dryRun : Bool} {base : Profile} {ran : List Command}

/-- **One profile.** It is refused and nothing has happened, or it is the next baseline. -/
theorem hand_cases (dryRun : Bool) (base : Profile) (ran : List Command) (h : Handing) :
    (∃ reason, refusal? base h.profile = some reason ∧
      (guardedBy dryRun base ran).hand h = (guardedBy dryRun base ran, .refused reason)) ∨
    ∃ later outcome, refusal? base h.profile = none ∧ outcome.isRefused = false ∧
      (guardedBy dryRun base ran).hand h = (guardedBy dryRun h.profile later, outcome) := by
  unfold hand Applier.apply guardedBy
  simp only [Option.bind_some]
  cases refusal? base h.profile with
  | some reason => exact .inl ⟨reason, rfl, rfl⟩
  | none =>
    cases dryRun with
    | true => exact .inr ⟨_, _, rfl, rfl, rfl⟩
    | false => exact .inr ⟨_, _, rfl, rfl, rfl⟩

/-! ## Runs -/

theorem passed_cons_refused {s : Applying} {h : Handing} (refused : (s.hand h).2.isRefused = true)
    (rest : List Handing) : s.passed (h :: rest) = (s.hand h).1.passed rest := if_pos refused

theorem passed_cons_passed {s : Applying} {h : Handing}
    (through : (s.hand h).2.isRefused = false) (rest : List Handing) :
    s.passed (h :: rest) = h :: (s.hand h).1.passed rest :=
  if_neg (by rw [through]; exact Bool.false_ne_true)

/-- The last profile of those let through, or the baseline from the start. -/
def lastPassed (s : Applying) (base : Profile) (hs : List Handing) : Profile :=
  ((s.passed hs).map Handing.profile).getLastD base

/-- **A run** leaves the last profile that was let through as the baseline. -/
theorem after_guardedBy (dryRun : Bool) (base : Profile) (ran : List Command)
    (hs : List Handing) :
    ∃ later, (guardedBy dryRun base ran).after hs =
      guardedBy dryRun ((guardedBy dryRun base ran).lastPassed base hs) later := by
  induction hs generalizing base ran with
  | nil => exact ⟨ran, rfl⟩
  | cons h rest ih =>
    rcases hand_cases dryRun base ran h with
      ⟨reason, -, hhand⟩ | ⟨later, outcome, -, hthrough, hhand⟩
    · obtain ⟨later, hlater⟩ := ih base ran
      refine ⟨later, ?_⟩
      rw [lastPassed, passed_cons_refused (by rw [hhand]; rfl), after, hhand]
      exact hlater
    · obtain ⟨last, hlast⟩ := ih h.profile later
      refine ⟨last, ?_⟩
      rw [lastPassed, passed_cons_passed (by rw [hhand]; exact hthrough), after, hhand,
        List.map_cons, List.getLastD_cons]
      exact hlast

/-- The profiles let through are upgrades, each of all before it. -/
theorem passed_pairwise (dryRun : Bool) (base : Profile) (ran : List Command) (hs : List Handing) :
    (base :: ((guardedBy dryRun base ran).passed hs).map Handing.profile).Pairwise Upgrade := by
  induction hs generalizing base ran with
  | nil => exact List.pairwise_singleton _ _
  | cons h rest ih =>
    rcases hand_cases dryRun base ran h with
      ⟨reason, -, hhand⟩ | ⟨later, outcome, hnone, hthrough, hhand⟩
    · rw [passed_cons_refused (by rw [hhand]; rfl), hhand]
      exact ih base ran
    · have hlater := ih h.profile later
      have hfirst := refusal?_eq_none_iff.mp hnone
      rw [passed_cons_passed (by rw [hhand]; exact hthrough), hhand, List.map_cons,
        List.pairwise_cons]
      refine ⟨fun p hp => ?_, hlater⟩
      rcases List.mem_cons.mp hp with rfl | hp
      · exact hfirst
      · exact hfirst.trans ((List.pairwise_cons.mp hlater).1 p hp)

/-- Without those that are refused, a run ends the same and the others come to the same. -/
theorem run_passed (dryRun : Bool) (base : Profile) (ran : List Command) (hs : List Handing) :
    let s := guardedBy dryRun base ran
    s.after (s.passed hs) = s.after hs ∧
      s.outcomes (s.passed hs) = (s.outcomes hs).filter (!·.isRefused) := by
  induction hs generalizing base ran with
  | nil => exact ⟨rfl, rfl⟩
  | cons h rest ih =>
    rcases hand_cases dryRun base ran h with
      ⟨reason, -, hhand⟩ | ⟨later, outcome, -, hthrough, hhand⟩
    · obtain ⟨hafter, houtcomes⟩ := ih base ran
      simp only [passed_cons_refused (h := h) (by rw [hhand]; rfl), after, outcomes, hhand]
      exact ⟨hafter, houtcomes⟩
    · obtain ⟨hafter, houtcomes⟩ := ih h.profile later
      simp only [passed_cons_passed (h := h) (by rw [hhand]; exact hthrough), after, outcomes,
        hhand]
      refine ⟨hafter, ?_⟩
      rw [List.filter_cons_of_pos (by rw [hthrough]; rfl), houtcomes]

/-- **An applier with a guard never goes down.** Whatever profile it starts from and whatever it is
handed, dry or not and whatever programs do: the five settings never go down along the starting
baseline and the profiles that are let through. The next profile is refused exactly if it lowers
one of them below the last profile let through, for the first of them that it lowers, and then no
command is run and the baseline stays; and a run without those that are refused ends the same, with
the same answers to the others. -/
theorem guarded_never_goes_down (dryRun : Bool) (base : Profile) (ran : List Command)
    (hs : List Handing) :
    let s := guardedBy dryRun base ran
    let last := s.lastPassed base hs
    (base :: (s.passed hs).map Handing.profile).Pairwise Upgrade ∧
      (∀ h : Handing,
        (((s.after hs).hand h).2.isRefused = true ↔ ¬Upgrade last h.profile) ∧
        (∀ reason, ((s.after hs).hand h).2 = .refused reason →
          ∃ name current proposed, Lowers last h.profile name current proposed ∧
            reason = refusalText name current proposed) ∧
        (((s.after hs).hand h).2.isRefused = true → ((s.after hs).hand h).1 = s.after hs)) ∧
      s.after (s.passed hs) = s.after hs ∧
      s.outcomes (s.passed hs) = (s.outcomes hs).filter (!·.isRefused) := by
  intro s last
  refine ⟨passed_pairwise dryRun base ran hs, fun h => ?_, run_passed dryRun base ran hs⟩
  obtain ⟨later, hafter⟩ := after_guardedBy dryRun base ran hs
  change s.after hs = guardedBy dryRun last later at hafter
  rw [hafter]
  rcases hand_cases dryRun last later h with
    ⟨reason, hsome, hhand⟩ | ⟨ran', outcome, hnone, hthrough, hhand⟩
  · have hlowers := refusal?_eq_some_iff.mp hsome
    rw [hhand]
    refine ⟨iff_of_true rfl ?_, ?_, fun _ => rfl⟩
    · obtain ⟨name, current, proposed, lowers, -⟩ := hlowers
      exact lowers.not_upgrade
    · rintro reason' heq
      cases heq
      exact hlowers
  · rw [hhand]
    refine ⟨iff_of_false ?_ (not_not.mpr (refusal?_eq_none_iff.mp hnone)), ?_, ?_⟩
    · rw [hthrough]
      exact Bool.false_ne_true
    · rintro reason rfl
      cases hthrough
    · intro hrefused
      rw [hthrough] at hrefused
      cases hrefused

end Applying

end NetworkTuning
