import NetworkTuning.Command.Shell

/-!
# Applying profiles

An applier shows or runs the commands of a profile. With a guard it refuses a profile that would
lower one of five settings below the last profile it let pass.
-/

namespace NetworkTuning

/-- What became of a profile handed to an applier. -/
inductive Outcome where
  /-- Its commands were run, and some of them failed. -/
  | executed (commands failed : Nat)
  /-- Its commands were only shown. -/
  | dryRun (commands : Nat)
  /-- It was not applied. -/
  | refused (reason : String)
  deriving Repr, DecidableEq, Inhabited

/-- Whether the commands were only shown. -/
def Outcome.isDryRun : Outcome → Bool
  | dryRun _ => true
  | _ => false

/-- The number of commands that were run and failed. -/
def Outcome.failures : Outcome → Nat
  | executed _ failed => failed
  | _ => 0

/-- The settings that a guard keeps from going down, in the order in which it looks, with the names
it gives them. -/
def guarded : List (String × (Profile → Nat)) := [
  ("rx_ring_size", fun p => p.rxRing.toNat),
  ("tx_ring_size", fun p => p.txRing.toNat),
  ("net.core.somaxconn", fun p => p.somaxconn.toNat),
  ("net.core.netdev_budget", fun p => p.netdevBudget.toNat),
  ("net.core.netdev_max_backlog", fun p => p.netdevMaxBacklog.toNat)]

/-- Why a profile is refused in favour of what is in place: the first setting it would lower. -/
def refusal? (baseline p : Profile) : Option String :=
  (guarded.find? fun s => s.2 p < s.2 baseline).map fun s =>
    s.1 ++ " is " ++ toString (s.2 baseline) ++ ", profile would set " ++ toString (s.2 p)

/-- How an applier works: whether it only shows commands, and the profile its guard compares with.
-/
structure Applier where
  dryRun : Bool := true
  baseline : Option Profile := none
  deriving Inhabited

/-- Hands a profile to an applier. -/
def Applier.apply (a : Applier) (shell : Shell) (interface : String) (p : Profile) :
    Applier × Shell × Outcome :=
  match a.baseline.bind fun b => refusal? b p with
  | some reason => (a, shell, .refused reason)
  | none =>
    let a := { a with baseline := a.baseline.map fun _ => p }
    let commands := p.commands interface
    if a.dryRun then (a, shell, .dryRun commands.length)
    else
      let (shell, failed) := shell.runAll commands
      (a, shell, .executed commands.length failed)

end NetworkTuning
