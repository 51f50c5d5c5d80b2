import NetworkTuning.Load.Basic
import NetworkTuning.Table.Basic

/-!
# Searching for a matching profile

A stretch of profiles is halved again and again. A profile matches when its score lies within the
tolerance of the target; which half is searched next is decided by its key alone. The search
remembers the last profile it looked at, which on a miss is the one reported.
-/

namespace NetworkTuning

/-- What a search ends with: the place of a match, and the last place looked at. -/
structure Match where
  found : Option Nat := none
  closest : Option Nat := none
  deriving Repr, DecidableEq, Inhabited

/-- Whether a profile's score lies within the tolerance of the target. -/
def Profile.within (p : Profile) (target tolerance : Float) (w : Weights) : Bool :=
  (target - p.score w).abs ≤ tolerance

/-- Searches the `length` places from `start` on. -/
def bisect (rows : Array Profile) (target tolerance : Float) (w : Weights) (start length : Nat)
    (closest : Option Nat) : Match :=
  if length = 0 then ⟨none, closest⟩
  else
    let below := (length - 1) / 2
    let middle := start + below
    match rows[middle]? with
    | none => ⟨none, closest⟩
    | some p =>
      if p.within target tolerance w then ⟨some middle, some middle⟩
      else if target < p.key.toFloat then
        bisect rows target tolerance w start below (some middle)
      else bisect rows target tolerance w (middle + 1) (length - 1 - below) (some middle)
termination_by length

/-- Searches between two places, both included; what lies outside the rows is left out. -/
def findBetween (rows : Array Profile) (lo hi : Int) (target tolerance : Float) (w : Weights) :
    Match :=
  let first := max lo 0
  let last := min hi ((rows.size : Int) - 1)
  bisect rows target tolerance w first.toNat (last - first + 1).toNat none

/-- Searches all rows. -/
def find (rows : Array Profile) (target tolerance : Float) (w : Weights) : Match :=
  findBetween rows 0 ((rows.size : Int) - 1) target tolerance w

end NetworkTuning
