import NetworkTuning.Command.Basic

/-!
# Running programs

What programs do is given by a function of the commands run before and of the command itself; a
shell remembers the commands that it ran.
-/

namespace NetworkTuning

/-- What a program leaves behind: its output, its messages, and its exit code. -/
structure Exit where
  output : String := ""
  messages : String := ""
  code : Int := 0
  deriving Repr, DecidableEq, Inhabited

/-- What programs answer, and the commands run so far in order. A program that cannot be started
answers with the system's reason, and the command does not count as run. -/
structure Shell where
  answer : List Command → Command → Except String Exit := fun _ _ =>
    .error "No such file or directory (os error 2)"
  ran : List Command := []

instance : Inhabited Shell := ⟨{}⟩

/-- Whether a command can be handed to the system: no word of it contains a zero character, which
ends a word there. -/
def Command.isSpeakable (c : Command) : Bool :=
  (c.program :: c.arguments).all fun word => !word.toList.contains '\x00'

/-- Runs a command. -/
def Shell.run (s : Shell) (c : Command) : Shell × Except String Exit :=
  if !c.isSpeakable then (s, .error "nul byte found in provided data")
  else match s.answer s.ran c with
    | .ok e => ({ s with ran := s.ran ++ [c] }, .ok e)
    | .error reason => (s, .error reason)

/-- Whether a command was started and exited with code zero. -/
def succeeded : Except String Exit → Bool
  | .ok e => e.code == 0
  | .error _ => false

/-- Runs commands one after the other and counts those that did not succeed. -/
def Shell.runAll (s : Shell) : List Command → Shell × Nat
  | [] => (s, 0)
  | c :: rest =>
    let (s, result) := s.run c
    let (s, failed) := s.runAll rest
    (s, if succeeded result then failed else failed + 1)

end NetworkTuning
