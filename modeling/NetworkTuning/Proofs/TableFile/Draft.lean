import Mathlib.Data.Nat.Init
import NetworkTuning.Proofs.FileTree.Frame
import NetworkTuning.TableFile.Basic

/-!
# Drafts

The lines of a table file are handed to its draft one after the other. If the system has no fault on
the way, the draft is the whole text (`fill_ok_iff`); if it has, a front part of the text has
reached the draft (`fill_error`). Hence a write goes one of four ways (`Goes`): the draft is not
created, or it stays a part, or it is whole and stays where it is, or it is moved. In each of them
the tree that is left is the one from before with some draft written to it, and only in the last one
the draft is moved on, so a write that fails has changed nothing but the draft (`write_failed`), and
one that succeeds is read at its path (`write_ok`).
-/

namespace NetworkTuning

theorem refusedOr_ok_iff {α : Type} {fault : Option SystemError} {result : Except SystemError α}
    {a : α} : refusedOr fault result = .ok a ↔ fault = none ∧ result = .ok a := by
  cases fault with
  | none => simp [refusedOr]
  | some cause => simp [refusedOr]

namespace TableFile

open FileTree

variable {faults : Faults} {files after : FileTree} {path : String} {profiles : List Profile}
  {cause : SystemError} {line : Nat} {handed whole part : String} {lines : List String}

/-! ## Filling -/

/-- The lines that are handed to a draft. -/
def draftLines (profiles : List Profile) : List String :=
  headerLine :: (withoutRepeats none profiles).map Profile.row

/-- A draft is whole exactly if the system has no fault on its way. -/
theorem fill_ok_iff : fill faults line handed lines = .ok whole ↔
    (∀ n < lines.length, faults.taking (line + n) = none) ∧ faults.flushing = none ∧
      whole = handed ++ String.join (lines.map fun content => content ++ "\n") := by
  induction lines generalizing line handed with
  | nil =>
    rw [fill]
    cases faults.flushing with
    | none => simp [eq_comm]
    | some fault => simp
  | cons content rest ih =>
    rw [List.length_cons, Nat.forall_lt_succ_left, List.map_cons, String.join_cons, fill]
    cases faults.taking line with
    | none =>
      have hnext (n : Nat) : line + 1 + n = line + (n + 1) := by omega
      simp only [ih, hnext, true_and, String.append_assoc]
    | some fault => simp

/-- What is in a draft that is not whole is a front part of its text. -/
theorem fill_error (broken : fill faults line handed lines = .error (cause, part)) :
    part.toList <+: (handed ++ String.join (lines.map fun content => content ++ "\n")).toList := by
  have hpart (fault : Fault) (text rest : String) :
      (fault.part text).toList <+: (text ++ rest).toList := by
    rw [Fault.part, String.toList_ofList, String.toList_append]
    exact (List.take_prefix _ _).trans (List.prefix_append _ _)
  induction lines generalizing line handed with
  | nil =>
    rw [fill] at broken
    split at broken
    next fault _ =>
      cases broken
      exact hpart fault handed _
    next => cases broken
  | cons content rest ih =>
    rw [List.map_cons, String.join_cons, ← String.append_assoc]
    rw [fill] at broken
    split at broken
    next fault _ =>
      cases broken
      exact hpart fault _ _
    next => exact ih broken

/-! ## Writing -/

/-- No fault is met on the way of a draft with so many lines. -/
structure Faults.Unmet (faults : Faults) (lines : Nat) : Prop where
  creating : faults.creating = none
  taking : ∀ n < lines, faults.taking n = none
  flushing : faults.flushing = none
  moving : faults.moving = none

/-- A system without faults of its own. -/
theorem Faults.unmet_none (lines : Nat) : Faults.Unmet {} lines := ⟨rfl, fun _ _ => rfl, rfl, rfl⟩

/-- **How a write goes.** -/
inductive Goes (files : FileTree) (path : String) (profiles : List Profile) (faults : Faults) :
    FileTree × Except TableFileError Nat → Prop
  /-- The draft is not created. -/
  | uncreated {cause : SystemError}
      (refused : refusedOr faults.creating (files.create (draftPath path)) = .error cause) :
      Goes files path profiles faults (files, .error (.system (draftPath path) cause))
  /-- The draft stays a part of the text. -/
  | broken {drafted : FileTree} {cause : SystemError} {part : String}
      (refused : fill faults 0 "" (draftLines profiles) = .error (cause, part))
      (written : files.write (draftPath path) (.text part) = .ok drafted) :
      Goes files path profiles faults (drafted, .error (.system (draftPath path) cause))
  /-- The draft is whole and stays where it is. -/
  | unmoved {drafted : FileTree} {cause : SystemError}
      (written : files.write (draftPath path) (.text (text (withoutRepeats none profiles))) =
        .ok drafted)
      (refused : refusedOr faults.moving (drafted.rename (draftPath path) path) = .error cause) :
      Goes files path profiles faults (drafted, .error (.system path cause))
  /-- The draft is whole and is moved. -/
  | moved {drafted moved : FileTree}
      (unmet : faults.Unmet (draftLines profiles).length)
      (written : files.write (draftPath path) (.text (text (withoutRepeats none profiles))) =
        .ok drafted)
      (renamed : drafted.rename (draftPath path) path = .ok moved) :
      Goes files path profiles faults (moved, .ok (withoutRepeats none profiles).length)

theorem write_goes (files : FileTree) (path : String) (profiles : List Profile) (faults : Faults) :
    Goes files path profiles faults (write files path profiles faults) := by
  unfold write
  dsimp only
  split
  next cause hcreate => exact .uncreated hcreate
  next created here hcreate =>
    obtain ⟨hcreating, hcreated⟩ := refusedOr_ok_iff.mp hcreate
    split
    next cause part hfill => exact .broken hfill (write_of_create hcreated _)
    next whole hfill =>
      obtain ⟨htaking, hflushing, hwhole⟩ := fill_ok_iff.mp hfill
      obtain rfl : whole = text (withoutRepeats none profiles) :=
        hwhole.trans String.empty_append
      have hwritten := write_of_create hcreated (.text (text (withoutRepeats none profiles)))
      split
      next cause hmoving => exact .unmoved hwritten hmoving
      next moved hmoving =>
        obtain ⟨hmoving, hmoved⟩ := refusedOr_ok_iff.mp hmoving
        refine .moved ⟨hcreating, fun n hn => ?_, hflushing, hmoving⟩ hwritten hmoved
        rw [← Nat.zero_add n]
        exact htaking n hn

/-- A draft that could be written is not the table file. -/
theorem draft_ne_of_written {contents : Contents} {drafted : FileTree}
    (written : files.write (draftPath path) contents = .ok drafted) :
    spot (draftPath path) ≠ spot path :=
  ownDraft_ne ((FileTree.write_isOk_iff contents).mp ⟨drafted, written⟩).named

/-- **A write that fails** leaves the files as they were, or with a front part of the text, all of
it perhaps, in the draft. -/
theorem write_failed {e : TableFileError}
    (failed : write files path profiles faults = (after, .error e)) :
    after = files ∨ ∃ part : String,
      part.toList <+: (text (withoutRepeats none profiles)).toList ∧
        files.write (draftPath path) (.text part) = .ok after := by
  have hgoes := write_goes files path profiles faults
  rw [failed] at hgoes
  cases hgoes with
  | uncreated => exact .inl rfl
  | broken hrefused hwritten =>
    have hpart := fill_error hrefused
    rw [String.empty_append] at hpart
    exact .inr ⟨_, hpart, hwritten⟩
  | unmoved hwritten => exact .inr ⟨_, List.prefix_refl _, hwritten⟩

/-- A write that fails leaves what is found at the path. -/
theorem look_failed {e : TableFileError}
    (failed : write files path profiles faults = (after, .error e)) :
    (after.look path).toOption = (files.look path).toOption := by
  rcases write_failed failed with rfl | ⟨part, -, hwritten⟩
  · rfl
  · have hsame : SameBut [spot (draftPath path)] files after :=
      FileTree.write_sameBut (by simp) hwritten
    exact look_congr hsame (by simpa using (draft_ne_of_written hwritten).symm)

/-- A write that fails leaves what is read from the path. -/
theorem write_error {e : TableFileError}
    (failed : write files path profiles faults = (after, .error e)) :
    (after.read path).toOption = (files.read path).toOption := by
  have hlook := look_failed failed
  unfold FileTree.read
  cases hafter : after.look path with
  | error _ =>
    cases hbefore : files.look path with
    | error _ => rfl
    | ok _ => rw [hafter, hbefore] at hlook; cases hlook
  | ok node =>
    cases hbefore : files.look path with
    | error _ => rw [hafter, hbefore] at hlook; cases hlook
    | ok node' =>
      rw [hafter, hbefore] at hlook
      obtain rfl : node = node' := Option.some.inj hlook
      rfl

/-- What a write that succeeds leaves at the path. -/
theorem write_ok {count : Nat} (written : write files path profiles faults = (after, .ok count)) :
    after.read path = .ok (.text (text (withoutRepeats none profiles))) ∧
      count = (withoutRepeats none profiles).length := by
  have hgoes := write_goes files path profiles faults
  rw [written] at hgoes
  cases hgoes with
  | moved _ hwritten hrenamed => exact ⟨read_moved hwritten hrenamed, rfl⟩

end TableFile

end NetworkTuning
