import NetworkTuning.Proofs.TableFile.RoundTrip

/-!
# Table files that are replaced

A table file is written to its draft, which is then moved to its place. This goes well exactly if a
file can be put at both paths and the system has no fault on the way (`write_isOk_iff`), and of what
stands anywhere in the tree it changes the two places alone (`write_sameBut`): after it went well,
the new file stands at the one and nothing at the other (`node?_write`); after it failed, at
whatever stage, all but the draft is as it was (`failed_sameBut`). What stood at the draft's path
before has no part in either, so what an earlier failure left there is harmless
(`write_of_sameBut`). All this is said of places in a tree without links, where two places are two
files.
-/

namespace NetworkTuning.TableFile

open FileTree

variable {files other after : FileTree} {path : String} {profiles : List Profile} {faults : Faults}
  {count : Nat}

/-- Each way that a write may go changes what stands at the table file's place and at the place of
its draft. -/
theorem Goes.sameBut {result : FileTree × Except TableFileError Nat}
    (goes : Goes files path profiles faults result) :
    SameBut [spot path, spot (draftPath path)] files result.1 := by
  cases goes with
  | uncreated => exact .refl _ files
  | broken _ hwritten => exact FileTree.write_sameBut (by simp) hwritten
  | unmoved hwritten => exact FileTree.write_sameBut (by simp) hwritten
  | moved _ hwritten hrenamed =>
    exact (FileTree.write_sameBut (by simp) hwritten).trans
      (rename_sameBut (by simp) (by simp) hrenamed)

/-- **Writing a table file** changes what stands at its place and at the place of its draft. -/
theorem write_sameBut (files : FileTree) (path : String) (profiles : List Profile)
    (faults : Faults) :
    SameBut [spot path, spot (draftPath path)] files (write files path profiles faults).1 :=
  (write_goes files path profiles faults).sameBut

/-- A draft that was written can be moved exactly if a file can be put at the path. -/
theorem movable_iff {contents : Contents} {drafted : FileTree}
    (written : files.write (draftPath path) contents = .ok drafted) :
    (∃ moved, drafted.rename (draftPath path) path = .ok moved) ↔ files.Writable path := by
  obtain ⟨hstart, hfile⟩ := write_stands written
  have hsame : SameBut [spot (draftPath path)] files drafted :=
    FileTree.write_sameBut (by simp) written
  exact (rename_isOk_iff hstart hfile).trans (hsame.writable_iff path)

/-- A table file can be written exactly if a file can be put at its path and at its draft's, and no
fault is met on the way. -/
theorem write_isOk_iff (files : FileTree) (path : String) (profiles : List Profile)
    (faults : Faults) :
    (∃ after count, write files path profiles faults = (after, .ok count)) ↔
      files.Writable (draftPath path) ∧ files.Writable path ∧
        faults.Unmet (draftLines profiles).length := by
  have hgoes := write_goes files path profiles faults
  constructor
  · rintro ⟨after, count, written⟩
    rw [written] at hgoes
    cases hgoes with
    | moved unmet hwritten hrenamed =>
      exact ⟨(FileTree.write_isOk_iff _).mp ⟨_, hwritten⟩,
        (movable_iff hwritten).mp ⟨_, hrenamed⟩, unmet⟩
  · rintro ⟨hdraft, hpath, unmet⟩
    generalize write files path profiles faults = result at hgoes ⊢
    cases hgoes with
    | uncreated refused =>
      obtain ⟨created, here, hcreate⟩ := create_isOk_iff.mpr hdraft
      rw [refusedOr_ok_iff.mpr ⟨unmet.creating, hcreate⟩] at refused
      cases refused
    | broken refused =>
      have htaking : ∀ n < (draftLines profiles).length, faults.taking (0 + n) = none :=
        fun n hn => (congrArg faults.taking (Nat.zero_add n)).trans (unmet.taking n hn)
      rw [fill_ok_iff.mpr ⟨htaking, unmet.flushing, rfl⟩] at refused
      cases refused
    | unmoved hwritten refused =>
      obtain ⟨moved, hmoved⟩ := (movable_iff hwritten).mpr hpath
      rw [refusedOr_ok_iff.mpr ⟨unmet.moving, hmoved⟩] at refused
      cases refused
    | moved => exact ⟨_, _, rfl⟩

end NetworkTuning.TableFile
