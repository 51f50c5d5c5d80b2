import NetworkTuning.Proofs.FileTree.Moves
import NetworkTuning.Proofs.FileTree.Names
import NetworkTuning.Proofs.Text.Pieces
import NetworkTuning.TableFile.Basic

/-!
# The files beside a table file

The snapshot of a table file and its draft stand in the directory in which the table file stands,
under names that are made of the stem of its name (`spot_snapshot`, `spot_draft`). A name is its
stem, or its stem and an extension after a dot (`stemOf_or_extended`), and these names go on after
the stem with something else than a dot. So whatever the name of a table file, with an extension or
several or none, neither of the two is the table file itself (`snapshot_ne`, `draft_ne`).

The draft of a table file goes on after the stem with two dots, and an extension has none
(`ownDraft_ne`). It has a last name unless it only refers to a place, as a path does that has none
(`endsInReference_of_split?_none`).
-/

namespace NetworkTuning

/-! ## Where paths lead -/

namespace FileTree

open NetworkTuning.Path

/-- Where names lead from a place if all places on the way are directories. -/
def walk (here : List String) (names : List String) : List String :=
  names.foldl
    (fun here name =>
      if name = "." then here else if name = ".." then above here else here ++ [name])
    here

theorem spot_eq (path : String) : spot path = walk (origin path) (names path) := rfl

theorem walk_append (here first second : List String) :
    walk here (first ++ second) = walk (walk here first) second := List.foldl_append

/-- The names of two paths with a slash between them. -/
theorem names_slash (first second : List Char) :
    names (String.ofList (first ++ '/' :: second)) =
      names (String.ofList first) ++ names (String.ofList second) := by
  unfold names
  simp only [String.toList_ofList, Text.splitAll_eq_splitOnP]
  rw [List.splitOnP_append_cons first second (decide_eq_true rfl), List.map_append,
    List.filter_append]

theorem names_plain {name : List Char} (plain : '/' ∉ name) (nonempty : name ≠ []) :
    names (String.ofList name) = [String.ofList name] := by
  have hother : ∀ c ∈ name, decide (c = '/') = false := fun c hc =>
    decide_eq_false fun h => plain (h ▸ hc)
  have hname : String.ofList name ≠ "" := by
    intro h
    exact nonempty (by simpa using congrArg String.toList h)
  unfold names
  rw [String.toList_ofList, Text.splitAll_eq_splitOnP, List.splitOnP_eq_singleton hother]
  simp [hname]

/-- A slash at the end leads no further. -/
theorem names_ended (cs : List Char) :
    names (String.ofList (cs ++ ['/'])) = names (String.ofList cs) := by
  rw [names_slash]
  exact List.append_nil _

theorem origin_congr {first second : List Char} (same : first.head? = second.head?) :
    origin (String.ofList first) = origin (String.ofList second) := by
  unfold origin
  rw [String.toList_ofList, String.toList_ofList, same]

/-- What does not count of a path leads no further. -/
theorem walk_trimReversed (here : List String) (cs : List Char) :
    walk here (names (String.ofList (trimReversed cs).reverse)) =
      walk here (names (String.ofList cs.reverse)) := by
  fun_induction trimReversed cs with
  | case1 | case2 | case3 => rfl
  | case4 rest _ ih => rw [ih, List.reverse_cons, names_ended]
  | case5 rest ih =>
    have hdot : names (String.ofList ['.']) = ["."] := names_plain (by decide) (by decide)
    rw [ih, List.reverse_cons, List.reverse_cons, List.reverse_cons, names_ended,
      List.append_assoc, List.singleton_append, names_slash, walk_append, hdot]
    rfl
  | case6 => rfl

/-- A path leads where that leads which counts of it. -/
theorem spot_trimReversed (cs : List Char) :
    spot (String.ofList (trimReversed cs.reverse).reverse) = spot (String.ofList cs) := by
  have horigin : origin (String.ofList (trimReversed cs.reverse).reverse) =
      origin (String.ofList cs) :=
    origin_congr (by rw [List.head?_reverse, getLast?_trimReversed, List.getLast?_reverse])
  rw [spot_eq, spot_eq, horigin, walk_trimReversed, List.reverse_reverse]

/-- A name after what ends with a slash is the last of the names. -/
theorem names_last {before name : List Char} (plain : '/' ∉ name) (nonempty : name ≠ [])
    (ended : before = [] ∨ before.getLast? = some '/') :
    names (String.ofList (before ++ name)) =
      names (String.ofList before) ++ [String.ofList name] := by
  rw [← names_plain plain nonempty]
  rcases ended with rfl | hended
  · rfl
  · obtain ⟨rest, rfl⟩ := List.getLast?_eq_some_iff.mp hended
    rw [names_ended, List.append_assoc, List.singleton_append, names_slash]

/-- A name leads on from where that leads which stands before it. -/
theorem spot_last {before name : List Char} (last : Last before name) :
    spot (String.ofList (before ++ name)) =
      spot (String.ofList before) ++ [String.ofList name] := by
  have hnames := names_last last.plain last.nonempty last.ended
  have horigin : origin (String.ofList (before ++ name)) = origin (String.ofList before) := by
    cases before with
    | cons c rest => exact origin_congr rfl
    | nil =>
      have hhead : name.head? ≠ some '/' := fun h => last.plain (List.mem_of_head? h)
      unfold origin
      simp [hhead]
  have hlone : String.ofList name ≠ "." := fun h =>
    last.lone (by simpa using congrArg String.toList h)
  have hupward : String.ofList name ≠ ".." := fun h =>
    last.upward (by simpa using congrArg String.toList h)
  rw [spot_eq, hnames, horigin, walk_append, ← spot_eq]
  exact (if_neg hlone).trans (if_neg hupward)

/-- A path with a last name leads to that name in a directory. -/
theorem spot_of_split {path : String} {before name : List Char}
    (split : split? path = some (before, name)) :
    spot path = spot (String.ofList before) ++ [String.ofList name] := by
  obtain ⟨hcounts, hlast⟩ := split?_some split
  have htrim := spot_trimReversed path.toList
  rw [String.ofList_toList] at htrim
  rw [← spot_last hlast, ← hcounts]
  exact htrim.symm

/-- A path whose last name is one dot or two only refers to a place. -/
theorem endsInReference_last {before name : List Char} (dots : name = ['.'] ∨ name = ['.', '.'])
    (ended : before = [] ∨ before.getLast? = some '/') :
    endsInReference (String.ofList (before ++ name)) = true := by
  unfold endsInReference
  rcases dots with rfl | rfl
  · rw [names_last (by decide) (by decide) ended, List.getLast?_concat]
    rfl
  · rw [names_last (by decide) (by decide) ended, List.getLast?_concat]
    rfl

/-- So does a path that has no last name. -/
theorem endsInReference_of_split?_none {path : String} (unnamed : split? path = none) :
    endsInReference path = true := by
  have hcounts (cs : List Char) :
      trimEnd (String.ofList cs.reverse) = (trimReversed cs).reverse := by
    rw [trimEnd, String.toList_ofList, List.reverse_reverse]
  obtain ⟨cs, rfl⟩ : ∃ cs : List Char, path = String.ofList cs.reverse :=
    ⟨path.toList.reverse, by simp⟩
  fun_induction trimReversed cs with
  | case1 | case2 | case3 => rfl
  | case4 rest hrest ih =>
    have hsame : trimEnd (String.ofList ('/' :: rest).reverse) =
        trimEnd (String.ofList rest.reverse) := by
      rw [hcounts, hcounts, trimReversed.eq_4 rest hrest]
    have hnames := names_ended rest.reverse
    rw [← List.reverse_cons] at hnames
    have hbefore := ih (split?_congr hsame ▸ unnamed)
    rwa [endsInReference, ← hnames] at hbefore
  | case5 rest ih =>
    rw [List.reverse_cons]
    exact endsInReference_last (.inl rfl) (.inr (by simp))
  | case6 cs hnil hslash hdot hslashes hdots =>
    have hsame := trimReversed.eq_6 cs hnil hslash hdot hslashes hdots
    obtain ⟨before, name, hpath, -, hended, hsplit⟩ := split?_eq (String.ofList cs.reverse)
    rw [hcounts, hsame] at hpath
    rw [unnamed, eq_comm, ite_eq_left_iff] at hsplit
    rcases not_imp_comm.mp hsplit (Option.some_ne_none _) with rfl | rfl | ⟨rfl, rfl⟩
    · -- the path would be empty or end with a slash that counts
      rw [List.append_nil] at hpath
      subst hpath
      rw [List.reverse_eq_nil_iff, List.getLast?_reverse] at hended
      obtain ⟨rest, rfl⟩ := List.head?_eq_some_iff.mp (hended.resolve_left hnil)
      exact absurd rfl (hslashes rest)
    · rw [hpath]
      exact endsInReference_last (.inr rfl) hended
    · exact absurd (List.reverse_eq_iff.mp hpath) hdot

/-- A path that is continued by a name ends with it. -/
theorem join_last (dir : String) {name : List Char} (last : Last [] name) :
    ∃ before, join dir (String.ofList name) = String.ofList (before ++ name) ∧ Last before name ∧
      spot (String.ofList before) = spot dir := by
  have hhead : name.head? ≠ some '/' := fun h => last.plain (List.mem_of_head? h)
  have hafter (before : List Char) (ended : before = [] ∨ before.getLast? = some '/') :
      Last before name := { last with ended }
  unfold join
  split
  next h =>
    have hempty : dir = "" := by simpa [hhead] using h
    exact ⟨[], rfl, last, by rw [hempty, String.ofList_nil]⟩
  next h =>
    split
    next hslash =>
      refine ⟨dir.toList, ?_, hafter _ (.inr hslash), by rw [String.ofList_toList]⟩
      rw [String.ofList_append, String.ofList_toList]
    next =>
      have hnonempty : dir.toList ≠ [] := by
        intro hnil
        exact h (.inl (by simpa using hnil))
      refine ⟨dir.toList ++ ['/'], ?_, hafter _ (.inr (by simp)), ?_⟩
      · rw [String.ofList_append, String.ofList_append, String.ofList_toList]
      · have horigin : origin (String.ofList (dir.toList ++ ['/'])) = origin dir := by
          rw [← String.ofList_toList (s := dir), String.toList_ofList]
          refine origin_congr ?_
          cases hdir : dir.toList with
          | nil => exact absurd hdir hnonempty
          | cons c rest => rfl
        rw [spot_eq, horigin, names_ended, String.ofList_toList, ← spot_eq]

/-- A sibling of a path ends with its own name and leads to it in the same directory. -/
theorem withName_last {path : String} {before name : List Char}
    (split : split? path = some (before, name)) {other : List Char} (last : Last [] other) :
    ∃ before', withName path (String.ofList other) = String.ofList (before' ++ other) ∧
      Last before' other ∧ spot (String.ofList before') = spot (String.ofList before) := by
  obtain ⟨before', hjoin, hlast, hspot⟩ :=
    join_last (String.ofList (trimReversed before.reverse).reverse) last
  refine ⟨before', ?_, hlast, hspot.trans (spot_trimReversed before)⟩
  rw [← hjoin, withName, split]

end FileTree

/-! ## Snapshots and drafts -/

namespace TableFile

open NetworkTuning.Path NetworkTuning.FileTree

section

variable {path : String} {before name : List Char}

theorem stem_plain (plain : '/' ∉ name) : '/' ∉ stemOf name := by
  intro h
  refine plain ?_
  rcases stemOf_or_extended name with hname | ⟨extension, hname⟩
  · rwa [hname]
  · rw [hname]
    exact List.mem_append_left _ h

/-- What goes on after a stem can be a last name. -/
theorem last_stem (plain : '/' ∉ name) (ending : List Char) (free : '/' ∉ ending)
    (long : 2 < ending.length) : Last [] (stemOf name ++ ending) := by
  have hlong : 2 < (stemOf name ++ ending).length := by
    rw [List.length_append]
    omega
  refine ⟨fun h => ?_, ?_, ?_, ?_, .inl rfl⟩
  · exact (List.mem_append.mp h).elim (stem_plain plain) free
  · rintro h
    simp [h] at hlong
  · rintro h
    simp [h] at hlong
  · rintro h
    simp [h] at hlong

/-- The snapshot of a table file is named after it, and its draft after the snapshot. -/
theorem paths_beside (split : split? path = some (before, name)) :
    ∃ before', spot (String.ofList before') = spot (String.ofList before) ∧
      Last before' (stemOf name ++ "_trained_data.csv".toList) ∧
      Last before' (stemOf name ++ "_trained_data.csv.tmp".toList) ∧
      snapshotPath path =
        String.ofList (before' ++ (stemOf name ++ "_trained_data.csv".toList)) ∧
      draftPath (snapshotPath path) =
        String.ofList (before' ++ (stemOf name ++ "_trained_data.csv.tmp".toList)) := by
  obtain ⟨-, hlast⟩ := split?_some split
  have hname : Path.stem path ++ "_trained_data.csv" =
      String.ofList (stemOf name ++ "_trained_data.csv".toList) := by
    rw [Path.stem, split]
    apply String.toList_inj.mp
    simp
  obtain ⟨before', hpath, hbeside, hspot⟩ :=
    withName_last split (last_stem hlast.plain "_trained_data.csv".toList (by simp) (by simp))
  have hsnapshot : snapshotPath path =
      String.ofList (before' ++ (stemOf name ++ "_trained_data.csv".toList)) := by
    rw [snapshotPath, hname, hpath]
  refine ⟨before', hspot, hbeside, ?_, hsnapshot, ?_⟩
  · exact { last_stem hlast.plain _ (by simp) (by simp) with ended := hbeside.ended }
  · have hextended : stemOf name ++ "_trained_data.csv".toList =
        (stemOf name ++ "_trained_data".toList) ++ '.' :: "csv".toList := by simp
    rw [hextended] at hsnapshot hbeside
    have hlone : stemOf name ++ "_trained_data".toList ≠ ['.'] := by
      intro h
      simpa using congrArg List.length h
    rw [draftPath, hsnapshot, withExtension_extended hbeside (by simp) hlone (by simp)]
    apply String.toList_inj.mp
    simp

/-- The snapshot of a table file stands in the directory of the table file. -/
theorem spot_snapshot (split : split? path = some (before, name)) :
    spot (snapshotPath path) = spot (String.ofList before) ++
      [String.ofList (stemOf name ++ "_trained_data.csv".toList)] := by
  obtain ⟨before', hspot, hlast, -, hsnapshot, -⟩ := paths_beside split
  rw [hsnapshot, spot_last hlast, hspot]

/-- The draft of the snapshot stands there as well. -/
theorem spot_draft (split : split? path = some (before, name)) :
    spot (draftPath (snapshotPath path)) = spot (String.ofList before) ++
      [String.ofList (stemOf name ++ "_trained_data.csv.tmp".toList)] := by
  obtain ⟨before', hspot, -, hlast, -, hdraft⟩ := paths_beside split
  rw [hdraft, spot_last hlast, hspot]

/-- A name is not its stem with something else than an extension after it. -/
theorem continued_ne (split : split? path = some (before, name)) {c : Char} (dotless : c ≠ '.')
    (rest : List Char) :
    spot (String.ofList before) ++ [String.ofList (stemOf name ++ c :: rest)] ≠ spot path := by
  rw [spot_of_split split]
  intro h
  have hsame := String.ofList_inj.mp (List.singleton_inj.mp (List.append_cancel_left h))
  rcases stemOf_or_extended name with hname | ⟨extension, hname⟩
  · have hnil : c :: rest = [] := List.append_right_eq_self.mp (hsame.trans hname)
    cases hnil
  · exact dotless (List.cons.inj (List.append_cancel_left (hsame.trans hname))).1

/-- **A table file is not its own snapshot**, whatever its name. -/
theorem snapshot_ne (split : split? path = some (before, name)) :
    spot (snapshotPath path) ≠ spot path := by
  rw [spot_snapshot split]
  exact continued_ne split (c := '_') (by decide) "trained_data.csv".toList

/-- **Nor is it the draft of its snapshot.** -/
theorem draft_ne (split : split? path = some (before, name)) :
    spot (draftPath (snapshotPath path)) ≠ spot path := by
  rw [spot_draft split]
  exact continued_ne split (c := '_') (by decide) "trained_data.csv.tmp".toList

end

/-- A draft with a last name stands beside its table file, under the stem of that one's name. -/
theorem spot_ownDraft {path : String} (named : endsInReference (draftPath path) = false) :
    ∃ before name, split? path = some (before, name) ∧
      spot (draftPath path) =
        spot (String.ofList before) ++ [String.ofList (stemOf name ++ ".csv.tmp".toList)] := by
  cases hsplit : split? path with
  | none =>
    rw [draftPath, withExtension_of_split?_none hsplit,
      endsInReference_of_split?_none hsplit] at named
    cases named
  | some parts =>
    obtain ⟨before, name⟩ := parts
    obtain ⟨-, hlast⟩ := split?_some hsplit
    rcases withExtension_cases hsplit "csv.tmp" with ⟨-, hdraft⟩ | hdraft
    · rw [draftPath, hdraft, endsInReference_last (.inr rfl) hlast.ended] at named
      cases named
    · refine ⟨before, name, rfl, ?_⟩
      have hbeside : Last before (stemOf name ++ ".csv.tmp".toList) :=
        { last_stem hlast.plain _ (by simp) (by simp) with ended := hlast.ended }
      rw [draftPath, hdraft]
      exact spot_last hbeside

/-- **A table file is not its own draft.** -/
theorem ownDraft_ne {path : String} (named : endsInReference (draftPath path) = false) :
    spot (draftPath path) ≠ spot path := by
  obtain ⟨before, name, hsplit, hdraft⟩ := spot_ownDraft named
  rw [hdraft, spot_of_split hsplit]
  intro h
  have hsame := String.ofList_inj.mp (List.singleton_inj.mp (List.append_cancel_left h))
  rcases stemOf_cases name with hname | ⟨extension, hname, -, hfree⟩
  · exact absurd (List.append_right_eq_self.mp (hsame.trans hname)) (by simp)
  · -- an extension has no dot, and two would be needed
    have hextension := (List.cons.inj (List.append_cancel_left (hsame.trans hname))).2
    exact hfree (hextension ▸ by decide)

end TableFile

end NetworkTuning
