import NetworkTuning.FileTree.Basic

/-!
# Files that are written and moved

Writing and moving put a file where no directory stands, so whatever was a directory before is one
after (`KeepsDirectories`), and a path that led somewhere still leads there (`place_of_keeps`).
Hence what is written to one path and moved to another is read there (`read_moved`), whatever else
stands in the tree. Writing creates the file empty and then fills it (`write_of_create`). A path to
which a file can be created can be written and moved to as well (`Writable`).
-/

namespace NetworkTuning

/-! ## Steps that may fail -/

section

variable {α β ε : Type} {x : Except ε α} {f : α → Except ε β}

theorem bind_ok_iff {b : β} : (x >>= f) = .ok b ↔ ∃ a, x = .ok a ∧ f a = .ok b := by
  cases x with
  | error e => simp [bind, Except.bind]
  | ok a => simp [bind, Except.bind]

theorem bind_error_iff {e : ε} :
    (x >>= f) = .error e ↔ x = .error e ∨ ∃ a, x = .ok a ∧ f a = .error e := by
  cases x with
  | error e => simp [bind, Except.bind]
  | ok a => simp [bind, Except.bind]

variable {δ : Type} {wrap : ε → δ}

theorem mapError_ok_iff {a : α} : x.mapError wrap = .ok a ↔ x = .ok a := by
  cases x with
  | error e => exact ⟨nofun, nofun⟩
  | ok b =>
    constructor
    · exact fun h => congrArg Except.ok (Except.ok.inj h)
    · exact fun h => congrArg Except.ok (Except.ok.inj h)

theorem mapError_error_iff {e : δ} :
    x.mapError wrap = .error e ↔ ∃ cause, x = .error cause ∧ wrap cause = e := by
  cases x with
  | error cause =>
    constructor
    · exact fun h => ⟨cause, rfl, Except.error.inj h⟩
    · rintro ⟨-, ⟨⟩, rfl⟩
      rfl
  | ok a => exact ⟨nofun, nofun⟩

end

namespace FileTree

variable {t t' : FileTree} {path : String} {here : List String}

/-! ## Nodes -/

/-- What stands at a place after something was put there, or taken away. -/
theorem node?_withNode_self (inside : ¬(here = [] ∨ here = ["/"])) (node : Option Node) :
    (t.withNode here node).node? here = node := by
  have hothers : (t.entries.filter fun e => e.1 ≠ here).find? (fun e => e.1 = here) = none := by
    simp
  unfold node? withNode
  rw [if_neg inside]
  cases node with
  | none => simp only [hothers, Option.map_none]
  | some n => simp

theorem node?_withNode_ne {place : List String} (other : here ≠ place) (node : Option Node) :
    (t.withNode place node).node? here = t.node? here := by
  have hothers : (t.entries.filter fun e => e.1 ≠ place).find? (fun e => e.1 = here) =
      t.entries.find? fun e => e.1 = here := by
    rw [List.find?_filter]
    congr 1
    funext e
    by_cases h : e.1 = here
    · simp [h, other]
    · simp [h]
  unfold node? withNode
  cases node with
  | none => simp only [hothers]
  | some n => simp only [List.find?_cons, decide_eq_false (Ne.symm other), hothers]

/-- Of two things that are put at one place the later one stands there. -/
theorem withNode_withNode (t : FileTree) (here : List String) (first second : Option Node) :
    (t.withNode here first).withNode here second = t.withNode here second := by
  have hothers : (t.withNode here first).entries.filter (fun e => e.1 ≠ here) =
      t.entries.filter fun e => e.1 ≠ here := by
    cases first with
    | none => simp [withNode, List.filter_filter]
    | some n => simp [withNode, List.filter_filter]
  cases second with
  | none => exact congrArg FileTree.mk hothers
  | some n => exact congrArg (fun others => FileTree.mk ((here, n) :: others)) hothers

/-- What is no directory is neither of the roots. -/
theorem inside_of_ne (file : t.node? here ≠ some .directory) : ¬(here = [] ∨ here = ["/"]) :=
  fun h => file (if_pos h)

/-- Whatever is a directory in one tree is one in the other. -/
def KeepsDirectories (t t' : FileTree) : Prop :=
  ∀ place, t.node? place = some .directory → t'.node? place = some .directory

theorem KeepsDirectories.trans {t'' : FileTree} (first : KeepsDirectories t t')
    (second : KeepsDirectories t' t'') : KeepsDirectories t t'' := fun place h =>
  second place (first place h)

/-- Nothing that is put in place of what is no directory takes a directory away. -/
theorem keeps_withNode (file : t.node? here ≠ some .directory) (node : Option Node) :
    KeepsDirectories t (t.withNode here node) := by
  intro place h
  have hother : place ≠ here := by
    rintro rfl
    exact file h
  rw [node?_withNode_ne hother, h]

/-! ## Paths -/

/-- What names lead to along directories they lead to as long as these are directories. -/
theorem follow_of_keeps (keeps : KeepsDirectories t t') {names here goal : List String}
    (led : t.follow here names = .ok goal) : t'.follow here names = .ok goal := by
  induction names generalizing here with
  | nil => exact led
  | cons name rest ih =>
    rw [follow] at led
    rw [follow]
    split at led
    next hdirectory =>
      rw [keeps here hdirectory]
      dsimp only
      split at led
      next hdot => rw [if_pos hdot]; exact ih led
      next hdot =>
        rw [if_neg hdot]
        split at led
        next hup => rw [if_pos hup]; exact ih led
        next hup =>
          rw [if_neg hup]
          split at led
          next => cases led
          next hlong => rw [if_neg hlong]; exact ih led
    next => cases led
    next => cases led

theorem place_of_keeps (keeps : KeepsDirectories t t') {goal : List String}
    (led : t.place path = .ok goal) : t'.place path = .ok goal := by
  unfold place at led ⊢
  split at led
  next => cases led
  next hzero =>
    rw [if_neg hzero]
    split at led
    next => cases led
    next hempty =>
      rw [if_neg hempty]
      split at led
      next => cases led
      next hlong =>
        rw [if_neg hlong]
        exact follow_of_keeps keeps led

/-! ## Reading, writing, moving -/

theorem read_of_node {contents : Contents} (led : t.place path = .ok here)
    (plain : asksDirectory path = false) (file : t.node? here = some (.file contents)) :
    t.read path = .ok contents := by
  have hlook : t.look path = .ok (.file contents) := by
    simp only [look, led, bind, Except.bind, file, plain, Bool.false_eq_true, if_false]
  simp only [read, hlook, bind, Except.bind]

/-- What creating takes and does. -/
theorem create_ok_iff {created : FileTree} : t.create path = .ok (created, here) ↔
    t.place path = .ok here ∧ asksDirectory path = false ∧ t.node? here ≠ some .directory ∧
      created = t.withNode here (some (.file (.text ""))) := by
  simp only [create, bind_ok_iff]
  constructor
  · rintro ⟨goal, hplace, h⟩
    split at h
    next => cases h
    next hplain =>
      split at h
      next => cases h
      next hfree =>
        cases h
        exact ⟨hplace, Bool.eq_false_iff.mpr hplain, hfree, rfl⟩
  · rintro ⟨hplace, hplain, hfree, rfl⟩
    refine ⟨here, hplace, ?_⟩
    rw [if_neg (Bool.eq_false_iff.mp hplain)]
    split
    next h => exact absurd h hfree
    next => rfl

/-- To write a file is to create it and to fill it. -/
theorem write_of_create {created : FileTree} (h : t.create path = .ok (created, here))
    (contents : Contents) :
    t.write path contents = .ok (created.withNode here (some (.file contents))) := by
  rw [write, h]
  rfl

/-- What writing takes and does. -/
theorem write_ok_iff {contents : Contents} : t.write path contents = .ok t' ↔
    ∃ here, t.place path = .ok here ∧ asksDirectory path = false ∧
      t.node? here ≠ some .directory ∧ t' = t.withNode here (some (.file contents)) := by
  simp only [write, bind_ok_iff]
  constructor
  · rintro ⟨⟨created, here⟩, hcreate, h⟩
    obtain ⟨hplace, hplain, hfree, rfl⟩ := create_ok_iff.mp hcreate
    cases h
    exact ⟨here, hplace, hplain, hfree, withNode_withNode t here (some (.file (.text ""))) _⟩
  · rintro ⟨here, hplace, hplain, hfree, rfl⟩
    refine ⟨_, create_ok_iff.mpr ⟨hplace, hplain, hfree, rfl⟩, ?_⟩
    exact congrArg Except.ok (withNode_withNode t here (some (.file (.text ""))) _)

/-- What moving takes and does. -/
theorem rename_ok_iff {source target : String} : t.rename source target = .ok t' ↔
    ∃ origin goal contents, t.place source = .ok origin ∧ t.place target = .ok goal ∧
      endsInReference target = false ∧ t.node? origin = some (.file contents) ∧
      asksDirectory target = false ∧ t.node? goal ≠ some .directory ∧
      t' = (t.withNode origin none).withNode goal (some (.file contents)) := by
  simp only [rename, bind_ok_iff]
  constructor
  · rintro ⟨origin, horigin, goal, hgoal, h⟩
    split at h
    next => cases h
    next hnamed =>
      split at h
      next contents hfile =>
        split at h
        next => cases h
        next hplain =>
          split at h
          next => cases h
          next hfree =>
            cases h
            exact ⟨origin, goal, contents, horigin, hgoal, Bool.eq_false_iff.mpr hnamed, hfile,
              Bool.eq_false_iff.mpr hplain, hfree, rfl⟩
      next => cases h
      next => cases h
  · rintro ⟨origin, goal, contents, horigin, hgoal, hnamed, hfile, hplain, hfree, rfl⟩
    refine ⟨origin, horigin, goal, hgoal, ?_⟩
    rw [if_neg (Bool.eq_false_iff.mp hnamed), hfile]
    dsimp only
    rw [if_neg (Bool.eq_false_iff.mp hplain)]
    split
    next h => exact absurd h hfree
    next => rfl

/-- **What was written and moved is read where it was moved to.** -/
theorem read_moved {drafted moved : FileTree} {draft : String} {contents : Contents}
    (written : t.write draft contents = .ok drafted)
    (renamed : drafted.rename draft path = .ok moved) : moved.read path = .ok contents := by
  obtain ⟨here, hplace, -, hfree, rfl⟩ := write_ok_iff.mp written
  obtain ⟨origin, goal, found, horigin, hgoal, -, hfile, hplain, hnone, rfl⟩ :=
    rename_ok_iff.mp renamed
  -- the draft is found where it was written
  have hdraft := place_of_keeps (keeps_withNode hfree (some (.file contents))) hplace
  obtain rfl : here = origin := Except.ok.inj (hdraft.symm.trans horigin)
  rw [node?_withNode_self (inside_of_ne hfree)] at hfile
  cases hfile
  -- taking the draft away takes no directory away, and neither does putting it in its new place
  have hgone : ∀ place, (t.withNode here (some (.file contents))).node? place ≠ some .directory →
      ((t.withNode here (some (.file contents))).withNode here none).node? place ≠
        some .directory := by
    intro place hplace
    by_cases hsame : place = here
    · rw [hsame, node?_withNode_self (inside_of_ne hfree)]
      nofun
    · rwa [node?_withNode_ne hsame]
  have hfile : (t.withNode here (some (.file contents))).node? here ≠ some .directory := by
    rw [node?_withNode_self (inside_of_ne hfree)]
    nofun
  exact read_of_node
    (place_of_keeps ((keeps_withNode hfile none).trans (keeps_withNode (hgone goal hnone) _)) hgoal)
    hplain (node?_withNode_self (inside_of_ne (hgone goal hnone)) _)

/-! ## What cannot be moved -/

theorem prefix_of_above (here : List String) : above here <+: here := by
  unfold above
  split
  next => exact List.prefix_refl here
  next => exact List.dropLast_prefix here

/-- Names that end by referring to a place lead to a directory, if the way to where they start is
one of directories. -/
theorem follow_reference {names here goal : List String} {name : String}
    (ground : ∀ place, place <+: here → place ≠ here → t.node? place = some .directory)
    (last : names.getLast? = some name) (refers : name = "." ∨ name = "..")
    (led : t.follow here names = .ok goal) : t.node? goal = some .directory := by
  induction names generalizing here with
  | nil => cases last
  | cons first rest ih =>
    rw [follow] at led
    split at led
    next hhere =>
      have hground : ∀ place, place <+: here → t.node? place = some .directory := by
        intro place hplace
        by_cases hsame : place = here
        · rw [hsame, hhere]
        · exact ground place hplace hsame
      cases rest with
      | nil =>
        obtain rfl : first = name := by simpa using last
        rcases refers with rfl | rfl
        · rw [if_pos rfl, follow] at led
          cases led
          exact hhere
        · rw [if_neg (by decide), if_pos rfl, follow] at led
          cases led
          exact hground _ (prefix_of_above here)
      | cons second rest =>
        rw [List.getLast?_cons_cons] at last
        split at led
        next => exact ih ground last led
        next =>
          split at led
          next =>
            apply ih _ last led
            intro place hplace _
            exact hground place (hplace.trans (prefix_of_above here))
          next =>
            split at led
            next => cases led
            next =>
              apply ih _ last led
              intro place hplace hother
              rcases List.prefix_concat_iff.mp hplace with hwhole | hplace
              · exact absurd hwhole hother
              · exact hground place hplace
    next => cases led
    next => cases led

/-- A path whose last name only refers to a place leads to a directory, if anywhere. -/
theorem place_reference {goal : List String} (refers : endsInReference path = true)
    (led : t.place path = .ok goal) : t.node? goal = some .directory := by
  have horigin : origin path = [] ∨ origin path = ["/"] := by
    unfold origin
    split
    next => exact .inr rfl
    next => exact .inl rfl
  have hfollow : t.follow (origin path) (names path) = .ok goal := by
    unfold place at led
    split at led
    next => cases led
    next =>
      split at led
      next => cases led
      next =>
        split at led
        next => cases led
        next => exact led
  unfold endsInReference at refers
  cases hlast : (names path).getLast? with
  | none =>
    rw [List.getLast?_eq_none_iff] at hlast
    rw [hlast, follow] at hfollow
    cases hfollow
    exact if_pos horigin
  | some name =>
    rw [hlast] at refers
    refine follow_reference ?_ hlast (by simpa using refers) hfollow
    intro place hplace hother
    rcases horigin with h | h
    · rw [h] at hplace hother
      exact absurd (List.prefix_nil.mp hplace) hother
    · rw [h] at hplace hother
      refine if_pos (.inl ?_)
      cases place with
      | nil => rfl
      | cons name rest =>
        obtain ⟨rfl, hrest⟩ := List.cons_prefix_cons.mp hplace
        rw [List.prefix_nil.mp hrest] at hother
        exact absurd rfl hother

/-! ## Where a file can be put -/

/-- A path to which a file can be written or moved: it leads to a place where no directory stands,
and does not ask for one. -/
def Writable (t : FileTree) (path : String) : Prop :=
  ∃ here, t.place path = .ok here ∧ t.node? here ≠ some .directory ∧ asksDirectory path = false

theorem create_isOk_iff :
    (∃ created here, t.create path = .ok (created, here)) ↔ t.Writable path := by
  simp only [create_ok_iff]
  constructor
  · rintro ⟨-, here, hplace, hplain, hfree, -⟩
    exact ⟨here, hplace, hfree, hplain⟩
  · rintro ⟨here, hplace, hfree, hplain⟩
    exact ⟨_, here, hplace, hplain, hfree, rfl⟩

theorem write_isOk_iff (contents : Contents) :
    (∃ t', t.write path contents = .ok t') ↔ t.Writable path := by
  simp only [write_ok_iff]
  constructor
  · rintro ⟨-, here, hplace, hplain, hfree, -⟩
    exact ⟨here, hplace, hfree, hplain⟩
  · rintro ⟨here, hplace, hfree, hplain⟩
    exact ⟨_, here, hplace, hplain, hfree, rfl⟩

/-- Nothing can be put at a path that only refers to a place. -/
theorem Writable.named (writable : t.Writable path) : endsInReference path = false := by
  obtain ⟨here, hplace, hfree, -⟩ := writable
  exact Bool.eq_false_iff.mpr fun hrefers => hfree (place_reference hrefers hplace)

/-- To move a file takes no more than to write one. -/
theorem rename_isOk_iff {source target : String} {origin : List String} {contents : Contents}
    (start : t.place source = .ok origin) (file : t.node? origin = some (.file contents)) :
    (∃ t', t.rename source target = .ok t') ↔ t.Writable target := by
  simp only [rename_ok_iff]
  constructor
  · rintro ⟨-, -, goal, -, -, hgoal, -, -, hplain, hfree, -⟩
    exact ⟨goal, hgoal, hfree, hplain⟩
  · rintro writable
    obtain ⟨goal, hgoal, hfree, hplain⟩ := id writable
    exact ⟨_, origin, goal, contents, start, hgoal, writable.named, file, hplain, hfree, rfl⟩

theorem Writable.of_keeps (keeps : KeepsDirectories t t') (kept : KeepsDirectories t' t)
    (writable : t.Writable path) : t'.Writable path := by
  obtain ⟨here, hplace, hfree, hplain⟩ := writable
  exact ⟨here, place_of_keeps keeps hplace, fun h => hfree (kept here h), hplain⟩

end FileTree

end NetworkTuning
