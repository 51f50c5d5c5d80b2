import NetworkTuning.Proofs.FileTree.Moves
import NetworkTuning.Proofs.FileTree.Siblings

/-!
# What stays as it is

Two trees may be the same but for what stands at some places, as long as the same places are
directories in both (`SameBut`). A path that leads to none of the places then leads to the same in
both trees (`look_congr`). Writing and moving change what stands at the places to which their paths
lead, and nothing else (`write_sameBut`, `rename_sameBut`, `node?_moved`).

What happens to the files from outside decides what stands at a place or leaves what stood there
(`change_decided`), so it keeps two trees the same but for the places (`SameBut.change`).
-/

namespace NetworkTuning

namespace FileTree

variable {places : List (List String)} {t t' t'' : FileTree} {path : String}

/-- The same places are directories in two trees, and the same stands everywhere but at some places.
-/
structure SameBut (places : List (List String)) (t t' : FileTree) : Prop where
  elsewhere : ∀ here, here ∉ places → t'.node? here = t.node? here
  directories : ∀ here, t'.node? here = some .directory ↔ t.node? here = some .directory

theorem SameBut.refl (places : List (List String)) (t : FileTree) : SameBut places t t :=
  ⟨fun _ _ => rfl, fun _ => .rfl⟩

theorem SameBut.trans (first : SameBut places t t') (second : SameBut places t' t'') :
    SameBut places t t'' :=
  ⟨fun here h => (second.elsewhere here h).trans (first.elsewhere here h),
    fun here => (second.directories here).trans (first.directories here)⟩

/-! ## Looking -/

/-- A path leads to its own spot, if anywhere. -/
theorem follow_ok {here names goal : List String} (led : t.follow here names = .ok goal) :
    goal = walk here names := by
  induction names generalizing here with
  | nil => exact (Except.ok.inj led).symm
  | cons name rest ih =>
    rw [follow] at led
    change goal = walk (if name = "." then here else if name = ".." then above here
      else here ++ [name]) rest
    split at led
    next =>
      split at led
      next hdot => rw [if_pos hdot]; exact ih led
      next hdot =>
        rw [if_neg hdot]
        split at led
        next hup => rw [if_pos hup]; exact ih led
        next hup =>
          rw [if_neg hup]
          split at led
          next => cases led
          next => exact ih led
    next => cases led
    next => cases led

theorem place_ok {goal : List String} (led : t.place path = .ok goal) : goal = spot path := by
  unfold place at led
  split at led
  next => cases led
  next =>
    split at led
    next => cases led
    next =>
      split at led
      next => cases led
      next => exact follow_ok led

theorem Writable.place_eq (writable : t.Writable path) : t.place path = .ok (spot path) := by
  obtain ⟨here, hplace, -⟩ := writable
  rwa [← place_ok hplace]

/-- **Where two trees are the same, a path leads to the same.** -/
theorem look_congr (same : SameBut places t t') (other : spot path ∉ places) :
    (t'.look path).toOption = (t.look path).toOption := by
  have hthere : KeepsDirectories t t' := fun here h => (same.directories here).mpr h
  have hback : KeepsDirectories t' t := fun here h => (same.directories here).mp h
  unfold look
  cases hplace : t.place path with
  | ok goal =>
    obtain rfl := place_ok hplace
    rw [place_of_keeps hthere hplace]
    simp only [bind, Except.bind]
    rw [same.elsewhere _ other]
  | error e =>
    cases hplace' : t'.place path with
    | ok goal =>
      rw [place_of_keeps hback hplace'] at hplace
      cases hplace
    | error e' => rfl

/-- Where two trees are the same but for what stands at some places, a file can be put at the same
paths. -/
theorem SameBut.writable_iff (same : SameBut places t t') (path : String) :
    t'.Writable path ↔ t.Writable path := by
  have hthere : KeepsDirectories t t' := fun here h => (same.directories here).mpr h
  have hback : KeepsDirectories t' t := fun here h => (same.directories here).mp h
  exact ⟨.of_keeps hback hthere, .of_keeps hthere hback⟩

/-! ## Changes from outside -/

/-- What a change decides stands at a place, whatever stood there, or the change leaves it. -/
def Decided (here : List String) (change : FileTree → FileTree) : Prop :=
  (∃ node, ∀ t, (change t).node? here = node) ∨ ∀ t, (change t).node? here = t.node? here

theorem Decided.comp {here : List String} {first second : FileTree → FileTree}
    (h : Decided here first) (h' : Decided here second) :
    Decided here fun t => second (first t) := by
  rcases h' with ⟨node, h'⟩ | h'
  · exact .inl ⟨node, fun t => h' (first t)⟩
  · rcases h with ⟨node, h⟩ | h
    · exact .inl ⟨node, fun t => (h' (first t)).trans (h t)⟩
    · exact .inr fun t => (h' (first t)).trans (h t)

/-- The roots are directories, come what may. -/
theorem decided_root {here : List String} (root : here = [] ∨ here = ["/"])
    (change : FileTree → FileTree) : Decided here change :=
  .inl ⟨some .directory, fun _ => if_pos root⟩

theorem decided_withNode (here place : List String) (node : Option Node) :
    Decided here fun t => t.withNode place node := by
  by_cases hroot : here = [] ∨ here = ["/"]
  · exact decided_root hroot _
  · by_cases h : here = place
    · subst h
      exact .inl ⟨node, fun t => node?_withNode_self hroot node⟩
    · exact .inr fun t => node?_withNode_ne h node

/-- The tree with a directory at a place. -/
def opened (t : FileTree) (place : List String) : FileTree :=
  match t.node? place with
  | some .directory => t
  | _ => t.withNode place (some .directory)

theorem ensure_cons (t : FileTree) (start : List String) (name : String) (rest : List String) :
    t.ensure start (name :: rest) =
      (t.opened (start ++ [name])).ensure (start ++ [name]) rest := by
  rw [ensure, opened]
  cases t.node? (start ++ [name]) with
  | none => rfl
  | some node => cases node <;> rfl

theorem decided_opened (here place : List String) : Decided here fun t => t.opened place := by
  by_cases hroot : here = [] ∨ here = ["/"]
  · exact decided_root hroot _
  · by_cases h : here = place
    · refine .inl ⟨some .directory, fun t => ?_⟩
      subst h
      dsimp only [opened]
      split
      next hdirectory => exact hdirectory
      next => exact node?_withNode_self hroot _
    · refine .inr fun t => ?_
      dsimp only [opened]
      split
      next => rfl
      next => exact node?_withNode_ne h _

theorem decided_ensure (here start names : List String) :
    Decided here fun t => t.ensure start names := by
  induction names generalizing start with
  | nil => exact .inr fun t => rfl
  | cons name rest ih =>
    simp only [ensure_cons]
    exact (decided_opened here (start ++ [name])).comp (ih (start ++ [name]))

theorem decided_remove (here : List String) (path : String) :
    Decided here fun t => t.remove path := by
  by_cases hroot : here = [] ∨ here = ["/"]
  · exact decided_root hroot _
  · by_cases hbelow : here.take (spot path).length = spot path
    · refine .inl ⟨none, fun t => ?_⟩
      unfold node? remove
      rw [if_neg hroot, Option.map_eq_none_iff, List.find?_eq_none]
      intro e he hplace
      obtain rfl : e.1 = here := of_decide_eq_true hplace
      simp [hbelow] at he
    · refine .inr fun t => ?_
      unfold node? remove
      rw [if_neg hroot, if_neg hroot, List.find?_filter]
      congr 2
      funext e
      by_cases he : e.1 = here
      · simp [he, hbelow]
      · simp [he]

/-- **What happens to the files from outside decides what stands at a place or leaves it.** -/
theorem change_decided (here : List String) (changes : List (String × Option Node)) :
    Decided here (FileTree.change changes) := by
  induction changes with
  | nil => exact .inr fun t => rfl
  | cons c rest ih =>
    have hfirst : Decided here (FileTree.change [c]) := by
      obtain ⟨path, _ | node⟩ := c
      · exact decided_remove here path
      · exact (decided_ensure here [] _).comp (decided_withNode here _ (some node))
    exact hfirst.comp ih

/-- Two trees stay the same but for some places when the same happens to both. -/
theorem SameBut.change (same : SameBut places t t') (changes : List (String × Option Node)) :
    SameBut places (t.change changes) (t'.change changes) := by
  refine ⟨fun here hhere => ?_, fun here => ?_⟩
  · rcases change_decided here changes with ⟨node, h⟩ | h
    · rw [h, h]
    · rw [h, h]
      exact same.elsewhere here hhere
  · rcases change_decided here changes with ⟨node, h⟩ | h
    · rw [h, h]
    · rw [h, h]
      exact same.directories here

/-! ## Writing -/

/-- Putting something else than a directory where no directory stands changes that place only. -/
theorem withNode_sameBut {here : List String} (listed : here ∈ places)
    (file : t.node? here ≠ some .directory) (node : Option Node) (plain : node ≠ some .directory) :
    SameBut places t (t.withNode here node) := by
  refine ⟨fun there hthere => ?_, fun there => ?_⟩
  · exact node?_withNode_ne (fun h : there = here => hthere (h ▸ listed)) node
  · by_cases h : there = here
    · rw [h, node?_withNode_self (inside_of_ne file)]
      exact ⟨fun h => absurd h plain, fun h => absurd h file⟩
    · rw [node?_withNode_ne h]

theorem write_sameBut {contents : Contents} (listed : spot path ∈ places)
    (written : t.write path contents = .ok t') : SameBut places t t' := by
  obtain ⟨here, hplace, -, hfree, rfl⟩ := write_ok_iff.mp written
  obtain rfl := place_ok hplace
  exact withNode_sameBut listed hfree _ (by simp)

theorem rename_sameBut {source target : String} (origin : spot source ∈ places)
    (goal : spot target ∈ places) (renamed : t.rename source target = .ok t') :
    SameBut places t t' := by
  obtain ⟨here, there, contents, hhere, hthere, -, hfile, -, hfree, rfl⟩ :=
    rename_ok_iff.mp renamed
  obtain rfl := place_ok hhere
  obtain rfl := place_ok hthere
  have hgone := withNode_sameBut origin (by rw [hfile]; simp) none (by simp)
  refine hgone.trans (withNode_sameBut goal ?_ _ (by simp))
  rwa [Ne, hgone.directories]

/-- A file that was written stands where its path leads. -/
theorem write_stands {contents : Contents} (written : t.write path contents = .ok t') :
    t'.place path = .ok (spot path) ∧ t'.node? (spot path) = some (.file contents) := by
  obtain ⟨here, hplace, -, hfree, rfl⟩ := write_ok_iff.mp written
  obtain rfl := place_ok hplace
  exact ⟨place_of_keeps (keeps_withNode hfree _) hplace,
    node?_withNode_self (inside_of_ne hfree) _⟩

end FileTree

end NetworkTuning
