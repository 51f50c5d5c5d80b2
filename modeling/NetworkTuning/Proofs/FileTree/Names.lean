import Mathlib.Data.List.TakeWhile
import NetworkTuning.FileTree.Path

/-!
# The last name of a path

What counts of a path is cut after its last slash (`split?_eq`). A path that has a last name is, as
far as it counts, what stands before the name and the name (`split?_some`), and what ends with a
name has it as its last name (`Last.split?`). A name is its stem, or its stem, a dot and an
extension without dots (`stemOf_cases`).

A path gets another extension in one of two ways (`withExtension_cases`): its last name keeps its
stem, whatever extension it has and whatever slashes and lone dots follow it; or two dots are all
that is left of the name before its old extension, and the path then has no last name.
-/

namespace NetworkTuning.Path

/-! ## Names at the end -/

/-- A name that stands at the end of a path, after what ends with a slash or after nothing. -/
structure Last (before name : List Char) : Prop where
  plain : '/' ∉ name
  nonempty : name ≠ []
  lone : name ≠ ['.']
  upward : name ≠ ['.', '.']
  ended : before = [] ∨ before.getLast? = some '/'

/-- What counts of a path starts as the path does. -/
theorem getLast?_trimReversed (cs : List Char) : (trimReversed cs).getLast? = cs.getLast? := by
  fun_induction trimReversed cs with
  | case1 | case2 | case3 => rfl
  | case4 rest hrest ih =>
    obtain ⟨c, rest, rfl⟩ := List.exists_cons_of_ne_nil hrest
    rw [ih, List.getLast?_cons_cons]
  | case5 rest ih => rw [ih, List.getLast?_cons_cons]
  | case6 => rfl

/-- A lone dot after a slash does not count. -/
theorem trimReversed_ne (cs rest : List Char) : trimReversed cs ≠ '.' :: '/' :: rest := by
  fun_induction trimReversed cs with
  | case1 | case2 | case3 => simp
  | case4 _ _ ih | case5 _ ih => exact ih
  | case6 cs _ _ _ _ hdot =>
    rintro rfl
    exact hdot rest rfl

/-- A text ends where a character stands for the first time, or has no such character. -/
theorem takeWhile_or (x : Char) (cs : List Char) :
    (x ∉ cs ∧ cs.takeWhile (· ≠ x) = cs ∧ cs.dropWhile (· ≠ x) = []) ∨
      ∃ first rest, x ∉ first ∧ cs = first ++ x :: rest ∧ cs.takeWhile (· ≠ x) = first ∧
        cs.dropWhile (· ≠ x) = x :: rest := by
  by_cases hx : x ∈ cs
  · obtain ⟨first, rest, rfl, hfirst⟩ := List.eq_append_cons_of_mem hx
    have hother : ∀ c ∈ first, decide (c ≠ x) = true := fun c hc =>
      decide_eq_true fun h => hfirst (h ▸ hc)
    refine .inr ⟨first, rest, hfirst, rfl, ?_, ?_⟩
    · rw [List.takeWhile_append_of_pos hother, List.takeWhile_cons_of_neg (by simp),
        List.append_nil]
    · rw [List.dropWhile_append_of_pos hother, List.dropWhile_cons_of_neg (by simp)]
  · have hother : ∀ c ∈ cs, decide (c ≠ x) = true := fun c hc =>
      decide_eq_true fun h => hx (h ▸ hc)
    refine .inl ⟨hx, ?_, ?_⟩
    · rw [List.takeWhile_eq_self_iff]
      exact hother
    · rw [List.dropWhile_eq_nil_iff]
      exact hother

/-- What counts of a path is cut after its last slash, and what follows there is the last name
unless it only refers to a place. -/
theorem split?_eq (path : String) :
    ∃ before name, trimEnd path = before ++ name ∧ '/' ∉ name ∧
      (before = [] ∨ before.getLast? = some '/') ∧
      split? path = if name = [] ∨ name = ['.', '.'] ∨ (name = ['.'] ∧ before = []) then none
        else some (before, name) := by
  have hcounts : trimEnd path = (trimReversed path.toList.reverse).reverse := rfl
  unfold split?
  dsimp only
  rw [hcounts, List.reverse_reverse]
  generalize trimReversed path.toList.reverse = reversed
  rcases takeWhile_or '/' reversed with
    ⟨hfree, htake, hdrop⟩ | ⟨first, rest, hfree, rfl, htake, hdrop⟩
  · rw [htake, hdrop]
    exact ⟨[], reversed.reverse, rfl, by simpa using hfree, .inl rfl, rfl⟩
  · rw [htake, hdrop]
    exact ⟨('/' :: rest).reverse, first.reverse, by simp, by simpa using hfree, .inr (by simp), rfl⟩

/-- A path that has a last name is, as far as it counts, what stands before the name and the name.
-/
theorem split?_some {path : String} {before name : List Char}
    (split : split? path = some (before, name)) :
    trimEnd path = before ++ name ∧ Last before name := by
  obtain ⟨before', name', hcounts, hplain, hended, hsplit⟩ := split?_eq path
  obtain ⟨hnone, hpair⟩ := Option.ite_none_left_eq_some.mp (hsplit.symm.trans split)
  obtain ⟨rfl, rfl⟩ := Prod.mk.inj (Option.some.inj hpair)
  obtain ⟨hnonempty, hothers⟩ := not_or.mp hnone
  obtain ⟨hupward, hlone⟩ := not_or.mp hothers
  refine ⟨hcounts, hplain, hnonempty, fun hdot => ?_, hupward, hended⟩
  -- a lone dot stands after a slash here, and would not count
  obtain ⟨rest, rfl⟩ := List.getLast?_eq_some_iff.mp (hended.resolve_left fun h => hlone ⟨hdot, h⟩)
  refine trimReversed_ne path.toList.reverse rest.reverse ?_
  rw [← List.reverse_reverse (trimReversed _), ← trimEnd, hcounts, hdot]
  simp

/-- What ends with a name counts as a whole. -/
theorem Last.trimReversed {before name : List Char} (last : Last before name) :
    trimReversed (before ++ name).reverse = (before ++ name).reverse := by
  obtain ⟨c, rest, hreversed⟩ :=
    List.exists_cons_of_ne_nil (List.reverse_ne_nil_iff.mpr last.nonempty)
  have hplain (d : Char) (hd : d ∈ c :: rest) : d ≠ '/' := by
    rintro rfl
    exact last.plain (List.mem_reverse.mp (hreversed ▸ hd))
  have hc := hplain c List.mem_cons_self
  have hdot : c = '.' → ∀ more, rest ++ before.reverse ≠ '/' :: more := by
    rintro rfl more hmore
    cases rest with
    | nil =>
      refine last.lone ?_
      rw [← List.reverse_reverse name, hreversed]
      rfl
    | cons d others =>
      obtain ⟨rfl, -⟩ := List.cons.inj hmore
      exact hplain '/' (by simp) rfl
  rw [List.reverse_append, hreversed, List.cons_append]
  unfold Path.trimReversed
  split
  next h => cases h
  next h => exact absurd (List.cons.inj h).1 hc
  next h => exact h.symm
  next h => exact absurd (List.cons.inj h).1 hc
  next rest h => exact absurd (List.cons.inj h).2 (hdot (List.cons.inj h).1 rest)
  next => rfl

/-- What ends with a name splits before it. -/
theorem Last.split? {before name : List Char} (last : Last before name) :
    split? (String.ofList (before ++ name)) = some (before, name) := by
  have hcounts : (trimEnd (String.ofList (before ++ name))).reverse =
      name.reverse ++ before.reverse := by
    rw [trimEnd, List.reverse_reverse, String.toList_ofList, last.trimReversed,
      List.reverse_append]
  have hnone : ¬(name = [] ∨ name = ['.', '.'] ∨ (name = ['.'] ∧ before = [])) := by
    rintro (h | h | ⟨h, -⟩)
    · exact last.nonempty h
    · exact last.upward h
    · exact last.lone h
  have hother : ∀ c ∈ name.reverse, decide (c ≠ '/') = true := fun c hc =>
    decide_eq_true fun h => last.plain (h ▸ List.mem_reverse.mp hc)
  have hslash : before.reverse.takeWhile (· ≠ '/') = [] ∧
      before.reverse.dropWhile (· ≠ '/') = before.reverse := by
    rcases last.ended with rfl | hended
    · exact ⟨rfl, rfl⟩
    · obtain ⟨rest, rfl⟩ := List.getLast?_eq_some_iff.mp hended
      simp
  unfold Path.split?
  simp only [hcounts, List.takeWhile_append_of_pos hother, List.dropWhile_append_of_pos hother,
    hslash.1, hslash.2, List.append_nil, List.reverse_reverse]
  exact if_neg hnone

/-! ## Stems -/

theorem stemOf_extended {stem : List Char} (nonempty : stem ≠ []) {extension : List Char}
    (plain : '.' ∉ extension) : stemOf (stem ++ '.' :: extension) = stem := by
  have hother : ∀ c ∈ extension.reverse, decide (c ≠ '.') = true := fun c hc =>
    decide_eq_true fun h => plain (h ▸ List.mem_reverse.mp hc)
  have hdrop : (stem ++ '.' :: extension).reverse.dropWhile (· ≠ '.') = '.' :: stem.reverse := by
    rw [List.reverse_append, List.reverse_cons, List.append_assoc,
      List.dropWhile_append_of_pos hother]
    exact List.dropWhile_cons_of_neg (by simp)
  unfold stemOf
  simp only [hdrop, List.drop_succ_cons, List.drop_zero, List.isEmpty_reverse,
    List.isEmpty_iff, nonempty, if_false, List.reverse_reverse]

/-- A name is its stem, or something, the dot that stands last in it, and an extension. -/
theorem stemOf_cases (name : List Char) :
    name = stemOf name ∨
      ∃ extension, name = stemOf name ++ '.' :: extension ∧ stemOf name ≠ [] ∧ '.' ∉ extension := by
  rcases takeWhile_or '.' name.reverse with ⟨-, -, hdrop⟩ | ⟨first, rest, hfree, hname, -, hdrop⟩
  · refine .inl ?_
    unfold stemOf
    simp only [hdrop, List.drop_nil, List.isEmpty_nil, if_true]
  · unfold stemOf
    simp only [hdrop, List.drop_succ_cons, List.drop_zero]
    split
    next => exact .inl rfl
    next hstem =>
      refine .inr ⟨first.reverse, by simpa using congrArg List.reverse hname, ?_, ?_⟩
      · simpa using hstem
      · simpa using hfree

/-- A name is its stem, or its stem and an extension. -/
theorem stemOf_or_extended (name : List Char) :
    name = stemOf name ∨ ∃ extension, name = stemOf name ++ '.' :: extension :=
  (stemOf_cases name).imp_right fun ⟨extension, hname, _⟩ => ⟨extension, hname⟩

/-! ## What counts of a path that is cut -/

theorem trimReversed_suffix (cs : List Char) : trimReversed cs <:+ cs := by
  fun_induction trimReversed cs with
  | case1 | case2 | case3 | case6 => exact List.suffix_refl _
  | case4 rest _ ih | case5 rest ih => exact ih.trans (List.suffix_cons _ _)

/-- To cut off some of what does not count leaves what counts. -/
theorem trimReversed_drop {cs : List Char} {k : Nat}
    (short : k + (trimReversed cs).length ≤ cs.length) :
    trimReversed (cs.drop k) = trimReversed cs := by
  fun_induction trimReversed cs generalizing k with
  | case1 => rw [List.drop_nil, trimReversed]
  | case2 | case3 =>
    obtain rfl : k = 0 := by simpa using short
    rfl
  | case4 rest hrest ih =>
    cases k with
    | zero => exact trimReversed.eq_4 rest hrest
    | succ k =>
      rw [List.length_cons] at short
      exact ih (by omega)
  | case5 rest ih =>
    cases k with
    | zero => exact trimReversed.eq_5 rest
    | succ k =>
      rw [List.length_cons] at short
      exact ih (by omega)
  | case6 cs hnil hslash hdot hslashes hdots =>
    obtain rfl : k = 0 := by omega
    exact trimReversed.eq_6 cs hnil hslash hdot hslashes hdots

/-- A path has the last name of what counts of it. -/
theorem split?_congr {first second : String} (same : trimEnd first = trimEnd second) :
    split? first = split? second := by
  unfold split?
  rw [same]

/-- Two dots at the end are no last name. -/
theorem split?_upward {before : List Char} (ended : before = [] ∨ before.getLast? = some '/') :
    split? (String.ofList (before ++ ['.', '.'])) = none := by
  have hcounts : (trimEnd (String.ofList (before ++ ['.', '.']))).reverse =
      ['.', '.'] ++ before.reverse := by
    rw [trimEnd, List.reverse_reverse, String.toList_ofList, List.reverse_append]
    exact trimReversed.eq_6 _ (by simp) (by simp) (by simp) (by simp) (by simp)
  have hname : (['.', '.'] ++ before.reverse).takeWhile (· ≠ '/') = ['.', '.'] := by
    rw [List.takeWhile_append_of_pos (by simp)]
    rcases ended with rfl | hended
    · rfl
    · obtain ⟨rest, rfl⟩ := List.getLast?_eq_some_iff.mp hended
      simp
  unfold split?
  simp only [hcounts, hname]
  exact if_pos (.inr (.inl rfl))

/-! ## Another extension -/

/-- A name stays one when its extension is cut, unless two dots are all that is left. -/
theorem Last.cut {before stem extension kept : List Char}
    (last : Last before (stem ++ '.' :: extension)) (nonempty : stem ≠ [])
    (cut : kept <+: extension) (named : ¬(stem = ['.'] ∧ kept = [])) :
    Last before (stem ++ '.' :: kept) := by
  refine ⟨fun h => last.plain ?_, by simp, fun h => ?_, fun h => named ?_, last.ended⟩
  · exact ((List.prefix_append_right_inj stem).mpr
      ((List.prefix_cons_inj '.').mpr cut)).subset h
  · rcases List.append_eq_singleton_iff.mp h with ⟨hstem, -⟩ | ⟨-, hkept⟩
    · exact nonempty hstem
    · cases hkept
  · obtain ⟨c, rest, rfl⟩ := List.exists_cons_of_ne_nil nonempty
    obtain ⟨rfl, hrest⟩ := List.cons.inj h
    rcases List.append_eq_singleton_iff.mp hrest with ⟨rfl, hkept⟩ | ⟨-, hkept⟩
    · exact ⟨rfl, (List.cons.inj hkept).2⟩
    · cases hkept

theorem withExtension_of_cut {path : String} {before name : List Char}
    (cut : split? (String.ofList (path.toList.take (path.length - (extensionOf path).length))) =
      some (before, name)) (extension : String) :
    withExtension path extension =
      String.ofList (before ++ (stemOf name ++ '.' :: extension.toList)) := by
  unfold withExtension
  dsimp only
  rw [cut]
  apply String.toList_inj.mp
  simp

/-- A path without a last name gets no extension. -/
theorem withExtension_of_split?_none {path : String} (unnamed : split? path = none)
    (extension : String) : withExtension path extension = path := by
  have hcut : String.ofList (path.toList.take (path.length - (extensionOf path).length)) = path := by
    rw [extensionOf, unnamed, List.length_nil, Nat.sub_zero, ← String.length_toList,
      List.take_length, String.ofList_toList]
  unfold withExtension
  dsimp only
  rw [hcut, unnamed]

/-- The text of a path whose extension is longer than what follows its last name and does not count,
less as many characters as the extension has. -/
theorem take_of_long_extension {path : String} {before stem extension trailing : List Char}
    (text : path.toList = before ++ (stem ++ '.' :: extension) ++ trailing)
    (long : trailing.length ≤ extension.length) :
    path.toList.take (path.length - extension.length) =
      before ++ (stem ++ '.' :: extension.take trailing.length) := by
  have hsplit : path.toList = before ++ (stem ++ '.' :: extension.take trailing.length) ++
      (extension.drop trailing.length ++ trailing) := by
    have hwhole := List.take_append_drop trailing.length extension
    calc path.toList = before ++ (stem ++ '.' :: (extension.take trailing.length ++
            extension.drop trailing.length)) ++ trailing := by rw [hwhole, text]
      _ = _ := by simp only [List.append_assoc, List.cons_append]
  have hlength : (extension.drop trailing.length ++ trailing).length = extension.length := by
    rw [List.length_append, List.length_drop]
    omega
  rw [← String.length_toList, hsplit, List.length_append, hlength, Nat.add_sub_cancel,
    List.take_left]

section

variable {path : String} {before name stem ext trailing : List Char}

/-- A path whose old extension is longer than what follows its last name and does not count. -/
theorem withExtension_of_long (last : Last before (stem ++ '.' :: ext)) (nonempty : stem ≠ [])
    (plain : '.' ∉ ext) (old : extensionOf path = ext)
    (text : path.toList = before ++ (stem ++ '.' :: ext) ++ trailing)
    (long : trailing.length ≤ ext.length) (extension : String) :
    (stem = ['.'] ∧ withExtension path extension = String.ofList (before ++ ['.', '.'])) ∨
      withExtension path extension =
        String.ofList (before ++ (stem ++ '.' :: extension.toList)) := by
  have hcut := take_of_long_extension text long
  by_cases hup : stem = ['.'] ∧ ext.take trailing.length = []
  · refine .inl ⟨hup.1, ?_⟩
    unfold withExtension
    dsimp only
    rw [old, hcut, hup.1, hup.2, List.singleton_append, split?_upward last.ended]
  · have hkept : split? (String.ofList (path.toList.take
        (path.length - (extensionOf path).length))) =
          some (before, stem ++ '.' :: ext.take trailing.length) := by
      rw [old, hcut]
      exact (last.cut nonempty (List.take_prefix _ _) hup).split?
    have hfound := withExtension_of_cut hkept extension
    rw [stemOf_extended nonempty fun h => plain (List.mem_of_mem_take h)] at hfound
    exact .inr hfound

/-- **A path gets another extension** after the stem of its last name, unless two dots are all that
is left of the name before its old one. -/
theorem withExtension_cases (split : split? path = some (before, name)) (extension : String) :
    (stemOf name = ['.'] ∧
        withExtension path extension = String.ofList (before ++ ['.', '.'])) ∨
      withExtension path extension =
        String.ofList (before ++ (stemOf name ++ '.' :: extension.toList)) := by
  obtain ⟨hcounts, hlast⟩ := split?_some split
  obtain ⟨rest, hrest⟩ := trimReversed_suffix path.toList.reverse
  have hold : extensionOf path = name.drop ((stemOf name).length + 1) := by
    rw [extensionOf, split]
  by_cases hshort : (extensionOf path).length ≤ rest.length
  · -- only what does not count is cut off
    refine .inr (withExtension_of_cut ?_ extension)
    have hlength := congrArg List.length hrest
    rw [List.length_append, List.length_reverse, String.length_toList] at hlength
    rw [← split]
    refine split?_congr ?_
    rw [trimEnd, trimEnd, String.toList_ofList, List.reverse_take, trimReversed_drop]
    rw [List.length_reverse, String.length_toList]
    omega
  · -- the cut falls into the extension
    rcases stemOf_cases name with hname | ⟨ext, hname, hstem, hfree⟩
    · rw [hold, ← hname] at hshort
      simp at hshort
    · have hext : extensionOf path = ext := by
        rw [hold, congrArg (List.drop ((stemOf name).length + 1)) hname]
        simp
      have htext : path.toList = before ++ (stemOf name ++ '.' :: ext) ++ rest.reverse := by
        have hreversed := congrArg List.reverse hrest
        rw [List.reverse_append, List.reverse_reverse, ← trimEnd, hcounts, hname] at hreversed
        exact hreversed.symm
      have hlong : rest.reverse.length ≤ ext.length := by
        rw [List.length_reverse, ← hext]
        omega
      rw [hname] at hlast
      exact withExtension_of_long hlast hstem hfree hext htext hlong extension

end

/-- A path with another extension in place of the one it has. -/
theorem withExtension_extended {before stem extension : List Char}
    (last : Last before (stem ++ '.' :: extension)) (nonempty : stem ≠ []) (lone : stem ≠ ['.'])
    (plain : '.' ∉ extension) (other : String) :
    withExtension (String.ofList (before ++ (stem ++ '.' :: extension))) other =
      String.ofList (before ++ (stem ++ '.' :: other.toList)) := by
  have hcases := withExtension_cases last.split? other
  rw [stemOf_extended nonempty plain] at hcases
  exact hcases.resolve_left fun h => lone h.1

end NetworkTuning.Path
