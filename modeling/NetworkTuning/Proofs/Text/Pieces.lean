import NetworkTuning.Text.Blank

/-!
# Pieces that are put together come apart again

A text is split at every character of a kind, so pieces without such a character that are joined by
one come back as they were (`splitAll_intercalate`). Lines that are each ended by a line feed come
back from the lines of the text (`lines_ended`), and a piece without blanks is not changed by
trimming (`trim_solid`). What is written with separators and line ends is read back by these three
facts.
-/

namespace NetworkTuning.Text

/-- No character of a piece is blank. -/
def Solid (cs : List Char) : Prop := ∀ c ∈ cs, isBlank c = false

instance (cs : List Char) : Decidable (Solid cs) := List.decidableBAll _ cs

theorem splitAll_eq_splitOnP (stop : Char → Bool) (cs : List Char) :
    splitAll stop cs = cs.splitOnP stop := by
  induction cs with
  | nil => exact List.splitOnP_nil.symm
  | cons c rest ih =>
    rw [splitAll, List.splitOnP_cons_eq_if_modifyHead, ih]
    split
    · rfl
    · cases h : List.splitOnP stop rest with
      | nil => exact absurd h (List.splitOnP_ne_nil stop rest)
      | cons piece pieces => rfl

/-- Pieces without the separator come back when they were joined by it. -/
theorem splitAll_intercalate (x : Char) {pieces : List (List Char)} (nonempty : pieces ≠ [])
    (free : ∀ piece ∈ pieces, x ∉ piece) : splitAll (· = x) ([x].intercalate pieces) = pieces := by
  have h := List.splitOn_intercalate x free nonempty
  rw [splitAll_eq_splitOnP]
  exact h

/-! ## Blanks -/

theorem Solid.append {first second : List Char} (h : Solid first) (h' : Solid second) :
    Solid (first ++ second) := List.forall_mem_append.mpr ⟨h, h'⟩

/-- A text that does not begin with a blank is not changed at its start. -/
theorem trimStart_eq_self {cs : List Char} (first : ∀ c ∈ cs.head?, isBlank c = false) :
    trimStart cs = cs := by
  cases cs with
  | nil => rfl
  | cons c rest => exact List.dropWhile_cons_of_neg (by simp [first c rfl])

theorem trimStart_solid {cs : List Char} (solid : Solid cs) : trimStart cs = cs :=
  trimStart_eq_self fun c hc => solid c (List.mem_of_mem_head? hc)

/-- Trimming changes nothing where there are no blanks. -/
theorem trim_solid {cs : List Char} (solid : Solid cs) : trim cs = cs := by
  have hreverse : Solid cs.reverse := fun c hc => solid c (List.mem_reverse.mp hc)
  rw [trim, trimStart_solid solid, trimEnd]
  exact (congrArg List.reverse (trimStart_solid hreverse)).trans (List.reverse_reverse cs)

/-- What holds of the separator and within each piece holds within the joined text. -/
theorem forall_mem_intercalate {holds : Char → Prop} {x : Char} (separator : holds x)
    {pieces : List (List Char)} (inside : ∀ piece ∈ pieces, ∀ c ∈ piece, holds c) :
    ∀ c ∈ [x].intercalate pieces, holds c := by
  induction pieces with
  | nil => intro c hc; cases hc
  | cons piece rest ih =>
    obtain ⟨hpiece, hrest⟩ := List.forall_mem_cons.mp inside
    by_cases hnil : rest = []
    · subst hnil
      rw [List.intercalate_singleton]
      exact hpiece
    · rw [List.intercalate_cons_of_ne_nil hnil]
      have hfirst := List.forall_mem_append.mpr ⟨hpiece, List.forall_mem_singleton.mpr separator⟩
      exact List.forall_mem_append.mpr ⟨hfirst, ih hrest⟩

theorem solid_intercalate {x : Char} (visible : isBlank x = false) {pieces : List (List Char)}
    (solid : ∀ piece ∈ pieces, Solid piece) : Solid ([x].intercalate pieces) :=
  forall_mem_intercalate visible solid

/-! ## Lines -/

theorem withoutReturn_solid {line : List Char} (solid : Solid line) :
    withoutReturn line = line := by
  rw [withoutReturn, if_neg]
  intro h
  exact absurd (solid '\r' (List.mem_of_getLast? h)) (by decide)

/-- Lines that are each ended by a line feed stand between line feeds, with nothing after the last.
-/
theorem flatMap_ended (lines : List (List Char)) :
    lines.flatMap (· ++ ['\n']) = ['\n'].intercalate (lines ++ [[]]) := by
  induction lines with
  | nil => rfl
  | cons line rest ih =>
    have hrest : rest ++ [[]] ≠ [] := by simp
    rw [List.flatMap_cons, ih, List.cons_append, List.intercalate_cons_of_ne_nil hrest]

/-- Lines that are each ended by a line feed are the lines of the text. -/
theorem lines_ended {ls : List (List Char)} (solid : ∀ line ∈ ls, Solid line) :
    lines (ls.flatMap (· ++ ['\n'])) = ls := by
  have hfree : ∀ piece ∈ ls ++ [[]], '\n' ∉ piece := by
    intro piece hpiece hmem
    rcases List.mem_append.mp hpiece with h | h
    · exact absurd (solid piece h '\n' hmem) (by decide)
    · obtain rfl := List.mem_singleton.mp h
      cases hmem
  have hpieces := splitAll_intercalate '\n' (by simp) hfree
  rw [flatMap_ended, lines, hpieces]
  simp only [List.getLast?_concat, Option.getD_some, List.isEmpty_nil, if_true, List.append_nil,
    List.dropLast_concat]
  exact List.map_congr_left (fun line h => withoutReturn_solid (solid line h)) |>.trans
    (List.map_id ls)

end NetworkTuning.Text
