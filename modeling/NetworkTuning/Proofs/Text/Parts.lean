import NetworkTuning.Proofs.Text.Words

/-!
# Pieces, trimmed texts and lines

What stands between the separators of a text (`Between`), what is left of it without the blanks at
its ends (`Trims`), and what its lines are (`Lined`) is said here of texts that are put together.
Each has one answer for every text, and it is the one that is computed from the text (`between_iff`,
`trims_iff`, `lined_iff`).
-/

namespace NetworkTuning.Text

variable {x : Char} {cs body line : List Char} {pieces ls : List (List Char)}

/-! ## Pieces -/

/-- The pieces of a text between its separators. -/
structure Between (x : Char) (pieces : List (List Char)) (cs : List Char) : Prop where
  some : pieces ≠ []
  free : ∀ piece ∈ pieces, x ∉ piece
  joined : [x].intercalate pieces = cs

theorem splitAll_free (x : Char) (cs : List Char) : ∀ piece ∈ splitAll (· = x) cs, x ∉ piece := by
  induction cs with
  | nil => simp [splitAll]
  | cons c rest ih =>
    rw [splitAll]
    split
    next => exact List.forall_mem_cons.mpr ⟨List.not_mem_nil, ih⟩
    next hc =>
      have hother : x ≠ c := fun h => hc (decide_eq_true h.symm)
      split
      next => simpa using hother
      next piece pieces hpieces =>
        rw [hpieces] at ih
        obtain ⟨hpiece, hrest⟩ := List.forall_mem_cons.mp ih
        exact List.forall_mem_cons.mpr ⟨List.not_mem_cons_of_ne_of_not_mem hother hpiece, hrest⟩

/-- **A text is split into the pieces between its separators.** -/
theorem between_iff : Between x pieces cs ↔ splitAll (· = x) cs = pieces := by
  constructor
  · rintro ⟨hsome, hfree, rfl⟩
    exact splitAll_intercalate x hsome hfree
  · rintro rfl
    refine ⟨?_, splitAll_free x cs, ?_⟩
    · rw [splitAll_eq_splitOnP]
      exact List.splitOnP_ne_nil _ _
    · rw [splitAll_eq_splitOnP]
      exact List.intercalate_splitOn x

/-! ## Trimmed texts -/

/-- What is left of a text without the blanks at its ends. -/
structure Trims (cs body : List Char) : Prop where
  apart : ∃ front back, Blank front ∧ Blank back ∧ cs = front ++ (body ++ back)
  first : ∀ c ∈ body.head?, isBlank c = false
  last : ∀ c ∈ body.getLast?, isBlank c = false

theorem trimStart_blank_append {front : List Char} (blank : Blank front) (cs : List Char) :
    trimStart (front ++ cs) = trimStart cs :=
  List.dropWhile_append_of_pos blank

/-- The blanks at the start of a text, and the rest. -/
theorem exists_front (cs : List Char) :
    ∃ front, Blank front ∧ cs = front ++ trimStart cs ∧
      ∀ c ∈ (trimStart cs).head?, isBlank c = false :=
  ⟨cs.takeWhile isBlank, fun c hc => List.all_eq_true.mp List.all_takeWhile c hc,
    List.takeWhile_append_dropWhile.symm, head?_dropWhile_ne isBlank cs⟩

theorem Blank.reverse {blanks : List Char} (blank : Blank blanks) : Blank blanks.reverse :=
  fun c hc => blank c (List.mem_reverse.mp hc)

/-- **Trimming takes the blanks at both ends away, and nothing else.** -/
theorem trims_iff : Trims cs body ↔ trim cs = body := by
  constructor
  · rintro ⟨⟨front, back, hfront, hback, rfl⟩, hfirst, hlast⟩
    have hend : trimEnd (body ++ back) = body := by
      have hkept : trimStart body.reverse = body.reverse :=
        trimStart_eq_self (by rwa [List.head?_reverse])
      have hstart := (trimStart_blank_append hback.reverse body.reverse).trans hkept
      rw [trimEnd, List.reverse_append]
      exact (congrArg List.reverse hstart).trans (List.reverse_reverse body)
    rw [trim, trimStart_blank_append hfront]
    by_cases hbody : body = []
    · subst hbody
      have hnil : trimStart back = [] := by
        have h := trimStart_blank_append hback []
        rwa [List.append_nil] at h
      rw [List.nil_append, hnil]
      rfl
    · obtain ⟨c, rest, rfl⟩ := List.exists_cons_of_ne_nil hbody
      have hkept : trimStart (c :: rest ++ back) = c :: rest ++ back := trimStart_eq_self hfirst
      rw [hkept, hend]
  · rintro rfl
    obtain ⟨front, hfront, hcs, hfirst⟩ := exists_front cs
    obtain ⟨back, hback, hrest, hlast⟩ := exists_front (trimStart cs).reverse
    have htrim : trimStart cs = trim cs ++ back.reverse := by
      rw [← List.reverse_inj, hrest, trim, trimEnd]
      simp only [List.reverse_append, List.reverse_reverse]
      rfl
    refine ⟨⟨front, back.reverse, hfront, hback.reverse, ?_⟩, ?_, ?_⟩
    · rw [← htrim]
      exact hcs
    · intro c hc
      refine hfirst c ?_
      rw [htrim, List.head?_append, Option.mem_def.mp hc]
      rfl
    · rw [trim, trimEnd, List.getLast?_reverse]
      exact hlast

theorem trim_eq_nil_iff : trim cs = [] ↔ Blank cs := by
  rw [← trims_iff]
  constructor
  · rintro ⟨⟨front, back, hfront, hback, rfl⟩, -, -⟩
    exact List.forall_mem_append.mpr ⟨hfront, hback⟩
  · intro blank
    refine ⟨⟨cs, [], blank, fun c hc => ?_, by simp⟩, fun c hc => ?_, fun c hc => ?_⟩ <;> cases hc

/-! ## Lines -/

/-- The lines of a text. A line ends with a line feed, before which a carriage return may stand; the
last line may lack its end, if there is anything on it. -/
inductive Lined : List (List Char) → List Char → Prop
  | empty : Lined [] []
  | unended {line : List Char} : line ≠ [] → '\n' ∉ line → Lined [line] line
  | feed {line rest : List Char} {ls : List (List Char)} : '\n' ∉ line →
      line.getLast? ≠ some '\r' → Lined ls rest → Lined (line :: ls) (line ++ '\n' :: rest)
  | returnFeed {line rest : List Char} {ls : List (List Char)} : '\n' ∉ line → Lined ls rest →
      Lined (line :: ls) (line ++ '\r' :: '\n' :: rest)

theorem lines_unended (free : '\n' ∉ line) (nonempty : line ≠ []) : lines line = [line] := by
  have hpieces : splitAll (· = '\n') line = [line] :=
    between_iff.mp ⟨by simp, by simpa using free, List.intercalate_singleton⟩
  simp [lines, hpieces, nonempty]

theorem lines_feed (free : '\n' ∉ line) (rest : List Char) :
    lines (line ++ '\n' :: rest) = withoutReturn line :: lines rest := by
  obtain ⟨hsome, hfree, hjoined⟩ := between_iff.mpr (rfl : splitAll (· = '\n') rest = _)
  have hpieces : splitAll (· = '\n') (line ++ '\n' :: rest) = line :: splitAll (· = '\n') rest := by
    refine between_iff.mp ⟨List.cons_ne_nil _ _, List.forall_mem_cons.mpr ⟨free, hfree⟩, ?_⟩
    rw [List.intercalate_cons_of_ne_nil hsome, hjoined, List.append_assoc]
    rfl
  simp only [lines, hpieces, List.dropLast_cons_of_ne_nil hsome, List.map_cons, List.cons_append,
    List.getLast?_cons_of_ne_nil hsome]

theorem Lined.lines_eq (lined : Lined ls cs) : lines cs = ls := by
  induction lined with
  | empty => rfl
  | unended nonempty free => exact lines_unended free nonempty
  | feed free kept _ ih => rw [lines_feed free, ih, withoutReturn, if_neg kept]
  | @returnFeed line rest ls free _ ih =>
    have hreturn : '\n' ∉ line ++ ['\r'] := by simpa using free
    have h := lines_feed hreturn rest
    rw [List.append_assoc, withoutReturn, List.getLast?_concat, if_pos rfl, List.dropLast_concat,
      ih] at h
    exact h

theorem Lined.eq_nil (lined : Lined [] cs) : cs = [] := by
  cases lined
  rfl

/-- Every text is its lines. -/
theorem lined_lines (cs : List Char) : Lined (lines cs) cs := by
  by_cases hfeed : '\n' ∈ cs
  · obtain ⟨line, rest, hcs, hfree⟩ := List.eq_append_cons_of_mem hfeed
    have hshorter : rest.length < cs.length := by
      rw [hcs, List.length_append, List.length_cons]
      omega
    have hlater := lined_lines rest
    rw [hcs, lines_feed hfree, withoutReturn]
    split
    next hreturn =>
      obtain ⟨before, rfl⟩ := List.getLast?_eq_some_iff.mp hreturn
      rw [List.dropLast_concat, List.append_assoc]
      exact .returnFeed (fun h => hfree (List.mem_append_left _ h)) hlater
    next hreturn => exact .feed hfree hreturn hlater
  · by_cases hnil : cs = []
    · subst hnil
      exact .empty
    · rw [lines_unended hfeed hnil]
      exact .unended hnil hfeed
termination_by cs.length

/-- **The lines of a text are the lines that it is made of.** -/
theorem lined_iff : Lined ls cs ↔ lines cs = ls :=
  ⟨Lined.lines_eq, fun h => h ▸ lined_lines cs⟩

end NetworkTuning.Text
