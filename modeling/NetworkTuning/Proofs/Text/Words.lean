import NetworkTuning.Proofs.Text.Pieces

/-!
# The words of a text

A text is a succession of words with blanks between and around them, of any kind and in any number
(`Spaced`). The words that are read from it are these (`Spaced.words_eq`), and every text is such a
succession (`spaced_words`).
-/

namespace NetworkTuning.Text

/-- No character is anything but a blank. -/
def Blank (cs : List Char) : Prop := ∀ c ∈ cs, isBlank c = true

/-- A text of words with blanks between and around them. What follows a word is nothing or begins
with a blank. -/
inductive Spaced : List (List Char) → List Char → Prop
  | blank {blanks : List Char} : Blank blanks → Spaced [] blanks
  | word {blanks word rest : List Char} {words : List (List Char)} : Blank blanks → word ≠ [] →
      Solid word → (∀ c ∈ rest.head?, isBlank c = true) → Spaced words rest →
      Spaced (word :: words) (blanks ++ (word ++ rest))

/-! ## What is read -/

theorem words_cons_blank {c : Char} (blank : isBlank c = true) (cs : List Char) :
    words (c :: cs) = words cs := by
  rw [words, splitAll, if_pos blank]
  rfl

theorem words_blank_append {blanks : List Char} (blank : Blank blanks) (cs : List Char) :
    words (blanks ++ cs) = words cs := by
  induction blanks with
  | nil => rfl
  | cons c rest ih =>
    have hrest : Blank rest := fun d hd => blank d (List.mem_cons_of_mem _ hd)
    rw [List.cons_append, words_cons_blank (blank c List.mem_cons_self), ih hrest]

theorem words_blank {blanks : List Char} (blank : Blank blanks) : words blanks = [] := by
  rw [← List.append_nil blanks, words_blank_append blank]
  rfl

/-- A word at the start of a text ends at the first blank, or with the text. -/
theorem words_solid_append {word rest : List Char} (nonempty : word ≠ []) (solid : Solid word)
    (ends : ∀ c ∈ rest.head?, isBlank c = true) : words (word ++ rest) = word :: words rest := by
  have hword : (!word.isEmpty) = true := by simpa using nonempty
  cases rest with
  | nil =>
    rw [List.append_nil, words, splitAll_eq_splitOnP, List.splitOnP_eq_singleton solid,
      List.filter_cons, if_pos hword]
    rfl
  | cons c rest =>
    have hblank : isBlank c = true := ends c rfl
    rw [words_cons_blank hblank, words, words, splitAll_eq_splitOnP, splitAll_eq_splitOnP,
      List.splitOnP_append_cons_of_forall_mem solid c hblank, List.filter_cons, if_pos hword]

/-- The words of a text are read, whatever the blanks. -/
theorem Spaced.words_eq {ws : List (List Char)} {cs : List Char} (spaced : Spaced ws cs) :
    words cs = ws := by
  induction spaced with
  | blank blank => exact words_blank blank
  | word blank nonempty solid ends _ ih =>
    rw [words_blank_append blank, words_solid_append nonempty solid ends, ih]

/-! ## Every text -/

/-- What is left of a text behind its first characters of a kind begins with none of the kind. -/
theorem head?_dropWhile_ne (kind : Char → Bool) (cs : List Char) :
    ∀ c ∈ (cs.dropWhile kind).head?, kind c = false := by
  intro c hc
  have h := List.head?_dropWhile_not kind cs
  rwa [Option.mem_def.mp hc] at h

/-- Every text is its words with blanks between and around them. -/
theorem spaced_words (cs : List Char) : Spaced (words cs) cs := by
  have hblank : Blank (cs.takeWhile isBlank) := fun c hc =>
    List.all_eq_true.mp List.all_takeWhile c hc
  have hcs : cs.takeWhile isBlank ++ cs.dropWhile isBlank = cs := List.takeWhile_append_dropWhile
  cases hafter : cs.dropWhile isBlank with
  | nil =>
    rw [hafter, List.append_nil] at hcs
    rw [hcs] at hblank
    rw [words_blank hblank]
    exact .blank hblank
  | cons c rest =>
    let visible (c : Char) : Bool := !isBlank c
    have hc : isBlank c = false := head?_dropWhile_ne isBlank cs c (by rw [hafter]; rfl)
    have hword : (c :: rest).takeWhile visible ≠ [] := by simp [visible, hc]
    have hsolid : Solid ((c :: rest).takeWhile visible) := fun d hd => by
      simpa [visible] using List.all_eq_true.mp List.all_takeWhile d hd
    have hends : ∀ d ∈ ((c :: rest).dropWhile visible).head?, isBlank d = true := fun d hd => by
      simpa [visible] using head?_dropWhile_ne visible (c :: rest) d hd
    have hrest : (c :: rest).takeWhile visible ++ (c :: rest).dropWhile visible = c :: rest :=
      List.takeWhile_append_dropWhile
    have hshorter : ((c :: rest).dropWhile visible).length < cs.length := by
      have h := congrArg List.length hcs
      have h' := congrArg List.length hrest
      have h'' := List.length_pos_iff.mpr hword
      rw [hafter, List.length_append] at h
      rw [List.length_append] at h'
      omega
    have hlater := spaced_words ((c :: rest).dropWhile visible)
    rw [hafter, ← hrest] at hcs
    have hwords : words cs =
        (c :: rest).takeWhile visible :: words ((c :: rest).dropWhile visible) := by
      rw [← hcs, words_blank_append hblank, words_solid_append hword hsolid hends]
    rw [hwords]
    conv => rhs; rw [← hcs]
    exact .word hblank hword hsolid hends hlater
termination_by cs.length

end NetworkTuning.Text
