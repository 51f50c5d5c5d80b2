import NetworkTuning.Proofs.Table.Consistency

/-!
# The rows beside the place of a key

The place of a key parts the rows of a table in order into those with smaller and those with larger
keys. So what stands before the place is the row with the largest key below it
(`leftOf?_isNextBelow`), and what stands at the place the row with the smallest key above it
(`rightOf?_isNextAbove`). Three things follow for a key that has a place: a profile with this key
fits there (`fits_of_place`), the place can be opened where there is room (`exists_openAt`), and
what is derived for the key is pulled back to these two rows and to no other
(`synthesize_pulledTo`).
-/

namespace NetworkTuning

/-- The neighbour toward which a place moved away from the reference's, of the rows on both sides of
the place. -/
def Toward.of (left right : Option Profile) (index reference : Nat) : Toward :=
  if index < reference then .left left
  else if reference < index then .right right
  else .nowhere

namespace Table

/-- The row with the largest key below a key, and none if there is no row below it. -/
def IsNextBelow (t : Table) (key : UInt64) : Option Profile → Prop
  | none => ∀ q ∈ t.rows, ¬q.key < key
  | some p => p ∈ t.rows ∧ p.key < key ∧ ∀ q ∈ t.rows, q.key < key → q.key ≤ p.key

/-- The row with the smallest key above a key, and none if there is no row above it. -/
def IsNextAbove (t : Table) (key : UInt64) : Option Profile → Prop
  | none => ∀ q ∈ t.rows, ¬key < q.key
  | some p => p ∈ t.rows ∧ key < p.key ∧ ∀ q ∈ t.rows, key < q.key → p.key ≤ q.key

/-- A profile derived for a key holds, in each column that does not come from a live reading, what
the reference gives for it, pulled back to one of two neighbours. -/
def PulledTo (t : Table) (reference : Nat) (key : UInt64) (precision : Float) (f : Approximation)
    (live : Option Load) (new : Synthesized) (left right : Option Profile) : Prop :=
  ∃ row, t.rows[reference]? = some row ∧ ∀ c ∈ Column.derived live,
    c.get new.profile = c.width.store
      (Adjustment.adjust ⟨.of left right new.index reference, precision, f⟩ c
        (c.draft row (if key < row.key then .below else .above) precision))

variable {t : Table} {key : UInt64} {index : Nat} {before after : List Profile}

theorem leftOf?_of_split (split : t.rows.toList = before ++ after) :
    t.leftOf? before.length = before.getLast? := by
  rw [leftOf?, List.getLast?_eq_getElem?]
  split_ifs with hempty
  · rw [List.length_eq_zero_iff.mp hempty]
    rfl
  · rw [← Array.getElem?_toList, split, List.getElem?_append_left (by omega)]

theorem rightOf?_of_split (split : t.rows.toList = before ++ after) :
    t.rightOf? before.length = after.head? := by
  rw [rightOf?, ← Array.getElem?_toList, split, List.getElem?_append_right (Nat.le_refl _),
    Nat.sub_self, List.head?_eq_getElem?]

/-- Where the rows are parted by a key, those below it are in front and those above it behind. -/
theorem mem_of_split (split : t.rows.toList = before ++ after) (smaller : ∀ q ∈ before, q.key < key)
    (larger : ∀ q ∈ after, key < q.key) {q : Profile} (mem : q ∈ t.rows) :
    (q.key < key → q ∈ before) ∧ (key < q.key → q ∈ after) := by
  rw [← Array.mem_toList_iff, split] at mem
  rcases List.mem_append.mp mem with hq | hq
  · exact ⟨fun _ => hq, fun hlt => absurd (smaller q hq) (UInt64.lt_asymm hlt)⟩
  · exact ⟨fun hlt => absurd (larger q hq) (UInt64.lt_asymm hlt), fun _ => hq⟩

/-- **Before the place of a key stands the row with the largest key below it.** -/
theorem leftOf?_isNextBelow (ordered : t.Ordered) (placed : t.place key = .ok index) :
    t.IsNextBelow key (t.leftOf? index) := by
  obtain ⟨before, after, hrows, rfl, hb, ha⟩ := place_split ordered placed
  rw [leftOf?_of_split hrows]
  rcases List.eq_nil_or_concat' before with rfl | ⟨rest, p, rfl⟩
  · intro q hq hlt
    cases (mem_of_split hrows hb ha hq).1 hlt
  · have hascending := ordered.ascending
    rw [keys, hrows, List.map_append, List.map_append] at hascending
    have hp : p ∈ rest ++ [p] := List.mem_append_right _ (List.mem_singleton_self p)
    rw [List.getLast?_concat]
    refine ⟨Array.mem_toList_iff.mp (hrows ▸ List.mem_append_left _ hp), hb p hp, ?_⟩
    intro q hq hlt
    rcases List.mem_append.mp ((mem_of_split hrows hb ha hq).1 hlt) with hq | hq
    · -- the rows before the last one have smaller keys
      exact UInt64.le_of_lt ((List.pairwise_append.mp (List.pairwise_append.mp hascending).1).2.2 _
        (List.mem_map_of_mem hq) _ (List.mem_map_of_mem (List.mem_singleton_self p)))
    · rw [List.mem_singleton.mp hq]
      exact UInt64.le_refl _

/-- **At the place of a key stands the row with the smallest key above it.** -/
theorem rightOf?_isNextAbove (ordered : t.Ordered) (placed : t.place key = .ok index) :
    t.IsNextAbove key (t.rightOf? index) := by
  obtain ⟨before, after, hrows, rfl, hb, ha⟩ := place_split ordered placed
  rw [rightOf?_of_split hrows]
  cases after with
  | nil =>
    intro q hq hlt
    cases (mem_of_split hrows hb ha hq).2 hlt
  | cons p rest =>
    have hascending := ordered.ascending
    rw [keys, hrows, List.map_append, List.map_cons] at hascending
    have hp : p ∈ p :: rest := List.mem_cons_self
    refine ⟨Array.mem_toList_iff.mp (hrows ▸ List.mem_append_right _ hp), ha p hp, ?_⟩
    intro q hq hlt
    rcases List.mem_cons.mp ((mem_of_split hrows hb ha hq).2 hlt) with rfl | hq
    · exact UInt64.le_refl _
    · exact UInt64.le_of_lt (List.rel_of_pairwise_cons (List.pairwise_append.mp hascending).2.1
        (List.mem_map_of_mem hq))

/-- A profile fits the place of its key. -/
theorem fits_of_place {p : Profile} (ordered : t.Ordered) (placed : t.place p.key = .ok index) :
    t.Fits index p := by
  have hbelow := leftOf?_isNextBelow ordered placed
  have habove := rightOf?_isNextAbove ordered placed
  constructor
  · intro left hpositive hleft
    rw [leftOf?, if_neg (Nat.ne_of_gt hpositive), hleft] at hbelow
    exact hbelow.2.1
  · intro right hright
    rw [rightOf?, hright] at habove
    exact habove.2.1

/-- A place within the rows or behind the last one can be opened where there is room. -/
theorem exists_openAt (room : t.size < t.capacity) (inside : index ≤ t.rows.size) :
    ∃ opened, t.openAt index = .ok opened := by
  refine ⟨{ t with rows := t.rows.insertIdxIfInBounds index {} }, ?_⟩
  rw [openAt, if_neg (not_isFull_iff.mpr room), if_neg (Nat.not_lt.mpr inside)]

/-- **What is derived for a key is pulled back to the two rows beside the key.** -/
theorem synthesize_pulledTo {reference : Nat} {precision : Float} {f : Approximation}
    {live : Option Load} {new : Synthesized} (ordered : t.Ordered)
    (derived : t.synthesize reference key precision f live = .ok new) :
    ∃ left right, t.IsNextBelow key left ∧ t.IsNextAbove key right ∧
      t.PulledTo reference key precision f live new left right := by
  have placed := (synthesize_ok derived).1
  refine ⟨_, _, leftOf?_isNextBelow ordered placed, rightOf?_isNextAbove ordered placed, ?_⟩
  cases hrow : t.rows[reference]? with
  | none =>
    unfold synthesize at derived
    rw [hrow] at derived
    cases derived
  | some row => exact ⟨row, hrow, fun c hc => get_synthesize hrow derived hc⟩

end Table

end NetworkTuning
