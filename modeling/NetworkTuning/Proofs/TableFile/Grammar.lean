import NetworkTuning.Proofs.Decimal.Grammar
import NetworkTuning.Proofs.Profile.Columns
import NetworkTuning.Proofs.TableFile.Row
import NetworkTuning.Proofs.Text.Parts

/-!
# Which rows are read

A row is read exactly if it has one part for each column and every part denotes a value of its
column, and then these are the values of the profile; otherwise the refusal tells the number of
parts, or the leftmost part that denotes none (`Profile.ofRow_exact`). Nothing is said here about
how a row is taken apart: its parts are the texts between its commas without the blanks around them
(`RowParts`), and what a text denotes is said of the text (`Width.Denotes`).
-/

namespace NetworkTuning

open Decimal

/-! ## Values -/

/-- What a text denotes as a value of a kind. A word is the number that is spelled, so that there is
none if it does not fit; a switch is on unless the number is zero. -/
def Width.Denotes : (w : Width) → List Char → w.Value → Prop
  | .word64, text, n => Spells text n.toNat
  | .word32, text, n => Spells text n.toNat
  | .word16, text, n => Spells text n.toNat
  | .share, text, x => Decimal.Denotes text x
  | .switch, text, on => ∃ n : UInt16, Spells text n.toNat ∧ on = (n != 0)

theorem word64?_iff {text : List Char} {n : UInt64} :
    word64? text = some n ↔ Spells text n.toNat := by
  rw [word64?, Option.map_eq_some_iff]
  constructor
  · rintro ⟨k, hk, rfl⟩
    obtain ⟨hspells, hless⟩ := natural?_iff.mp hk
    rwa [Nat.toUInt64, UInt64.toNat_ofNat_of_lt' hless]
  · exact fun h => ⟨n.toNat, h.natural?_eq n.toNat_lt, UInt64.ofNat_toNat⟩

theorem word32?_iff {text : List Char} {n : UInt32} :
    word32? text = some n ↔ Spells text n.toNat := by
  rw [word32?, Option.map_eq_some_iff]
  constructor
  · rintro ⟨k, hk, rfl⟩
    obtain ⟨hspells, hless⟩ := natural?_iff.mp hk
    rwa [Nat.toUInt32, UInt32.toNat_ofNat_of_lt' hless]
  · exact fun h => ⟨n.toNat, h.natural?_eq n.toNat_lt, UInt32.ofNat_toNat⟩

theorem word16?_iff {text : List Char} {n : UInt16} :
    word16? text = some n ↔ Spells text n.toNat := by
  rw [word16?, Option.map_eq_some_iff]
  constructor
  · rintro ⟨k, hk, rfl⟩
    obtain ⟨hspells, hless⟩ := natural?_iff.mp hk
    rwa [Nat.toUInt16, UInt16.toNat_ofNat_of_lt' hless]
  · exact fun h => ⟨n.toNat, h.natural?_eq n.toNat_lt, UInt16.ofNat_toNat⟩

/-- **A kind of value reads the texts that denote one, each as what it denotes.** -/
theorem Width.read?_iff (w : Width) {text : List Char} {v : w.Value} :
    w.read? text = some v ↔ w.Denotes text v := by
  cases w with
  | word64 => exact word64?_iff
  | word32 => exact word32?_iff
  | word16 => exact word16?_iff
  | share => exact float?_iff
  | switch =>
    refine Option.map_eq_some_iff.trans (exists_congr fun n => ?_)
    rw [word16?_iff, eq_comm (a := n != 0)]

theorem Width.read?_eq_none_iff (w : Width) {text : List Char} :
    w.read? text = none ↔ ¬∃ v, w.Denotes text v := by
  simp only [← w.read?_iff, Option.eq_none_iff_forall_ne_some, not_exists, ne_eq]

/-! ## Parts -/

/-- The parts of a row: the texts between its commas, without the blanks around them. -/
def RowParts (row : List Char) (parts : List (List Char)) : Prop :=
  ∃ pieces, Text.Between ',' pieces row ∧ List.Forall₂ Text.Trims pieces parts

theorem rowParts_iff {row : List Char} {parts : List (List Char)} :
    RowParts row parts ↔ (Text.splitAll (· = ',') row).map Text.trim = parts := by
  have htrims {pieces : List (List Char)} :
      List.Forall₂ Text.Trims pieces parts ↔ pieces.map Text.trim = parts := by
    rw [← List.forall₂_eq_eq_eq, List.forall₂_map_left_iff]
    exact ⟨fun h => h.imp fun _ _ => Text.trims_iff.mp,
      fun h => h.imp fun _ _ => Text.trims_iff.mpr⟩
  simp only [RowParts, Text.between_iff, htrims, exists_eq_left']

variable {line : Nat} {columns : List Column} {parts : List (List Char)} {start p : Profile}

/-- What is read holds, in each column, what its part denotes. -/
theorem denotes_of_readParts (distinct : columns.Nodup) (complete : parts.length = columns.length)
    (read : readParts line columns parts start = .ok p) :
    List.Forall₂ (fun c part => c.width.Denotes part (c.get p)) columns parts ∧
      ∀ d ∉ columns, d.get p = d.get start := by
  induction columns generalizing parts start with
  | nil =>
    obtain rfl := List.length_eq_zero_iff.mp complete
    cases read
    exact ⟨.nil, fun _ _ => rfl⟩
  | cons c columns ih =>
    obtain ⟨part, parts, rfl⟩ := List.exists_cons_of_length_eq_add_one complete
    obtain ⟨hc, hdistinct⟩ := List.nodup_cons.mp distinct
    rw [readParts] at read
    split at read
    next v hv =>
      obtain ⟨hrest, hothers⟩ := ih hdistinct (Nat.succ.inj complete) read
      have hget : c.get p = v := (hothers c hc).trans (c.get_set v start)
      refine ⟨.cons (hget ▸ c.width.read?_iff.mp hv) hrest, fun d hd => ?_⟩
      obtain ⟨hdc, hdrest⟩ := not_or.mp fun h => hd (List.mem_cons.mpr h)
      exact (hothers d hdrest).trans (Column.get_set_ne hdc v start)
    next => cases read

/-- The leftmost part that denotes no value of its column. -/
def Misread (columns : List Column) (parts : List (List Char)) (c : Column) (part : List Char) :
    Prop :=
  ∃ before after given rest, columns = before ++ c :: after ∧ parts = given ++ part :: rest ∧
    List.Forall₂ (fun d text => ∃ v, d.width.Denotes text v) before given ∧
      ¬∃ v, c.width.Denotes part v

variable {c : Column} {part : List Char}

/-- The leftmost misread part is the first one, or the first one is read and the part is the
leftmost misread one of the others. -/
theorem misread_cons {d : Column} {text : List Char} :
    Misread (c :: columns) (part :: parts) d text ↔
      (¬∃ v, c.width.Denotes part v) ∧ c = d ∧ part = text ∨
        (∃ v, c.width.Denotes part v) ∧ Misread columns parts d text := by
  constructor
  · rintro ⟨before, after, given, rest, hcolumns, hparts, hread, hbad⟩
    cases hread with
    | nil =>
      obtain ⟨rfl, rfl⟩ := List.cons.inj hcolumns
      obtain ⟨rfl, rfl⟩ := List.cons.inj hparts
      exact .inl ⟨hbad, rfl, rfl⟩
    | @cons c' part' before given hfirst hread =>
      obtain ⟨rfl, rfl⟩ := List.cons.inj hcolumns
      obtain ⟨rfl, rfl⟩ := List.cons.inj hparts
      exact .inr ⟨hfirst, before, after, given, rest, rfl, rfl, hread, hbad⟩
  · rintro (⟨hbad, rfl, rfl⟩ | ⟨hfirst, before, after, given, rest, rfl, rfl, hread, hbad⟩)
    · exact ⟨[], columns, [], parts, rfl, rfl, .nil, hbad⟩
    · exact ⟨c :: before, after, part :: given, rest, rfl, rfl, .cons hfirst hread, hbad⟩

/-- A list of parts is refused for the leftmost one that denotes no value of its column. -/
theorem readParts_error_iff (complete : parts.length = columns.length) {e : TableFileError} :
    readParts line columns parts start = .error e ↔
      ∃ c part, Misread columns parts c part ∧ e = .badValue line c (String.ofList part) := by
  induction columns generalizing parts start with
  | nil =>
    obtain rfl := List.length_eq_zero_iff.mp complete
    refine iff_of_false (fun h => by cases h) ?_
    rintro ⟨c, part, ⟨before, after, -, -, hcolumns, -⟩, -⟩
    simp at hcolumns
  | cons c columns ih =>
    obtain ⟨part, parts, rfl⟩ := List.exists_cons_of_length_eq_add_one complete
    rw [readParts]
    split
    next v hv =>
      have hread : ∃ v, c.width.Denotes part v := ⟨v, c.width.read?_iff.mp hv⟩
      simp only [ih (Nat.succ.inj complete), misread_cons, hread, not_true_eq_false, false_and,
        false_or, true_and]
    next hnone =>
      have hbad := c.width.read?_eq_none_iff.mp hnone
      simp only [misread_cons, hbad, not_false_eq_true, true_and, false_and, or_false]
      constructor
      · rintro ⟨rfl⟩
        exact ⟨c, part, ⟨rfl, rfl⟩, rfl⟩
      · rintro ⟨-, -, ⟨rfl, rfl⟩, rfl⟩
        rfl

/-! ## Rows -/

/-- **A row is read exactly if it has a part for each column that denotes a value of it.** -/
theorem Profile.ofRow_exact (line : Nat) (row : List Char) :
    ∃ parts, RowParts row parts ∧
      (∀ p, Profile.ofRow line row = .ok p ↔ parts.length = 53 ∧
        List.Forall₂ (fun c part => c.width.Denotes part (c.get p)) Column.all parts) ∧
      ∀ e, Profile.ofRow line row = .error e ↔
        parts.length ≠ 53 ∧ e = .partCount line parts.length ∨
          parts.length = 53 ∧ ∃ c part, Misread Column.all parts c part ∧
            e = .badValue line c (String.ofList part) := by
  obtain ⟨parts, hparts⟩ : ∃ parts, RowParts row parts := ⟨_, rowParts_iff.mpr rfl⟩
  have hrow : Profile.ofRow line row =
      if parts.length = 53 then readParts line Column.all parts {}
      else .error (.partCount line parts.length) := by
    rw [← rowParts_iff.mp hparts]
    rfl
  refine ⟨parts, hparts, fun p => ?_, fun e => ?_⟩ <;> rw [hrow] <;>
    by_cases hcount : parts.length = 53
  · rw [if_pos hcount, and_iff_right hcount]
    refine ⟨fun h => (denotes_of_readParts (by decide) hcount h).1, fun h => ?_⟩
    have hread := readParts_of_read (h.imp fun c part => c.width.read?_iff.mpr) line {}
    rwa [foldl_set] at hread
  · rw [if_neg hcount]
    exact iff_of_false (fun h => by cases h) fun h => hcount h.1
  · rw [if_pos hcount, readParts_error_iff hcount]
    simp only [hcount, ne_eq, not_true_eq_false, false_and, true_and, false_or]
  · rw [if_neg hcount, Except.error.injEq, eq_comm]
    simp only [hcount, ne_eq, not_false_eq_true, true_and, false_and, or_false]

end NetworkTuning
