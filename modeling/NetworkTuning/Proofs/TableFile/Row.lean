import Mathlib
import NetworkTuning.Proofs.Decimal.Grammar
import NetworkTuning.Proofs.Decimal.Special
import NetworkTuning.TableFile.Row

/-!
# Rows that are written and read

A column reads the text that it writes (`read?_render`), no such text holds a comma or a blank, and
so the row of a profile falls apart into the texts of its columns. What is read is the profile
again, but for its share of the processors, which is written with six places and comes back as the
double that its text denotes (`Restored`). An infinite share and one that is no number come back as
they were (`Restored.eq_of_special`).
-/

namespace NetworkTuning

/-- A profile that came back from a file: all its values are those of the one that was written,
except that the share is what its text of six places reads as. -/
structure Restored (written read : Profile) : Prop where
  others : read = { written with cpuUsage := read.cpuUsage }
  share : Decimal.float? (Decimal.fixed 6 written.cpuUsage).toList = some read.cpuUsage

namespace Restored

variable {p q : Profile}

/-- Every column but the share comes back as it was. -/
theorem get_eq (restored : Restored p q) {c : Column} (other : c ≠ .cpuUsage) :
    c.get q = c.get p := by
  rw [restored.others]
  cases c <;> first | rfl | exact absurd rfl other

/-- A share that is no finite number comes back as it was. -/
theorem eq_of_special (restored : Restored p q) (special : p.cpuUsage.isFinite = false) :
    q = p := by
  have hshare := restored.share
  rw [Decimal.float?_fixed_special 6 special] at hshare
  rw [restored.others, ← Option.some.inj hshare]

end Restored

/-- Whatever a profile holds, something comes back from its texts. -/
theorem exists_restored (p : Profile) : ∃ q, Restored p q := by
  obtain ⟨y, hy⟩ := Decimal.float?_fixed (show 0 < 6 by decide) p.cpuUsage
  exact ⟨{ p with cpuUsage := y }, rfl, hy⟩

/-! ## Columns -/

/-- What is not a share is read back from its text. -/
theorem Width.read?_render {w : Width} (other : w ≠ .share) (v : w.Value) :
    w.read? (w.render v).toList = some v := by
  cases w with
  | word64 => exact (congrArg _ String.toList_ofList).trans (Decimal.word64?_digits v)
  | word32 => exact (congrArg _ String.toList_ofList).trans (Decimal.word32?_digits v)
  | word16 => exact (congrArg _ String.toList_ofList).trans (Decimal.word16?_digits v)
  | share => exact absurd rfl other
  | switch => cases v <;> rfl

theorem Width.render_numeric (w : Width) (v : w.Value) : Decimal.Numeric (w.render v).toList := by
  have hdigits : ∀ n, Decimal.Numeric (String.ofList (Decimal.digits n)).toList := fun n => by
    rw [String.toList_ofList]
    exact (Decimal.digits_digital n).numeric
  cases w with
  | word64 | word32 | word16 => exact hdigits _
  | share => exact Decimal.fixed_numeric (by decide) v
  | switch => cases v <;> decide

/-- A column reads from the text that it writes what comes back. -/
theorem Column.read?_render {p q : Profile} (restored : Restored p q) (c : Column) :
    c.width.read? (c.render p).toList = some (c.get q) := by
  by_cases hshare : c = .cpuUsage
  · subst hshare
    exact restored.share
  · have hwidth : c.width ≠ .share := by
      cases c <;> first | exact absurd rfl hshare | decide
    rw [restored.get_eq hshare]
    exact Width.read?_render hwidth _

/-- The columns set one after the other make up the profile. -/
theorem foldl_set (p : Profile) :
    Column.all.foldl (fun q c => c.set (c.get p) q) ({} : Profile) = p := by
  simp only [Column.all, List.foldl_cons, List.foldl_nil, Column.set, Column.get]

/-! ## Rows -/

/-- Columns are set to what is read of their parts. -/
theorem readParts_of_read {p : Profile} {columns : List Column} {parts : List (List Char)}
    (read : List.Forall₂ (fun c part => c.width.read? part = some (c.get p)) columns parts)
    (line : Nat) (start : Profile) :
    readParts line columns parts start =
      .ok (columns.foldl (fun r c => c.set (c.get p) r) start) := by
  induction read generalizing start with
  | nil => rfl
  | cons hpart _ ih =>
    rw [readParts, hpart, List.foldl_cons]
    exact ih _

theorem readParts_render {p q : Profile} (restored : Restored p q) (line : Nat)
    (columns : List Column) (start : Profile) :
    readParts line columns (columns.map fun c => (c.render p).toList) start =
      .ok (columns.foldl (fun r c => c.set (c.get q) r) start) :=
  readParts_of_read (List.forall₂_map_right_iff.mpr
    (List.forall₂_same.mpr fun c _ => Column.read?_render restored c)) line start

/-- The texts of a profile's columns. -/
def Profile.parts (p : Profile) : List (List Char) := Column.all.map fun c => (c.render p).toList

theorem Profile.parts_length (p : Profile) : p.parts.length = Column.all.length := List.length_map _

theorem Profile.parts_numeric (p : Profile) : ∀ part ∈ p.parts, Decimal.Numeric part := by
  intro part hpart
  obtain ⟨c, -, rfl⟩ := List.mem_map.mp hpart
  exact Width.render_numeric _ _

theorem Profile.row_toList (p : Profile) : p.row.toList = [','].intercalate p.parts := by
  rw [Profile.row, String.toList_intercalate, List.map_map]
  rfl

theorem splitAll_row (p : Profile) : Text.splitAll (· = ',') p.row.toList = p.parts := by
  rw [p.row_toList]
  refine Text.splitAll_intercalate ',' ?_ fun part hpart =>
    (p.parts_numeric part hpart).not_mem_comma
  exact List.ne_nil_of_length_eq_add_one p.parts_length

/-- **A row is read as what comes back of its profile.** -/
theorem ofRow_row {p q : Profile} (restored : Restored p q) (line : Nat) :
    Profile.ofRow line p.row.toList = .ok q := by
  have htrim : p.parts.map Text.trim = p.parts := by
    refine (List.map_congr_left fun part hpart => ?_).trans (List.map_id _)
    exact Text.trim_solid (p.parts_numeric part hpart).solid
  simp only [Profile.ofRow, splitAll_row, htrim, if_pos p.parts_length]
  rw [Profile.parts, readParts_render restored, foldl_set]

/-- A row holds no blanks. -/
theorem row_solid (p : Profile) : Text.Solid p.row.toList := by
  rw [p.row_toList]
  exact Text.solid_intercalate (by decide) fun part hpart => (p.parts_numeric part hpart).solid

end NetworkTuning
