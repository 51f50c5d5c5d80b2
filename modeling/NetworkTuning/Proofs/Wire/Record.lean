import Mathlib.Data.List.Nodup
import NetworkTuning.Wire.Record

/-!
# Reading records that were written

A record whose fields have different names is read field by field: a field that was written is given
with what was written for it, and one that was left out is unnamed (`fields?_ofMembers`). What is
left for a type of records is that each field's reader takes what the field's writer gives, which is
said here of the simple values.
-/

namespace NetworkTuning.Json

variable {α : Type}

/-! ## Simple values -/

theorem below?_int {bound n : Nat} (small : n < bound) : (int n).below? bound = some n := by
  rw [below?, if_pos ⟨Int.natCast_nonneg n, Int.ofNat_lt.mpr small⟩, Int.toNat_natCast]

@[simp]
theorem word64?_int (n : UInt64) : (int n.toNat).word64? = some n := by
  rw [word64?, below?_int n.toNat_lt_size, Option.map_some, Nat.toUInt64, UInt64.ofNat_toNat]

@[simp]
theorem word32?_int (n : UInt32) : (int n.toNat).word32? = some n := by
  rw [word32?, below?_int n.toNat_lt_size, Option.map_some, Nat.toUInt32, UInt32.ofNat_toNat]

@[simp]
theorem word16?_int (n : UInt16) : (int n.toNat).word16? = some n := by
  rw [word16?, below?_int n.toNat_lt_size, Option.map_some, Nat.toUInt16, UInt16.ofNat_toNat]

/-- A finite real is read as it is. -/
theorem real?_ofFloat {x : Float} (finite : x.isFinite = true) : (ofFloat x).real? = some x := by
  rw [ofFloat, if_pos finite, real?]

@[simp]
theorem flag?_bool (b : Bool) : (bool b).flag? = some b := rfl

@[simp]
theorem text?_text (s : String) : (text s).text? = some s := rfl

/-- What is not written as nothing is read as something. -/
theorem nullable?_of_ne {read : Json → Option α} {x : Json} (something : x ≠ null) :
    nullable? read x = (read x).map some := by
  unfold nullable?
  split
  next => exact absurd rfl something
  next => rfl

/-- A value that may be missing is read, if no value is written as nothing. -/
theorem nullable?_ofOption {write : α → Json} {read : Json → Option α} {a : Option α}
    (something : ∀ b, write b ≠ null) (kept : ∀ b ∈ a, read (write b) = some b) :
    nullable? read (ofOption write a) = some a := by
  cases a with
  | none => rfl
  | some b => rw [ofOption, nullable?_of_ne (something b), kept b rfl, Option.map_some]

/-- What is read item by item is read if each item is. -/
theorem mapM_written {β : Type} {write : α → β} {read : β → Option α} {items : List α}
    (kept : ∀ a ∈ items, read (write a) = some a) : (items.map write).mapM read = some items := by
  induction items with
  | nil => rfl
  | cons a rest ih =>
    have hrest := ih fun b hb => kept b (List.mem_cons_of_mem a hb)
    rw [List.map_cons, List.mapM_cons, kept a List.mem_cons_self, hrest]
    rfl

/-- A list is read item by item. -/
theorem list?_map {write : α → Json} {read : Json → Option α} {items : List α}
    (kept : ∀ a ∈ items, read (write a) = some a) :
    list? read (list (items.map write)) = some items :=
  mapM_written kept

/-! ## Records -/

/-- What is found for a member of an object that may be missing. -/
def Field.ofMember : Option Json → Field
  | some x => given x
  | none => unnamed

namespace Field

variable {write : α → Json} {read : Json → Option α} {a : Option α}
  (something : ∀ b, write b ≠ null) (kept : ∀ b ∈ a, read (write b) = some b)

include something kept

/-- A member that may be missing is read as it is or as missing. -/
theorem optional?_ofMember : (ofMember (a.map write)).optional? read = some a := by
  cases a with
  | none => rfl
  | some b =>
    rw [Option.map_some, ofMember, optional?, nullable?_of_ne (something b), kept b rfl,
      Option.map_some]

/-- The same member of a record that may lack the field altogether. -/
theorem withDefault?_ofMember :
    (ofMember (a.map write)).withDefault? none (nullable? read) = some a := by
  cases a with
  | none => rfl
  | some b =>
    rw [Option.map_some, ofMember, withDefault?, nullable?_of_ne (something b), kept b rfl,
      Option.map_some]

end Field

variable {members : List (String × Option Json)}

/-- The names of an object are some of the names it could have. -/
theorem names_sublist (members : List (String × Option Json)) :
    ((members.filterMap fun m => m.2.map fun v => (m.1, v)).map Prod.fst).Sublist
      (members.map Prod.fst) := by
  induction members with
  | nil => exact .slnil
  | cons m rest ih =>
    obtain ⟨name, value⟩ := m
    cases value with
    | none => exact ih.cons name
    | some x => exact ih.cons_cons name

/-- A member that was written is found, and one that was left out is not. -/
theorem member?_ofMembers (distinct : (members.map Prod.fst).Nodup) {m : String × Option Json}
    (mem : m ∈ members) : (ofMembers members).member? m.1 = m.2 := by
  unfold ofMembers member?
  induction members with
  | nil => cases mem
  | cons n rest ih =>
    obtain ⟨hnew, hrest⟩ := List.nodup_cons.mp distinct
    obtain ⟨name, value⟩ := n
    rcases List.mem_cons.mp mem with rfl | hm
    · cases value with
      | some x => simp
      | none =>
        -- the name is not among the others, so nothing is found for it
        have hnone : ((rest.filterMap fun m => m.2.map fun v => (m.1, v)).find?
            fun m => m.1 = name) = none := by
          refine List.find?_eq_none.mpr fun entry hentry hname => hnew ?_
          rw [← of_decide_eq_true hname]
          exact (names_sublist rest).subset (List.mem_map_of_mem hentry)
        simpa using hnone
    · have hne : name ≠ m.1 := fun h => hnew (List.mem_map.mpr ⟨m, hm, h.symm⟩)
      cases value with
      | some x => simpa [hne] using ih hrest hm
      | none => simpa using ih hrest hm

/-- **A record is read field by field.** -/
theorem fields?_ofMembers {names : List String} (named : members.map Prod.fst = names)
    (distinct : names.Nodup) :
    (ofMembers members).fields? names = some (members.map fun m => Field.ofMember m.2) := by
  subst named
  have honce : ((members.map Prod.fst).all fun n =>
      (members.filterMap fun m => m.2.map fun v => (m.1, v)).countP (fun m => m.1 = n) ≤ 1) =
        true := by
    refine List.all_eq_true.mpr fun n _ => decide_eq_true ?_
    have hcount := List.nodup_iff_count_le_one.mp ((names_sublist members).nodup distinct) n
    rw [List.count, List.countP_map] at hcount
    exact Nat.le_trans (Nat.le_of_eq (List.countP_congr fun entry _ => by simp)) hcount
  rw [ofMembers, fields?, if_pos honce, List.map_map]
  refine congrArg some (List.map_congr_left fun m hm => ?_)
  have hmember := member?_ofMembers distinct hm
  rw [ofMembers] at hmember
  rw [Function.comp_apply, hmember]
  cases m.2 <;> rfl

/-- An object with all its members is read field by field. -/
theorem fields?_object {written : List (String × Json)} {names : List String}
    (named : written.map Prod.fst = names) (distinct : names.Nodup) :
    (object written).fields? names = some (written.map fun m => .given m.2) := by
  have hall : ofMembers (written.map fun m => (m.1, some m.2)) = object written := by
    simp [ofMembers, List.filterMap_map]
  have hnames : (written.map fun m => (m.1, some m.2)).map Prod.fst = names := by
    simpa [Function.comp_def] using named
  have hfields := fields?_ofMembers hnames distinct
  rw [hall, List.map_map] at hfields
  exact hfields

end NetworkTuning.Json
