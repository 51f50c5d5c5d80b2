import NetworkTuning.Decimal.Fixed
import NetworkTuning.Decimal.Reading
import NetworkTuning.Proofs.Text.Pieces

/-!
# Numbers that are written are read

A whole number below the reader's bound is read from each of its spellings (`Spells.natural?_eq`),
its own digits among them, so each kind of word reads what it writes. A finite double is written
with a fixed number of places as a sign, digits, a point and digits, and the others have names
(`fixed_text`).
-/

namespace NetworkTuning.Decimal

/-! ## Digits -/

/-- A text of ASCII digits. -/
def Digital (cs : List Char) : Prop := ∀ c ∈ cs, c.isDigit = true

theorem digits_digital (n : Nat) : Digital (digits n) := fun _ h =>
  Nat.isDigit_of_mem_toDigits (by decide) (by decide) h

theorem digits_ne_nil (n : Nat) : digits n ≠ [] := Nat.toDigits_ne_nil

theorem Digital.append {first second : List Char} (h : Digital first) (h' : Digital second) :
    Digital (first ++ second) := List.forall_mem_append.mpr ⟨h, h'⟩

theorem replicate_digital (n : Nat) : Digital (List.replicate n '0') := by
  intro c hc
  rw [List.eq_of_mem_replicate hc]
  rfl

/-- Digits denote the number that they are the digits of. -/
theorem digitsValue?_digital {cs : List Char} (digital : Digital cs) (acc : Nat) :
    digitsValue? acc cs = some (Nat.ofDigitChars 10 cs acc) := by
  induction cs generalizing acc with
  | nil => rfl
  | cons c rest ih =>
    have hc : digitValue? c = some (c.toNat - '0'.toNat) :=
      if_pos (digital c List.mem_cons_self)
    rw [digitsValue?, hc, Option.bind_some, ih fun d hd => digital d (List.mem_cons_of_mem _ hd),
      Nat.ofDigitChars_cons]

/-- No digit is a sign, a point or a blank. -/
theorem isDigit_bounds {c : Char} (h : c.isDigit = true) : 48 ≤ c.toNat ∧ c.toNat ≤ 57 := by
  obtain ⟨hlow, hhigh⟩ := Bool.and_eq_true_iff.mp h
  exact ⟨of_decide_eq_true hlow, of_decide_eq_true hhigh⟩

theorem not_isDigit_of_lt {c : Char} (h : c.toNat < 48) : ¬c.isDigit = true := fun hc =>
  absurd (isDigit_bounds hc).1 (Nat.not_le.mpr h)

/-- What begins with a digit does not begin with a sign. -/
theorem Digital.head_ne {c d : Char} {cs : List Char} (digital : Digital (c :: cs))
    (sign : d.toNat < 48) : c ≠ d := by
  rintro rfl
  exact not_isDigit_of_lt sign (digital c List.mem_cons_self)

/-! ## Whole numbers -/

/-- A spelling of a number: at least one digit, and maybe a plus sign in front. -/
def Spells (cs : List Char) (n : Nat) : Prop :=
  ∃ body, (cs = body ∨ cs = '+' :: body) ∧ body ≠ [] ∧ Digital body ∧
    Nat.ofDigitChars 10 body 0 = n

theorem spells_digits (n : Nat) : Spells (digits n) n :=
  ⟨digits n, .inl rfl, digits_ne_nil n, digits_digital n,
    Nat.ofDigitChars_toDigits (by decide) (by decide)⟩

/-- A number in range is read from each of its spellings. -/
theorem Spells.natural?_eq {cs : List Char} {n bound : Nat} (spells : Spells cs n)
    (h : n < bound) : natural? bound cs = some n := by
  obtain ⟨body, hcs, hnonempty, hdigital, rfl⟩ := spells
  have hvalue := digitsValue?_digital hdigital 0
  have hread : (if body.isEmpty then none
      else (digitsValue? 0 body).filter (· < bound)) = some (Nat.ofDigitChars 10 body 0) := by
    simp only [List.isEmpty_iff, if_neg hnonempty, hvalue, Option.filter_some, decide_eq_true h,
      if_true]
  rcases hcs with rfl | rfl
  · cases cs with
    | nil => exact absurd rfl hnonempty
    | cons c rest =>
      have hplus : c ≠ '+' := hdigital.head_ne (by decide)
      unfold natural?
      split
      next heq => exact absurd (List.cons.inj heq).1 hplus
      next => exact hread
  · exact hread

/-- A number in range is read back from its digits. -/
theorem natural?_digits {n bound : Nat} (h : n < bound) : natural? bound (digits n) = some n :=
  (spells_digits n).natural?_eq h

theorem word64?_digits (n : UInt64) : word64? (digits n.toNat) = some n := by
  rw [word64?, natural?_digits n.toNat_lt]
  exact congrArg some UInt64.ofNat_toNat

theorem word32?_digits (n : UInt32) : word32? (digits n.toNat) = some n := by
  rw [word32?, natural?_digits n.toNat_lt]
  exact congrArg some UInt32.ofNat_toNat

theorem word16?_digits (n : UInt16) : word16? (digits n.toNat) = some n := by
  rw [word16?, natural?_digits n.toNat_lt]
  exact congrArg some UInt16.ofNat_toNat

/-! ## Characters of numbers -/

/-- The characters that occur in a number: digits, a point, a sign, and those of the names. -/
def Numeric (cs : List Char) : Prop :=
  ∀ c ∈ cs, c.isDigit = true ∨ c ∈ ['.', '-', 'N', 'a', 'i', 'n', 'f']

instance (cs : List Char) : Decidable (Numeric cs) := List.decidableBAll _ cs

theorem Digital.numeric {cs : List Char} (digital : Digital cs) : Numeric cs := fun c hc =>
  .inl (digital c hc)

theorem Numeric.solid {cs : List Char} (numeric : Numeric cs) : Text.Solid cs := by
  intro c hc
  rcases numeric c hc with h | h
  · obtain ⟨hlow, hhigh⟩ := isDigit_bounds h
    unfold Text.isBlank
    simp only [Bool.or_eq_false_iff, Bool.and_eq_false_iff, decide_eq_false_iff_not]
    omega
  · have hothers : Text.Solid ['.', '-', 'N', 'a', 'i', 'n', 'f'] := by decide
    exact hothers c h

/-- Numbers hold no comma. -/
theorem Numeric.not_mem_comma {cs : List Char} (numeric : Numeric cs) : ',' ∉ cs := by
  intro hc
  rcases numeric ',' hc with h | h
  · exact not_isDigit_of_lt (by decide) h
  · exact absurd h (by decide)

/-! ## A fixed number of places -/

/-- Digits, a point, and digits. -/
def Pointed (cs : List Char) : Prop :=
  ∃ whole fraction, Digital whole ∧ Digital fraction ∧ whole ≠ [] ∧ cs = whole ++ '.' :: fraction

theorem fixedDigits_pointed {places : Nat} (positive : 0 < places) (count : Nat) :
    Pointed (fixedDigits places count) := by
  have hpadded := (replicate_digital (places + 1 - (digits count).length)).append
    (digits_digital count)
  have hlength : places <
      (List.replicate (places + 1 - (digits count).length) '0' ++ digits count).length := by
    rw [List.length_append, List.length_replicate]
    omega
  simp only [fixedDigits, if_neg (Nat.ne_of_gt positive)]
  generalize List.replicate (places + 1 - (digits count).length) '0' ++ digits count = padded at *
  refine ⟨_, _, ?_, ?_, ?_, rfl⟩
  · exact fun c hc => hpadded c (List.mem_of_mem_take hc)
  · exact fun c hc => hpadded c (List.mem_of_mem_drop hc)
  · refine List.ne_nil_of_length_pos ?_
    rw [List.length_take]
    omega

/-- The names of the doubles that are not finite. -/
def names : List String := ["NaN", "inf", "-inf"]

/-- A double is written as one of the names, or as digits, a point, and digits, with its sign. -/
theorem fixed_text {places : Nat} (positive : 0 < places) (x : Float) :
    fixed places x ∈ names ∨ ∃ negative cs, Pointed cs ∧ fixed places x = signed negative cs := by
  unfold fixed
  split
  · left
    unfold special?
    split
    · simp [names]
    · split
      · split <;> simp [names]
      · simp [names]
  · exact .inr ⟨_, _, fixedDigits_pointed positive _, rfl⟩

theorem signed_toList (negative : Bool) (cs : List Char) :
    (signed negative cs).toList = if negative then '-' :: cs else cs := String.toList_ofList

theorem fixed_numeric {places : Nat} (positive : 0 < places) (x : Float) :
    Numeric (fixed places x).toList := by
  rcases fixed_text positive x with
    h | ⟨negative, _, ⟨whole, fraction, hwhole, hfraction, -, rfl⟩, h⟩
  · have hnames : ∀ name ∈ names, Numeric name.toList := by decide
    exact hnames _ h
  · rw [h, signed_toList]
    have hsize : Numeric (whole ++ '.' :: fraction) := by
      intro c hc
      rcases List.mem_append.mp hc with hc | hc
      · exact hwhole.numeric c hc
      · rcases List.mem_cons.mp hc with rfl | hc
        · exact .inr List.mem_cons_self
        · exact hfraction.numeric c hc
    cases negative with
    | true =>
      intro c hc
      rcases List.mem_cons.mp hc with rfl | hc
      · exact .inr (by decide)
      · exact hsize c hc
    | false => exact hsize

end NetworkTuning.Decimal
