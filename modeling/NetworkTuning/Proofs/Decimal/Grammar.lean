import NetworkTuning.Proofs.Decimal.Digits

/-!
# Which texts are numbers

A whole number below a bound is read from its spellings and from nothing else (`natural?_iff`). A
double is read from the texts that `Denotes` describes and from nothing else (`float?_iff`): a sign
or none, and then a name in any case, or digits with a point among them or at either side, and maybe
an exponent. What is written of a double with a fixed number of places is such a text, whatever the
double is (`float?_fixed`).
-/

namespace NetworkTuning.Decimal

variable {text body : List Char} {n bound : Nat}

/-! ## Whole numbers -/

theorem digitValue?_iff {c : Char} {d : Nat} :
    digitValue? c = some d ↔ c.isDigit = true ∧ c.toNat - '0'.toNat = d := by
  by_cases h : c.isDigit = true <;> simp [digitValue?, h]

/-- Only digits denote a number. -/
theorem digitsValue?_iff {cs : List Char} {acc : Nat} :
    digitsValue? acc cs = some n ↔ Digital cs ∧ Nat.ofDigitChars 10 cs acc = n := by
  constructor
  · intro h
    have hdigital : Digital cs := by
      induction cs generalizing acc with
      | nil =>
        intro c hc
        cases hc
      | cons c rest ih =>
        obtain ⟨d, hd, hrest⟩ := Option.bind_eq_some_iff.mp h
        exact List.forall_mem_cons.mpr ⟨(digitValue?_iff.mp hd).1, ih hrest⟩
    rw [digitsValue?_digital hdigital, Option.some.injEq] at h
    exact ⟨hdigital, h⟩
  · rintro ⟨hdigital, rfl⟩
    exact digitsValue?_digital hdigital acc

/-- **A whole number is read from its spellings alone**, and only below the bound. -/
theorem natural?_iff : natural? bound text = some n ↔ Spells text n ∧ n < bound := by
  refine ⟨fun h => ?_, fun h => h.1.natural?_eq h.2⟩
  have hread {body : List Char} (hbody : text = body ∨ text = '+' :: body)
      (h : (if body.isEmpty then none else (digitsValue? 0 body).filter (· < bound)) = some n) :
      Spells text n ∧ n < bound := by
    split at h
    next => cases h
    next hsome =>
      obtain ⟨hvalue, hless⟩ := Option.filter_eq_some_iff.mp h
      obtain ⟨hdigital, hn⟩ := digitsValue?_iff.mp hvalue
      exact ⟨⟨body, hbody, fun h => hsome (List.isEmpty_iff.mpr h), hdigital, hn⟩,
        of_decide_eq_true hless⟩
  unfold natural? at h
  split at h
  next => exact hread (.inr rfl) h
  next => exact hread (.inl rfl) h

/-! ## Signs -/

/-- A text with a sign in front of it, or with none. -/
inductive WithSign : Bool → List Char → List Char → Prop
  | none (body : List Char) : WithSign false body body
  | plus (body : List Char) : WithSign false body ('+' :: body)
  | minus (body : List Char) : WithSign true body ('-' :: body)

/-- The sign of a text, and what comes after it. -/
def takeSign (text : List Char) : Bool × List Char :=
  match text with
  | '-' :: rest => (true, rest)
  | '+' :: rest => (false, rest)
  | rest => (false, rest)

theorem withSign_takeSign (text : List Char) :
    WithSign (takeSign text).1 (takeSign text).2 text := by
  unfold takeSign
  split
  · exact .minus _
  · exact .plus _
  · exact .none _

/-- A text that does not itself begin with a sign is what comes after the sign. -/
theorem WithSign.takeSign_eq {negative : Bool} (signed : WithSign negative body text)
    (bare : ∀ c ∈ body.head?, c ≠ '-' ∧ c ≠ '+') : takeSign text = (negative, body) := by
  cases signed with
  | plus | minus => rfl
  | none =>
    unfold takeSign
    split
    next => exact absurd rfl (bare '-' rfl).1
    next => exact absurd rfl (bare '+' rfl).2
    next => rfl

/-! ## Exponents -/

/-- A number as it counts under a sign. -/
def signedNat (negative : Bool) (n : Nat) : Int := if negative then -(n : Int) else n

/-- The exponent part of a number, which may be missing. -/
inductive Exponent : List Char → Int → Prop
  | missing : Exponent [] 0
  | marked {mark : Char} {negative : Bool} {body text : List Char} : mark = 'e' ∨ mark = 'E' →
      WithSign negative body text → body ≠ [] → Digital body →
      Exponent (mark :: text) (signedNat negative (Nat.ofDigitChars 10 body 0))

theorem exponentPart?_marked {mark : Char} (hmark : mark = 'e' ∨ mark = 'E') (text : List Char) :
    exponentPart? (mark :: text) =
      if (takeSign text).2.isEmpty then none
      else (digitsValue? 0 (takeSign text).2).map (signedNat (takeSign text).1) := by
  have heq : exponentPart? (mark :: text) = if mark = 'e' ∨ mark = 'E' then
      (if (takeSign text).2.isEmpty then none
      else ((digitsValue? 0 (takeSign text).2).bind fun n => some (n : Int)).map fun n =>
        if (takeSign text).1 then -n else n)
      else none := rfl
  rw [heq, if_pos hmark]
  cases digitsValue? 0 (takeSign text).2 <;> rfl

theorem Digital.bare (digital : Digital body) : ∀ c ∈ body.head?, c ≠ '-' ∧ c ≠ '+' := by
  intro c hc
  have hdigit := digital c (List.mem_of_mem_head? hc)
  constructor <;> rintro rfl <;> exact absurd hdigit (by decide)

theorem exponentPart?_iff {e : Int} : exponentPart? text = some e ↔ Exponent text e := by
  constructor
  · intro h
    cases text with
    | nil =>
      cases h
      exact .missing
    | cons mark rest =>
      by_cases hmark : mark = 'e' ∨ mark = 'E'
      · rw [exponentPart?_marked hmark] at h
        split at h
        next => cases h
        next hsome =>
          obtain ⟨n, hn, rfl⟩ := Option.map_eq_some_iff.mp h
          obtain ⟨hdigital, rfl⟩ := digitsValue?_iff.mp hn
          exact .marked hmark (withSign_takeSign rest) (fun h => hsome (List.isEmpty_iff.mpr h))
            hdigital
      · have hnone : exponentPart? (mark :: rest) = none := if_neg hmark
        rw [hnone] at h
        cases h
  · rintro (_ | ⟨hmark, hsign, hsome, hdigital⟩)
    · rfl
    · rw [exponentPart?_marked hmark, hsign.takeSign_eq hdigital.bare,
        if_neg (by simpa using hsome), digitsValue?_digital hdigital]
      rfl

/-- An exponent part does not go on with the digits before it. -/
theorem Exponent.head {e : Int} (exponent : Exponent text e) :
    ∀ c ∈ text.head?, c.isDigit = false ∧ c ≠ '.' := by
  cases exponent with
  | missing =>
    intro c hc
    cases hc
  | marked hmark =>
    intro c hc
    obtain rfl : _ = c := Option.some.inj hc
    rcases hmark with rfl | rfl <;> decide

/-! ## Sizes -/

/-- An unsigned number in digits, and the double that it denotes. -/
inductive Numeral : List Char → Float → Prop
  | whole {whole tail : List Char} {e : Int} : Digital whole → whole ≠ [] → Exponent tail e →
      Numeral (whole ++ tail) (nearest (Nat.ofDigitChars 10 whole 0) e)
  | pointed {whole fraction tail : List Char} {e : Int} : Digital whole → Digital fraction →
      whole ≠ [] ∨ fraction ≠ [] → Exponent tail e →
      Numeral (whole ++ '.' :: (fraction ++ tail))
        (nearest (Nat.ofDigitChars 10 (whole ++ fraction) 0) (e - fraction.length))

theorem takeWhile_eq_nil {cs : List Char} (head : ∀ c ∈ cs.head?, c.isDigit = false) :
    cs.takeWhile Char.isDigit = [] ∧ cs.dropWhile Char.isDigit = cs := by
  cases cs with
  | nil => exact ⟨rfl, rfl⟩
  | cons c rest =>
    have hc : ¬c.isDigit = true := by simp [head c rfl]
    exact ⟨List.takeWhile_cons_of_neg hc, List.dropWhile_cons_of_neg hc⟩

/-- The digits at the start of a text end where the next character is none. -/
theorem Digital.takeWhile_eq {whole rest : List Char} (digital : Digital whole)
    (head : ∀ c ∈ rest.head?, c.isDigit = false) :
    (whole ++ rest).takeWhile Char.isDigit = whole ∧
      (whole ++ rest).dropWhile Char.isDigit = rest := by
  obtain ⟨htake, hdrop⟩ := takeWhile_eq_nil head
  rw [List.takeWhile_append_of_pos digital, List.dropWhile_append_of_pos digital, htake, hdrop,
    List.append_nil]
  exact ⟨rfl, rfl⟩

/-- What is read of digits, of those behind a point, and of what comes after them. -/
def assemble (whole fraction tail : List Char) : Option Float :=
  if whole.isEmpty ∧ fraction.isEmpty then none
  else do
    let exponent ← exponentPart? tail
    let mantissa ← digitsValue? 0 (whole ++ fraction)
    some (nearest mantissa (exponent - fraction.length))

theorem assemble_iff {whole fraction tail : List Char} (hwhole : Digital whole)
    (hfraction : Digital fraction) {x : Float} :
    assemble whole fraction tail = some x ↔
      (whole ≠ [] ∨ fraction ≠ []) ∧ ∃ e, Exponent tail e ∧
        nearest (Nat.ofDigitChars 10 (whole ++ fraction) 0) (e - fraction.length) = x := by
  by_cases hnone : whole = [] ∧ fraction = []
  · simp [assemble, hnone]
  · have hsome : whole ≠ [] ∨ fraction ≠ [] := by
      by_cases h : whole = []
      · exact .inr fun h' => hnone ⟨h, h'⟩
      · exact .inl h
    simp only [assemble, List.isEmpty_iff, if_neg hnone,
      digitsValue?_digital (hwhole.append hfraction), Option.bind_eq_bind, Option.bind_some,
      Option.bind_eq_some_iff, exponentPart?_iff, Option.some.injEq, and_iff_right hsome]

/-- The digits behind a point, and what comes after them. -/
def takeFraction (text : List Char) : List Char × List Char :=
  match text with
  | '.' :: rest => (rest.takeWhile Char.isDigit, rest.dropWhile Char.isDigit)
  | rest => ([], rest)

theorem takeFraction_none (head : ∀ c ∈ text.head?, c ≠ '.') : takeFraction text = ([], text) := by
  unfold takeFraction
  split
  next => exact absurd rfl (head '.' rfl)
  next => rfl

theorem unsignedFloat?_eq (text : List Char) : unsignedFloat? text =
    assemble (text.takeWhile Char.isDigit) (takeFraction (text.dropWhile Char.isDigit)).1
      (takeFraction (text.dropWhile Char.isDigit)).2 := rfl

theorem takeWhile_digital (cs : List Char) : Digital (cs.takeWhile Char.isDigit) := fun c hc =>
  List.all_eq_true.mp List.all_takeWhile c hc

theorem head_point (cs : List Char) : ∀ c ∈ ('.' :: cs).head?, c.isDigit = false := by
  intro c hc
  obtain rfl : '.' = c := Option.some.inj hc
  rfl

/-- **An unsigned double is read from numerals alone.** -/
theorem unsignedFloat?_iff {x : Float} : unsignedFloat? text = some x ↔ Numeral text x := by
  constructor
  · intro h
    have hwhole := takeWhile_digital text
    have htext : text.takeWhile Char.isDigit ++ text.dropWhile Char.isDigit = text :=
      List.takeWhile_append_dropWhile
    rw [unsignedFloat?_eq] at h
    generalize text.takeWhile Char.isDigit = whole at h hwhole htext
    generalize text.dropWhile Char.isDigit = rest at h htext
    obtain rfl := htext
    unfold takeFraction at h
    split at h
    next rest =>
      have hrest : rest.takeWhile Char.isDigit ++ rest.dropWhile Char.isDigit = rest :=
        List.takeWhile_append_dropWhile
      obtain ⟨hsome, e, he, rfl⟩ := (assemble_iff hwhole (takeWhile_digital rest)).mp h
      conv => lhs; rw [← hrest]
      exact .pointed hwhole (takeWhile_digital rest) hsome he
    next =>
      have hnone : Digital [] := fun c hc => by cases hc
      obtain ⟨hsome, e, he, rfl⟩ := (assemble_iff hwhole hnone).mp h
      rw [List.append_nil, List.length_nil, Int.ofNat_zero, Int.sub_zero]
      exact .whole hwhole (hsome.resolve_right fun h => h rfl) he
  · rintro (⟨hwhole, hsome, he⟩ | ⟨hwhole, hfraction, hsome, he⟩)
    · obtain ⟨htake, hdrop⟩ := hwhole.takeWhile_eq fun c hc => (he.head c hc).1
      rw [unsignedFloat?_eq, htake, hdrop, takeFraction_none fun c hc => (he.head c hc).2]
      have hnone : Digital [] := fun c hc => by cases hc
      refine (assemble_iff hwhole hnone).mpr ⟨.inl hsome, _, he, ?_⟩
      rw [List.append_nil, List.length_nil, Int.ofNat_zero, Int.sub_zero]
    · obtain ⟨htake, hdrop⟩ := hwhole.takeWhile_eq (head_point _)
      obtain ⟨htail, hlast⟩ := hfraction.takeWhile_eq fun c hc => (he.head c hc).1
      rw [unsignedFloat?_eq, htake, hdrop, takeFraction, htail, hlast]
      exact (assemble_iff hwhole hfraction).mpr ⟨hsome, _, he, rfl⟩

/-! ## Doubles -/

/-- A text without a sign, and the double that it denotes. -/
inductive Size : List Char → Float → Prop
  | infinite {body : List Char} : body.map Char.toLower = "inf".toList ∨
      body.map Char.toLower = "infinity".toList → Size body infinity
  | nan {body : List Char} : body.map Char.toLower = "nan".toList → Size body notANumber
  | numeral {body : List Char} {x : Float} : Numeral body x → Size body x

/-- A text that denotes a double, with its sign. -/
def Denotes (text : List Char) (x : Float) : Prop :=
  ∃ negative body y, WithSign negative body text ∧ Size body y ∧ x = if negative then -y else y

theorem ofList_eq_iff {cs : List Char} {name : String} :
    String.ofList cs = name ↔ cs = name.toList :=
  ⟨fun h => h ▸ String.toList_ofList.symm, fun h => h ▸ String.ofList_toList⟩

/-- A numeral begins with a digit or a point. -/
theorem Numeral.head {x : Float} (numeral : Numeral body x) :
    ∃ c rest, body = c :: rest ∧ (c.isDigit = true ∨ c = '.') := by
  have hdigit {whole : List Char} (digital : Digital whole) (some : whole ≠ [])
      (after : List Char) :
      ∃ c rest, whole ++ after = c :: rest ∧ (c.isDigit = true ∨ c = '.') := by
    obtain ⟨c, rest, rfl⟩ := List.exists_cons_of_ne_nil some
    exact ⟨c, rest ++ after, rfl, .inl (digital c List.mem_cons_self)⟩
  cases numeral with
  | whole hwhole hsome => exact hdigit hwhole hsome _
  | @pointed whole fraction tail e hwhole =>
    by_cases hnone : whole = []
    · exact ⟨'.', fraction ++ tail, by rw [hnone]; rfl, .inr rfl⟩
    · exact hdigit hwhole hnone _

/-- Neither a digit nor a point is changed by the case, and no name begins with one. -/
theorem toLower_of_head {c : Char} (head : c.isDigit = true ∨ c = '.') :
    c.toLower = c ∧ c ≠ 'i' ∧ c ≠ 'n' ∧ c ≠ '-' ∧ c ≠ '+' := by
  have hbounds : 46 ≤ c.toNat ∧ c.toNat ≤ 57 := by
    rcases head with h | rfl
    · obtain ⟨hlow, hhigh⟩ := isDigit_bounds h
      exact ⟨by omega, hhigh⟩
    · decide
  have hsmall : ¬('A'.val ≤ c.val ∧ c.val ≤ 'Z'.val) := fun h => by
    have hcapital : 65 ≤ c.toNat := h.1
    omega
  have hother {d : Char} (hd : d.toNat < 46 ∨ 57 < d.toNat) : c ≠ d := by
    rintro rfl
    omega
  refine ⟨dif_neg hsmall, hother ?_, hother ?_, hother ?_, hother ?_⟩ <;> decide

/-- What is read of a text without a sign. -/
def readSize (body : List Char) : Option Float :=
  if String.ofList (body.map Char.toLower) = "inf" ∨
      String.ofList (body.map Char.toLower) = "infinity" then some infinity
  else if String.ofList (body.map Char.toLower) = "nan" then some notANumber
  else unsignedFloat? body

theorem readSize_iff {y : Float} : readSize body = some y ↔ Size body y := by
  simp only [readSize, ofList_eq_iff]
  constructor
  · intro h
    split at h
    next hname =>
      cases h
      exact .infinite hname
    next =>
      split at h
      next hname =>
        cases h
        exact .nan hname
      next => exact .numeral (unsignedFloat?_iff.mp h)
  · rintro (hname | hname | hnumeral)
    · exact if_pos hname
    · rw [hname, if_neg (by decide), if_pos rfl]
    · obtain ⟨c, rest, hbody, hhead⟩ := hnumeral.head
      obtain ⟨hlower, hi, hn, -⟩ := toLower_of_head hhead
      have hother {d : Char} (name : List Char) (hd : c ≠ d) :
          body.map Char.toLower ≠ d :: name := by
        rw [hbody, List.map_cons, hlower]
        exact fun h => hd (List.cons.inj h).1
      have hinf : body.map Char.toLower ≠ "inf".toList := hother _ hi
      have hinfinity : body.map Char.toLower ≠ "infinity".toList := hother _ hi
      have hnan : body.map Char.toLower ≠ "nan".toList := hother _ hn
      rw [if_neg (not_or.mpr ⟨hinf, hinfinity⟩), if_neg hnan]
      exact unsignedFloat?_iff.mpr hnumeral

/-- Nothing that denotes a size begins with a sign. -/
theorem Size.bare {y : Float} (size : Size body y) : ∀ c ∈ body.head?, c ≠ '-' ∧ c ≠ '+' := by
  have hname (first : Char) {name : List Char} (h : body.map Char.toLower = first :: name)
      (letter : first ≠ '-' ∧ first ≠ '+') : ∀ c ∈ body.head?, c ≠ '-' ∧ c ≠ '+' := by
    intro c hc
    have hfirst : c.toLower = first := by
      have hhead := congrArg List.head? h
      rw [List.head?_map, Option.mem_def.mp hc] at hhead
      exact Option.some.inj hhead
    constructor <;> rintro rfl
    · exact letter.1 hfirst.symm
    · exact letter.2 hfirst.symm
  cases size with
  | infinite h =>
    rcases h with h | h
    · exact hname 'i' h (by decide)
    · exact hname 'i' h (by decide)
  | nan h => exact hname 'n' h (by decide)
  | numeral numeral =>
    obtain ⟨d, rest, hbody, hhead⟩ := numeral.head
    obtain ⟨-, -, -, hminus, hplus⟩ := toLower_of_head hhead
    intro c hc
    rw [hbody] at hc
    obtain rfl : d = c := Option.some.inj hc
    exact ⟨hminus, hplus⟩

theorem float?_eq (text : List Char) : float? text =
    (readSize (takeSign text).2).map fun x => if (takeSign text).1 then -x else x := rfl

/-- **A double is read from the texts that denote one, and from no other.** -/
theorem float?_iff {x : Float} : float? text = some x ↔ Denotes text x := by
  rw [float?_eq, Option.map_eq_some_iff]
  constructor
  · rintro ⟨y, hy, rfl⟩
    exact ⟨_, _, y, withSign_takeSign text, readSize_iff.mp hy, rfl⟩
  · rintro ⟨negative, body, y, hsign, hsize, rfl⟩
    rw [hsign.takeSign_eq hsize.bare]
    exact ⟨y, readSize_iff.mpr hsize, rfl⟩

/-! ## Doubles that are written -/

theorem Pointed.numeral (pointed : Pointed text) : ∃ x, Numeral text x := by
  obtain ⟨whole, fraction, hwhole, hfraction, hsome, rfl⟩ := pointed
  have hnumeral := Numeral.pointed hwhole hfraction (.inl hsome) .missing
  rw [List.append_nil] at hnumeral
  exact ⟨_, hnumeral⟩

/-- **Every double is written so that a double is read from it.** Which one it is depends on the
places; with six it is in general not the one that was written. -/
theorem float?_fixed {places : Nat} (positive : 0 < places) (x : Float) :
    ∃ y, float? (fixed places x).toList = some y := by
  rcases fixed_text positive x with h | ⟨negative, cs, hpointed, h⟩
  · have hnames : ∀ name ∈ names, (float? name.toList).isSome = true := by decide
    exact Option.isSome_iff_exists.mp (hnames _ h)
  · obtain ⟨y, hnumeral⟩ := hpointed.numeral
    rw [h, signed_toList]
    refine ⟨_, float?_iff.mpr ⟨negative, cs, y, ?_, .numeral hnumeral, rfl⟩⟩
    cases negative with
    | true => exact .minus cs
    | false => exact .none cs

end NetworkTuning.Decimal
