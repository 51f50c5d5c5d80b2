import NetworkTuning.Proofs.FileTree.Moves
import NetworkTuning.Proofs.TableFile.Grammar
import NetworkTuning.Statistics.Counters

/-!
# What a reading of an interface takes

An interface's counters stand in eight files, two for each field of a reading, and the files are
read one after the other. So a reading is taken exactly if every file holds a number, and each field
is the sum of its two numbers as far as a word goes (`Traffic.read_ok_iff`). If not, the reading
fails as the first file does that cannot be read or holds something else (`Traffic.read_error_iff`),
so it fails exactly if some file holds no number (`Traffic.read_fails_iff`).
-/

namespace NetworkTuning

open Text Decimal

/-- The sum is cut at the largest word. -/
theorem toNat_addUpTo (a b : UInt64) :
    (addUpTo a b).toNat = min (a.toNat + b.toNat) (UInt64.size - 1) := by
  have ha := a.toNat_lt
  have hb := b.toNat_lt
  have hsum : (a + b).toNat = (a.toNat + b.toNat) % 18446744073709551616 := UInt64.toNat_add a b
  rw [addUpTo]
  split
  case isTrue h =>
    have hless := UInt64.lt_iff_toNat_lt.mp h
    change 18446744073709551615 = min (a.toNat + b.toNat) 18446744073709551615
    omega
  case isFalse h =>
    have hless := mt UInt64.lt_iff_toNat_lt.mpr h
    change (a + b).toNat = min (a.toNat + b.toNat) 18446744073709551615
    omega

/-! ## One counter -/

variable {files : FileTree} {directory name counter : String} {n : UInt64} {e : ReadingError}
  {t : Traffic}

/-- A counter's file holds a number, with blanks around it. -/
def HoldsCounter (files : FileTree) (directory name : String) (n : UInt64) : Prop :=
  ∃ content body, files.readText (Path.join directory name) = .ok content ∧
    Trims content.toList body ∧ Spells body n.toNat

/-- Why a counter is not read. -/
inductive Unread (files : FileTree) (directory name : String) : ReadingError → Prop
  | missing {cause : SystemError} : files.readText (Path.join directory name) = .error cause →
      Unread files directory name (.unavailable (Path.join directory name) cause)
  | garbled {content : String} {body : List Char} :
      files.readText (Path.join directory name) = .ok content → Trims content.toList body →
      (∀ n : UInt64, ¬Spells body n.toNat) →
      Unread files directory name (.notANumber (Path.join directory name) (String.ofList body))

theorem readCounter_ok_iff :
    readCounter files directory name = .ok n ↔ HoldsCounter files directory name n := by
  simp only [readCounter, bind_ok_iff, mapError_ok_iff]
  constructor
  · rintro ⟨content, hread, h⟩
    split at h
    next m hword =>
      cases h
      exact ⟨content, _, hread, trims_iff.mpr rfl, word64?_iff.mp hword⟩
    next => cases h
  · rintro ⟨content, body, hread, hbody, hspells⟩
    obtain rfl := trims_iff.mp hbody
    exact ⟨content, hread, by rw [word64?_iff.mpr hspells]⟩

theorem readCounter_error_iff :
    readCounter files directory name = .error e ↔ Unread files directory name e := by
  simp only [readCounter, bind_error_iff, mapError_ok_iff, mapError_error_iff]
  constructor
  · rintro (⟨cause, hread, rfl⟩ | ⟨content, hread, h⟩)
    · exact .missing hread
    · split at h
      next => cases h
      next hword =>
        cases h
        refine .garbled hread (trims_iff.mpr rfl) fun n hn => ?_
        rw [word64?_iff.mpr hn] at hword
        cases hword
  · rintro (hread | ⟨hread, hbody, hnone⟩)
    · exact .inl ⟨_, hread, rfl⟩
    · obtain rfl := trims_iff.mp hbody
      have hword : word64? (trim _) = none :=
        Option.eq_none_iff_forall_ne_some.mpr fun n hn => hnone n (word64?_iff.mp hn)
      exact .inr ⟨_, hread, by rw [hword]⟩

/-- A file that is not read holds no number. -/
theorem Unread.not_holds (unread : Unread files directory name e) (n : UInt64) :
    ¬HoldsCounter files directory name n := by
  rw [← readCounter_ok_iff, readCounter_error_iff.mpr unread]
  nofun

/-! ## One after the other -/

/-- Of many readings the first that fails is the failure of all. -/
theorem mapM_error_iff {α β ε : Type} {f : α → Except ε β} {items : List α} {e : ε} :
    items.mapM f = .error e ↔ ∃ before a after, items = before ++ a :: after ∧
      (∀ b ∈ before, ∃ value, f b = .ok value) ∧ f a = .error e := by
  induction items with
  | nil => simp [pure, Except.pure]
  | cons a rest ih =>
    simp only [List.mapM_cons, bind_error_iff, ih]
    constructor
    · rintro (ha | ⟨b, hb, ⟨before, c, after, rfl, hbefore, hc⟩ | ⟨others, -, hpure⟩⟩)
      · exact ⟨[], a, rest, rfl, by simp, ha⟩
      · exact ⟨a :: before, c, after, rfl, List.forall_mem_cons.mpr ⟨⟨b, hb⟩, hbefore⟩, hc⟩
      · cases hpure
    · rintro ⟨before, c, after, hitems, hbefore, hc⟩
      cases before with
      | nil =>
        obtain ⟨rfl, -⟩ := List.cons.inj hitems
        exact .inl hc
      | cons d before =>
        obtain ⟨rfl, rfl⟩ := List.cons.inj hitems
        obtain ⟨⟨b, hb⟩, hbefore⟩ := List.forall_mem_cons.mp hbefore
        exact .inr ⟨b, hb, .inl ⟨before, c, after, rfl, hbefore, hc⟩⟩

/-! ## The reading -/

/-- The fields of a reading, each with the name it is counted under. -/
def Traffic.fields : List (String × (Traffic → UInt64)) :=
  [("bytes", bytes), ("errors", errors), ("dropped", dropped), ("fifo_errors", fifoErrors)]

/-- The files of the counters, in the order in which they are read. -/
def counterNames : List String :=
  Traffic.fields.flatMap fun field => ["rx_" ++ field.1, "tx_" ++ field.1]

theorem readBoth_ok_iff : readBoth files directory counter = .ok n ↔
    ∃ received sent, HoldsCounter files directory ("rx_" ++ counter) received ∧
      HoldsCounter files directory ("tx_" ++ counter) sent ∧ n = addUpTo received sent := by
  simp only [readBoth, bind_ok_iff, readCounter_ok_iff, pure, Except.pure, Except.ok.injEq,
    exists_and_left, eq_comm (a := n)]

/-- **A reading is taken exactly if every file holds a number, and each of its fields is the sum of
its two counters.** -/
theorem Traffic.read_ok_iff : Traffic.read files directory = .ok t ↔
    ∀ field ∈ fields, ∃ received sent,
      HoldsCounter files directory ("rx_" ++ field.1) received ∧
      HoldsCounter files directory ("tx_" ++ field.1) sent ∧
      field.2 t = addUpTo received sent := by
  simp only [fields, List.forall_mem_cons, List.not_mem_nil, false_implies, implies_true, and_true,
    ← readBoth_ok_iff]
  simp only [Traffic.read, bind_ok_iff, pure, Except.pure, Except.ok.injEq]
  constructor
  · rintro ⟨bytes, hbytes, errors, herrors, dropped, hdropped, fifo, hfifo, rfl⟩
    exact ⟨hbytes, herrors, hdropped, hfifo⟩
  · rintro ⟨hbytes, herrors, hdropped, hfifo⟩
    exact ⟨_, hbytes, _, herrors, _, hdropped, _, hfifo, rfl⟩

/-- The reading that the numbers make, in the order of their files. -/
def Traffic.ofCounters (values : List UInt64) : Traffic where
  bytes := addUpTo (values.getD 0 0) (values.getD 1 0)
  errors := addUpTo (values.getD 2 0) (values.getD 3 0)
  dropped := addUpTo (values.getD 4 0) (values.getD 5 0)
  fifoErrors := addUpTo (values.getD 6 0) (values.getD 7 0)

/-- The files are read one after the other. -/
theorem Traffic.read_eq (files : FileTree) (directory : String) :
    Traffic.read files directory = (do
      let values ← counterNames.mapM (readCounter files directory)
      pure (ofCounters values)) := by
  simp [Traffic.read, readBoth, counterNames, fields, ofCounters]

/-- **A reading that is not taken fails as the first file does that cannot be read or holds no
number.** -/
theorem Traffic.read_error_iff : Traffic.read files directory = .error e ↔
    ∃ before name after, counterNames = before ++ name :: after ∧
      (∀ other ∈ before, ∃ n, HoldsCounter files directory other n) ∧
      Unread files directory name e := by
  simp only [Traffic.read_eq, bind_error_iff, mapM_error_iff, readCounter_ok_iff,
    readCounter_error_iff, pure, Except.pure, reduceCtorEq, and_false, exists_false, or_false]

/-- **A reading fails exactly if some counter's file cannot be read or holds no number.** -/
theorem Traffic.read_fails_iff : (∃ e, Traffic.read files directory = .error e) ↔
    ∃ name ∈ counterNames, ∀ n, ¬HoldsCounter files directory name n := by
  constructor
  · rintro ⟨e, he⟩
    obtain ⟨before, name, after, hnames, -, unread⟩ := Traffic.read_error_iff.mp he
    exact ⟨name, hnames ▸ by simp, unread.not_holds⟩
  · rintro ⟨name, hname, hnone⟩
    cases hread : Traffic.read files directory with
    | error e => exact ⟨e, rfl⟩
    | ok t =>
      obtain ⟨field, hfield, hside⟩ := List.mem_flatMap.mp hname
      obtain ⟨received, sent, hreceived, hsent, -⟩ := Traffic.read_ok_iff.mp hread field hfield
      simp only [List.mem_cons, List.not_mem_nil, or_false] at hside
      obtain rfl | rfl := hside
      · exact absurd hreceived (hnone received)
      · exact absurd hsent (hnone sent)

end NetworkTuning
