import NetworkTuning.Proofs.TableFile.Grammar
import NetworkTuning.Statistics.Card

/-!
# Settings that are found by their keys

What the card's tool prints is a list of lines, and each setting is found by its key alone. Nothing
is said here about how the lines are searched: a line has a key if the key stands at its start, with
a colon right after it (`Keyed`), the first such line has the value (`FirstValue`), and lines that
have none of some keys may stand anywhere or be missing (`SameUpTo`).

A search that is blind to foreign lines has the same answer on lists that are the same up to them
(`SameUpTo.findSome?_eq`, `SameUpTo.any_eq`). The ring sizes are searched for behind a heading, and
the first place of the heading is the one after anything that does not hold it, because its last
character occurs in it only once (`afterFirst?_append`). `card_read_by_keys` puts this together.
-/

namespace NetworkTuning

open Text Decimal

variable {cs head rest line text : List Char} {key : String} {ls ls' : List (List Char)}

/-! ## Texts that begin with another one -/

theorem after?_iff : after? head cs = some rest ↔ cs = head ++ rest := by
  induction head generalizing cs with
  | nil => simp [after?]
  | cons h head ih =>
    cases cs with
    | nil => simp [after?]
    | cons c cs =>
      rw [after?, List.cons_append, List.cons.injEq, eq_comm (a := c)]
      split
      next heq => rw [ih, and_iff_right heq]
      next hne => exact iff_of_false (by simp) fun h => hne h.1

/-- What does not begin with a blank stands at the start of a text, blanks apart. -/
theorem after?_trimStart_iff {c : Char} (visible : isBlank c = false) :
    after? (c :: head) (trimStart cs) = some rest ↔
      ∃ front, Blank front ∧ cs = front ++ (c :: head ++ rest) := by
  rw [after?_iff]
  constructor
  · intro h
    obtain ⟨front, hfront, hcs, -⟩ := exists_front cs
    exact ⟨front, hfront, h ▸ hcs⟩
  · rintro ⟨front, hfront, rfl⟩
    rw [trimStart_blank_append hfront]
    refine trimStart_eq_self fun d hd => ?_
    obtain rfl : c = d := Option.some.inj hd
    exact visible

/-! ## Lines that are foreign -/

/-- Two lists of lines are the same up to foreign lines, which stand anywhere in one of them and are
missing in the other. -/
inductive SameUpTo (foreign : List Char → Prop) : List (List Char) → List (List Char) → Prop
  | nil : SameUpTo foreign [] []
  | both (line : List Char) {ls ls' : List (List Char)} : SameUpTo foreign ls ls' →
      SameUpTo foreign (line :: ls) (line :: ls')
  | left {line : List Char} {ls ls' : List (List Char)} : foreign line → SameUpTo foreign ls ls' →
      SameUpTo foreign (line :: ls) ls'
  | right {line : List Char} {ls ls' : List (List Char)} : foreign line → SameUpTo foreign ls ls' →
      SameUpTo foreign ls (line :: ls')

namespace SameUpTo

variable {foreign : List Char → Prop}

/-- A search that is blind to foreign lines finds the same. -/
theorem findSome?_eq {α : Type} {f : List Char → Option α} (same : SameUpTo foreign ls ls')
    (blind : ∀ line, foreign line → f line = none) : ls.findSome? f = ls'.findSome? f := by
  induction same with
  | nil => rfl
  | both line _ ih => rw [List.findSome?_cons, List.findSome?_cons, ih]
  | left hline _ ih => rw [List.findSome?_cons, blind _ hline, ih]
  | right hline _ ih => rw [List.findSome?_cons, blind _ hline, ih]

theorem any_eq {f : List Char → Bool} (same : SameUpTo foreign ls ls')
    (blind : ∀ line, foreign line → f line = false) : ls.any f = ls'.any f := by
  induction same with
  | nil => rfl
  | both line _ ih => rw [List.any_cons, List.any_cons, ih]
  | left hline _ ih => rw [List.any_cons, blind _ hline, Bool.false_or, ih]
  | right hline _ ih => rw [List.any_cons, blind _ hline, Bool.false_or, ih]

end SameUpTo

/-! ## Values -/

/-- A line has a key: blanks may stand in front of it, a colon stands right after it, and then comes
some text. -/
def Keyed (key : String) (line text : List Char) : Prop :=
  ∃ front, Blank front ∧ line = front ++ (key.toList ++ ':' :: text)

/-- A line has none of some keys. -/
def ForeignTo (keys : List String) (line : List Char) : Prop :=
  ∀ key ∈ keys, ∀ text, ¬Keyed key line text

/-- The number that a text stands for: the 16-bit number that is spelled between blanks, and zero if
none is. -/
inductive Worth (text : List Char) : UInt16 → Prop
  | number {body : List Char} {n : UInt16} : Trims text body → Spells body n.toNat → Worth text n
  | other : (∀ body, Trims text body → ∀ n : UInt16, ¬Spells body n.toNat) → Worth text 0

/-- The number on the first line that has a key, and zero if no line has it. -/
inductive FirstValue (key : String) : List (List Char) → UInt16 → Prop
  | absent {ls : List (List Char)} : (∀ line ∈ ls, ∀ text, ¬Keyed key line text) →
      FirstValue key ls 0
  | present {before after : List (List Char)} {line text : List Char} {n : UInt16} :
      (∀ line ∈ before, ∀ text, ¬Keyed key line text) → Keyed key line text → Worth text n →
      FirstValue key (before ++ line :: after) n

theorem worth_getD (text : List Char) : Worth text ((word16? (trim text)).getD 0) := by
  cases hword : word16? (trim text) with
  | some n => exact .number (trims_iff.mpr rfl) (word16?_iff.mp hword)
  | none =>
    refine .other fun body hbody n hn => ?_
    rw [trims_iff.mp hbody, word16?_iff.mpr hn] at hword
    cases hword

/-- A key that does not begin with a blank. -/
def IsKey (key : String) : Prop := ∃ c rest, key.toList = c :: rest ∧ isBlank c = false

theorem valueOn?_eq_some_iff (visible : IsKey key) {n : UInt16} :
    valueOn? key.toList line = some n ↔
      ∃ text, Keyed key line text ∧ (word16? (trim text)).getD 0 = n := by
  obtain ⟨c, rest, hkey, hc⟩ := visible
  simp only [valueOn?, Option.map_eq_some_iff, hkey, Keyed, List.cons_append,
    after?_trimStart_iff hc, List.append_assoc, List.nil_append]

theorem valueOn?_eq_none_iff (visible : IsKey key) :
    valueOn? key.toList line = none ↔ ∀ text, ¬Keyed key line text := by
  rw [Option.eq_none_iff_forall_ne_some]
  simp only [ne_eq, valueOn?_eq_some_iff visible, not_exists, not_and]
  exact ⟨fun h text hkeyed => h _ text hkeyed rfl, fun h _ text hkeyed => absurd hkeyed (h text)⟩

theorem foreignTo_iff {keys : List String} (visible : ∀ key ∈ keys, IsKey key) :
    ForeignTo keys line ↔ ∀ key ∈ keys, valueOn? key.toList line = none :=
  forall₂_congr fun key hkey => (valueOn?_eq_none_iff (visible key hkey)).symm

/-- The first value is found. -/
theorem firstValue_valueOf (visible : IsKey key) (ls : List (List Char)) :
    FirstValue key ls (valueOf key ls) := by
  rw [valueOf]
  cases hfound : ls.findSome? (valueOn? key.toList) with
  | none =>
    exact .absent fun line hline => (valueOn?_eq_none_iff visible).mp
      (List.findSome?_eq_none_iff.mp hfound line hline)
  | some n =>
    obtain ⟨before, line, after, rfl, hn, hbefore⟩ := List.findSome?_eq_some_iff.mp hfound
    obtain ⟨text, hkeyed, rfl⟩ := (valueOn?_eq_some_iff visible).mp hn
    exact .present (fun line hline => (valueOn?_eq_none_iff visible).mp (hbefore line hline)) hkeyed
      (worth_getD text)

/-- Lines without any of some keys do not change the value of one of these. -/
theorem SameUpTo.valueOf_eq {keys : List String} (mem : key ∈ keys) (visible : IsKey key)
    (same : SameUpTo (ForeignTo keys) ls ls') : valueOf key ls = valueOf key ls' := by
  rw [valueOf, valueOf, same.findSome?_eq fun line hline =>
    (valueOn?_eq_none_iff visible).mpr (hline key mem)]

/-! ## Ring sizes -/

/-- What stands in front of the ring sizes in force. -/
def ringHeading : List Char := "Current hardware settings:".toList

theorem afterFirst?_eq_none {needle : List Char} (missing : ¬needle <:+: cs) :
    afterFirst? needle cs = none := by
  have hstart {cs : List Char} (missing : ¬needle <:+: cs) : after? needle cs = none := by
    refine Option.eq_none_iff_forall_ne_some.mpr fun rest h => missing ?_
    exact after?_iff.mp h ▸ (List.prefix_append needle rest).isInfix
  induction cs with
  | nil => exact hstart missing
  | cons c cs ih =>
    rw [afterFirst?, hstart missing]
    exact ih fun h => missing (List.infix_cons h)

theorem afterFirst?_of_after? {needle : List Char} (here : after? needle cs = some rest) :
    afterFirst? needle cs = some rest := by
  cases cs with
  | nil => exact here
  | cons c cs => rw [afterFirst?, here]

/-- A text whose last character occurs in it only once does not overlap with itself: where it is
found before the place where it was put, it lies in what comes before that place. -/
theorem prefix_of_overlap {body front later : List Char} {stop : Char} (once : stop ∉ body)
    (apart : front ≠ [])
    (found : front ++ (body ++ stop :: rest) = body ++ stop :: later) :
    body ++ [stop] <+: front := by
  rcases List.append_eq_append_iff.mp found with ⟨tail, hbody, htail⟩ | ⟨tail, hfront, htail⟩
  · -- the two places overlap, so the last character of the second one lies in the first
    rcases List.append_eq_append_iff.mp htail with ⟨more, hmore, -⟩ | ⟨more, hmore, hlast⟩
    · have hlength := congrArg List.length hbody
      rw [hmore, List.length_append, List.length_append] at hlength
      exact absurd (List.eq_nil_of_length_eq_zero (by omega)) apart
    · cases more with
      | nil =>
        have hlength := congrArg List.length hbody
        rw [hmore, List.append_nil, List.length_append] at hlength
        exact absurd (List.eq_nil_of_length_eq_zero (by omega)) apart
      | cons c more =>
        obtain rfl : stop = c := (List.cons.inj hlast).1
        exact absurd (hmore ▸ List.mem_append_right _ List.mem_cons_self) once
  · cases tail with
    | nil =>
      cases body with
      | nil => exact absurd hfront apart
      | cons c body =>
        obtain rfl : stop = c := (List.cons.inj htail).1
        exact absurd List.mem_cons_self once
    | cons c tail =>
      obtain rfl : stop = c := (List.cons.inj htail).1
      exact ⟨tail, by rw [hfront, List.append_assoc, List.singleton_append]⟩

/-- Behind anything that does not hold it, such a text is found first where it was put. -/
theorem afterFirst?_append {body before : List Char} {stop : Char} (once : stop ∉ body)
    (missing : ¬body ++ [stop] <:+: before) (rest : List Char) :
    afterFirst? (body ++ [stop]) (before ++ (body ++ [stop] ++ rest)) = some rest := by
  induction before with
  | nil => exact afterFirst?_of_after? (after?_iff.mpr rfl)
  | cons c before ih =>
    have hnone : after? (body ++ [stop]) (c :: before ++ (body ++ [stop] ++ rest)) = none := by
      refine Option.eq_none_iff_forall_ne_some.mpr fun later h => missing ?_
      have hfound := after?_iff.mp h
      rw [List.append_assoc body, List.append_assoc body] at hfound
      exact (prefix_of_overlap once (List.cons_ne_nil c before) hfound).isInfix
    rw [List.cons_append, afterFirst?, ← List.cons_append, hnone]
    exact ih fun h => missing (List.infix_cons h)

theorem ringSizes_eq (output : List Char) : ringSizes output =
    (valueOf "RX" (lines ((afterFirst? ringHeading output).getD [])),
      valueOf "TX" (lines ((afterFirst? ringHeading output).getD []))) := rfl

/-- The ring sizes are those behind the heading, whatever comes before it. -/
theorem ringSizes_append {before : List Char} (missing : ¬ringHeading <:+: before)
    (rest : List Char) :
    ringSizes (before ++ (ringHeading ++ rest)) =
      (valueOf "RX" (lines rest), valueOf "TX" (lines rest)) := by
  have hheading : ringHeading = "Current hardware settings".toList ++ [':'] := by decide
  have hafter : afterFirst? ringHeading (before ++ (ringHeading ++ rest)) = some rest := by
    rw [hheading] at missing ⊢
    exact afterFirst?_append (by decide) missing rest
  rw [ringSizes_eq, hafter, Option.getD_some]

/-- Without the heading there are no ring sizes. -/
theorem ringSizes_missing (missing : ¬ringHeading <:+: cs) : ringSizes cs = (0, 0) := by
  rw [ringSizes_eq, afterFirst?_eq_none missing]
  rfl

/-! ## Offloads -/

/-- A line is about a feature: it begins with its name, a colon stands right after it, and then
comes its state. -/
def About (feature : String) (line state : List Char) : Prop := line = feature.toList ++ ':' :: state

/-- A state that begins with the word for being on, blanks apart. -/
def IsOn (state : List Char) : Prop := ∃ front rest, Blank front ∧ state = front ++ 'o' :: 'n' :: rest

theorem after?_colon_iff {feature : String} :
    after? (feature.toList ++ [':']) line = some rest ↔ About feature line rest := by
  rw [after?_iff, List.append_assoc]
  rfl

theorem saysOn_iff {feature : String} :
    saysOn feature.toList line = true ↔ ∃ state, About feature line state ∧ IsOn state := by
  have hstate (state : List Char) : (after? ['o', 'n'] (trimStart state)).isSome ↔ IsOn state := by
    have hvisible : isBlank 'o' = false := by decide
    simp only [Option.isSome_iff_exists, after?_trimStart_iff hvisible, IsOn]
    exact exists_comm
  unfold saysOn
  split
  next state h =>
    rw [hstate]
    refine ⟨fun hon => ⟨state, after?_colon_iff.mp h, hon⟩, ?_⟩
    rintro ⟨state', hline, hon⟩
    obtain rfl := Option.some.inj (h.symm.trans (after?_colon_iff.mpr hline))
    exact hon
  next h =>
    refine iff_of_false (by decide) ?_
    rintro ⟨state, hline, -⟩
    rw [after?_colon_iff.mpr hline] at h
    cases h

/-- A line is about none of some features. -/
def AboutNone (features : List String) (line : List Char) : Prop :=
  ∀ feature ∈ features, ∀ state, ¬About feature line state

theorem aboutNone_iff {features : List String} :
    AboutNone features line ↔
      ∀ feature ∈ features, after? (feature.toList ++ [':']) line = none := by
  simp only [AboutNone, ← after?_colon_iff, Option.eq_none_iff_forall_ne_some, ne_eq]

/-- Lines about none of some features do not change whether one of these is on. -/
theorem SameUpTo.saysOn_eq {features : List String} {feature : String} (mem : feature ∈ features)
    (same : SameUpTo (AboutNone features) ls ls') :
    ls.any (saysOn feature.toList) = ls'.any (saysOn feature.toList) := by
  refine same.any_eq fun line hline => ?_
  rw [Bool.eq_false_iff, ne_eq, saysOn_iff]
  rintro ⟨state, habout, -⟩
  exact hline feature mem state habout

/-! ## Tables of keys -/

/-- The keys of the coalescing, each with its place. -/
def Coalescing.keys : List (String × (Coalescing → UInt16)) := [
  ("rx-usecs", rxUsecs), ("rx-frames", rxFrames), ("tx-usecs", txUsecs), ("tx-frames", txFrames)]

/-- The keys of the ring sizes, each with its place. -/
def ringKeys : List (String × (UInt16 × UInt16 → UInt16)) := [("RX", Prod.fst), ("TX", Prod.snd)]

/-- The features that the card tells of, each with its switch. -/
def Offloads.told : List (String × (Offloads → Bool)) := [
  ("rx-checksumming", rxChecksum), ("tx-checksumming", txChecksum),
  ("generic-segmentation-offload", genericSegmentation),
  ("tcp-segmentation-offload", tcpSegmentation), ("generic-receive-offload", genericReceive),
  ("large-receive-offload", largeReceive), ("rx-vlan-offload", rxVlan),
  ("tx-vlan-offload", txVlan), ("receive-hashing", rxHash)]

namespace Coalescing

theorem isKey_keys : ∀ k ∈ keys, IsKey k.1 := by
  simp only [keys, List.forall_mem_cons]
  exact ⟨⟨'r', _, rfl, by decide⟩, ⟨'r', _, rfl, by decide⟩, ⟨'t', _, rfl, by decide⟩,
    ⟨'t', _, rfl, by decide⟩, by simp⟩

theorem ofText_keys (output : List Char) :
    ∀ k ∈ keys, k.2 (ofText output) = valueOf k.1 (lines output) := by
  simp only [keys, List.forall_mem_cons]
  exact ⟨rfl, rfl, rfl, rfl, by simp⟩

theorem ext_keys {c d : Coalescing} (same : ∀ k ∈ keys, k.2 c = k.2 d) : c = d := by
  simp only [keys, List.forall_mem_cons] at same
  cases c
  cases d
  simp_all

end Coalescing

theorem isKey_ringKeys : ∀ k ∈ ringKeys, IsKey k.1 := by
  simp only [ringKeys, List.forall_mem_cons]
  exact ⟨⟨'R', _, rfl, by decide⟩, ⟨'T', _, rfl, by decide⟩, by simp⟩

theorem ringSizes_keys {before : List Char} (missing : ¬ringHeading <:+: before)
    (rest : List Char) :
    ∀ k ∈ ringKeys, k.2 (ringSizes (before ++ (ringHeading ++ rest))) = valueOf k.1 (lines rest) := by
  simp [ringKeys, ringSizes_append missing]

namespace Offloads

theorem ofText_told (output : List Char) :
    ∀ f ∈ told, f.2 (ofText output) = (lines output).any (saysOn f.1.toList) := by
  simp only [told, List.forall_mem_cons]
  exact ⟨rfl, rfl, rfl, rfl, rfl, rfl, rfl, rfl, rfl, by simp⟩

theorem ext_told {o o' : Offloads} (same : ∀ f ∈ told, f.2 o = f.2 o') : o = o' := by
  simp only [told, List.forall_mem_cons] at same
  cases o
  cases o'
  simp_all

end Offloads

/-! ## The card -/

/-- **The settings of the card are found by their keys alone.** Let a text have some lines and
another text have some others. Of the coalescing, each value is that of the first line with its key,
and both texts have the same if their lines are the same up to lines with none of the four keys. The
ring sizes are found in the same way behind the first place of the heading, whatever comes before
it, and are zero where there is no heading. A feature is on exactly if some line about it has a
state that begins with the word for being on, and lines about none of the nine features change
nothing. -/
theorem card_read_by_keys {output other : List Char} {ls ls' : List (List Char)}
    (lined : Lined ls output) (lined' : Lined ls' other) :
    ((∀ k ∈ Coalescing.keys, FirstValue k.1 ls (k.2 (Coalescing.ofText output))) ∧
        (SameUpTo (ForeignTo (Coalescing.keys.map Prod.fst)) ls ls' →
          Coalescing.ofText output = Coalescing.ofText other)) ∧
      ((¬ringHeading <:+: output → ringSizes output = (0, 0)) ∧
        ∀ before, ¬ringHeading <:+: before →
          (∀ k ∈ ringKeys, FirstValue k.1 ls (k.2 (ringSizes (before ++ (ringHeading ++ output))))) ∧
            ∀ before', ¬ringHeading <:+: before' →
              SameUpTo (ForeignTo (ringKeys.map Prod.fst)) ls ls' →
              ringSizes (before ++ (ringHeading ++ output)) =
                ringSizes (before' ++ (ringHeading ++ other))) ∧
      (∀ f ∈ Offloads.told, f.2 (Offloads.ofText output) = true ↔
          ∃ line ∈ ls, ∃ state, About f.1 line state ∧ IsOn state) ∧
        (SameUpTo (AboutNone (Offloads.told.map Prod.fst)) ls ls' →
          Offloads.ofText output = Offloads.ofText other) := by
  obtain rfl := lined.lines_eq
  obtain rfl := lined'.lines_eq
  refine ⟨⟨?_, ?_⟩, ⟨ringSizes_missing, fun before hbefore => ⟨?_, ?_⟩⟩, ?_, ?_⟩
  · intro k hk
    rw [Coalescing.ofText_keys output k hk]
    exact firstValue_valueOf (Coalescing.isKey_keys k hk) _
  · intro same
    refine Coalescing.ext_keys fun k hk => ?_
    rw [Coalescing.ofText_keys output k hk, Coalescing.ofText_keys other k hk]
    exact same.valueOf_eq (List.mem_map_of_mem hk) (Coalescing.isKey_keys k hk)
  · intro k hk
    rw [ringSizes_keys hbefore output k hk]
    exact firstValue_valueOf (isKey_ringKeys k hk) _
  · intro before' hbefore' same
    have hsame : ∀ k ∈ ringKeys, valueOf k.1 (lines output) = valueOf k.1 (lines other) :=
      fun k hk => same.valueOf_eq (List.mem_map_of_mem hk) (isKey_ringKeys k hk)
    simp only [ringKeys, List.forall_mem_cons] at hsame
    rw [ringSizes_append hbefore, ringSizes_append hbefore', hsame.1, hsame.2.1]
  · intro f hf
    rw [Offloads.ofText_told output f hf, List.any_eq_true]
    exact exists_congr fun line => and_congr_right fun _ => saysOn_iff
  · intro same
    refine Offloads.ext_told fun f hf => ?_
    rw [Offloads.ofText_told output f hf, Offloads.ofText_told other f hf]
    exact same.saysOn_eq (List.mem_map_of_mem hf)

/-- What a card tells, all sections in one. -/
def cardLines : List (List Char) :=
  ["RX:\t512", "RX Mini:\tn/a", " rx-usecs: 3", "rx-checksumming: on [fixed]"].map String.toList

/-- The same with other lines around. -/
def longCardLines : List (List Char) :=
  ["TX Push: on", "RX:\t512", "rx-usecs-irq: 9", " rx-usecs: 3", "\trx-checksumming: off",
    "rx-checksumming: on [fixed]"].map String.toList

/-- The lines that are in one of them only. -/
def otherLines : List (List Char) :=
  ["RX Mini:\tn/a", "TX Push: on", "rx-usecs-irq: 9", "\trx-checksumming: off"].map String.toList

theorem sameUpTo_cardLines {foreign : List Char → Prop}
    (others : ∀ line ∈ otherLines, foreign line) : SameUpTo foreign cardLines longCardLines := by
  simp only [otherLines, List.map_cons, List.map_nil, List.forall_mem_cons] at others
  obtain ⟨hmini, hpush, hirq, hindented, -⟩ := others
  exact .right hpush (.both _ (.left hmini (.right hirq (.both _ (.right hindented
    (.both _ .nil))))))

theorem cardLines_read :
    let output := ['\n'].intercalate cardLines
    let other := ['\r', '\n'].intercalate longCardLines
    Coalescing.ofText output = Coalescing.ofText other ∧
      ringSizes ("RX:\t4096\n".toList ++ (ringHeading ++ output)) =
        ringSizes ("Current hardware settings\n".toList ++ (ringHeading ++ other)) ∧
      Offloads.ofText output = Offloads.ofText other := by
  intro output other
  have hlined : Lined cardLines output := lined_iff.mpr (by decide +kernel)
  have hlined' : Lined longCardLines other := lined_iff.mpr (by decide +kernel)
  have hcoalescingKeys : ∀ key ∈ Coalescing.keys.map Prod.fst, IsKey key :=
    List.forall_mem_map.mpr Coalescing.isKey_keys
  have hringKeys : ∀ key ∈ ringKeys.map Prod.fst, IsKey key := List.forall_mem_map.mpr isKey_ringKeys
  obtain ⟨⟨-, hcoalescing⟩, ⟨-, hrings⟩, -, hoffloads⟩ := card_read_by_keys hlined hlined'
  refine ⟨hcoalescing (sameUpTo_cardLines ?_), (hrings _ ?_).2 _ ?_ (sameUpTo_cardLines ?_),
    hoffloads (sameUpTo_cardLines ?_)⟩
  · simp only [foreignTo_iff hcoalescingKeys]
    decide +kernel
  · decide +kernel
  · decide +kernel
  · simp only [foreignTo_iff hringKeys]
    decide +kernel
  · simp only [aboutNone_iff]
    decide +kernel

end NetworkTuning
