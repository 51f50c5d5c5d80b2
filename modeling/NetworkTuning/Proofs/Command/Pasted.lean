import NetworkTuning.Proofs.Command.Carried
import NetworkTuning.Proofs.Command.Reapplied

/-!
# Commands that are typed as they are shown

A shell takes a line apart at its blanks, but for those between two single quotes, and takes the
quotes away (`Blanks.split?`). Which characters are blanks is left to the shell, as long as the
space is one of them and all of them are blank (`Blanks`).

**One argument** (`read_shown`): one that holds neither a quote nor a blank is shown as it is; of an
assignment to a plain key the value is quoted if it has a space in it. Either way the shell reads
one word. **All arguments** of a command are read one after the other in this way
(`read_arguments`), so a command whose words are all of this kind is taken apart into its program
and its arguments (`Legible.split?_text`). The commands of a profile have no other words, whatever
its values are.
-/

namespace NetworkTuning

/-! ## How arguments are shown -/

theorem splitEquals?_eq_some {cs key value : List Char}
    (split : splitEquals? cs = some (key, value)) : cs = key ++ '=' :: value := by
  induction cs generalizing key with
  | nil => cases split
  | cons c rest ih =>
    rw [splitEquals?] at split
    split at split
    next h =>
      obtain ⟨rfl, rfl⟩ := Prod.mk.inj (Option.some.inj split)
      rw [h]
      rfl
    next =>
      obtain ⟨⟨key', value'⟩, hsplit, hpair⟩ := Option.map_eq_some_iff.mp split
      obtain ⟨rfl, rfl⟩ := Prod.mk.inj hpair
      rw [ih hsplit]
      rfl

/-- Without a space in it an argument is shown as it is. -/
theorem showArgument_plain {argument : String} (unspaced : ' ' ∉ argument.toList) :
    showArgument argument = argument.toList := by
  unfold showArgument
  split
  next key value hsplit =>
    refine if_neg fun hspace => unspaced ?_
    rw [splitEquals?_eq_some hsplit]
    exact List.mem_append_right _ (List.mem_cons_of_mem _ (List.contains_iff_mem.mp hspace))
  next => rfl

/-- A value with a space in it is shown between quotes. -/
theorem showArgument_assigned {argument : String} {key value : List Char}
    (assigned : argument.toList = key ++ '=' :: value) (unequal : '=' ∉ key) (space : ' ' ∈ value) :
    showArgument argument = key ++ ('=' :: '\'' :: (value ++ ['\''])) := by
  rw [showArgument, assigned, splitEquals?_append unequal]
  exact if_pos (List.contains_iff_mem.mpr space)

/-! ## Lines -/

/-- The characters that a shell takes for blanks. -/
structure Blanks where
  isBlank : Char → Bool
  space : isBlank ' ' = true
  blank : ∀ c, isBlank c = true → Text.isBlank c = true

namespace Blanks

/-- The space, the tab and the line feed. -/
def usual : Blanks where
  isBlank c := c = ' ' ∨ c = '\t' ∨ c = '\n'
  space := rfl
  blank c hc := by
    rcases of_decide_eq_true hc with rfl | rfl | rfl <;> rfl

/-- The words of a line from a place on where a quote may be open and a word may have begun. A line
in which a quote stays open has none. -/
def read (blanks : Blanks) (quoted : Bool) (word : Option (List Char)) :
    List Char → Option (List (List Char))
  | [] => if quoted then none else some word.toList
  | c :: rest =>
    if c = '\'' then blanks.read (!quoted) (some (word.getD [])) rest
    else if !quoted && blanks.isBlank c then (blanks.read false none rest).map (word.toList ++ ·)
    else blanks.read quoted (some (word.getD [] ++ [c])) rest

/-- The words of a line: blanks separate them, except between quotes, which are taken away. -/
def split? (blanks : Blanks) (line : String) : Option (List String) :=
  (blanks.read false none line.toList).map (List.map String.ofList)

example : usual.split? "a  b='1 2' ''" = some ["a", "b=1 2", ""] := by decide +kernel

variable {blanks : Blanks} {cs rest word : List Char}

/-! ## Words -/

/-- A text of neither quotes nor blanks. -/
def Plain (blanks : Blanks) (cs : List Char) : Prop :=
  ∀ c ∈ cs, c ≠ '\'' ∧ blanks.isBlank c = false

theorem plain_of_solid (solid : Text.Solid cs) (unquoted : '\'' ∉ cs) : blanks.Plain cs := by
  refine fun c hc => ⟨fun h => unquoted (h ▸ hc), ?_⟩
  cases hblank : blanks.isBlank c with
  | false => rfl
  | true => exact absurd (solid c hc) (by rw [blanks.blank c hblank]; decide)

/-- A space ends a word. -/
theorem read_space (word : Option (List Char)) (rest : List Char) :
    blanks.read false word (' ' :: rest) = (blanks.read false none rest).map (word.toList ++ ·) := by
  rw [read, if_neg (by decide), blanks.space]
  rfl

/-- What is plain goes on with a word. -/
theorem read_plain (plain : blanks.Plain cs) (word rest : List Char) :
    blanks.read false (some word) (cs ++ rest) = blanks.read false (some (word ++ cs)) rest := by
  induction cs generalizing word with
  | nil => rw [List.nil_append, List.append_nil]
  | cons c cs ih =>
    obtain ⟨⟨hquote, hblank⟩, hcs⟩ := List.forall_mem_cons.mp plain
    rw [List.cons_append, read, if_neg hquote, hblank, List.append_cons word c cs]
    exact ih hcs _

/-- What is plain begins a word. -/
theorem read_begins (some : cs ≠ []) (plain : blanks.Plain cs) (rest : List Char) :
    blanks.read false none (cs ++ rest) = blanks.read false (.some cs) rest := by
  obtain ⟨c, cs, rfl⟩ := List.exists_cons_of_ne_nil some
  obtain ⟨⟨hquote, hblank⟩, hcs⟩ := List.forall_mem_cons.mp plain
  rw [List.cons_append, read, if_neg hquote, hblank]
  exact read_plain hcs [c] rest

/-- What stands between quotes goes on with a word, blanks and all. -/
theorem read_quoted (free : '\'' ∉ cs) (word rest : List Char) :
    blanks.read false (some word) ('\'' :: (cs ++ '\'' :: rest)) =
      blanks.read false (some (word ++ cs)) rest := by
  have hinside (word : List Char) : blanks.read true (some word) (cs ++ '\'' :: rest) =
      blanks.read false (some (word ++ cs)) rest := by
    induction cs generalizing word with
    | nil => rw [List.nil_append, List.append_nil, read, if_pos rfl]; rfl
    | cons c cs ih =>
      obtain ⟨hquote, hcs⟩ := not_or.mp fun h => free (List.mem_cons.mpr h)
      rw [List.cons_append, read, if_neg (Ne.symm hquote), List.append_cons word c cs]
      exact ih hcs _
  rw [read, if_pos rfl]
  exact hinside word

/-! ## Arguments -/

/-- An argument that is one word as it is shown: a plain one, or an assignment to a plain key of a
value with spaces in it. -/
inductive Pasteable (blanks : Blanks) : List Char → Prop
  | plain {cs : List Char} : cs ≠ [] → blanks.Plain cs → Pasteable blanks cs
  | assigned {key value : List Char} : key ≠ [] → '=' ∉ key → blanks.Plain key → ' ' ∈ value →
      '\'' ∉ value → Pasteable blanks (key ++ '=' :: value)

/-- **One argument** is read as one word. -/
theorem read_shown {argument : String} (pasteable : blanks.Pasteable argument.toList)
    (rest : List Char) : blanks.read false none (showArgument argument ++ rest) =
      blanks.read false (some argument.toList) rest := by
  generalize hargument : argument.toList = cs at pasteable
  cases pasteable with
  | plain some plain =>
    have hspace : ' ' ∉ argument.toList := fun h =>
      absurd (plain ' ' (hargument ▸ h)).2 (by rw [blanks.space]; decide)
    rw [showArgument_plain hspace, hargument]
    exact read_begins some plain rest
  | @assigned key value some unequal plain space unquoted =>
    have hequals : blanks.Plain ['='] := plain_of_solid (by decide) (by decide)
    have happend : key ++ ('=' :: '\'' :: (value ++ ['\''])) ++ rest =
        key ++ (['='] ++ '\'' :: (value ++ '\'' :: rest)) := by simp
    rw [showArgument_assigned hargument unequal space, happend, read_begins some plain,
      read_plain hequals, read_quoted unquoted]
    congr 2
    simp

/-- **All arguments** of a command are read as they are, after what comes before them. -/
theorem read_arguments {arguments : List String}
    (pasteable : ∀ a ∈ arguments, blanks.Pasteable a.toList) (word : List Char) :
    blanks.read false (some word) (arguments.flatMap fun a => ' ' :: showArgument a) =
      some (word :: arguments.map String.toList) := by
  induction arguments generalizing word with
  | nil => rfl
  | cons a rest ih =>
    obtain ⟨ha, hrest⟩ := List.forall_mem_cons.mp pasteable
    rw [List.flatMap_cons, List.cons_append, read_space, read_shown ha, ih hrest]
    rfl

/-- A command all of whose words are words as they are shown. -/
structure Legible (blanks : Blanks) (c : Command) : Prop where
  named : c.program ≠ ""
  program : blanks.Plain c.program.toList
  arguments : ∀ a ∈ c.arguments, blanks.Pasteable a.toList

/-- A legible command is taken apart into its program and its arguments. -/
theorem Legible.split?_text {c : Command} (legible : blanks.Legible c) :
    blanks.split? c.text = some (c.program :: c.arguments) := by
  have hsome : c.program.toList ≠ [] := by simpa using legible.named
  rw [split?, Command.text, String.toList_ofList, read_begins hsome legible.program,
    read_arguments legible.arguments]
  simp [Function.comp_def]

/-! ## Commands of a profile -/

/-- A fixed word is a word as it is shown. -/
theorem pasteable_word {text : String} (some : text.toList ≠ []) (solid : Text.Solid text.toList)
    (unquoted : '\'' ∉ text.toList) : blanks.Pasteable text.toList :=
  .plain some (plain_of_solid solid unquoted)

theorem plain_of_numeric (numeric : Decimal.Numeric cs) : blanks.Plain cs := by
  refine plain_of_solid numeric.solid fun hquote => ?_
  rcases numeric '\'' hquote with h | h <;> revert h <;> decide

/-- The text of a number is a word as it is shown. -/
theorem pasteable_digits (n : Nat) :
    blanks.Pasteable (String.ofList (Decimal.digits n)).toList := by
  rw [String.toList_ofList]
  exact .plain (Decimal.digits_ne_nil n) (plain_of_numeric (Decimal.digits_digital n).numeric)

/-- The keys of the settings are plain texts without an equals sign. -/
theorem plain_keys : ∀ s ∈ coreSettings ++ transportSettings,
    s.key.toList ≠ [] ∧ '=' ∉ s.key.toList ∧ Text.Solid s.key.toList ∧ '\'' ∉ s.key.toList := by
  decide

theorem pasteable_assignment {s : KernelSetting} (mem : s ∈ coreSettings ++ transportSettings)
    (p : Profile) : blanks.Pasteable (s.assignment p).toList := by
  obtain ⟨hsome, hequals, hsolid, hquote⟩ := plain_keys s mem
  have hkey : blanks.Plain s.key.toList := plain_of_solid hsolid hquote
  have hvalue : ∀ c ∈ (" ".intercalate (s.columns.map fun c => c.render p)).toList,
      c ≠ '\'' ∧ (c = ' ' ∨ blanks.isBlank c = false) := by
    rw [String.toList_intercalate]
    refine Text.forall_mem_intercalate ⟨by decide, .inl rfl⟩ fun piece hpiece c hc => ?_
    simp only [List.map_map, List.mem_map, Function.comp_apply] at hpiece
    obtain ⟨column, -, rfl⟩ := hpiece
    have hplain : blanks.Plain (column.render p).toList :=
      plain_of_numeric (Width.render_numeric _ (column.get p))
    exact ⟨(hplain c hc).1, .inr (hplain c hc).2⟩
  have hassignment : (s.assignment p).toList = s.key.toList ++
      '=' :: (" ".intercalate (s.columns.map fun c => c.render p)).toList := by
    simp only [KernelSetting.assignment, String.toList_append, List.append_assoc]
    rfl
  rw [hassignment]
  generalize (" ".intercalate (s.columns.map fun c => c.render p)).toList = value at hvalue
  -- only several numbers have spaces between them
  by_cases hspace : ' ' ∈ value
  · exact .assigned hsome hequals hkey hspace fun h => (hvalue _ h).1 rfl
  · have hequal : blanks.Plain ['='] := plain_of_solid (by decide) (by decide)
    have hplain : blanks.Plain value := fun c hc =>
      ⟨(hvalue c hc).1, (hvalue c hc).2.resolve_left fun h => hspace (h ▸ hc)⟩
    refine .plain (by simp) (List.forall_mem_append.mpr ⟨hkey, ?_⟩)
    exact List.forall_mem_cons.mpr ⟨hequal '=' List.mem_cons_self, hplain⟩

theorem legible_setKernel {settings : List KernelSetting}
    (mem : ∀ s ∈ settings, s ∈ coreSettings ++ transportSettings) (p : Profile) :
    blanks.Legible (setKernel settings p) where
  named := (by decide : "sysctl" ≠ "")
  program := (plain_of_solid (by decide) (by decide) : blanks.Plain "sysctl".toList)
  arguments := by
    refine List.forall_mem_cons.mpr ⟨pasteable_word (by decide) (by decide) (by decide), ?_⟩
    intro a ha
    obtain ⟨s, hs, rfl⟩ := List.mem_map.mp ha
    exact pasteable_assignment (mem s hs) p

theorem legible_setRings {interface : String} (shown : blanks.Pasteable interface.toList)
    (p : Profile) : blanks.Legible (setRings interface p) where
  named := (by decide : "ethtool" ≠ "")
  program := (plain_of_solid (by decide) (by decide) : blanks.Plain "ethtool".toList)
  arguments := by
    have hoption : blanks.Pasteable "-G".toList :=
      pasteable_word (by decide) (by decide) (by decide)
    have hrx : blanks.Pasteable "rx".toList := pasteable_word (by decide) (by decide) (by decide)
    have htx : blanks.Pasteable "tx".toList := pasteable_word (by decide) (by decide) (by decide)
    simp only [setRings, List.forall_mem_cons]
    exact ⟨hoption, shown, hrx, pasteable_digits _, htx, pasteable_digits _, by simp⟩

theorem legible_setOffloads {interface : String} (shown : blanks.Pasteable interface.toList)
    (p : Profile) : blanks.Legible (setOffloads interface p) where
  named := (by decide : "ethtool" ≠ "")
  program := (plain_of_solid (by decide) (by decide) : blanks.Plain "ethtool".toList)
  arguments := by
    have hfeatures : ∀ f ∈ p.offloads.features, f.1.toList ≠ [] ∧ Text.Solid f.1.toList ∧
        '\'' ∉ f.1.toList := by
      simp only [Offloads.features, List.forall_mem_cons]
      decide
    have hoption : blanks.Pasteable "-K".toList :=
      pasteable_word (by decide) (by decide) (by decide)
    have hstate (on : Bool) : blanks.Pasteable (if on then "on" else "off").toList := by
      cases on <;> exact pasteable_word (by decide) (by decide) (by decide)
    simp only [setOffloads, List.forall_mem_cons, List.forall_mem_flatMap]
    refine ⟨hoption, shown, fun f hf => ?_⟩
    obtain ⟨hsome, hsolid, hquote⟩ := hfeatures f hf
    exact ⟨pasteable_word hsome hsolid hquote, hstate f.2, by simp⟩

end Blanks

/-- **A command can be typed as it is shown.** Whatever a shell takes for blanks, and whatever the
interface is called as long as its name is not empty and has neither a blank nor a quote in it, the
words that the shell finds in the text of a command of a profile are its program and its arguments.
-/
theorem commands_typed_as_shown (blanks : Blanks) {interface : String} (named : interface ≠ "")
    (plain : ∀ c ∈ interface.toList, c ≠ '\'' ∧ blanks.isBlank c = false) (p : Profile) :
    ∀ c ∈ p.commands interface, blanks.split? c.text = some (c.program :: c.arguments) := by
  have hshown : blanks.Pasteable interface.toList := .plain (by simpa using named) plain
  have hcore : ∀ s ∈ coreSettings, s ∈ coreSettings ++ transportSettings :=
    fun _ => List.mem_append_left _
  have htransport : ∀ s ∈ transportSettings, s ∈ coreSettings ++ transportSettings :=
    fun _ => List.mem_append_right _
  have hlegible : ∀ c ∈ p.commands interface, blanks.Legible c := by
    simp only [Profile.commands, List.forall_mem_cons]
    exact ⟨Blanks.legible_setKernel hcore p, Blanks.legible_setKernel htransport p,
      Blanks.legible_setRings hshown p, Blanks.legible_setOffloads hshown p, by simp⟩
  exact fun c hc => (hlegible c hc).split?_text

/-- Buffers of three sizes on an interface whose name has an equals sign in it. -/
theorem buffers_typed_as_shown :
    let p : Profile := { tcpRmem := ⟨4096, 131072, 6291456⟩, offloads := { rxHash := true } }
    Blanks.usual.split? (setKernel transportSettings p).text =
        some ("sysctl" :: (setKernel transportSettings p).arguments) ∧
      Blanks.usual.split? (setOffloads "wan=0" p).text =
        some ("ethtool" :: (setOffloads "wan=0" p).arguments) := by
  have hplain : Blanks.usual.Plain "wan=0".toList :=
    Blanks.plain_of_solid (by decide) (by decide)
  intro p
  exact ⟨commands_typed_as_shown .usual (by decide) hplain p _ (by simp [Profile.commands]),
    commands_typed_as_shown .usual (by decide) hplain p _ (by simp [Profile.commands])⟩

end NetworkTuning
