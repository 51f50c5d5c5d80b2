import Mathlib.Data.List.Basic
import Mathlib.Data.List.Forall2
import Mathlib.Data.List.Induction
import Mathlib.Data.List.Nodup
import NetworkTuning.Command.System
import NetworkTuning.Proofs.Profile.Columns
import NetworkTuning.Proofs.Decimal.Digits
import NetworkTuning.Proofs.Text.Words

/-!
# Settings that are applied as they are

A profile that was read from the settings in force, when it is put in place, gives every setting the
numbers that its file holds. The reader and the commands list the settings each in an order of its
own, and the lists agree (`systemSettings_perm`). A setting's file is read into the columns that its
command is written from (`assignment_readInto`), no other setting is read into these columns
(`assignment_apart`), and so the whole reading keeps what each setting assigns
(`assignment_settingsInForce`).

What a command assigns is read from its arguments again (`kernelAssignments`), as the tool that
takes them does: the text before the first equals sign is the key. `settings_reapplied` puts this
together.
-/

namespace NetworkTuning

/-! ## Numbers in files -/

/-- The file of a key holds some numbers, with blanks between and around them. -/
def HoldsNumbers (files : FileTree) (root key : String) (numbers : List Nat) : Prop :=
  ∃ content words, files.readText (keyPath root key) = .ok content ∧
    Text.Spaced words content.toList ∧ List.Forall₂ Decimal.Spells words numbers

/-- Whether a kind of word has room for a number. -/
def Width.HasRoom : Width → Nat → Prop
  | .word64, n => n < UInt64.size
  | .word32, n => n < UInt32.size
  | .word16, n => n < UInt16.size
  | _, _ => False

instance (w : Width) (n : Nat) : Decidable (w.HasRoom n) := by
  cases w <;> unfold Width.HasRoom <;> infer_instance

theorem Width.HasRoom.lt {w : Width} {n : Nat} (room : w.HasRoom n) : n < UInt64.size := by
  cases w with
  | word64 => exact room
  | word32 => exact Nat.lt_trans room (by decide)
  | word16 => exact Nat.lt_trans room (by decide)
  | share | switch => exact room.elim

/-- The text of a number. -/
def numeral (n : Nat) : String := String.ofList (Decimal.digits n)

/-- A number that there is room for is stored as it is. -/
theorem Width.HasRoom.render {w : Width} {n : Nat} (room : w.HasRoom n) :
    w.render (w.saturate n.toUInt64) = numeral n := by
  have hn : n.toUInt64.toNat = n := UInt64.toNat_ofNat_of_lt' room.lt
  cases w with
  | word64 => exact congrArg numeral hn
  | word32 =>
    have hword : (Width.saturate .word32 n.toUInt64).toNat = n := by
      have hroom : n < 4294967296 := room
      dsimp only [Width.saturate]
      split
      next => rw [UInt64.toNat_toUInt32, hn]; omega
      next h =>
        have hlargest : ¬n < 4294967295 := fun hlt =>
          h (UInt64.lt_iff_toNat_lt.mpr (by rw [hn]; exact hlt))
        exact (by omega : 4294967295 = n)
    exact congrArg numeral hword
  | word16 =>
    have hword : (Width.saturate .word16 n.toUInt64).toNat = n := by
      have hroom : n < 65536 := room
      dsimp only [Width.saturate]
      split
      next => rw [UInt64.toNat_toUInt16, hn]; omega
      next h =>
        have hlargest : ¬n < 65535 := fun hlt =>
          h (UInt64.lt_iff_toNat_lt.mpr (by rw [hn]; exact hlt))
        exact (by omega : 65535 = n)
    exact congrArg numeral hword
  | share | switch => exact room.elim

/-- A list of texts is read one by one. -/
theorem mapM_spells {words : List (List Char)} {numbers : List Nat} {path : String}
    (spells : List.Forall₂ Decimal.Spells words numbers)
    (small : ∀ n ∈ numbers, n < UInt64.size) :
    (words.mapM fun word =>
      match Decimal.word64? word with
      | some n => Except.ok n
      | none => Except.error (ReadingError.notANumber path (String.ofList word))) =
      .ok (numbers.map Nat.toUInt64) := by
  induction spells with
  | nil => rfl
  | @cons word n words numbers hword _ ih =>
    have hread : Decimal.word64? word = some n.toUInt64 := by
      rw [Decimal.word64?, hword.natural?_eq (small n List.mem_cons_self), Option.map_some]
    rw [List.mapM_cons, ih fun m hm => small m (List.mem_cons_of_mem _ hm)]
    simp only [hread]
    rfl

/-- The numbers of a file are read. -/
theorem HoldsNumbers.keyValues {files : FileTree} {root key : String} {numbers : List Nat}
    (holds : HoldsNumbers files root key numbers) (small : ∀ n ∈ numbers, n < UInt64.size) :
    keyValues files root key = .ok (numbers.map Nat.toUInt64) := by
  obtain ⟨content, words, hread, hspaced, hspells⟩ := holds
  rw [NetworkTuning.keyValues, hread]
  exact (congrArg (List.mapM _) hspaced.words_eq).trans (mapM_spells hspells small)

/-! ## Columns -/

/-- A profile with some columns set to numbers, each to the nearest that it has room for. -/
def Profile.setNumbers (columns : List Column) (values : List UInt64) (p : Profile) : Profile :=
  (columns.zip values).foldl (fun q e => e.1.set (e.1.width.saturate e.2) q) p

theorem Profile.get_setNumbers {columns : List Column} {d : Column} (other : d ∉ columns)
    (values : List UInt64) (p : Profile) : d.get (p.setNumbers columns values) = d.get p := by
  induction columns generalizing values p with
  | nil => rfl
  | cons c rest ih =>
    obtain ⟨hc, hrest⟩ := not_or.mp fun h => other (List.mem_cons.mpr h)
    cases values with
    | nil => rfl
    | cons v values => exact (ih hrest values _).trans (Column.get_set_ne hc _ p)

/-- Columns that were set to numbers are written as these. -/
theorem Profile.render_setNumbers {columns : List Column} {numbers : List Nat}
    (room : List.Forall₂ (fun c n => c.width.HasRoom n) columns numbers) (distinct : columns.Nodup)
    (p : Profile) :
    columns.map (fun c => c.render (p.setNumbers columns (numbers.map Nat.toUInt64))) =
      numbers.map numeral := by
  induction room generalizing p with
  | nil => rfl
  | @cons c n columns numbers hroom _ ih =>
    obtain ⟨hc, hrest⟩ := List.nodup_cons.mp distinct
    have hfirst : c.render (p.setNumbers (c :: columns) ((n :: numbers).map Nat.toUInt64)) =
        numeral n := by
      rw [Column.render, ← hroom.render]
      refine congrArg _ ?_
      exact (get_setNumbers hc _ _).trans (c.get_set _ p)
    exact congrArg₂ List.cons hfirst (ih hrest _)

/-! ## Settings -/

namespace KernelSetting

variable {files : FileTree} {root : String}

/-- A setting whose file holds as many numbers as it has columns sets its columns to them. -/
theorem readInto_eq {s : KernelSetting} {values : List UInt64}
    (read : keyValues files root s.key = .ok values) (many : s.columns.length = values.length)
    (p : Profile) : readInto files root p s = p.setNumbers s.columns values := by
  unfold readInto
  rw [read]
  dsimp only
  split
  next c v rest hcolumns =>
    rw [hcolumns] at many ⊢
    obtain rfl : rest = [] := List.eq_nil_of_length_eq_zero (Nat.succ.inj many).symm
    rfl
  next => exact if_pos many

/-- A setting is read into its own columns, whatever its file holds. -/
theorem get_readInto {s : KernelSetting} {d : Column} (other : d ∉ s.columns) (p : Profile) :
    d.get (readInto files root p s) = d.get p := by
  unfold readInto
  cases keyValues files root s.key with
  | error => rfl
  | ok values =>
    dsimp only
    split
    next c v rest hcolumns =>
      rw [hcolumns] at other
      exact Column.get_set_ne (List.ne_of_not_mem_cons other) _ p
    next =>
      split
      next => exact Profile.get_setNumbers other _ p
      next => rfl

/-- What is read into other columns does not change what a setting assigns. -/
theorem assignment_apart {s t : KernelSetting} (apart : s.columns.Disjoint t.columns)
    (p : Profile) : s.assignment (readInto files root p t) = s.assignment p := by
  have hsame : (s.columns.map fun c => c.render (readInto files root p t)) =
      s.columns.map fun c => c.render p := by
    refine List.map_congr_left fun c hc => ?_
    rw [Column.render, get_readInto (apart hc), Column.render]
  rw [assignment, hsame, assignment]

/-- A setting's file, read into a profile, is what the setting assigns from it. -/
theorem assignment_readInto {s : KernelSetting} {numbers : List Nat}
    (holds : HoldsNumbers files root s.key numbers)
    (room : List.Forall₂ (fun c n => c.width.HasRoom n) s.columns numbers)
    (distinct : s.columns.Nodup) (p : Profile) :
    s.assignment (readInto files root p s) =
      s.key ++ "=" ++ " ".intercalate (numbers.map numeral) := by
  have hsmall : ∀ n ∈ numbers, n < UInt64.size := fun n hn => by
    obtain ⟨i, hi, rfl⟩ := List.getElem_of_mem hn
    exact (List.forall₂_iff_get.mp room).2 i (room.length_eq ▸ hi) hi |>.lt
  have hmany : s.columns.length = (numbers.map Nat.toUInt64).length := by
    rw [List.length_map, room.length_eq]
  rw [readInto_eq (holds.keyValues hsmall) hmany, assignment,
    Profile.render_setNumbers room distinct]

/-- Of settings that are read one after the other into columns of their own, each keeps what it
assigns. -/
theorem assignment_foldl {settings : List KernelSetting}
    (apart : settings.Pairwise fun s t => s.columns.Disjoint t.columns) {s : KernelSetting}
    (mem : s ∈ settings) {text : String}
    (assigns : ∀ p, s.assignment (readInto files root p s) = text) (p : Profile) :
    s.assignment (settings.foldl (readInto files root) p) = text := by
  -- from the end of the list, where the last reading is the one that counts
  induction settings using List.reverseRecOn with
  | nil => cases mem
  | append_singleton settings t ih =>
    obtain ⟨hearlier, -, hlast⟩ := List.pairwise_append.mp apart
    rw [List.foldl_concat]
    rcases List.mem_append.mp mem with hs | hs
    · rw [assignment_apart (hlast s hs t List.mem_cons_self)]
      exact ih hearlier hs
    · obtain rfl := List.mem_singleton.mp hs
      exact assigns _

/-- The settings that commands set, in the order in which they are set. -/
def changeable : List KernelSetting := coreSettings ++ transportSettings

/-- **The two lists agree.** After the settings of the scheduler and the processes, which are not
set, come in another order just the settings that commands set, and each is read into the columns
that its command is written from. -/
theorem systemSettings_perm : (systemSettings.drop 5).Perm changeable := by decide

/-- No two settings that a profile carries, nor one of them twice, are read into one column. -/
theorem systemSettings_nodup : (systemSettings.flatMap columns).Nodup := by decide

/-- What a setting assigns from the settings in force is what its file holds. -/
theorem assignment_settingsInForce {s : KernelSetting} (mem : s ∈ changeable)
    {numbers : List Nat} (holds : HoldsNumbers files root s.key numbers)
    (room : List.Forall₂ (fun c n => c.width.HasRoom n) s.columns numbers) :
    s.assignment (settingsInForce files root) =
      s.key ++ "=" ++ " ".intercalate (numbers.map numeral) := by
  obtain ⟨hdistinct, hapart⟩ := List.nodup_flatMap.mp systemSettings_nodup
  have hs : s ∈ systemSettings := List.mem_of_mem_drop (systemSettings_perm.mem_iff.mpr mem)
  exact assignment_foldl hapart hs (assignment_readInto holds room (hdistinct s hs)) {}

end KernelSetting

/-! ## What commands assign -/

/-- What an argument assigns: the text before its first equals sign, and the text after it. -/
def assignment? (argument : String) : Option (String × String) :=
  (splitEquals? argument.toList).map fun (key, value) => (String.ofList key, String.ofList value)

/-- What the tool for kernel settings is told to assign, in order. -/
def kernelAssignments (commands : List Command) : List (String × String) :=
  (commands.filter fun c => c.program = "sysctl").flatMap fun c => c.arguments.filterMap assignment?

theorem splitEquals?_append {key : List Char} (plain : '=' ∉ key) (value : List Char) :
    splitEquals? (key ++ '=' :: value) = some (key, value) := by
  induction key with
  | nil => rfl
  | cons c rest ih =>
    obtain ⟨hc, hrest⟩ := not_or.mp fun h => plain (List.mem_cons.mpr h)
    rw [List.cons_append, splitEquals?, if_neg (Ne.symm hc), ih hrest]
    rfl

/-- The argument for a key without an equals sign assigns its value to the key. -/
theorem assignment?_append {key : String} (plain : '=' ∉ key.toList) (value : String) :
    assignment? (key ++ "=" ++ value) = some (key, value) := by
  have hlist : (key ++ "=" ++ value).toList = key.toList ++ '=' :: value.toList := by
    simp only [String.toList_append, List.append_assoc]
    rfl
  rw [assignment?, hlist, splitEquals?_append plain]
  simp only [Option.map_some, String.ofList_toList]

namespace KernelSetting

theorem key_plain {s : KernelSetting} (mem : s ∈ changeable) : '=' ∉ s.key.toList := by
  revert s
  decide

end KernelSetting

/-- The tool for kernel settings is told to assign each of the settings. -/
theorem kernelAssignments_commands (interface : String) (p : Profile) :
    kernelAssignments (p.commands interface) =
      KernelSetting.changeable.filterMap fun s => assignment? (s.assignment p) := by
  have hkernel (settings : List KernelSetting) :
      (setKernel settings p).arguments.filterMap assignment? =
        settings.filterMap fun s => assignment? (s.assignment p) := by
    have hoption : assignment? "-w" = none := by decide
    rw [setKernel, List.filterMap_cons_none hoption, List.filterMap_map]
    rfl
  have hfilter : ((p.commands interface).filter fun c => c.program = "sysctl") =
      [setKernel coreSettings p, setKernel transportSettings p] := by
    simp [Profile.commands, setKernel, setRings, setOffloads]
  rw [kernelAssignments, hfilter, List.flatMap_cons, List.flatMap_singleton, hkernel, hkernel,
    KernelSetting.changeable, List.filterMap_append]

/-- **Putting the settings in force in place changes nothing.** If the file of every setting that
commands set holds as many numbers as the setting has columns, in any spelling and with any blanks
between and around them, and the columns have room for them, then the commands of the profile that
was read assign each of these settings once, and to each exactly the numbers of its file. -/
theorem settings_reapplied {files : FileTree} {root : String} {numbers : String → List Nat}
    (held : ∀ s ∈ coreSettings ++ transportSettings,
      HoldsNumbers files root s.key (numbers s.key) ∧
        List.Forall₂ (fun c n => c.width.HasRoom n) s.columns (numbers s.key))
    (interface : String) :
    let keys := (coreSettings ++ transportSettings).map KernelSetting.key
    kernelAssignments ((settingsInForce files root).commands interface) =
        keys.map (fun key => (key, " ".intercalate ((numbers key).map numeral))) ∧
      keys.Nodup ∧ keys.length = 18 := by
  intro keys
  refine ⟨?_, by decide, by decide⟩
  rw [kernelAssignments_commands, List.map_map]
  refine List.filterMap_eq_map_iff_forall_eq_some.mpr fun s hs => ?_
  obtain ⟨hholds, hroom⟩ := held s hs
  rw [KernelSetting.assignment_settingsInForce hs hholds hroom]
  exact assignment?_append (KernelSetting.key_plain hs) _

/-- The settings of a machine. -/
def machine : List (String × List Nat) := [
  ("net.core.netdev_max_backlog", [1000]),
  ("net.core.netdev_budget", [300]),
  ("net.core.somaxconn", [4294967295]),
  ("net.core.busy_poll", [50]),
  ("net.core.busy_read", [51]),
  ("net.core.rmem_max", [18446744073709551615]),
  ("net.core.wmem_max", [212993]),
  ("net.core.rmem_default", [212994]),
  ("net.core.wmem_default", [212995]),
  ("net.ipv4.tcp_fastopen", [1]),
  ("net.ipv4.tcp_low_latency", [0]),
  ("net.ipv4.tcp_sack", [65535]),
  ("net.ipv4.tcp_rmem", [4096, 131072, 6291456]),
  ("net.ipv4.tcp_wmem", [4096, 16384, 4194304]),
  ("net.ipv4.tcp_max_syn_backlog", [512]),
  ("net.ipv4.tcp_tw_reuse", [2]),
  ("net.ipv4.tcp_timestamps", [1]),
  ("net.ipv4.tcp_syn_retries", [6])]

/-- The numbers of a setting of the machine. -/
def machineNumbers (key : String) : List Nat :=
  ((machine.find? fun s => s.1 = key).map Prod.snd).getD []

/-- What the file of a setting of the machine holds. -/
def machineText (key : String) : String :=
  String.ofList ('\u00a0' :: '\t' ::
    (['\t', ' ', '\n'].intercalate ((machineNumbers key).map Decimal.digits) ++ ['\n']))

/-- The files of the machine's settings. -/
def machineFiles : FileTree where
  entries :=
    [(["sys"], .directory), (["sys", "net"], .directory), (["sys", "net", "core"], .directory),
      (["sys", "net", "ipv4"], .directory)] ++
    machine.map fun s =>
      ("sys" :: (Text.splitAll (· = '.') s.1.toList).map String.ofList,
        .file (.text (machineText s.1)))

/-- A file with the digits of some numbers holds these numbers. -/
theorem HoldsNumbers.of_digits {files : FileTree} {root key content : String} {numbers : List Nat}
    (read : files.readText (keyPath root key) = .ok content)
    (words : Text.words content.toList = numbers.map Decimal.digits) :
    HoldsNumbers files root key numbers := by
  refine ⟨content, _, read, Text.spaced_words _, ?_⟩
  rw [words, List.forall₂_map_left_iff, List.forall₂_same]
  exact fun n _ => Decimal.spells_digits n

theorem machine_read : ∀ s ∈ coreSettings ++ transportSettings,
    machineFiles.readText (keyPath "sys" s.key) = .ok (machineText s.key) := by
  decide +kernel

theorem machine_words : ∀ s ∈ coreSettings ++ transportSettings,
    Text.words (machineText s.key).toList = (machineNumbers s.key).map Decimal.digits := by
  simp only [machineText, String.toList_ofList]
  decide +kernel

theorem machine_room : ∀ s ∈ coreSettings ++ transportSettings,
    List.Forall₂ (fun c n => c.width.HasRoom n) s.columns (machineNumbers s.key) := by
  decide +kernel

theorem machine_reapplied :
    kernelAssignments ((settingsInForce machineFiles "sys").commands "eth0") =
      ((coreSettings ++ transportSettings).map KernelSetting.key).map fun key =>
        (key, " ".intercalate ((machineNumbers key).map numeral)) :=
  (settings_reapplied
    (fun s hs => ⟨.of_digits (machine_read s hs) (machine_words s hs), machine_room s hs⟩) "eth0").1

end NetworkTuning
