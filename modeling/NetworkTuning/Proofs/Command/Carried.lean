import Mathlib.Data.List.Basic
import NetworkTuning.Command.Basic
import NetworkTuning.Proofs.Profile.Columns
import NetworkTuning.Proofs.TableFile.Row

/-!
# What commands carry

The commands of a profile tell 33 of its values and nothing else of it. Each part of a command is
the same for two profiles exactly if they agree in the columns that it is written from: a number is
known by its digits (`Column.render_inj`), numbers with blanks between them by the pieces
(`KernelSetting.assignment_inj`), a switch by its word (`setOffloads_inj`). Put together, two
profiles have the same commands exactly if they agree in all columns that are applied, and writing
any other column changes none of the commands (`commands_inj`).
-/

namespace NetworkTuning

/-- The columns whose values are put in place. -/
def Column.applied : List Column := [
  .netdevMaxBacklog, .netdevBudget, .somaxconn, .busyPoll, .busyRead, .rmemMax, .wmemMax,
  .rmemDefault, .wmemDefault,
  .tcpFastopen, .tcpLowLatency, .tcpSack, .tcpRmemLeast, .tcpRmemUsual, .tcpRmemMost,
  .tcpWmemLeast, .tcpWmemUsual, .tcpWmemMost, .tcpMaxSynBacklog, .tcpTwReuse, .tcpTimestamps,
  .tcpSynRetries,
  .rxRing, .txRing,
  .rxChecksum, .txChecksum, .genericSegmentation, .tcpSegmentation, .genericReceive,
  .largeReceive, .rxVlan, .txVlan, .rxHash]

/-- Two profiles have the same values in some columns. -/
def Profile.AgreeIn (columns : List Column) (p q : Profile) : Prop :=
  ∀ c ∈ columns, c.get p = c.get q

variable {p q : Profile}

theorem Profile.agreeIn_append {first second : List Column} :
    AgreeIn (first ++ second) p q ↔ AgreeIn first p q ∧ AgreeIn second p q :=
  List.forall_mem_append

/-! ## Parts of commands -/

/-- What is not a share is known by its text. -/
theorem Column.render_inj {c : Column} (other : c.width ≠ .share) :
    c.render p = c.render q ↔ c.get p = c.get q := by
  refine ⟨fun h => ?_, fun h => congrArg c.width.render h⟩
  have hp := Width.read?_render other (c.get p)
  have hq := Width.read?_render other (c.get q)
  change c.width.read? (c.render p).toList = _ at hp
  rw [h] at hp
  exact Option.some.inj (hp.symm.trans hq)

/-- No text of a column has a blank in it. -/
theorem Column.render_solid (c : Column) (p : Profile) : Text.Solid (c.render p).toList :=
  (Width.render_numeric c.width (c.get p)).solid

/-- Texts without blanks come apart again when they were joined by blanks. -/
theorem splitAll_joined {texts : List String} (some : texts ≠ [])
    (solid : ∀ text ∈ texts, Text.Solid text.toList) :
    Text.splitAll (· = ' ') (" ".intercalate texts).toList = texts.map String.toList := by
  rw [String.toList_intercalate]
  refine Text.splitAll_intercalate ' ' (by simpa using some) fun piece hpiece hblank => ?_
  obtain ⟨text, htext, rfl⟩ := List.mem_map.mp hpiece
  exact absurd (solid text htext ' ' hblank) (by decide)

namespace KernelSetting

/-- A setting with columns, all of which are known by their texts. -/
def IsTold (s : KernelSetting) : Prop := s.columns ≠ [] ∧ ∀ c ∈ s.columns, c.width ≠ .share

instance (s : KernelSetting) : Decidable s.IsTold :=
  inferInstanceAs (Decidable (s.columns ≠ [] ∧ ∀ c ∈ s.columns, c.width ≠ .share))

/-- What is assigned to a setting tells the values of its columns. -/
theorem assignment_inj {s : KernelSetting} (told : s.IsTold) :
    s.assignment p = s.assignment q ↔ Profile.AgreeIn s.columns p q := by
  have hpieces (r : Profile) :
      Text.splitAll (· = ' ') (" ".intercalate (s.columns.map fun c => c.render r)).toList =
        (s.columns.map fun c => c.render r).map String.toList := by
    refine splitAll_joined (by simpa using told.1) fun text htext => ?_
    obtain ⟨c, -, rfl⟩ := List.mem_map.mp htext
    exact c.render_solid r
  have htexts : s.assignment p = s.assignment q ↔
      (s.columns.map fun c => c.render p) = s.columns.map fun c => c.render q := by
    rw [assignment, assignment, String.append_right_inj]
    refine ⟨fun h => ?_, congrArg _⟩
    have hlists := (hpieces p).symm.trans ((congrArg _ (congrArg String.toList h)).trans (hpieces q))
    exact List.map_injective_iff.mpr (fun _ _ => String.toList_inj.mp) hlists
  rw [htexts, List.map_inj_left]
  exact forall₂_congr fun c hc => Column.render_inj (told.2 c hc)

end KernelSetting

theorem setKernel_inj {settings : List KernelSetting} (told : ∀ s ∈ settings, s.IsTold) :
    setKernel settings p = setKernel settings q ↔
      Profile.AgreeIn (settings.flatMap KernelSetting.columns) p q := by
  rw [setKernel, setKernel, Command.mk.injEq, List.cons_inj_right, List.map_inj_left,
    Profile.AgreeIn, List.forall_mem_flatMap, and_iff_right rfl]
  exact forall₂_congr fun s hs => KernelSetting.assignment_inj (told s hs)

theorem setRings_inj (interface : String) :
    setRings interface p = setRings interface q ↔ Profile.AgreeIn [.rxRing, .txRing] p q := by
  have hrx : Column.rxRing.render p = Column.rxRing.render q ↔ _ := Column.render_inj (by decide)
  have htx : Column.txRing.render p = Column.txRing.render q ↔ _ := Column.render_inj (by decide)
  simp only [setRings, Command.mk.injEq, List.cons.injEq, true_and, and_true, hrx, htx,
    Profile.AgreeIn, List.forall_mem_cons, List.not_mem_nil, false_imp_iff, implies_true]

/-- The columns of the switches. -/
def Column.switches : List Column := [
  .rxChecksum, .txChecksum, .genericSegmentation, .tcpSegmentation, .genericReceive,
  .largeReceive, .rxVlan, .txVlan, .rxHash]

theorem setOffloads_inj (interface : String) :
    setOffloads interface p = setOffloads interface q ↔ Profile.AgreeIn Column.switches p q := by
  have hword (a b : Bool) : ((if a then "on" else "off") = if b then "on" else "off") ↔ a = b := by
    cases a <;> cases b <;> decide
  simp only [setOffloads, Offloads.features, Command.mk.injEq, List.flatMap_cons, List.flatMap_nil,
    List.cons_append, List.nil_append, List.cons.injEq, true_and, and_true, hword, Column.switches,
    Profile.AgreeIn, List.forall_mem_cons, List.not_mem_nil, false_imp_iff, implies_true,
    Column.get]
  exact Iff.rfl

/-! ## Commands -/

theorem told_settings : ∀ s ∈ coreSettings ++ transportSettings, s.IsTold := by decide

/-- The columns that the commands are written from are those that are applied. -/
theorem applied_eq : Column.applied =
    coreSettings.flatMap KernelSetting.columns ++ (transportSettings.flatMap KernelSetting.columns ++
      ([.rxRing, .txRing] ++ Column.switches)) := rfl

theorem commands_eq_iff {interface : String} :
    p.commands interface = q.commands interface ↔ Profile.AgreeIn Column.applied p q := by
  obtain ⟨hcore, htransport⟩ := List.forall_mem_append.mp told_settings
  simp only [Profile.commands, List.cons.injEq, and_true, setKernel_inj hcore,
    setKernel_inj htransport, setRings_inj, setOffloads_inj, applied_eq, Profile.agreeIn_append]

/-- There is another value of every kind of word, and of a switch. -/
theorem Width.exists_ne {w : Width} (other : w ≠ .share) (v : w.Value) : ∃ u : w.Value, u ≠ v := by
  cases w with
  | word64 => exact ⟨v + 1, by simp⟩
  | word32 => exact ⟨v + 1, by simp⟩
  | word16 => exact ⟨v + 1, by simp⟩
  | share => exact absurd rfl other
  | switch => exact ⟨!v, by simp⟩

/-- **Commands carry the settings and nothing else.** On any interface, two profiles have the same
commands exactly if they have the same values in the 33 columns that are applied. Each of these can
change the commands alone, and none of the others ever does. -/
theorem commands_inj (interface : String) (p q : Profile) :
    (p.commands interface = q.commands interface ↔ ∀ c ∈ Column.applied, c.get p = c.get q) ∧
      Column.applied.length = 33 ∧
      ∀ c : Column, c ∈ Column.applied ↔
        ∃ v, (c.set v p).commands interface ≠ p.commands interface := by
  refine ⟨commands_eq_iff, rfl, fun c => ⟨fun hc => ?_, fun ⟨v, hv⟩ => ?_⟩⟩
  · have hwidth : ∀ d ∈ Column.applied, d.width ≠ .share := by decide
    obtain ⟨v, hv⟩ := Width.exists_ne (hwidth c hc) (c.get p)
    refine ⟨v, fun h => hv ?_⟩
    rw [← commands_eq_iff.mp h c hc, Column.get_set]
  · by_contra hc
    refine hv (commands_eq_iff.mpr fun d hd => Column.get_set_ne ?_ v p)
    rintro rfl
    exact hc hd

end NetworkTuning
