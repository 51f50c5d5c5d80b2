import NetworkTuning.Lookup
import NetworkTuning.Proofs.Inference.Accounts
import NetworkTuning.Proofs.TableFile.RoundTrip
import NetworkTuning.Session.Run

/-!
# Lookups foretell what inference does

A lookup reads a settings file and a table file, searches the rows once and lists the commands of
the row it finds. The inference loop searches a table that was loaded with room for rows to learn,
and hands the row it finds to an applier, which renders the commands once more.

**Loading** finds the same rows with any room, so a lookup is the same with any (`ofFiles_ok_iff`).
**A tick** that searches applies the row that the search finds, handing over that row and nothing
else, or it misses with the key of the row that the search has looked at last (`evaluate_found`,
`evaluate_missed`). **An applier** that executes and does not refuse runs the commands of the
profile one after the other (`apply_executed`), and no program but these is started
(`runAll_started`).
-/

namespace NetworkTuning

/-! ## Running commands -/

namespace Shell

/-- A command that can be started, whatever has been run before it. -/
def CanStart (s : Shell) (c : Command) : Prop :=
  c.isSpeakable = true ∧ ∀ ran, ∃ e, s.answer ran c = .ok e

/-- A command leaves the shell, or it is started and remembered. -/
theorem run_cases (s : Shell) (c : Command) :
    ((s.run c).1 = s ∧ ¬s.CanStart c) ∨ (s.run c).1 = { s with ran := s.ran ++ [c] } := by
  unfold run CanStart
  by_cases hspeakable : c.isSpeakable = true
  · rw [hspeakable]
    cases hanswer : s.answer s.ran c with
    | ok e => exact .inr rfl
    | error reason =>
      refine .inl ⟨rfl, ?_⟩
      rintro ⟨-, hstarts⟩
      obtain ⟨e, h⟩ := hstarts s.ran
      rw [hanswer] at h
      cases h
  · refine .inl ⟨by simp [hspeakable], ?_⟩
    rintro ⟨h, -⟩
    exact hspeakable h

/-- Of commands that are run in turn, those are started that can be, in their order. -/
theorem runAll_started (s : Shell) (commands : List Command) :
    ∃ started, (s.runAll commands).1 = { s with ran := s.ran ++ started } ∧
      started.Sublist commands ∧ ((∀ c ∈ commands, s.CanStart c) → started = commands) := by
  induction commands generalizing s with
  | nil => exact ⟨[], by simp [runAll], List.Sublist.refl _, fun _ => rfl⟩
  | cons c rest ih =>
    rw [runAll]
    dsimp only
    rcases run_cases s c with ⟨hshell, hstuck⟩ | hshell
    · obtain ⟨started, hran, hsublist, -⟩ := ih s
      rw [hshell]
      refine ⟨started, hran, hsublist.cons c, fun hall => ?_⟩
      exact absurd (hall c List.mem_cons_self) hstuck
    · obtain ⟨started, hran, hsublist, hwhole⟩ := ih { s with ran := s.ran ++ [c] }
      rw [hshell]
      refine ⟨c :: started, ?_, hsublist.cons_cons c, fun hall => ?_⟩
      · rw [hran, List.append_assoc, List.singleton_append]
      · rw [hwhole fun d hd => hall d (List.mem_cons_of_mem _ hd)]

end Shell

/-- An applier that executes and does not refuse runs the commands of the profile. -/
theorem Applier.apply_executed {a : Applier} {shell : Shell} {interface : String} {p : Profile}
    (executes : a.dryRun = false)
    (unrefused : ∀ reason, (a.apply shell interface p).2.2 ≠ .refused reason) :
    (a.apply shell interface p).2 =
      ((shell.runAll (p.commands interface)).1,
        .executed (p.commands interface).length (shell.runAll (p.commands interface)).2) := by
  unfold apply at unrefused ⊢
  split
  next reason hrefused =>
    rw [hrefused] at unrefused
    exact absurd rfl (unrefused reason)
  next => simp only [executes, Bool.false_eq_true, if_false]

/-! ## Searching -/

namespace Inference.State

variable {σ : Type} (handle : Handler σ) {load : Load} {elapsed : Nanoseconds} {s : State σ}

/-- A state whose applier has an empty record. -/
def unrecorded (s : State σ) : State (List Delivery × σ) := s.mapApplier fun a => ([], a)

/-- The profiles that a tick hands to the applier. -/
def handed (handle : Handler σ) (load : Load) (elapsed : Nanoseconds) (s : State σ) :
    List Profile :=
  (s.unrecorded.evaluate (recording handle) load elapsed).2.controller.applier.1.map
    Delivery.profile

/-- A tick for a load that is not idle shows its score. -/
theorem Ticked.currentScore_eq {handle : Handler σ} {g : Target} {after : State σ} {tick : Tick}
    (ticked : Ticked handle load elapsed s g tick after) (busy : load.isIdle = false) :
    after.shared.metrics.currentScore = g.score := by
  cases ticked with
  | idle hidle =>
    rw [busy] at hidle
    cases hidle
  | skipped _ _ _ _ hshared | missed _ _ _ _ hshared =>
    rw [hshared]
    rfl
  | @applied _ _ answer _ _ _ _ _ _ _ _ hshared =>
    rw [hshared]
    cases answer with
    | ok | error => rfl

/-- A tick that does not search says why. -/
theorem evaluate_skipped (busy : load.isIdle = false)
    (skips : s.decision (Target.ofLoad load s.shared.settings) elapsed ≠ .search) :
    (s.evaluate handle load elapsed).1 =
      .skipped (s.decision (Target.ofLoad load s.shared.settings) elapsed) := by
  rw [evaluate_busy handle busy]
  cases hdecided : s.decision (Target.ofLoad load s.shared.settings) elapsed with
  | search => exact absurd hdecided skips
  | smallDelta | gracePeriod => rfl

/-- A tick that searches and finds a row applies it. -/
theorem evaluate_found {g : Target} (target : Target.ofLoad load s.shared.settings = g)
    (busy : load.isIdle = false) (decided : s.decision g elapsed = .search) {index : Nat}
    {p : Profile} (found : (s.result g).found = some index)
    (row : s.shared.table.rows[index]? = some p) :
    (s.evaluate handle load elapsed).1 =
        .applied index p.key (handle p s.controller.applier).1.toOption ∧
      (s.evaluate handle load elapsed).2.controller.applier =
        (handle p s.controller.applier).2 := by
  have hfound : (find s.shared.table.rows g.score g.tolerance s.shared.settings.weights).found =
      some index := found
  rw [evaluate_busy handle busy, target, decided]
  simp only [search, Target.search, looked, hfound, Option.bind_some, row, Option.map_some,
    handOver, waited]
  rcases handle p s.controller.applier with ⟨outcome | message, applier⟩
  · exact ⟨rfl, rfl⟩
  · exact ⟨rfl, rfl⟩

/-- A tick that searches and finds no row misses, with the key of the last row it looked at. -/
theorem evaluate_missed {g : Target} (target : Target.ofLoad load s.shared.settings = g)
    (busy : load.isIdle = false) (decided : s.decision g elapsed = .search)
    (missed : (s.result g).found = none) :
    (s.evaluate handle load elapsed).1 =
        .missed (((s.result g).closest.bind fun i => s.shared.table.rows[i]?).map Profile.key) ∧
      (s.evaluate handle load elapsed).2.controller.applier = s.controller.applier := by
  have hmissed : (find s.shared.table.rows g.score g.tolerance s.shared.settings.weights).found =
      none := missed
  rw [evaluate_busy handle busy, target, decided]
  simp only [search, Target.search, looked, hmissed, Option.bind_none, waited]
  exact ⟨rfl, trivial⟩

/-- A tick that finds a row hands over that row and nothing else. -/
theorem handed_found {g : Target} (target : Target.ofLoad load s.shared.settings = g)
    (busy : load.isIdle = false) (decided : s.decision g elapsed = .search) {index : Nat}
    {p : Profile} (found : (s.result g).found = some index)
    (row : s.shared.table.rows[index]? = some p) : s.handed handle load elapsed = [p] := by
  have hfound := evaluate_found (recording handle) (s := s.unrecorded) target busy decided found row
  rw [handed, hfound.2]
  rfl

theorem handed_missed {g : Target} (target : Target.ofLoad load s.shared.settings = g)
    (busy : load.isIdle = false) (decided : s.decision g elapsed = .search)
    (missed : (s.result g).found = none) : s.handed handle load elapsed = [] := by
  have hmissed := evaluate_missed (recording handle) (s := s.unrecorded) target busy decided missed
  rw [handed, hmissed.2]
  rfl

end Inference.State

/-! ## Looking up -/

namespace Lookup

open Inference

variable {files : FileTree} {environment : List (String × String)}
  {tablePath settingsPath interface : String} {load : Load} {l : Lookup}

theorem ofTable_congr {t same : Table} (rows : same.rows = t.rows) (s : Settings) (load : Load)
    (interface : String) : ofTable same s load interface = ofTable t s load interface := by
  unfold ofTable Target.search
  rw [rows]

/-- A lookup is made on the settings and on the rows that can be loaded. -/
theorem ofFiles_ok_iff :
    ofFiles files environment tablePath settingsPath load interface = .ok l ↔
      ∃ settings table, Settings.load files environment settingsPath = .ok settings ∧
        TableFile.load files tablePath 0 = .ok table ∧
        l = ofTable table settings load interface := by
  simp only [ofFiles, bind_ok_iff, mapError_ok_iff, pure, Except.pure, Except.ok.injEq,
    exists_and_left, eq_comm (a := l)]

/-- Where a table is loaded with room to learn, a lookup is made on its rows. -/
theorem ofFiles_of_load {settings : Settings} {table : Table} {learning : UInt64}
    (hsettings : Settings.load files environment settingsPath = .ok settings)
    (htable : TableFile.load files tablePath learning = .ok table) :
    ofFiles files environment tablePath settingsPath load interface =
      .ok (ofTable table settings load interface) := by
  obtain ⟨same, hsame, hrows⟩ := TableFile.load_without_learning htable
  rw [ofFiles_ok_iff]
  exact ⟨settings, same, hsettings, hsame, (ofTable_congr hrows settings load interface).symm⟩

/-- The commands as a lookup lists them. -/
def listed (l : Lookup) : List String := l.commands.map Command.text

/-- What a lookup lists for an interface is what an applier does there. -/
structure Lists (l : Lookup) (interface : String) : Prop where
  profile : l.profile = none ↔ l.result.found = none
  commands : l.commands = [] ↔ l.result.found = none
  shown : l.toJson.member? "commands" = some (.list (l.listed.map Json.text))
  executed : ∀ p, l.profile = some p → ∀ (a : Applier) (shell : Shell), a.dryRun = false →
    (∀ reason, (a.apply shell interface p).2.2 ≠ .refused reason) →
      (a.apply shell interface p).2 = ((shell.runAll l.commands).1,
          .executed l.commands.length (shell.runAll l.commands).2) ∧
        ∃ started, (a.apply shell interface p).2.1.ran = shell.ran ++ started ∧
          started.Sublist l.commands ∧
          ((∀ c ∈ l.commands, shell.CanStart c) → l.listed = started.map Command.text)

/-- What a lookup finds is what a tick over a table applies, and what it misses the tick misses:
the tick comes to this and hands these profiles to its applier. -/
structure Foretells (l : Lookup) (t : Table) (tick : Tick) (handed : List Profile) : Prop where
  hit : ∀ index p, (l.result.found = some index ∧ l.profile = some p) ↔
    (∃ outcome, tick = .applied index p.key outcome) ∧ handed = [p]
  row : ∀ index p, l.result.found = some index → l.profile = some p → t.rows[index]? = some p
  miss : l.result.found = none → handed = [] ∧
    ((t.rows = #[] ∧ l.result.closest = none ∧ tick = .missed none) ∨
      ∃ index p, l.result.closest = some index ∧ t.rows[index]? = some p ∧
        tick = .missed (some p.key))

section

variable (t : Table) (s : Settings) (load : Load) (interface : String)

/-- What a lookup looks for. -/
theorem ofTable_target : (ofTable t s load interface).target = Target.ofLoad load s := rfl

theorem ofTable_result : (ofTable t s load interface).result =
    find t.rows (Target.ofLoad load s).score (Target.ofLoad load s).tolerance s.weights := rfl

variable {t s load}

/-- A lookup that finds a row shows it, with its commands. -/
theorem ofTable_found {index : Nat}
    (found : (ofTable t s load interface).result.found = some index) :
    ∃ p, t.rows[index]? = some p ∧ (ofTable t s load interface).profile = some p ∧
      (ofTable t s load interface).commands = p.commands interface := by
  rw [ofTable_result] at found
  obtain ⟨p, hrow, -⟩ := find_found found
  refine ⟨p, hrow, ?_, ?_⟩
  · simp [ofTable, Target.search, found, hrow]
  · simp [ofTable, Target.search, found, hrow]

/-- A lookup that misses shows nothing. -/
theorem ofTable_missed (missed : (ofTable t s load interface).result.found = none) :
    (ofTable t s load interface).profile = none ∧
      (ofTable t s load interface).commands = [] := by
  rw [ofTable_result] at missed
  constructor
  · simp [ofTable, Target.search, missed]
  · simp [ofTable, Target.search, missed]

theorem ofTable_lists : (ofTable t s load interface).Lists interface := by
  cases hfound : (ofTable t s load interface).result.found with
  | none =>
    obtain ⟨hprofile, hcommands⟩ := ofTable_missed interface hfound
    refine ⟨by simp [hfound, hprofile], by simp [hfound, hcommands], ?_, ?_⟩
    · simp [toJson, Json.member?, listed, List.map_map, Function.comp_def]
    · intro p hp
      rw [hprofile] at hp
      cases hp
  | some index =>
    obtain ⟨p, hrow, hprofile, hcommands⟩ := ofTable_found interface hfound
    refine ⟨by simp [hfound, hprofile], by simp [hfound, hcommands, Profile.commands], ?_, ?_⟩
    · simp [toJson, Json.member?, listed, List.map_map, Function.comp_def]
    · intro q hq a shell hexecutes hunrefused
      rw [hprofile] at hq
      cases hq
      have happly := Applier.apply_executed hexecutes hunrefused
      rw [hcommands]
      refine ⟨happly, ?_⟩
      obtain ⟨started, hran, hsublist, hwhole⟩ := shell.runAll_started (p.commands interface)
      refine ⟨started, ?_, hsublist, fun hall => ?_⟩
      · rw [happly, hran]
      · rw [listed, hcommands, hwhole hall]

end

/-- A tick that searches for the same load over the same rows under the same settings comes to what
the lookup says. -/
theorem ofTable_foretells {σ : Type} (handle : Handler σ) {s : State σ} {load : Load}
    (busy : load.isIdle = false) {elapsed : Nanoseconds} (interface : String)
    (decided : s.decision (Target.ofLoad load s.shared.settings) elapsed = .search) :
    (ofTable s.shared.table s.shared.settings load interface).Foretells s.shared.table
      (s.evaluate handle load elapsed).1 (s.handed handle load elapsed) := by
  have hresult : (ofTable s.shared.table s.shared.settings load interface).result =
      s.result (Target.ofLoad load s.shared.settings) := rfl
  cases hfound : (s.result (Target.ofLoad load s.shared.settings)).found with
  | none =>
    obtain ⟨htick, -⟩ := State.evaluate_missed handle rfl busy decided hfound
    have hhanded := State.handed_missed handle rfl busy decided hfound
    rw [htick, hhanded]
    refine ⟨?_, ?_, ?_⟩
    · intro index p
      rw [hresult, hfound]
      constructor
      · rintro ⟨h, -⟩
        cases h
      · rintro ⟨⟨outcome, h⟩, -⟩
        cases h
    · intro index p h
      rw [hresult, hfound] at h
      cases h
    · intro _
      refine ⟨rfl, ?_⟩
      rw [hresult]
      rcases find_closest s.shared.table.rows (Target.ofLoad load s.shared.settings).score
        (Target.ofLoad load s.shared.settings).tolerance s.shared.settings.weights with
        ⟨hempty, hnone⟩ | ⟨index, p, hclosest, hrow⟩
      · have hnone : (s.result (Target.ofLoad load s.shared.settings)).closest = none := hnone
        exact .inl ⟨hempty, hnone, by rw [hnone]; rfl⟩
      · have hclosest : (s.result (Target.ofLoad load s.shared.settings)).closest = some index :=
          hclosest
        exact .inr ⟨index, p, hclosest, hrow, by simp [hclosest, hrow]⟩
  | some index =>
    obtain ⟨p, hrow, hprofile, -⟩ := ofTable_found interface (hresult ▸ hfound)
    obtain ⟨htick, -⟩ := State.evaluate_found handle rfl busy decided hfound hrow
    have hhanded := State.handed_found handle rfl busy decided hfound hrow
    rw [htick, hhanded]
    refine ⟨?_, ?_, ?_⟩
    · intro other q
      rw [hresult, hfound, hprofile]
      constructor
      · rintro ⟨h, hq⟩
        cases h
        cases hq
        exact ⟨⟨_, rfl⟩, rfl⟩
      · rintro ⟨⟨outcome, h⟩, hq⟩
        cases hq
        cases h
        exact ⟨rfl, rfl⟩
    · intro other q h hq
      rw [hresult, hfound] at h
      rw [hprofile] at hq
      cases h
      cases hq
      exact hrow
    · intro h
      rw [hresult, hfound] at h
      cases h

/-- **A lookup foretells inference.** Whatever is in the files, a lookup for a load that is not idle
succeeds wherever the settings can be loaded, and the table with some room for rows to learn; and
where it succeeds the settings can be loaded, and the table with as many rows to learn as there is
room for. Then a tick for that load, over this table and under these settings, looks for what the
lookup looks for. It skips if that is decided on the score, the tolerance and what was before; if a
search is decided it comes to what the lookup says. What the lookup lists are the commands that an
applier executes for the profile. -/
theorem lookup_foretells_search (files : FileTree) (environment : List (String × String))
    (tablePath settingsPath interface : String) (load : Load) (learning : UInt64)
    (busy : load.isIdle = false) :
    ((∃ settings, Settings.load files environment settingsPath = .ok settings) ∧
        (∃ table, TableFile.load files tablePath learning = .ok table) →
      ∃ l, ofFiles files environment tablePath settingsPath load interface = .ok l) ∧
      ((∃ l, ofFiles files environment tablePath settingsPath load interface = .ok l) →
        (∃ settings, Settings.load files environment settingsPath = .ok settings) ∧
          ∃ rows, TableFile.read files tablePath = .ok rows ∧
            (learning.toNat + rows.length ≤ mostRows →
              ∃ table, TableFile.load files tablePath learning = .ok table)) ∧
      ∀ l settings table, ofFiles files environment tablePath settingsPath load interface = .ok l →
        Settings.load files environment settingsPath = .ok settings →
        TableFile.load files tablePath learning = .ok table →
          l.Lists interface ∧
            ∀ {σ : Type} (handle : Handler σ) (s : State σ) (elapsed : Nanoseconds),
              s.shared.settings = settings → s.shared.table = table →
                (s.evaluate handle load elapsed).2.shared.metrics.currentScore = l.target.score ∧
                  l.target = Target.ofLoad load settings ∧ l.result = s.result l.target ∧
                  (s.decision l.target elapsed = .search →
                    l.Foretells table (s.evaluate handle load elapsed).1
                      (s.handed handle load elapsed)) ∧
                  (s.decision l.target elapsed ≠ .search →
                    (s.evaluate handle load elapsed).1 =
                      .skipped (s.decision l.target elapsed)) := by
  refine ⟨?_, ?_, ?_⟩
  · rintro ⟨⟨settings, hsettings⟩, table, htable⟩
    exact ⟨_, ofFiles_of_load hsettings htable⟩
  · rintro ⟨l, hl⟩
    obtain ⟨settings, table, hsettings, htable, -⟩ := ofFiles_ok_iff.mp hl
    obtain ⟨rows, hread, -⟩ := TableFile.load_ok_iff.mp htable
    refine ⟨⟨settings, hsettings⟩, rows, hread, fun room => ?_⟩
    have hroom : learning.toNat + rows.length ≤ Memory.ample.rows := room
    obtain ⟨loaded, hloaded, -⟩ := TableFile.exists_load_of_read hread hroom
    exact ⟨loaded, hloaded⟩
  · intro l settings table hl hsettings htable
    obtain rfl : l = ofTable table settings load interface :=
      Except.ok.inj (hl.symm.trans (ofFiles_of_load hsettings htable))
    refine ⟨ofTable_lists interface, ?_⟩
    rintro σ handle s elapsed rfl rfl
    rw [ofTable_target]
    refine ⟨?_, rfl, rfl, ?_, ?_⟩
    · exact (State.evaluate_ticked handle load elapsed s).currentScore_eq busy
    · intro hdecided
      exact ofTable_foretells handle busy interface hdecided
    · intro hskips
      exact State.evaluate_skipped handle busy hskips

/-- A score that has not moved is searched for where the tolerance is zero. -/
theorem decide_unmoved (since grace : Nanoseconds) :
    Inference.decide 0.0 0.0 0.0 since grace = .search := by
  have hmoved : ¬((0.0 - 0.0 : Float).abs < 0.0) := by decide +kernel
  have hlower : ((0.0 : Float) < 0.0) = False := eq_false (by decide +kernel)
  unfold Inference.decide
  dsimp only
  rw [if_neg hmoved]
  simp [hlower]

/-- A settings file without weights, and a table file with one row. -/
def oneRow : FileTree :=
  ⟨[(["settings.json"], .file (.text
      "\x7b\"app_settings\":[1,1,0,0,0,1,1],\"weights\":[0,0,0,0]\x7d")),
    (["table.csv"], .file (.text ("transfer_rate\n" ++
      "5,0,0,0,0,0,0,0,0,0,0,0,0,0,0,0,0,0,0,0,0,0,0,0,0,0,0,0,0,0,0,0,0,0,0,0,0,0,0,0,0,0,0,0," ++
      "0,0,0,0,0,0,0,0,0\n")))]⟩

/-- A session that executes, before its first tick, where every program can be started. -/
def executing (settings : Settings) (table : Table) : State SessionApplier where
  controller := { applier := ({ dryRun := false }, { answer := fun _ _ => .ok {} }) }
  shared := { settings, table }

theorem lookup_foretells_one_row :
    let load : Load := { transferRate := 5 }
    load.isIdle = false ∧
      ∃ l settings table p,
        ofFiles oneRow [] "table.csv" "settings.json" load "eth0" = .ok l ∧
          Settings.load oneRow [] "settings.json" = .ok settings ∧
          TableFile.load oneRow "table.csv" 3 = .ok table ∧
          l.result.found = some 0 ∧ l.profile = some p ∧
          (∃ outcome, ((executing settings table).evaluate (SessionApplier.handler "eth0") load
            0).1 = .applied 0 p.key outcome) ∧
          (executing settings table).handed (SessionApplier.handler "eth0") load 0 = [p] := by
  intro load
  have hbusy : load.isIdle = false := by decide
  have hvalues : (ofFiles oneRow [] "table.csv" "settings.json" load "eth0").toOption.map
      (fun l => (l.result.found, l.target.score, l.target.tolerance)) =
        some (some 0, 0.0, 0.0) := by
    decide +kernel
  cases hl : ofFiles oneRow [] "table.csv" "settings.json" load "eth0" with
  | error e =>
    rw [hl] at hvalues
    cases hvalues
  | ok l =>
    rw [hl] at hvalues
    obtain ⟨hfound, hscore, htolerance⟩ :
        l.result.found = some 0 ∧ l.target.score = 0.0 ∧ l.target.tolerance = 0.0 := by
      simpa [Except.toOption] using hvalues
    obtain ⟨-, hloads, hagrees⟩ :=
      lookup_foretells_search oneRow [] "table.csv" "settings.json" "eth0" load 3 hbusy
    obtain ⟨⟨settings, hsettings⟩, rows, hread, hroom⟩ := hloads ⟨l, hl⟩
    have hrows : rows.length = 1 := by
      have hone : (TableFile.read oneRow "table.csv").toOption.map List.length = some 1 := by
        decide +kernel
      rw [hread] at hone
      exact Option.some.inj hone
    obtain ⟨table, htable⟩ := hroom (by rw [hrows]; decide)
    obtain ⟨hlists, hticks⟩ := hagrees l settings table hl hsettings htable
    obtain ⟨-, -, -, hsearches, -⟩ := hticks (SessionApplier.handler "eth0")
      (executing settings table) 0 rfl rfl
    have hdecided : (executing settings table).decision l.target 0 = .search := by
      rw [State.decision, hscore, htolerance]
      exact decide_unmoved _ _
    obtain ⟨p, hp⟩ : ∃ p, l.profile = some p := by
      apply Option.ne_none_iff_exists'.mp
      rw [ne_eq, hlists.profile, hfound]
      exact Option.some_ne_none 0
    obtain ⟨happlied, hhanded⟩ := ((hsearches hdecided).hit 0 p).mp ⟨hfound, hp⟩
    exact ⟨hbusy, l, settings, table, p, rfl, hsettings, htable, hfound, hp, happlied, hhanded⟩

end Lookup

end NetworkTuning
