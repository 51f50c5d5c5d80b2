import NetworkTuning.Proofs.Training.Live

/-!
# Training accounts

Insertions, duplicate keys, misses and searches are kept twice: the metrics count them for all who
train together, and the summaries for each of them. The two are written in different places, and an
`Account` names what belongs together.

**One step** (`step_balanced`): whatever a training step comes to, on any table, its metrics and the
summary that records it grow by the same in every account. The one outcome that would be counted as
a miss without a search that missed is never reached (`step_taken`). **A run** (`after_balanced`) of
any number of workers and of loops of live training, in any interleaving, keeps the accounts
balanced, because each turn is taken by one of them.
-/

namespace NetworkTuning.Training

open NetworkTuning.Random

/-- What is counted by the metrics and by the summaries of those who train. -/
inductive Account where
  | insertions
  | duplicates
  | misses
  | searches
  deriving Repr, DecidableEq

namespace Account

/-- What the metrics say of an account. -/
def metric : Account → Metrics → Nat
  | insertions, m => m.insertions
  | duplicates, m => m.duplicateKeys
  | misses, m => m.searchMisses
  | searches, m => m.searches

/-- What a summary says of an account. Every search ends in an insertion, a duplicate key or a
miss. -/
def counted : Account → Summary → Nat
  | insertions, s => s.inserted
  | duplicates, s => s.duplicates
  | misses, s => s.misses
  | searches, s => s.inserted + s.duplicates + s.misses

theorem metric_saved (a : Account) {before after : Shared} (saved : Saved before after) :
    a.metric after.metrics = a.metric before.metrics := by
  obtain ⟨files, snapshots, snapshotErrors, rfl⟩ := saved
  cases a <;> rfl

theorem metric_recordSize (a : Account) (s : Shared) :
    a.metric s.recordSize.metrics = a.metric s.metrics := by
  cases a <;> rfl

theorem counted_settle (a : Account) (w : Worker) (r : Step) :
    a.counted (w.settle r).summary = a.counted w.summary := by
  obtain ⟨stalled, h⟩ := settle_summary w r
  rw [h]
  cases a <;> rfl

end Account

/-! ## One step -/

/-- Whoever takes part in the training has let the metrics and its summary grow by the same. -/
def Balanced (before after : Shared) (summary recorded : Summary) : Prop :=
  ∀ a : Account, a.metric after.metrics + a.counted summary =
    a.metric before.metrics + a.counted recorded

theorem Balanced.of_eq {before after : Shared} {summary recorded : Summary}
    (metrics : ∀ a : Account, a.metric after.metrics = a.metric before.metrics)
    (summaries : recorded = summary) : Balanced before after summary recorded := by
  intro a
  rw [metrics, summaries]

section

variable {t : Table} {key : UInt64} {g : Target} {s : Settings} {live : Option Load} {m : Metrics}

/-- **One step**, on any table. -/
theorem step_balanced (t : Table) (key : UInt64) (g : Target) (s : Settings) (live : Option Load)
    (m : Metrics) (summary : Summary) (a : Account) :
    a.metric (step t key g s live m).2.1 + a.counted summary =
      a.metric m + a.counted (summary.record (step t key g s live m).2.2) := by
  have htaken := step_taken t key g s live m
  generalize step t key g s live m = result at htaken ⊢
  cases htaken with
  | full => cases a <;> rfl
  | missed | duplicate | inserted =>
    cases a <;>
      simp only [Account.metric, Account.counted, Summary.record, Metrics.search,
        Metrics.duplicateKey, Metrics.insertion, if_true, Bool.false_eq_true, if_false] <;>
      omega

/-- On a full table a step searches nothing and counts nothing. -/
theorem step_full (full : t.isFull = true) : step t key g s live m = (t, m, .full) := if_pos full

end

/-- A worker that advances leaves its accounts balanced. -/
theorem advance_balanced (w : Worker) (s : Shared) :
    Balanced s (w.advance s).2 w.summary (w.advance s).1.summary := by
  rcases advance_cases w s with
    ⟨draws, h⟩ | ⟨key, draws, -, g, table, metrics, result, hstep, h⟩
  · rw [h]
    exact .of_eq (fun _ => rfl) rfl
  · intro a
    have hbalanced := step_balanced s.table key g s.settings none s.metrics w.summary a
    rw [hstep] at hbalanced
    rw [h, Account.metric_recordSize, Account.counted_settle]
    exact hbalanced

/-- A tick of live training leaves its accounts balanced. -/
theorem Live.tick_balanced (path : String) (l : Live) (s : Shared) :
    Balanced s (l.tick path s).2 l.summary (l.tick path s).1.summary := by
  rcases tick_cases path l s with
    ⟨-, h⟩ | ⟨-, table, metrics, result, saved, hstep, hsaved, h⟩
  · rw [h]
    exact .of_eq (fun _ => rfl) rfl
  · intro a
    have hbalanced := step_balanced s.table s.readings.load.transferRate
      (Target.ofLoad s.readings.load s.settings) s.settings (some s.readings.load) s.metrics
      l.summary a
    rw [hstep] at hbalanced
    rw [h, a.metric_saved hsaved, Account.metric_recordSize]
    exact hbalanced

/-! ## Full tables, and the gauge -/

/-- A worker that finds the table full counts nothing. -/
theorem advance_counted_of_full (w : Worker) {s : Shared} (full : s.table.isFull = true)
    (a : Account) : a.counted (w.advance s).1.summary = a.counted w.summary := by
  rcases advance_cases w s with
    ⟨draws, h⟩ | ⟨key, draws, -, g, table, metrics, result, hstep, h⟩
  · rw [h]
  · rw [step_full full] at hstep
    cases hstep
    rw [h, Account.counted_settle]
    cases a <;> rfl

theorem Live.tick_counted_of_full (path : String) (l : Live) {s : Shared}
    (full : s.table.isFull = true) (a : Account) :
    a.counted (l.tick path s).1.summary = a.counted l.summary := by
  rcases tick_cases path l s with
    ⟨-, h⟩ | ⟨-, table, metrics, result, saved, hstep, hsaved, h⟩
  · rw [h]
  · rw [step_full full] at hstep
    cases hstep
    rw [h]
    cases a <;> rfl

/-- A worker that had a key to draw leaves the size of the table in the gauge. -/
theorem advance_shows_size (w : Worker) (s : Shared)
    (drawn : (drawKey w.draws s.table).1.isSome = true) :
    (w.advance s).2.metrics.tableEntries = (w.advance s).2.table.size := by
  unfold Worker.advance
  rcases hdraw : drawKey w.draws s.table with ⟨_ | key, draws⟩
  · rw [hdraw] at drawn
    cases drawn
  · rfl

theorem Live.tick_shows_size (path : String) (l : Live) (s : Shared)
    (busy : s.readings.load.isIdle = false) :
    (l.tick path s).2.metrics.tableEntries = (l.tick path s).2.table.size := by
  rcases tick_cases path l s with
    ⟨hidle, -⟩ | ⟨-, table, metrics, result, saved, -, hsaved, h⟩
  · rw [hidle] at busy
    cases busy
  · obtain ⟨files, snapshots, snapshotErrors, rfl⟩ := hsaved
    rw [h]
    rfl

/-! ## Runs -/

theorem sum_map_set {α : Type} {f : α → Nat} {l : List α} {place : Nat} {old : α}
    (here : l[place]? = some old) (new : α) :
    ((l.set place new).map f).sum + f old = (l.map f).sum + f new := by
  induction l generalizing place with
  | nil => cases here
  | cons x rest ih =>
    cases place with
    | zero =>
      obtain rfl : x = old := Option.some.inj here
      simp only [List.set_cons_zero, List.map_cons, List.sum_cons]
      omega
    | succ place =>
      have hrest := ih here
      simp only [List.set_cons_succ, List.map_cons, List.sum_cons]
      omega

namespace Team

/-- What the workers have counted in an account. -/
def counted (t : Team) (a : Account) : Nat := (t.workers.map fun w => a.counted w.summary).sum

/-- Acting changes what one worker has counted, or nothing at all. -/
theorem act_cases (t : Team) (place : Nat) (f : Worker → Shared → Worker × Shared) :
    t.act place f = t ∨ ∃ w, (t.act place f).shared = (f w t.shared).2 ∧
      ∀ a : Account, (t.act place f).counted a + a.counted w.summary =
        t.counted a + a.counted (f w t.shared).1.summary := by
  unfold act
  split
  next => exact .inl rfl
  next w hw => exact .inr ⟨w, rfl, fun a => sum_map_set hw (f w t.shared).1⟩

theorem act_balanced {t : Team} {place : Nat} {f : Worker → Shared → Worker × Shared}
    (balanced : ∀ w, Balanced t.shared (f w t.shared).2 w.summary (f w t.shared).1.summary)
    (a : Account) :
    a.metric (t.act place f).shared.metrics + t.counted a =
      a.metric t.shared.metrics + (t.act place f).counted a := by
  rcases act_cases t place f with h | ⟨w, hshared, hcounted⟩
  · rw [h]
  · have hstep := balanced w a
    have hsum := hcounted a
    rw [hshared]
    omega

theorem act_counted {t : Team} {place : Nat} {f : Worker → Shared → Worker × Shared} {a : Account}
    (same : ∀ w, a.counted (f w t.shared).1.summary = a.counted w.summary) :
    (t.act place f).counted a = t.counted a := by
  rcases act_cases t place f with h | ⟨w, -, hcounted⟩
  · rw [h]
  · have hsum := hcounted a
    rw [same w] at hsum
    exact Nat.add_right_cancel hsum

/-- Whatever a worker does, the accounts of its team stay balanced. -/
theorem move_balanced (path : String) (t : Team) (m : Move) (a : Account) :
    a.metric (t.move path m).shared.metrics + t.counted a =
      a.metric t.shared.metrics + (t.move path m).counted a := by
  cases m with
  | advance place draws settings readings =>
    refine act_balanced (fun w => ?_) a
    split
    next => exact .of_eq (fun _ => rfl) rfl
    next => exact advance_balanced { w with draws } { t.shared with settings, readings }
  | save place =>
    refine act_balanced (fun w => ?_) a
    obtain ⟨hsaved, hsummary⟩ := save_saved path w t.shared
    exact .of_eq (fun a => a.metric_saved hsaved) hsummary
  | stop place => exact act_balanced (fun w => .of_eq (fun _ => rfl) rfl) a

/-- Over a full table no worker counts anything. -/
theorem move_counted_of_full (path : String) {t : Team} (full : t.shared.table.isFull = true) (m : Move)
    (a : Account) : (t.move path m).counted a = t.counted a := by
  cases m with
  | advance place draws settings readings =>
    refine act_counted fun w => ?_
    split
    next => rfl
    next =>
      exact advance_counted_of_full { w with draws } (s := { t.shared with settings, readings })
        full a
  | save place =>
    refine act_counted fun w => ?_
    rw [(save_saved path w t.shared).2]
  | stop place => exact act_counted fun w => rfl

end Team

/-- Workers and loops of live training over what they share. -/
structure Crew where
  team : Team
  loops : List Live

namespace Crew

/-- What may come next: a worker moves, a loop of live training looks at the load, or something
happens from outside. -/
inductive Turn where
  | worker (m : Move)
  | tick (place : Nat)
  | happen (e : Event)

/-- A crew before its first turn, with a worker for each stream of draws and a number of loops. -/
def start (streams : List Draws) (loops : Nat) (s : Shared) : Crew :=
  ⟨Team.start streams s, List.replicate loops {}⟩

/-- What the crew shares. -/
def shared (c : Crew) : Shared := c.team.shared

/-- One turn. -/
def turn (path : String) (c : Crew) : Turn → Crew
  | .worker m => { c with team := c.team.move path m }
  | .tick place =>
    match c.loops[place]? with
    | none => c
    | some l =>
      ⟨⟨c.team.workers, (l.tick path c.shared).2⟩, c.loops.set place (l.tick path c.shared).1⟩
  | .happen e => { c with team := { c.team with shared := e.apply c.shared } }

/-- Any turns in any order. -/
def after (path : String) (c : Crew) (turns : List Turn) : Crew := turns.foldl (turn path) c

/-- What all of a crew have counted in an account. -/
def counted (c : Crew) (a : Account) : Nat :=
  c.team.counted a + (c.loops.map fun l => a.counted l.summary).sum

/-- A turn that comes to a training step: a worker that is neither over nor about to write draws a
key, or a loop of live training finds the load busy. -/
def Trains (c : Crew) : Turn → Prop
  | .worker (.advance place draws _ _) => ∃ w, c.team.workers[place]? = some w ∧
      w.ended = false ∧ w.pending = none ∧ (drawKey draws c.shared.table).1.isSome = true
  | .tick place => place < c.loops.length ∧ c.shared.readings.load.isIdle = false
  | _ => False

/-- **One turn** keeps the accounts balanced. -/
theorem turn_balanced (path : String) (c : Crew) (t : Turn) (a : Account) :
    a.metric (c.turn path t).shared.metrics + c.counted a =
      a.metric c.shared.metrics + (c.turn path t).counted a := by
  cases t with
  | worker m =>
    have hteam := c.team.move_balanced path m a
    simp only [turn, shared, counted]
    omega
  | happen e => rfl
  | tick place =>
    simp only [turn]
    split
    next => rfl
    next l hl =>
      have hsum := sum_map_set (f := fun l => a.counted l.summary) hl (l.tick path c.shared).1
      have hstep := l.tick_balanced path c.shared a
      simp only [shared, counted, Team.counted] at hstep hsum ⊢
      omega

/-- **A run** keeps the accounts balanced. -/
theorem after_balanced (path : String) (c : Crew) (turns : List Turn) (a : Account) :
    a.metric (c.after path turns).shared.metrics + c.counted a =
      a.metric c.shared.metrics + (c.after path turns).counted a := by
  induction turns generalizing c with
  | nil => rfl
  | cons t rest ih =>
    have hturn := c.turn_balanced path t a
    have hrest := ih (c.turn path t)
    rw [after, List.foldl_cons]
    rw [after] at hrest
    omega

theorem start_counted (streams : List Draws) (loops : Nat) (s : Shared) (a : Account) :
    (start streams loops s).counted a = 0 := by
  have hnone : a.counted {} = 0 := by cases a <;> rfl
  simp [counted, Team.counted, start, Team.start, Function.comp_def, hnone]

/-- Over a full table nobody counts anything. -/
theorem turn_counted_of_full (path : String) {c : Crew} (full : c.shared.table.isFull = true) (t : Turn)
    (a : Account) : (c.turn path t).counted a = c.counted a := by
  cases t with
  | worker m =>
    have hteam := Team.move_counted_of_full path full m a
    simp only [turn, counted, hteam]
  | happen e => rfl
  | tick place =>
    simp only [turn]
    split
    next => rfl
    next l hl =>
      have hsum := sum_map_set (f := fun l => a.counted l.summary) hl (l.tick path c.shared).1
      have hstep := l.tick_counted_of_full path full a
      simp only [counted, Team.counted]
      omega

/-- A turn that comes to a training step leaves the size of the table in the gauge. -/
theorem turn_shows_size (path : String) {c : Crew} {t : Turn} (trains : c.Trains t) :
    (c.turn path t).shared.metrics.tableEntries = (c.turn path t).shared.table.size := by
  cases t with
  | worker m =>
    cases m with
    | advance place draws settings readings =>
      obtain ⟨w, hw, hended, hpending, hdrawn⟩ := trains
      have hfree : ¬(w.ended || w.pending.isSome) = true := by simp [hended, hpending]
      simp only [turn, shared, Team.move, Team.act, hw, if_neg hfree]
      exact advance_shows_size { w with draws } { c.shared with settings, readings } hdrawn
    | save | stop => cases trains
  | happen => cases trains
  | tick place =>
    obtain ⟨hplace, hbusy⟩ := trains
    simp only [turn, List.getElem?_eq_getElem hplace]
    exact Live.tick_shows_size path _ c.shared hbusy

/-- **The accounts add up.** However many workers and loops of live training work on a table,
whatever they draw, whatever is published and whichever settings come into effect, and however their
turns interleave: each counter of the metrics has grown by what the summaries say together, and a
search was counted for each insertion, duplicate key and miss. A turn that finds the table full
searches nothing and counts nothing, and one that comes to a training step leaves the size of the
table in the gauge. -/
theorem accounts_add_up (path : String) (streams : List Draws) (loops : Nat) (s : Shared)
    (turns : List Turn) :
    let c := (start streams loops s).after path turns
    (∀ a : Account, a.metric c.shared.metrics = a.metric s.metrics + c.counted a) ∧
      (c.shared.table.isFull = true → ∀ t (a : Account),
        a.metric (c.turn path t).shared.metrics = a.metric c.shared.metrics ∧
          (c.turn path t).counted a = c.counted a) ∧
      ∀ t, c.Trains t →
        (c.turn path t).shared.metrics.tableEntries = (c.turn path t).shared.table.size := by
  intro c
  refine ⟨fun a => ?_, fun hfull t a => ?_, fun t htrains => turn_shows_size path htrains⟩
  · have hbalanced := (start streams loops s).after_balanced path turns a
    rw [start_counted, Nat.add_zero] at hbalanced
    exact hbalanced
  · have hcounted := turn_counted_of_full path hfull t a
    have hbalanced := c.turn_balanced path t a
    rw [hcounted] at hbalanced
    exact ⟨Nat.add_right_cancel hbalanced, hcounted⟩

end Crew

end NetworkTuning.Training
