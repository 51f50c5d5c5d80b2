import NetworkTuning.Collection
import NetworkTuning.Proofs.TableFile.RoundTrip

/-!
# Table files that are collected

A collection writes its table file as it goes, so at any moment there is a text: the header and a
line for each profile with traffic that was sampled so far (`Collection.Tallied`). That is the text
of a table file, and hence it is read wherever it stands.

A collection may be of so many samples or of as many as it can take, each sample finds its own files
and programs, and between two samples the collection may be stopped (`Collector.collect`).
**One step** (`record_tallied`): a sample is told in the text and counted, in the rows or as one
without traffic. **A run** (`sampleOver_tallied`) tells and counts what was sampled, whatever its
end, and it comes to its end only when all its samples are taken. The course that the program
follows is such a run (`reached_course`).
-/

namespace NetworkTuning

/-- What a sample finds: the files as they stand, and the programs as they answer. -/
structure Moment where
  files : FileTree
  shell : Shell

namespace Collection

/-- How a collection ends: with the last of its samples, at a reading that failed, or because it was
stopped before its next sample. -/
inductive Ending where
  | complete
  | failed (cause : CollectionError)
  | stopped
  deriving DecidableEq

end Collection

namespace Collector

/-- One sample: the profile, and the collector that has taken it. -/
def sampleAt (interval : Nanoseconds) (c : Collector) (m : Moment) :
    Except ReadingError (Collector × Profile) :=
  let (later, _, answer) := c.sample m.files m.shell interval
  answer.map fun p => (later, p)

/-- The profiles sampled at moments, up to the first at which a reading fails. -/
def profiles (interval : Nanoseconds) : Collector → List Moment → List Profile
  | _, [] => []
  | c, m :: rest =>
    match c.sampleAt interval m with
    | .ok (later, p) => p :: later.profiles interval rest
    | .error _ => []

/-- Takes samples at moments until all that remain are taken, if their number is given, or until a
reading fails; after the last moment the collection is stopped. -/
def sampleOver (interval : Nanoseconds) :
    Collector → Option Nat → Collection → List Moment → Collection × Collection.Ending
  | _, some 0, written, _ => (written, .complete)
  | _, _, written, [] => (written, .stopped)
  | c, remaining, written, m :: rest =>
    match c.sampleAt interval m with
    | .ok (later, p) => later.sampleOver interval (remaining.map (· - 1)) (written.record p) rest
    | .error cause => (written, .failed (.laterReading cause))

/-- A collection from its first reading on, of so many samples or without end. -/
def collect (interval : Nanoseconds) (c : Collector) (first : FileTree) (count : Option Nat)
    (moments : List Moment) : Collection × Collection.Ending :=
  match c.prime first with
  | .error cause => (.opened, .failed (.firstReading cause))
  | .ok c => c.sampleOver interval count .opened moments

/-- The profiles that such a collection samples. -/
def collected (interval : Nanoseconds) (c : Collector) (first : FileTree) (count : Option Nat)
    (moments : List Moment) : List Profile :=
  match c.prime first with
  | .error _ => []
  | .ok c => c.profiles interval (count.elim moments moments.take)

end Collector

namespace Collection

/-- The profiles with traffic. -/
def withTraffic (profiles : List Profile) : List Profile :=
  profiles.filter fun p => p.transferRate ≠ 0

/-- What is written and counted is what was sampled. -/
structure Tallied (c : Collection) (sampled : List Profile) : Prop where
  text : c.text = TableFile.text (withTraffic sampled)
  rows : c.rows = (withTraffic sampled).length
  all : c.rows + c.idle = sampled.length

theorem opened_tallied : opened.Tallied [] :=
  ⟨by simp [opened, TableFile.text, withTraffic], rfl, rfl⟩

/-- One profile more is one line more. -/
theorem text_concat (profiles : List Profile) (p : Profile) :
    TableFile.text (profiles ++ [p]) = TableFile.text profiles ++ p.row ++ "\n" := by
  rw [← String.toList_inj]
  simp [TableFile.text, String.toList_join]

/-- **One step.** A sample is told and counted. -/
theorem record_tallied {c : Collection} {sampled : List Profile} (tallied : c.Tallied sampled)
    (p : Profile) : (c.record p).Tallied (sampled ++ [p]) := by
  have hall := tallied.all
  have hlength : (sampled ++ [p]).length = sampled.length + 1 := by simp
  unfold record
  by_cases hidle : p.transferRate = 0
  · have hsame : withTraffic (sampled ++ [p]) = withTraffic sampled := by
      simp [withTraffic, hidle]
    rw [if_pos hidle]
    refine ⟨hsame ▸ tallied.text, hsame ▸ tallied.rows, ?_⟩
    dsimp only
    omega
  · have hmore : withTraffic (sampled ++ [p]) = withTraffic sampled ++ [p] := by
      simp [withTraffic, hidle]
    rw [if_neg hidle]
    refine ⟨?_, ?_, ?_⟩
    · rw [hmore, text_concat, tallied.text]
    · simp [hmore, tallied.rows]
    · dsimp only
      omega

variable {interval : Nanoseconds}

/-- **A run** tells and counts what it samples, and is complete when it has sampled as many as were
asked for. -/
theorem sampleOver_tallied {c : Collector} {remaining : Option Nat} {written : Collection}
    {moments : List Moment} {sampled : List Profile} (tallied : written.Tallied sampled) :
    let run := c.sampleOver interval remaining written moments
    let more := c.profiles interval (remaining.elim moments moments.take)
    run.1.Tallied (sampled ++ more) ∧ (run.2 = .complete → remaining = some more.length) := by
  fun_induction c.sampleOver interval remaining written moments generalizing sampled with
  | case1 => simpa [Collector.profiles] using tallied
  | case2 c remaining written =>
    cases remaining with
    | none => simpa [Collector.profiles] using tallied
    | some n => simpa [Collector.profiles] using tallied
  | case3 c remaining written m rest hmore later p hsample ih =>
    have hrun := ih (record_tallied tallied p)
    match remaining with
    | none => simpa [Collector.profiles, hsample] using hrun
    | some 0 => exact absurd rfl hmore
    | some (n + 1) => simpa [Collector.profiles, hsample] using hrun
  | case4 c remaining written m rest hmore cause hsample =>
    have hnothing :
        c.profiles interval (remaining.elim (m :: rest) (List.take · (m :: rest))) = [] := by
      match remaining with
      | none => simp [Collector.profiles, hsample]
      | some 0 => exact absurd rfl hmore
      | some (n + 1) => simp [Collector.profiles, hsample]
    simpa [hnothing] using tallied

/-- A collection tells and counts what it samples, from its first reading on. -/
theorem collect_tallied (interval : Nanoseconds) (c : Collector) (first : FileTree)
    (count : Option Nat) (moments : List Moment) :
    let run := c.collect interval first count moments
    let sampled := c.collected interval first count moments
    run.1.Tallied sampled ∧ (run.2 = .complete → count = some sampled.length) := by
  unfold Collector.collect Collector.collected
  cases c.prime first with
  | error cause => exact ⟨opened_tallied, nofun⟩
  | ok primed => exact sampleOver_tallied opened_tallied

/-! ## The course that is followed -/

/-- Where a course stands after samples that found the files so. -/
def Course.reached : Course → List FileTree → Course
  | .waiting _ resume, files :: rest => (resume files).reached rest
  | c, _ => c

/-- What a course has come to; one that waits for its next sample may be stopped. -/
def Course.standing : Course → Collection × Ending
  | .ended c (.ok _) => (c, .complete)
  | .ended c (.error cause) => (c, .failed cause)
  | .waiting c _ => (c, .stopped)

/-- The same programs may answer at all moments. -/
theorem map_files (shell : Shell) (states : List FileTree) :
    (states.map fun files => (⟨files, shell⟩ : Moment)).map Moment.files = states := by
  simp [Function.comp_def]

theorem reached_sampling (shell : Shell) (states : List FileTree) (count : Nat) (c : Collector)
    (written : Collection) :
    ∃ moments : List Moment, moments.map Moment.files = states ∧
      ((sampling c shell interval written count).reached states).standing =
        c.sampleOver interval (some count) written moments := by
  induction states generalizing shell count c written with
  | nil =>
    refine ⟨[], rfl, ?_⟩
    cases count with
    | zero => simp [sampling, Course.reached, Course.standing, Collector.sampleOver]
    | succ count => simp [sampling, Course.reached, Course.standing, Collector.sampleOver]
  | cons files rest ih =>
    cases count with
    | zero =>
      refine ⟨_, map_files shell _, ?_⟩
      simp [sampling, Course.reached, Course.standing, Collector.sampleOver]
    | succ count =>
      rw [sampling, Course.reached]
      rcases hsample : c.sample files shell interval with ⟨later, shell', answer⟩
      cases answer with
      | error cause =>
        refine ⟨_, map_files shell _, ?_⟩
        simp [hsample, Course.reached, Course.standing, Collector.sampleOver, Collector.sampleAt,
          Except.map]
      | ok p =>
        obtain ⟨moments, hfiles, hrun⟩ := ih shell' count later (written.record p)
        refine ⟨⟨files, shell⟩ :: moments, by rw [List.map_cons, hfiles], ?_⟩
        simpa [Collector.sampleOver, Collector.sampleAt, hsample, Except.map] using hrun

/-- The course of a collection is a run over moments at which the programs have gone on from what
they were before. -/
theorem reached_course (c : Collector) (shell : Shell) (first : FileTree) (count : Nat)
    (states : List FileTree) :
    ∃ moments : List Moment, moments.map Moment.files = states ∧
      ((course c shell interval first count).reached states).standing =
        c.collect interval first (some count) moments := by
  unfold course Collector.collect
  cases c.prime first with
  | error cause =>
    refine ⟨_, map_files shell states, ?_⟩
    cases states <;> rfl
  | ok primed => exact reached_sampling shell states count primed opened

/-! ## The law -/

/-- **What was collected can be loaded, at any moment.** Whatever the files are and the programs
answer at the first reading and at each sample, of however many samples the collection is, and
whether it is complete, failed or was stopped: what it has written until then is read as a table
file, and gives the profiles with traffic that were sampled, in order, each with all its columns but
the share, which is what its text reads as. The rows that it counts are those, and a collection that
is complete has taken as many samples as it should, each of them as a row or as one without traffic.
The course that a collection of some number of samples follows is such a collection. -/
theorem collected_rows_load (interval : Nanoseconds) (c : Collector) (first : FileTree)
    (count : Option Nat) (moments : List Moment) :
    let run := c.collect interval first count moments
    let sampled := c.collected interval first count moments
    (∀ files path, files.read path = .ok (.text run.1.text) →
      ∃ read, TableFile.read files path = .ok read ∧
        List.Forall₂ Restored (sampled.filter fun p => p.transferRate ≠ 0) read ∧
        run.1.rows = read.length) ∧
      (run.2 = .complete → count = some (run.1.rows + run.1.idle)) ∧
      ∀ shell number states, ∃ moments : List Moment, moments.map Moment.files = states ∧
        ((course c shell interval first number).reached states).standing =
          c.collect interval first (some number) moments := by
  obtain ⟨tallied, hcomplete⟩ := collect_tallied interval c first count moments
  refine ⟨fun files path stands => ?_, fun h => ?_, fun shell number states => ?_⟩
  · rw [tallied.text] at stands
    obtain ⟨read, hread, back⟩ := TableFile.read_text stands
    exact ⟨read, hread, back, tallied.rows.trans back.length_eq⟩
  · rw [tallied.all]
    exact hcomplete h
  · exact reached_course c shell first number states

/-- The files of an interface that has received so many bytes, and nothing else. -/
def receivedFiles (bytes : String) : FileTree :=
  let counters := ["class", "net", "e", "statistics"]
  let directories := [["class"], ["class", "net"], ["class", "net", "e"], counters].map
    fun place => (place, Node.directory)
  let zeros := ["tx_bytes", "rx_errors", "tx_errors", "rx_dropped", "tx_dropped", "rx_fifo_errors",
    "tx_fifo_errors"].map fun name => (counters ++ [name], "0")
  let files := (["stat"], "cpu 1 0 1 8") :: (counters ++ ["rx_bytes"], bytes) :: zeros
  ⟨directories ++ files.map fun e => (e.1, .file (.text e.2))⟩

/-- A collection of one sample, before which 5000 bytes have been received. -/
def receivedOnce : Collection × Ending :=
  Collector.collect second { interface := "e", systemRoot := "", processRoot := "" }
    (receivedFiles "0") (some 1) [⟨receivedFiles "5000", {}⟩]

theorem receivedOnce_complete : receivedOnce.1.rows = 1 ∧ receivedOnce.2 = .complete := by
  decide +kernel

/-- One sample with traffic is one row. -/
theorem received_once_loads :
    let files : FileTree := ⟨[(["t.csv"], .file (.text receivedOnce.1.text))]⟩
    files.read "t.csv" = .ok (.text receivedOnce.1.text) ∧ receivedOnce.2 = .complete ∧
      1 = receivedOnce.1.rows + receivedOnce.1.idle ∧
      ∃ read, TableFile.read files "t.csv" = .ok read ∧ read.length = 1 := by
  have hplace (t : FileTree) : t.place "t.csv" = .ok ["t.csv"] := by
    have hnames : FileTree.names "t.csv" = ["t.csv"] := by decide +kernel
    have hfollow : t.follow [] ["t.csv"] = .ok ["t.csv"] := rfl
    rw [FileTree.place, if_neg (by decide +kernel), if_neg (by decide +kernel),
      if_neg (by decide +kernel), hnames]
    exact hfollow
  obtain ⟨hrows, hcomplete⟩ := receivedOnce_complete
  obtain ⟨hloads, hcount, -⟩ := collected_rows_load second
    { interface := "e", systemRoot := "", processRoot := "" } (receivedFiles "0") (some 1)
    [⟨receivedFiles "5000", {}⟩]
  rw [← receivedOnce] at hloads hcount
  intro files
  have hstands : files.read "t.csv" = .ok (.text receivedOnce.1.text) :=
    FileTree.read_of_node (hplace files) (by decide) (by simp [FileTree.node?, files])
  obtain ⟨read, hread, -, hlength⟩ := hloads files "t.csv" hstands
  exact ⟨hstands, hcomplete, Option.some.inj (hcount hcomplete), read, hread, hlength ▸ hrows⟩

end Collection

end NetworkTuning
