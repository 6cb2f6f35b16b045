import Mathlib.Data.List.Flatten
import Lexicon.Proofs.Description

/-!
# What the Log Level Changes

The log level decides which events are written, and nothing else. The reason is a single equation:
a run at any level is **the run at the finest level, with the other events left out of its report**.
It holds for every task on every disk, and so for the program on the disk of a machine as well as on
a tree of files.

So two runs at different levels print the same, fail with the same message and leave the same tree,
and what a coarser level logs is what a finer level logs with some lines missing. How much is
missing is seen on the command that classifies spellings. Describing a spelling reports one event
whichever way it goes, so from the level of these events on, the command logs one line for each
spelling, in order.

## Main definitions

* `Report.atLevel`: a report with the events that a level lets through.
* `eventOf`: the event that a spelling is reported by.

## Main results

* `visible_visible`, `visible_sublist`: a coarser level lets through a part of what a finer one
  does.
* `perform_eq_atLevel`, `runOn_eq_atLevel`, `run_eq_atLevel`: a run at a level is the finest run,
  filtered.
* `events_description`: describing a spelling reports one event.
* `logLines_eventOf`: described spellings are logged on one line each.
* `run_log_noninterference`: **logging does not interfere** with what a run does.
-/

namespace Lexicon

/-! ### Coarser and finer levels -/

/-- The finest level lets everything through. -/
theorem visible_trace (events : List Event) : visible .trace events = events := by
  refine List.filter_eq_self.mpr fun e _ => ?_
  cases e <;> rfl

/-- What a finer level leaves out, a coarser one leaves out too. -/
theorem visible_visible {l₁ l₂ : Level} (h : l₁.detail ≤ l₂.detail) (events : List Event) :
    visible l₁ (visible l₂ events) = visible l₁ events := by
  rw [visible, visible, visible, List.filter_filter]
  refine List.filter_congr fun e _ => ?_
  rw [← Bool.decide_and, decide_eq_decide]
  omega

/-- A coarser level lets through **a part** of what a finer one does, in the same order. -/
theorem visible_sublist {l₁ l₂ : Level} (h : l₁.detail ≤ l₂.detail) (events : List Event) :
    (visible l₁ events).Sublist (visible l₂ events) := by
  rw [← visible_visible h]
  exact List.filter_sublist

/-! ### Runs at a level -/

namespace Report

/-- A report with the events that a **level** lets through. -/
def atLevel (level : Level) (r : Report) : Report :=
  { r with events := visible level r.events }

/-- The finest report of a success, at a level. -/
theorem atLevel_success (level : Level) (output : String) (events : List Event) :
    (success output (visible .trace events)).atLevel level =
      success output (visible level events) := by
  rw [visible_trace]
  rfl

/-- A failure logs nothing at any level. -/
@[simp] theorem atLevel_failed (level : Level) (f : Failure) :
    (failed f).atLevel level = failed f := rfl

/-- Arguments that lead to no command log nothing at any level. -/
@[simp] theorem atLevel_stopped (level : Level) (s : Stop) :
    (stopped s).atLevel level = stopped s := rfl

end Report

section

variable {m : Type → Type} [Monad m] [LawfulMonad m]

/-- Performing a task at a level is performing it at the finest level, **filtered**; the steps that
are taken on the disk are the same. -/
theorem perform_eq_atLevel (disk : Disk m) (level : Level) (task : Task) :
    perform disk level task = Report.atLevel level <$> perform disk .trace task := by
  cases task with
  | print text events => rw [perform, perform, map_pure, Report.atLevel_success]
  | store path =>
      rw [perform, perform, map_bind]
      refine bind_congr fun outcome => ?_
      cases outcome with
      | none => simp only [map_pure, Report.atLevel_success]
      | some e => simp only [map_pure, Report.atLevel_failed]
  | fail failure => rw [perform, perform, map_pure, Report.atLevel_failed]

/-- The program at a level is the program at the finest level, filtered, on every disk. -/
theorem runOn_eq_atLevel (disk : Disk m) (level : Level) (args : List String) :
    runOn disk level args = Report.atLevel level <$> runOn disk .trace args := by
  rw [runOn, runOn]
  cases CommandLine.parse args with
  | error stop => simp only [map_pure, Report.atLevel_stopped]
  | ok command => exact perform_eq_atLevel disk level command.task

end

/-- **A run at a level is the run at the finest level, filtered**, and it leaves the same tree. -/
theorem run_eq_atLevel (args : List String) (level : Level) (tree : FileTree) :
    run args level tree =
      ((run args .trace tree).1.atLevel level, (run args .trace tree).2) := by
  rw [run, runOn_eq_atLevel]
  rfl

/-! ### Described spellings -/

/-- The event that a **spelling** is reported by. -/
def eventOf (s : String) : Event :=
  match classify s with
  | .whole k => .classified s k.tag
  | .perByte _ => .classifiedPerByte s

/-- Describing a spelling reports **one event**, whichever way it goes. -/
theorem events_description (s : String) : (description s).events = [eventOf s] := by
  cases h : classify s <;> simp only [description, eventOf, h]

/-- The events of a spelling are all at the level of debugging. -/
theorem level_eventOf (s : String) : (eventOf s).level = .debug := by
  rw [eventOf]
  split <;> rfl

/-- Describing several spellings reports one event for each of them, in order. -/
theorem flatMap_events_description (spellings : List String) :
    (spellings.flatMap fun s => (description s).events) = spellings.map eventOf := by
  simp only [events_description, List.map_eq_flatMap]

/-- From the level of debugging on, every spelling that is described is logged. -/
theorem visible_eventOf {level : Level} (h : Level.debug.detail ≤ level.detail)
    (spellings : List String) :
    visible level (spellings.map eventOf) = spellings.map eventOf := by
  refine List.filter_eq_self.mpr fun e he => ?_
  obtain ⟨s, -, rfl⟩ := List.mem_map.mp he
  rw [level_eventOf]
  exact decide_eq_true h

/-- The event of a spelling stays on one line. -/
theorem newline_notMem_text_eventOf (s : String) : '\n' ∉ (eventOf s).text.toList := by
  -- The equation lemma of the texts is slow to make, so the definition is opened by itself.
  delta Event.text eventOf
  cases classify s <;> simp [newline_notMem_quote]

/-- Described spellings are logged on **one line each**, in order. -/
theorem logLines_eventOf (spellings : List String) :
    (spellings.map eventOf).flatMap (fun e => splitLines e.text) =
      spellings.map fun s => (eventOf s).text := by
  induction spellings with
  | nil => rfl
  | cons s spellings ih =>
      have hline : splitLines (eventOf s).text = [(eventOf s).text] := by
        rw [splitLines, List.splitOn_eq_singleton (newline_notMem_text_eventOf s),
          List.map_singleton, String.ofList_toList]
      rw [List.map_cons, List.flatMap_cons, ih, hline]
      rfl

/-! ### Two runs -/

/-- **Logging does not interfere with what a run does.** Whatever the arguments and the tree are,
runs at two levels end in the same exit code, print the same text, report the same error and leave
the same tree, and the lines that the coarser one logs are among those of the finer one, in the same
order. From the level of debugging on, classifying spellings succeeds with exactly one event for
each of them, in order, each on a line of its own. -/
theorem run_log_noninterference (args : List String) (tree : FileTree) :
    (∀ l₁ l₂ : Level, l₁.detail ≤ l₂.detail →
      (run args l₁ tree).1.exitCode = (run args l₂ tree).1.exitCode ∧
      (run args l₁ tree).1.output = (run args l₂ tree).1.output ∧
      (run args l₁ tree).1.errorText = (run args l₂ tree).1.errorText ∧
      (run args l₁ tree).2 = (run args l₂ tree).2 ∧
      (run args l₁ tree).1.logLines.Sublist (run args l₂ tree).1.logLines) ∧
    ∀ (level : Level) (spellings : List String),
      Level.debug.detail ≤ level.detail →
      CommandLine.parse args = .ok (.classify spellings) →
      (run args level tree).1.exitCode = 0 ∧
      (run args level tree).1.events = spellings.map eventOf ∧
      (run args level tree).1.logLines = spellings.map fun s => (eventOf s).text := by
  constructor
  · intro l₁ l₂ h
    rw [run_eq_atLevel args l₁, run_eq_atLevel args l₂]
    refine ⟨rfl, rfl, rfl, rfl, ?_⟩
    exact (visible_sublist h _).flatMap _
  · intro level spellings hlevel hparse
    have hrun : (run args level tree).1 = .success (classifyText spellings)
        (visible level (spellings.flatMap fun s => (description s).events)) := by
      rw [run, runOn, hparse]
      rfl
    rw [hrun, flatMap_events_description, visible_eventOf hlevel]
    exact ⟨rfl, rfl, logLines_eventOf spellings⟩

end Lexicon
