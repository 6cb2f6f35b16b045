import Lexicon.Proofs.NamedKinds
import Lexicon.Proofs.StoreFrame

/-!
# Runs of the Program

A run reads its arguments and performs at most one task, so it can end in five ways. The relation
`Ends` has one constructor for each of them, and `ends_run` says that every run ends in one of these
ways. What holds of all runs is then a matter of looking at five reports.

Two such facts are proved here. The exit code tells how the run ended: 2 if the arguments are at
fault, 1 if the command could not do its work, and 0 otherwise, and a run that does not end in 0
prints nothing. And writing the reference to a file touches nothing but that file and the
directories that lead to it, wherever it stops. The latter is a fact about trees of files, in which
a file that could be opened is always written: no run stops halfway through a file.

## Main definitions

* `Ends`: the ways in which a run can end.
* `Faulty`, `Unable`: arguments that are at fault, and commands that cannot do their work.

## Main results

* `ends_run`: every run ends in one of these ways.
* `Ends.exitCode_cases`: the three exit codes, and what each of them goes with.
* `run_errorText_eq_empty_iff`: a run is silent on standard error exactly when it ends in 0.
* `run_exitCode_contract`: **what an exit code says** about the arguments, the tree and the output.
* `run_vocab_frame`: **what writing the reference leaves alone.**
-/

namespace Lexicon

/-! ### How runs end -/

/-- How a **run ends**, given what its arguments were read as: with a report, and leaving a tree. -/
inductive Ends (level : Level) (tree : FileTree) :
    Except Stop Command → Report → FileTree → Prop
  /-- The arguments led to no command. -/
  | stopped (stop : Stop) : Ends level tree (.error stop) (.stopped stop) tree
  /-- A text was printed. -/
  | printed {command : Command} {text : String} {events : List Event} :
      command.task = .print text events →
      Ends level tree (.ok command) (.success text (visible level events)) tree
  /-- A name could not be rendered. -/
  | refused {name : String} {failure : Failure} :
      renderNamed name = .error failure →
      Ends level tree (.ok (.render name)) (.failed failure) tree
  /-- The reference was stored in a file. -/
  | stored {path : String} {tree' : FileTree} :
      tree.store (.ofString path) Reference.markdown = (none, tree') →
      Ends level tree (.ok (.vocab (some path)))
        (.success "" (visible level [.wroteReference path])) tree'
  /-- The reference could not be stored. -/
  | notStored {path : String} {e : Disk.StoreError} {tree' : FileTree} :
      tree.store (.ofString path) Reference.markdown = (some e, tree') →
      Ends level tree (.ok (.vocab (some path))) (.failed (.general e.message)) tree'

/-- Performing the task of storing the reference. -/
theorem run_perform_store (level : Level) (path : String) (tree : FileTree) :
    (perform FileTree.disk level (.store path)).run tree =
      match tree.store (.ofString path) Reference.markdown with
      | (none, tree') => (.success "" (visible level [.wroteReference path]), tree')
      | (some e, tree') => (.failed (.general e.message), tree') := by
  rw [perform, FileTree.run_bind, ← FileTree.store]
  rcases tree.store (.ofString path) Reference.markdown with ⟨_ | e, tree'⟩ <;> rfl

/-- **Every run ends in one of these ways.** -/
theorem ends_run (args : List String) (level : Level) (tree : FileTree) :
    Ends level tree (CommandLine.parse args) (run args level tree).1 (run args level tree).2 := by
  rw [run, runOn]
  rcases CommandLine.parse args with stop | command
  · exact .stopped stop
  · rcases command with (_ | path) | spellings | name
    · exact .printed rfl
    · change Ends level tree _ ((perform FileTree.disk level (.store path)).run tree).1
        ((perform FileTree.disk level (.store path)).run tree).2
      rw [run_perform_store]
      rcases h : tree.store (.ofString path) Reference.markdown with ⟨_ | e, tree'⟩
      · exact .stored h
      · exact .notStored h
    · exact .printed rfl
    · rcases h : renderNamed name with failure | line
      · have htask : (Command.render name).task = .fail failure := by rw [Command.task, h]
        simp only [htask]
        exact .refused h
      · have htask : (Command.render name).task = .print (unlines [line]) [] := by
          rw [Command.task, h]
        simp only [htask]
        exact .printed htask

/-! ### Exit codes -/

/-- The message of a file that could not be stored is never empty. -/
theorem Disk.StoreError.message_ne_empty (e : Disk.StoreError) : e.message ≠ "" := by
  cases e with
  | creating p fault =>
      change "Error creating " ++ p.text ++ ": " ++ fault.message ≠ ""
      simp [← String.toList_inj]
  | writing p fault =>
      change "Error writing " ++ p.text ++ ": " ++ fault.message ≠ ""
      simp [← String.toList_inj]

/-- A failure with a message is reported with exit code 1 and the message on a line. -/
theorem Report.failed_general {message : String} (h : message ≠ "") :
    Report.failed (.general message) = ⟨1, "", message ++ "\n", []⟩ := by
  rw [Report.failed, Failure.general, if_neg h]
  rfl

/-- The arguments are **at fault**: reading them stopped, and not to show help or the version. -/
def Faulty (parsed : Except Stop Command) : Prop :=
  ∃ stop, parsed = .error stop ∧ stop ≠ .version ∧ ∀ topic, stop ≠ .help topic

/-- The command **cannot do its work**: it is to render a name that is not the name of a kind
without a payload, or to write the reference to a path whose directory cannot be made or at which no
file can be written. -/
def Unable (tree : FileTree) (parsed : Except Stop Command) : Prop :=
  (∃ name, parsed = .ok (.render name) ∧
    ¬ ∃ k : Kind, k.tag ∉ Tag.payload ∧ k.tag.name = name) ∨
  ∃ path, parsed = .ok (.vocab (some path)) ∧
    ((tree.prepare (.ofString path)).1 ≠ none ∨
      ((tree.prepare (.ofString path)).2.writeFile (.ofString path) Reference.markdown).1 ≠ none)

/-- Arguments that name a command are not at fault. -/
theorem not_faulty_ok (command : Command) : ¬ Faulty (.ok command) := by
  simp [Faulty]

/-- Without a command there is no work to do. -/
theorem not_unable_error (tree : FileTree) (stop : Stop) : ¬ Unable tree (.error stop) := by
  simp [Unable]

/-- Rendering a name cannot be done exactly when it is refused. -/
theorem unable_render_iff {tree : FileTree} {name : String} :
    Unable tree (.ok (.render name)) ↔ ∃ failure, renderNamed name = .error failure := by
  rw [renderNamed_eq_error_iff]
  simp [Unable]

/-- Writing the reference cannot be done exactly when storing it fails. -/
theorem unable_vocab_iff {tree : FileTree} {path : String} :
    Unable tree (.ok (.vocab (some path))) ↔
      (tree.store (.ofString path) Reference.markdown).1 ≠ none := by
  rw [FileTree.fst_store_ne_none_iff]
  simp [Unable]

/-- A command that only prints can do its work. -/
theorem not_unable_of_task_eq_print {command : Command} {text : String} {events : List Event}
    (h : command.task = .print text events) (tree : FileTree) : ¬ Unable tree (.ok command) := by
  rcases command with (_ | path) | spellings | name
  · simp [Unable]
  · cases h
  · simp [Unable]
  · rw [unable_render_iff]
    rintro ⟨failure, hfailure⟩
    rw [Command.task, hfailure] at h
    cases h

/-- A text with a line in it is not empty. -/
theorem unlines_cons_ne_empty (line : String) (lines : List String) :
    unlines (line :: lines) ≠ "" := by
  simp [unlines, lineChars]

/-- Reading the arguments stops to show a text, or because they are at fault; the latter is
explained on standard error. -/
theorem Stop.exitCode_cases (stop : Stop) :
    (stop.exitCode = 0 ∧ stop.message = "" ∧ ¬ Faulty (.error stop)) ∨
      (stop.exitCode = 2 ∧ stop.text = "" ∧ stop.message ≠ "" ∧ Faulty (.error stop)) := by
  cases stop with
  | help topic => simp [Stop.exitCode, Stop.isDisplay, Stop.message, Faulty]
  | version => simp [Stop.exitCode, Stop.isDisplay, Stop.message, Faulty]
  | _ => exact .inr ⟨rfl, rfl, unlines_cons_ne_empty _ _, by simp [Faulty]⟩

/-- The three **exit codes**, with what each of them goes with. -/
theorem Ends.exitCode_cases {level : Level} {tree tree' : FileTree}
    {parsed : Except Stop Command} {report : Report} (h : Ends level tree parsed report tree') :
    (report.exitCode = 0 ∧ report.errorText = "" ∧ ¬ Faulty parsed ∧ ¬ Unable tree parsed) ∨
    (¬ Faulty parsed ∧ Unable tree parsed ∧
      ∃ message ≠ "", report = ⟨1, "", message ++ "\n", []⟩) ∨
    (report.exitCode = 2 ∧ report.errorText ≠ "" ∧ Faulty parsed ∧ ¬ Unable tree parsed ∧
      report.output = "" ∧ tree' = tree) := by
  cases h with
  | stopped stop =>
      have hunable := not_unable_error tree stop
      rcases stop.exitCode_cases with ⟨hcode, hmessage, hfault⟩ | ⟨hcode, htext, hmessage, hfault⟩
      · exact .inl ⟨hcode, hmessage, hfault, hunable⟩
      · exact .inr (.inr ⟨hcode, hmessage, hfault, hunable, htext, rfl⟩)
  | printed htask =>
      exact .inl ⟨rfl, rfl, not_faulty_ok _, not_unable_of_task_eq_print htask tree⟩
  | refused hname =>
      obtain ⟨message, hmessage, rfl⟩ := renderNamed_eq_error hname
      refine .inr (.inl ⟨not_faulty_ok _, unable_render_iff.mpr ⟨_, hname⟩, message, hmessage, ?_⟩)
      exact Report.failed_general hmessage
  | stored hstore =>
      refine .inl ⟨rfl, rfl, not_faulty_ok _, ?_⟩
      simp [unable_vocab_iff, hstore]
  | @notStored path e _ hstore =>
      refine .inr (.inl ⟨not_faulty_ok _, ?_, e.message, e.message_ne_empty, ?_⟩)
      · simp [unable_vocab_iff, hstore]
      · exact Report.failed_general e.message_ne_empty

/-- A run writes a message to standard error exactly when it does **not end in 0**. -/
theorem run_errorText_eq_empty_iff (args : List String) (level : Level) (tree : FileTree) :
    (run args level tree).1.errorText = "" ↔ (run args level tree).1.exitCode = 0 := by
  rcases (ends_run args level tree).exitCode_cases with
    ⟨hcode, htext, -⟩ | ⟨-, -, message, -, hreport⟩ | ⟨hcode, htext, -⟩
  · exact iff_of_true htext hcode
  · have hline : message ++ "\n" ≠ "" := by simp
    rw [hreport]
    exact iff_of_false hline (by decide : (1 : Int32) ≠ 0)
  · refine iff_of_false htext ?_
    rw [hcode]
    decide

/-- **What an exit code says.** Whatever the arguments, the level of the log and the tree are, a run
ends in 0, 1 or 2. It ends in 2 exactly when the arguments are at fault, and then the tree is as it
was. It ends in 1 exactly when the command cannot do its work, and then nothing is logged and the
error text is one message that is not empty, with a newline. Unless it ends in 0 it prints
nothing. -/
theorem run_exitCode_contract (args : List String) (level : Level) (tree : FileTree) :
    let report := (run args level tree).1
    let tree' := (run args level tree).2
    (report.exitCode = 0 ∨ report.exitCode = 1 ∨ report.exitCode = 2) ∧
    (report.exitCode = 2 ↔ Faulty (CommandLine.parse args)) ∧
    (report.exitCode = 1 ↔ Unable tree (CommandLine.parse args)) ∧
    (report.exitCode ≠ 0 → report.output = "") ∧
    (report.exitCode = 1 → report.logLines = [] ∧
      ∃ message ≠ "", report.errorText = message ++ "\n") ∧
    (report.exitCode = 2 → tree' = tree) := by
  intro report tree'
  have hends : Ends level tree (CommandLine.parse args) report tree' := ends_run args level tree
  rcases hends.exitCode_cases with
    ⟨hcode, -, hfault, hunable⟩ | ⟨hfault, hunable, message, hmessage, hreport⟩ |
    ⟨hcode, -, hfault, hunable, houtput, htree⟩
  · simp [hcode, hfault, hunable]
  · rw [hreport]
    refine ⟨.inr (.inl rfl), iff_of_false ?_ hfault, iff_of_true rfl hunable, fun _ => rfl,
      fun _ => ⟨rfl, message, hmessage, rfl⟩, fun hcode => ?_⟩
    · exact (by decide : (1 : Int32) ≠ 2)
    · exact absurd hcode (by decide : (1 : Int32) ≠ 2)
  · simp [hcode, hfault, hunable, houtput, htree]

/-! ### Writing the reference -/

/-- **What writing the reference leaves alone.** Take any arguments that ask for the reference to be
written to a path, any level of the log and any tree. The run ends in 0 or 1. If it ends in 0, the
path names a file that holds the reference. In either case every directory is still there, and every
file holds what it held, but for the file that the path names. Whatever is new is that file, if the
run ended in 0, or a directory that is reached along a proper leading part of the components of the
path. If it ended in 1, the files are exactly the files there were. -/
theorem run_vocab_frame {args : List String} {path : String}
    (hparse : CommandLine.parse args = .ok (.vocab (some path))) (level : Level)
    (tree : FileTree) :
    let p := Path.ofString path
    let report := (run args level tree).1
    let tree' := (run args level tree).2
    (report.exitCode = 0 ∨ report.exitCode = 1) ∧
    (report.exitCode = 0 → tree'.lookup? p = some (.file Reference.markdown)) ∧
    (∀ place, tree.at? place = some .dir → tree'.at? place = some .dir) ∧
    (∀ place contents, tree.at? place = some (.file contents) →
      tree'.target? p ≠ .ok (some place) → tree'.at? place = some (.file contents)) ∧
    (∀ place e, tree.at? place = none → tree'.at? place = some e →
      (report.exitCode = 0 ∧ tree'.target? p = .ok (some place) ∧ e = .file Reference.markdown) ∨
      (e = .dir ∧ ∃ part, part <+: p.components ∧ part ≠ p.components ∧
        tree'.walk (tree'.start p) part = .ok place)) ∧
    (report.exitCode = 1 → ∀ place contents,
      tree'.at? place = some (.file contents) ↔ tree.at? place = some (.file contents)) := by
  intro p report tree'
  have hends : Ends level tree (.ok (.vocab (some path))) report tree' :=
    hparse ▸ ends_run args level tree
  clear_value report tree'
  cases hends with
  | printed htask => cases htask
  | stored hstore =>
      obtain ⟨tree₁, target, hgrown, htarget, rfl⟩ := FileTree.exists_put_of_store_eq_none hstore
      have hkept := htarget.dirsKept_put Reference.markdown
      have hat := htarget.at?_put Reference.markdown
      refine ⟨.inl rfl, fun _ => htarget.lookup?_put _, ?_, ?_, ?_, fun hcode => ?_⟩
      · intro place hdir
        exact hkept.at?_dir (hgrown.at?_kept hdir)
      · intro place contents hfile hother
        rw [hat, if_neg, hgrown.at?_kept hfile]
        rintro rfl
        exact hother (htarget.target?_put _)
      · intro place e hnone hsome
        rw [hat] at hsome
        split at hsome
        next heq =>
          obtain rfl := heq
          exact .inl ⟨rfl, htarget.target?_put _, (Option.some.inj hsome).symm⟩
        next => exact .inr (FileTree.exists_walk_of_grown hgrown hkept hnone hsome)
      · exact absurd hcode (by decide : (0 : Int32) ≠ 1)
  | notStored hstore =>
      have hgrown := FileTree.grown_of_store_eq_some hstore
      refine ⟨.inr rfl, fun hcode => ?_, ?_, ?_, ?_, fun _ => ?_⟩
      · exact absurd hcode (by decide : (1 : Int32) ≠ 0)
      · intro place hdir
        exact hgrown.at?_kept hdir
      · intro place contents hfile _
        exact hgrown.at?_kept hfile
      · intro place e hnone hsome
        exact .inr (FileTree.exists_walk_of_grown hgrown (.refl _) hnone hsome)
      · intro place contents
        exact hgrown.at?_file_iff

/-- A path that climbs out of a directory which is missing: the directory is made, the file is
written beside it, and a file of the same name elsewhere is left alone. -/
theorem run_vocab_frame_climbing :
    let args := ["vocab", "--output", "ref/../docs//v.md"]
    let tree : FileTree :=
      (FileTree.put ⟨.empty, ["home"]⟩ ["home"] .dir).put ["home", "v.md"] (.file "old")
    CommandLine.parse args = .ok (.vocab (some "ref/../docs//v.md")) ∧
      (run args .info tree).1.exitCode = 0 ∧
      (run args .info tree).2.lookup? (.ofString "ref/../docs//v.md") =
        some (.file Reference.markdown) ∧
      (run args .info tree).2.at? ["home", "v.md"] = some (.file "old") := by
  intro args tree
  have hparse : CommandLine.parse args = .ok (.vocab (some "ref/../docs//v.md")) := by
    decide +kernel
  have hcode : (run args .info tree).1.exitCode = 0 := by decide +kernel
  have hother : (run args .info tree).2.target? (.ofString "ref/../docs//v.md") ≠
      .ok (some ["home", "v.md"]) := by decide +kernel
  obtain ⟨-, hwritten, -, hfiles, -⟩ := run_vocab_frame hparse .info tree
  exact ⟨hparse, hcode, hwritten hcode, hfiles _ _ rfl hother⟩

end Lexicon
