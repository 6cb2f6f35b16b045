import Lexicon.Proofs.LogLevels
import Lexicon.Proofs.ProgramRun

/-!
# A Run Can Be Repeated

Storing a file leaves a tree in which it can be stored again. The second time goes another way than
the first: no directory is missing any more, so every attempt to make one is refused because it is
there, which is fine; and at the place of the file stands a file, which is replaced. What the first
time has to leave behind for this is that the directory of the file can be reached, and that the
place of the file is not a directory. Both survive the writing of the file, since it takes no
directory away.

The contents do not matter for any of this. So storing a file over another one leaves the same tree
as storing it at once, entry for entry, and **storing the same file again changes nothing**.

## Main results

* `Assoc.insert_insert`, `FileTree.put_put`: the second of two insertions at a key decides.
* `FileTree.makeDirs_of_isDir`, `FileTree.isDir_of_makeDirs_eq_none`: making directories has
  nothing to do where there is one, and leaves one where it succeeds.
* `FileTree.store_store`: storing a file over another one.
* `run_run`: a run that has succeeded leaves a tree on which every run with the same arguments does
  what it would have done before.
* `run_idempotent`: **a run that has succeeded can be repeated** and changes nothing.
-/

namespace Lexicon

/-! ### Two entries at one place -/

namespace Assoc

variable {κ α : Type} [DecidableEq κ]

/-- The second of two insertions into a list of pairs decides. -/
theorem insertPair_insertPair (k : κ) (a b : α) (pairs : List (κ × α)) :
    insertPair k b (insertPair k a pairs) = insertPair k b pairs := by
  induction pairs with
  | nil => simp [insertPair]
  | cons p rest ih =>
      obtain ⟨k', a'⟩ := p
      by_cases h : k' = k
      · simp [insertPair, h]
      · simp [insertPair, h, ih]

/-- The second of two insertions at a key **decides**, and leaves no trace of the first. -/
theorem insert_insert (m : Assoc κ α) (k : κ) (a b : α) :
    (m.insert k a).insert k b = m.insert k b := by
  simp only [insert, insertPair_insertPair]

end Assoc

namespace FileTree

/-- The second of two entries that are put at a place decides. -/
theorem put_put (t : FileTree) (place : Place) (e e' : Entry) :
    (t.put place e).put place e' = t.put place e' := by
  simp only [put, Assoc.insert_insert]

/-! ### Directories that are there -/

variable {t t' : FileTree} {p : Path}

/-- A path is that of a directory exactly when it is not too long and leads to one. -/
theorem isDir_iff : t.isDir p = true ↔ isLongPath p = false ∧ ∃ place, t.resolve p = .ok place := by
  rw [isDir]
  cases isLongPath p <;> cases t.resolve p <;> simp [Except.isOk, Except.toBool]

/-- The path of a directory stays one as long as directories are kept. -/
theorem DirsKept.isDir_eq_true (h : DirsKept t t') (hdir : t.isDir p = true) :
    t'.isDir p = true := by
  obtain ⟨hlong, place, hresolve⟩ := isDir_iff.mp hdir
  exact isDir_iff.mpr ⟨hlong, place, h.resolve_eq_ok hresolve⟩

/-- A name that leads somewhere is not too long, and leads to a directory. -/
theorem at?_of_enter_eq_ok {place place' : Place} {segment : String}
    (hdots : isDots segment = false) (h : t.enter place segment = .ok place') :
    isLongName segment = false ∧ t.at? (place ++ [segment]) = some .dir := by
  simp only [isDots, Bool.or_eq_false_iff, decide_eq_false_iff_not] at hdots
  simp only [enter, hdots.1, hdots.2, Bool.false_eq_true, if_false] at h
  split at h
  next => cases h
  next hlong =>
    split at h
    next => cases h
    next => cases h
    next hdir => exact ⟨Bool.eq_false_iff.mpr hlong, hdir⟩

/-- A directory that is there is not made. -/
theorem makeDir_of_isDir (h : t.isDir p = true) :
    t.makeDir p = (some .alreadyExists, t) := by
  obtain ⟨hlong, place, hresolve⟩ := isDir_iff.mp h
  rw [resolve_eq_enter_last] at hresolve
  rcases hwalk : t.walk (t.start p) p.directories with fault | dir
  · rw [hwalk] at hresolve
    cases hresolve
  · rw [hwalk] at hresolve
    have htarget : t.target? p = .ok (if isDots p.last then none else some (dir ++ [p.last])) := by
      simp [target?, hlong, hwalk]
    cases hdots : isDots p.last with
    | true => simp [makeDir, htarget, hdots]
    | false =>
        obtain ⟨hname, hdir⟩ := at?_of_enter_eq_ok hdots hresolve
        simp [makeDir, htarget, hdots, hname, hdir]

/-- Making a directory and those above it has **nothing to do where there is one**. -/
theorem makeDirs_of_isDir (h : t.isDir p = true) : t.makeDirs p = (none, t) := by
  have hcode : Fault.alreadyExists.code ≠ Fault.missing.code := by decide
  rw [makeDirs_eq, makeDir_of_isDir h]
  simp [hcode, h]

/-- A directory that was made is there. -/
theorem isDir_of_makeDir_eq_none (h : t.makeDir p = (none, t')) : t'.isDir p = true := by
  have hgrown : Grown (fun q => q = p) t (t.makeDir p).2 := t.grown_makeDir rfl
  rcases t.makeDir_cases p with ⟨fault, hfault⟩ | ⟨place, htarget, -, hfree, hmade⟩
  · rw [hfault] at h
    cases h
  · rw [hmade] at h hgrown
    cases h
    have hput := t.at?_put (ne_nil_of_target? htarget) .dir place
    rw [if_pos rfl] at hput
    obtain ⟨-, q, rfl, hresolve⟩ := hgrown.at?_new hfree hput
    obtain ⟨hlong, -⟩ := target?_eq_ok_some_iff.mp htarget
    exact isDir_iff.mpr ⟨hlong, place, hresolve⟩

/-- An attempt to make a directory is successful if a directory is there afterwards. -/
theorem isDir_of_attempt {fault : Fault}
    (h : (if t.isDir p then none else some fault, t) = ((none : Option Fault), t')) :
    t'.isDir p = true := by
  obtain ⟨hnone, rfl⟩ := Prod.mk.inj h
  by_contra hdir
  rw [if_neg hdir] at hnone
  cases hnone

/-- Making a directory and those above it **leaves one where it succeeds**. -/
theorem isDir_of_makeDirs_eq_none (h : t.makeDirs p = (none, t')) : t'.isDir p = true := by
  rw [makeDirs_eq] at h
  rcases hfirst : t.makeDir p with ⟨_ | fault, t₁⟩
  · rw [hfirst] at h
    obtain ⟨-, rfl⟩ := Prod.mk.inj h
    exact isDir_of_makeDir_eq_none hfirst
  · rw [hfirst] at h
    by_cases hmissing : fault.code ≠ Fault.missing.code
    · simp only [if_pos hmissing] at h
      exact isDir_of_attempt h
    · simp only [if_neg hmissing] at h
      rcases hparent : p.parent? with _ | q
      · rw [hparent] at h
        cases h
      · -- The directories above were made first; the second attempt decides.
        rw [hparent] at h
        dsimp only at h
        rcases habove : t₁.makeDirs q with ⟨_ | fault', t₂⟩
        · rw [habove] at h
          dsimp only at h
          rcases hsecond : t₂.makeDir p with ⟨_ | fault', t₃⟩
          · rw [hsecond] at h
            obtain ⟨-, rfl⟩ := Prod.mk.inj h
            exact isDir_of_makeDir_eq_none hsecond
          · rw [hsecond] at h
            exact isDir_of_attempt h
        · rw [habove] at h
          cases h

/-- A file whose directory was made **needs no directory** any more, as long as directories are
kept. -/
theorem prepare_of_dirsKept {t₁ : FileTree} (h : t.prepare p = (none, t₁))
    (hkept : DirsKept t₁ t') : t'.prepare p = (none, t') := by
  rcases hp : p.parent? with _ | q
  · exact t'.prepare_of_parent?_none hp
  · rw [t.prepare_of_parent?_some hp] at h
    rw [t'.prepare_of_parent?_some hp]
    exact makeDirs_of_isDir (hkept.isDir_eq_true (isDir_of_makeDirs_eq_none h))

/-! ### Writing over a file -/

/-- Where a file can be written, it is written. -/
theorem Writable.writeFile_eq {place : Place} (h : t.Writable p place) (contents : String) :
    t.writeFile p contents = (none, t.put place (.file contents)) := by
  simp only [writeFile, h.target?_eq, h.endsInSlash_eq, h.isLongName_eq, Bool.false_eq_true,
    if_false]
  split
  next hdir => exact absurd hdir h.at?_ne_dir
  next => rfl

/-- Where a file was written, a file can be written again. -/
theorem Writable.writable_put {place : Place} (h : t.Writable p place) (contents : String) :
    (t.put place (.file contents)).Writable p place := by
  refine ⟨h.target?_put contents, h.endsInSlash_eq, h.isLongName_eq, ?_⟩
  rw [h.at?_put, if_pos rfl]
  rintro ⟨⟩

/-- Storing a file **over another one** is like storing it at once. -/
theorem store_store {contents : String} (h : t.store p contents = (none, t'))
    (contents' : String) : t'.store p contents' = t.store p contents' := by
  rcases t.store_cases p contents with
    ⟨q, fault, -, hstore⟩ | ⟨fault, -, -, hstore⟩ | ⟨place, hfst, -, hplace, hstore⟩
  · rw [hstore] at h
    cases h
  · rw [hstore] at h
    cases h
  · rw [hstore] at h
    obtain ⟨-, rfl⟩ := Prod.mk.inj h
    have hprepare : t.prepare p = (none, (t.prepare p).2) := Prod.ext hfst rfl
    have hagain := prepare_of_dirsKept hprepare (hplace.dirsKept_put contents)
    rw [store_of_prepare_none hagain, store_of_prepare_none hprepare,
      (hplace.writable_put contents).writeFile_eq, hplace.writeFile_eq, put_put]

end FileTree

/-! ### Runs -/

/-- Arguments that ask for the reference to be written to a file come to storing it there. -/
theorem run_of_parse_vocab {args : List String} {path : String}
    (hparse : CommandLine.parse args = .ok (.vocab (some path))) (level : Level)
    (tree : FileTree) :
    run args level tree =
      match tree.store (.ofString path) Reference.markdown with
      | (none, tree') => (.success "" (visible level [.wroteReference path]), tree')
      | (some e, tree') => (.failed (.general e.message), tree') := by
  rw [run, runOn, hparse]
  exact run_perform_store level path tree

/-- On the tree that a **successful run** has left, every run with the same arguments does what it
would have done before. -/
theorem run_run {args : List String} {level : Level} {tree : FileTree}
    (hexit : (run args level tree).1.exitCode = 0) (level' : Level) :
    run args level' (run args level tree).2 = run args level' tree := by
  have hends := ends_run args level tree
  generalize hparse : CommandLine.parse args = parsed at hends
  generalize (run args level tree).1 = report at hends hexit
  generalize (run args level tree).2 = tree' at hends
  cases hends with
  | stopped stop => rfl
  | printed htask => rfl
  | refused hname => rfl
  | stored hstore =>
      rw [run_of_parse_vocab hparse, run_of_parse_vocab hparse, FileTree.store_store hstore]
  | notStored hstore => exact absurd hexit (by decide : (1 : Int32) ≠ 0)

/-- A run that wrote the reference to a file **left it there**. -/
theorem lookup?_of_exitCode_eq_zero {args : List String} {path : String}
    (hparse : CommandLine.parse args = .ok (.vocab (some path))) {level : Level}
    {tree : FileTree} (hexit : (run args level tree).1.exitCode = 0) :
    (run args level tree).2.lookup? (.ofString path) = some (.file Reference.markdown) := by
  rw [run_of_parse_vocab hparse] at hexit ⊢
  rcases hstore : tree.store (.ofString path) Reference.markdown with ⟨_ | e, tree'⟩
  · obtain ⟨tree₁, place, -, hplace, rfl⟩ := FileTree.exists_put_of_store_eq_none hstore
    exact hplace.lookup?_put Reference.markdown
  · rw [hstore] at hexit
    exact absurd hexit (by decide : (1 : Int32) ≠ 0)

/-- **A run that has succeeded can be repeated.** Take any arguments, in particular those that ask
for the reference to be written to a path, any tree and any two levels of the log. If the run ends
in 0, then the same run on the tree that it has left ends in 0 as well, and leaves that tree exactly
as it is; and if the reference was to be written, the path names a file that holds it, so there was
something to repeat. -/
theorem run_idempotent {args : List String} {level : Level} {tree : FileTree}
    (hexit : (run args level tree).1.exitCode = 0) (level' : Level) :
    let tree' := (run args level tree).2
    (run args level' tree').1.exitCode = 0 ∧
    (run args level' tree').2 = tree' ∧
    ∀ path, CommandLine.parse args = .ok (.vocab (some path)) →
      tree'.lookup? (.ofString path) = some (.file Reference.markdown) := by
  intro tree'
  -- Neither the exit code nor the tree depends on the level.
  have hcode : (run args level' tree).1.exitCode = (run args level tree).1.exitCode := by
    rw [run_eq_atLevel args level', run_eq_atLevel args level]
    rfl
  have htree : (run args level' tree).2 = tree' := by
    change _ = (run args level tree).2
    rw [run_eq_atLevel args level', run_eq_atLevel args level]
  refine ⟨?_, ?_, fun path hparse => lookup?_of_exitCode_eq_zero hparse hexit⟩
  · rw [run_run hexit, hcode, hexit]
  · rw [run_run hexit, htree]

/-- A path that climbs out of a missing directory and leads to an old file: the first run makes the
directory and replaces the file, the second does neither. -/
theorem run_idempotent_climbing :
    let args := ["vocab", "--output", "ref/../docs//./v.md"]
    let tree : FileTree :=
      (FileTree.empty.put ["docs"] .dir).put ["docs", "v.md"] (.file "old")
    let tree' := (run args .info tree).2
    (run args .info tree).1.exitCode = 0 ∧ (run args .debug tree').1.exitCode = 0 ∧
      (run args .debug tree').2 = tree' := by
  intro args tree tree'
  have hexit : (run args .info tree).1.exitCode = 0 := by decide +kernel
  obtain ⟨hagain, hsame, -⟩ := run_idempotent hexit .debug
  exact ⟨hexit, hagain, hsame⟩

end Lexicon
