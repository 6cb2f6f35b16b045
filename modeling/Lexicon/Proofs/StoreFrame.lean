import Lexicon.Proofs.TreeWalk

/-!
# What Storing a File Does to a Tree

Storing a file goes in steps. Each step either fails and leaves the tree as it is, or puts a single
entry at a place: a directory where there was nothing, or at the end the file where there was no
directory. `FileTree.makeDir_cases` and `FileTree.writeFile_cases` say so once, and everything
below follows from them.

While directories are made the tree only **grows**: what is new is a directory, and it is one that a
leading part of the path names. Growth composes, so the recursion that makes missing directories
from the top down is followed by an induction on the path.

## Main definitions

* `FileTree.Grown`: a tree with new directories and no other change.
* `FileTree.Writable`: a path at which a file can be written, and the place that it names.
* `FileTree.prepare`: making the directory of a file, the first part of storing it.

## Main results

* `FileTree.makeDirs_eq`: making a directory and those above it, as an equation on trees.
* `FileTree.grown_makeDirs`, `FileTree.grown_prepare`: making directories lets a tree grow.
* `FileTree.store_cases`: all that storing a file can do.
* `FileTree.fst_store_ne_none_iff`: storing a file fails exactly when one of its two parts does.
* `FileTree.grown_of_store_eq_some`, `FileTree.exists_put_of_store_eq_none`: the trees that are
  left.
* `FileTree.Writable.dirsKept_put`, `FileTree.Writable.lookup?_put`: writing a file takes no
  directory away, and its path names the file afterwards.
-/

namespace Lexicon

namespace FileTree

/-! ### Single steps -/

/-- Making a directory fails and changes nothing, or puts a directory where there was nothing. -/
theorem makeDir_cases (t : FileTree) (p : Path) :
    (∃ fault, t.makeDir p = (some fault, t)) ∨
      ∃ place, t.target? p = .ok (some place) ∧ isLongName p.last = false ∧
        t.at? place = none ∧ t.makeDir p = (none, t.put place .dir) := by
  unfold makeDir
  split
  next fault _ => exact .inl ⟨fault, rfl⟩
  next => exact .inl ⟨_, rfl⟩
  next place htarget =>
    split
    next => exact .inl ⟨_, rfl⟩
    next hlong =>
      split
      next => exact .inl ⟨_, rfl⟩
      next hfree => exact .inr ⟨place, htarget, Bool.eq_false_iff.mpr hlong, hfree, rfl⟩

/-- A file **can be written** at a path: the path names a place with a name, and no directory is in
the way. -/
structure Writable (t : FileTree) (p : Path) (place : Place) : Prop where
  /-- The directories before the name are there. -/
  target?_eq : t.target? p = .ok (some place)
  /-- The path is not written like that of a directory. -/
  endsInSlash_eq : p.endsInSlash = false
  /-- The name is not too long. -/
  isLongName_eq : isLongName p.last = false
  /-- There is no directory at the place. -/
  at?_ne_dir : t.at? place ≠ some .dir

/-- Writing a file fails and changes nothing, or puts the file at the place of its path. -/
theorem writeFile_cases (t : FileTree) (p : Path) (contents : String) :
    (∃ fault, t.writeFile p contents = (some fault, t)) ∨
      ∃ place, t.Writable p place ∧
        t.writeFile p contents = (none, t.put place (.file contents)) := by
  unfold writeFile
  split
  next fault _ => exact .inl ⟨fault, rfl⟩
  next => exact .inl ⟨_, rfl⟩
  next place htarget =>
    split
    next => exact .inl ⟨_, rfl⟩
    next hslash =>
      split
      next => exact .inl ⟨_, rfl⟩
      next hlong =>
        split
        next => exact .inl ⟨_, rfl⟩
        next hdir =>
          refine .inr ⟨place, ⟨htarget, ?_, ?_, hdir⟩, rfl⟩
          · exact Bool.eq_false_iff.mpr hslash
          · exact Bool.eq_false_iff.mpr hlong

/-! ### Growth -/

/-- A tree has **grown**: all that stood in it still stands there, and whatever is new is a
directory to which one of the given paths leads. -/
structure Grown (parts : Path → Prop) (t t' : FileTree) : Prop where
  /-- The working directory is the same. -/
  working_eq : t'.working = t.working
  /-- Nothing is lost or changed. -/
  at?_kept : ∀ {place : Place} {e : Entry}, t.at? place = some e → t'.at? place = some e
  /-- What is new is a directory that one of the paths names. -/
  at?_new : ∀ {place : Place} {e : Entry}, t.at? place = none → t'.at? place = some e →
    e = .dir ∧ ∃ q, parts q ∧ t'.resolve q = .ok place

namespace Grown

variable {parts : Path → Prop} {t t' t'' : FileTree}

/-- Growth keeps directories. -/
theorem dirsKept (h : Grown parts t t') : DirsKept t t' :=
  ⟨h.working_eq, h.at?_kept⟩

/-- A tree that stays as it is has grown by nothing. -/
theorem refl (parts : Path → Prop) (t : FileTree) : Grown parts t t :=
  ⟨rfl, id, fun hnone hsome => absurd (hnone.symm.trans hsome) (Option.some_ne_none _).symm⟩

/-- Growth composes: a directory that is new after the first part still has its name after the
second. -/
theorem trans (h : Grown parts t t') (h' : Grown parts t' t'') : Grown parts t t'' := by
  refine ⟨h'.working_eq.trans h.working_eq, fun he => h'.at?_kept (h.at?_kept he), ?_⟩
  intro place e hnone hsome
  rcases hmid : t'.at? place with _ | e'
  · exact h'.at?_new hmid hsome
  · obtain rfl : e' = e := Option.some.inj ((h'.at?_kept hmid).symm.trans hsome)
    obtain ⟨hdir, q, hq, hresolve⟩ := h.at?_new hnone hmid
    exact ⟨hdir, q, hq, h'.dirsKept.resolve_eq_ok hresolve⟩

/-- Growth **touches no file**: the files are the same before and after. -/
theorem at?_file_iff (h : Grown parts t t') {place : Place} {contents : String} :
    t'.at? place = some (.file contents) ↔ t.at? place = some (.file contents) := by
  refine ⟨fun hafter => ?_, h.at?_kept⟩
  rcases hbefore : t.at? place with _ | e
  · obtain ⟨hdir, -⟩ := h.at?_new hbefore hafter
    cases hdir
  · exact (h.at?_kept hbefore).symm.trans hafter

end Grown

/-- Making a directory lets the tree grow. -/
theorem grown_makeDir {parts : Path → Prop} (t : FileTree) {p : Path} (hp : parts p) :
    Grown parts t (t.makeDir p).2 := by
  rcases t.makeDir_cases p with ⟨fault, h⟩ | ⟨place, htarget, hlong, hfree, h⟩
  · rw [h]
    exact .refl parts t
  · rw [h]
    have hput := t.at?_put (ne_nil_of_target? htarget) .dir
    have hkept {place' : Place} {e : Entry} (he : t.at? place' = some e) :
        (t.put place .dir).at? place' = some e := by
      rw [hput, if_neg, he]
      rintro rfl
      exact Option.some_ne_none e (he.symm.trans hfree)
    refine ⟨rfl, hkept, fun {place' e} hnone hsome => ?_⟩
    -- Only the place of the new directory was free before and is not free now.
    rw [hput] at hsome
    split at hsome
    next heq =>
      obtain rfl := heq
      have hdirs : DirsKept t (t.put place .dir) := ⟨rfl, hkept⟩
      refine ⟨(Option.some.inj hsome).symm, p, hp, ?_⟩
      refine resolve_of_target?_dir (hdirs.target?_eq_ok_some htarget) hlong ?_
      rw [hput, if_pos rfl]
    next => exact absurd (hnone.symm.trans hsome) (Option.some_ne_none e).symm

/-! ### Missing directories -/

/-- What follows a step on a tree runs on the tree that the step leaves. -/
theorem run_bind {α β : Type} (x : StateM FileTree α) (f : α → StateM FileTree β) (t : FileTree) :
    (x >>= f).run t = (f (x.run t).1).run (x.run t).2 := rfl

/-- Making a directory and those above it, as an equation on trees. -/
theorem makeDirs_eq (t : FileTree) (p : Path) : t.makeDirs p =
    match t.makeDir p with
    | (none, t₁) => (none, t₁)
    | (some fault, t₁) =>
      if fault.code ≠ Fault.missing.code then (if t₁.isDir p then none else some fault, t₁)
      else match p.parent? with
        | none => (some fault, t₁)
        | some q =>
          match t₁.makeDirs q with
          | (some fault', t₂) => (some fault', t₂)
          | (none, t₂) =>
            match t₂.makeDir p with
            | (none, t₃) => (none, t₃)
            | (some fault', t₃) => (if t₃.isDir p then none else some fault', t₃) := by
  have hstep (t : FileTree) : (disk.makeDir p).run t = t.makeDir p := rfl
  rw [makeDirs, Disk.makeDirs, run_bind, hstep]
  rcases t.makeDir p with ⟨_ | fault, t₁⟩
  · rfl
  · by_cases hmissing : fault.code ≠ Fault.missing.code
    · simp only [if_pos hmissing]
      rfl
    · simp only [if_neg hmissing]
      split
      next hp =>
        rw [hp]
        rfl
      next q hp =>
        rw [hp, run_bind, ← makeDirs]
        dsimp only
        rcases t₁.makeDirs q with ⟨_ | fault', t₂⟩
        · dsimp only
          rw [run_bind, hstep]
          rcases t₂.makeDir p with ⟨_ | fault', t₃⟩ <;> rfl
        · rfl

/-- The tree that is left was reached by one attempt, or by making the parent first and then by
another attempt or none. -/
theorem snd_makeDirs_cases (t : FileTree) (p : Path) :
    (t.makeDirs p).2 = (t.makeDir p).2 ∨
      ∃ q, p.parent? = some q ∧
        ((t.makeDirs p).2 = (t.makeDirs q).2 ∨
          (t.makeDirs p).2 = ((t.makeDirs q).2.makeDir p).2) := by
  rcases t.makeDir_cases p with ⟨fault, h⟩ | ⟨place, -, -, -, h⟩
  · rw [makeDirs_eq, h]
    by_cases hmissing : fault.code ≠ Fault.missing.code
    · exact .inl (by simp only [if_pos hmissing])
    · simp only [if_neg hmissing]
      rcases hp : p.parent? with _ | q
      · exact .inl rfl
      · refine .inr ⟨q, rfl, ?_⟩
        dsimp only
        rcases t.makeDirs q with ⟨_ | fault', t₂⟩
        · refine .inr ?_
          dsimp only
          rcases t₂.makeDir p with ⟨_ | fault', t₃⟩ <;> rfl
        · exact .inl rfl
  · exact .inl (by rw [makeDirs_eq, h])

/-- Making a directory **and those above it** lets the tree grow, by directories that the path and
its parents name. -/
theorem grown_makeDirs {parts : Path → Prop}
    (hparent : ∀ {q r : Path}, parts q → q.parent? = some r → parts r) (t : FileTree) {p : Path}
    (hp : parts p) : Grown parts t (t.makeDirs p).2 := by
  -- A parent has fewer segments, so the induction is on their number.
  induction hn : p.tail.length using Nat.strongRecOn generalizing t p with
  | ind n ih =>
      rcases t.snd_makeDirs_cases p with h | ⟨q, hq, hcases⟩
      · rw [h]
        exact t.grown_makeDir hp
      · have hlt : q.tail.length < n := hn ▸ Path.length_tail_parent?_lt hq
        have habove : Grown parts t (t.makeDirs q).2 := ih _ hlt t (hparent hp hq) rfl
        rcases hcases with h | h
        · rw [h]
          exact habove
        · rw [h]
          exact habove.trans (grown_makeDir _ hp)

/-! ### Storing a file -/

/-- Make the directory in which a file is to stand, if its path names one. -/
def prepare (t : FileTree) (p : Path) : Option Fault × FileTree :=
  match p.parent? with
  | none => (none, t)
  | some q => t.makeDirs q

/-- A path without a parent needs no directory. -/
theorem prepare_of_parent?_none (t : FileTree) {p : Path} (hp : p.parent? = none) :
    t.prepare p = (none, t) := by
  rw [prepare, hp]

/-- A path with a parent needs that directory. -/
theorem prepare_of_parent?_some (t : FileTree) {p q : Path} (hp : p.parent? = some q) :
    t.prepare p = t.makeDirs q := by
  rw [prepare, hp]

/-- Preparing lets the tree grow by directories that **proper leading parts** of the path name. -/
theorem grown_prepare (t : FileTree) (p : Path) :
    Grown (fun q => q.IsProperPart p) t (t.prepare p).2 := by
  rcases hp : p.parent? with _ | q
  · rw [t.prepare_of_parent?_none hp]
    exact .refl _ t
  · rw [t.prepare_of_parent?_some hp]
    exact t.grown_makeDirs (fun hq hr => hq.of_parent? hr) (Path.isProperPart_of_parent? hp)

/-- Without its directory the file is not written. -/
theorem store_of_prepare_some {t t₁ : FileTree} {p : Path} {fault : Fault}
    (h : t.prepare p = (some fault, t₁)) (contents : String) :
    ∃ q, t.store p contents = (some (.creating q fault), t₁) := by
  rcases hp : p.parent? with _ | q
  · rw [t.prepare_of_parent?_none hp] at h
    cases h
  · rw [t.prepare_of_parent?_some hp] at h
    refine ⟨q, ?_⟩
    rw [store, Disk.store, hp]
    dsimp only
    rw [run_bind, ← makeDirs, h]
    rfl

/-- With its directory the file is written to the tree that has it. -/
theorem store_of_prepare_none {t t₁ : FileTree} {p : Path} (h : t.prepare p = (none, t₁))
    (contents : String) :
    t.store p contents =
      ((t₁.writeFile p contents).1.map (.writing p), (t₁.writeFile p contents).2) := by
  rcases hp : p.parent? with _ | q
  · rw [t.prepare_of_parent?_none hp] at h
    cases h
    rw [store, Disk.store, hp]
    rfl
  · rw [t.prepare_of_parent?_some hp] at h
    rw [store, Disk.store, hp]
    dsimp only
    rw [run_bind, ← makeDirs, h]
    rfl

/-- **All that storing a file can do**: its directory cannot be made; or the directory is made and
the file cannot be written; or the file is put at its place. -/
theorem store_cases (t : FileTree) (p : Path) (contents : String) :
    (∃ q fault, (t.prepare p).1 = some fault ∧
      t.store p contents = (some (.creating q fault), (t.prepare p).2)) ∨
    (∃ fault, (t.prepare p).1 = none ∧ ((t.prepare p).2.writeFile p contents).1 = some fault ∧
      t.store p contents = (some (.writing p fault), (t.prepare p).2)) ∨
    ∃ place, (t.prepare p).1 = none ∧ ((t.prepare p).2.writeFile p contents).1 = none ∧
      (t.prepare p).2.Writable p place ∧
      t.store p contents = (none, (t.prepare p).2.put place (.file contents)) := by
  rcases hprepare : t.prepare p with ⟨_ | fault, t₁⟩
  · rcases t₁.writeFile_cases p contents with ⟨fault, h⟩ | ⟨place, hplace, h⟩
    · refine .inr (.inl ⟨fault, rfl, by rw [h], ?_⟩)
      rw [store_of_prepare_none hprepare, h]
      rfl
    · refine .inr (.inr ⟨place, rfl, by rw [h], hplace, ?_⟩)
      rw [store_of_prepare_none hprepare, h]
      rfl
  · obtain ⟨q, h⟩ := store_of_prepare_some hprepare contents
    exact .inl ⟨q, fault, rfl, h⟩

/-- Storing fails exactly when **making the directory or writing the file** does. -/
theorem fst_store_ne_none_iff {t : FileTree} {p : Path} {contents : String} :
    (t.store p contents).1 ≠ none ↔
      (t.prepare p).1 ≠ none ∨ ((t.prepare p).2.writeFile p contents).1 ≠ none := by
  rcases t.store_cases p contents with
    ⟨q, fault, hprepare, h⟩ | ⟨fault, hprepare, hwrite, h⟩ | ⟨place, hprepare, hwrite, -, h⟩
  · simp [h, hprepare]
  · simp [h, hwrite]
  · simp [h, hprepare, hwrite]

/-- A file that cannot be stored leaves a tree that has **grown** and nothing else. -/
theorem grown_of_store_eq_some {t t' : FileTree} {p : Path} {contents : String}
    {e : Disk.StoreError} (h : t.store p contents = (some e, t')) :
    Grown (fun q => q.IsProperPart p) t t' := by
  have hgrown := t.grown_prepare p
  rcases t.store_cases p contents with
    ⟨q, fault, -, hstore⟩ | ⟨fault, -, -, hstore⟩ | ⟨place, -, -, -, hstore⟩
  · rw [hstore] at h
    cases h
    exact hgrown
  · rw [hstore] at h
    cases h
    exact hgrown
  · rw [hstore] at h
    cases h

/-- A file that is stored was put **at its place** in a tree that had grown. -/
theorem exists_put_of_store_eq_none {t t' : FileTree} {p : Path} {contents : String}
    (h : t.store p contents = (none, t')) :
    ∃ t₁ place, Grown (fun q => q.IsProperPart p) t t₁ ∧ t₁.Writable p place ∧
      t' = t₁.put place (.file contents) := by
  rcases t.store_cases p contents with
    ⟨q, fault, -, hstore⟩ | ⟨fault, -, -, hstore⟩ | ⟨place, -, -, hplace, hstore⟩
  · rw [hstore] at h
    cases h
  · rw [hstore] at h
    cases h
  · rw [hstore] at h
    cases h
    exact ⟨_, place, t.grown_prepare p, hplace, rfl⟩

/-! ### The directories that are new -/

/-- The directories that storing a file adds are reached along **leading components** of its path,
also in every later tree that keeps directories. -/
theorem exists_walk_of_grown {t t₁ t' : FileTree} {p : Path}
    (h : Grown (fun q => q.IsProperPart p) t t₁) (hkept : DirsKept t₁ t')
    {place : Place} {e : Entry} (hnone : t.at? place = none) (hsome : t₁.at? place = some e) :
    e = .dir ∧ ∃ part, part <+: p.components ∧ part ≠ p.components ∧
      t'.walk (t'.start p) part = .ok place := by
  obtain ⟨hdir, q, hq, hresolve⟩ := h.at?_new hnone hsome
  exact ⟨hdir, exists_walk_of_isProperPart hq (hkept.resolve_eq_ok hresolve)⟩

/-! ### The tree with the file -/

namespace Writable

variable {t : FileTree} {p : Path} {place : Place}

/-- Writing a file changes its own place only. -/
theorem at?_put (h : t.Writable p place) (contents : String) (place' : Place) :
    (t.put place (.file contents)).at? place' =
      if place = place' then some (.file contents) else t.at? place' :=
  t.at?_put (ne_nil_of_target? h.target?_eq) _ place'

/-- Writing a file takes no directory away. -/
theorem dirsKept_put (h : t.Writable p place) (contents : String) :
    DirsKept t (t.put place (.file contents)) := by
  refine ⟨rfl, fun {place'} hdir => ?_⟩
  rw [h.at?_put, if_neg, hdir]
  rintro rfl
  exact h.at?_ne_dir hdir

/-- Afterwards the path still names the place of the file. -/
theorem target?_put (h : t.Writable p place) (contents : String) :
    (t.put place (.file contents)).target? p = .ok (some place) :=
  (h.dirsKept_put contents).target?_eq_ok_some h.target?_eq

/-- Afterwards **the path names the file**. -/
theorem lookup?_put (h : t.Writable p place) (contents : String) :
    (t.put place (.file contents)).lookup? p = some (.file contents) := by
  have htarget := h.target?_put contents
  have hfile : (t.put place (.file contents)).at? place = some (.file contents) := by
    rw [h.at?_put, if_pos rfl]
  have hdir : (t.put place (.file contents)).isDir p = false := by
    rw [isDir, resolve_of_target?_file htarget h.isLongName_eq hfile]
    exact Bool.and_false _
  simp only [lookup?, hdir, h.endsInSlash_eq, htarget, Bool.false_eq_true, if_false]
  exact hfile

end Writable

end FileTree

end Lexicon
