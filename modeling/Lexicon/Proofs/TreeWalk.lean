import Lexicon.FileTree
import Lexicon.Proofs.PathComponents

/-!
# Walking a Tree of Files

Where a path leads depends on the directories of a tree alone, and on nothing but the components
of the path. The first says that a walk survives every change that takes no directory away, which
is what the steps of a disk have in common. The second says that the several ways in which a path
is cut up (into segments, into a core, into directories and a name) all lead to the same place.

## Main results

* `FileTree.at?_put`: putting an entry at a place changes that place only.
* `FileTree.walk_append`, `FileTree.walk_meaningful`: walks follow their segments one by one, and
  skip the void ones.
* `FileTree.resolve_eq_walk_components`, `FileTree.resolve_eq_enter_last`: a path leads where its
  components lead, and where its last segment leads from its directories.
* `FileTree.DirsKept.resolve_eq_ok`: where a path leads stays, as long as directories do.
* `FileTree.target?_eq_ok_some_iff`: when a path names a place for something new.
-/

namespace Lexicon

namespace FileTree

/-! ### Entries -/

/-- Putting an entry at a place below the root changes that place only. -/
theorem at?_put (t : FileTree) {place : Place} (hplace : place ≠ []) (e : Entry) (place' : Place) :
    (t.put place e).at? place' = if place = place' then some e else t.at? place' := by
  rcases hempty : place'.isEmpty with _ | _
  · simp only [at?, put, hempty, Assoc.find?_insert, Bool.false_eq_true, if_false]
  · rw [List.isEmpty_iff.mp hempty, if_neg hplace]
    rfl

/-- Every place that is a directory in one tree is a directory in another, and the two have the
same working directory. -/
structure DirsKept (t t' : FileTree) : Prop where
  /-- The working directory is the same. -/
  working_eq : t'.working = t.working
  /-- No directory is lost. -/
  at?_dir : ∀ {place : Place}, t.at? place = some .dir → t'.at? place = some .dir

/-! ### Walks -/

/-- A void segment leads nowhere. -/
theorem enter_of_isVoid (t : FileTree) (place : Place) {segment : String}
    (h : Path.isVoid segment = true) : t.enter place segment = .ok place := by
  rw [enter, if_pos h]

/-- A name leads to the directory of that name. -/
theorem enter_of_name (t : FileTree) {place : Place} {segment : String}
    (hdots : isDots segment = false) (hlong : isLongName segment = false)
    (hdir : t.at? (place ++ [segment]) = some .dir) :
    t.enter place segment = .ok (place ++ [segment]) := by
  simp only [isDots, Bool.or_eq_false_iff, decide_eq_false_iff_not] at hdots
  simp [enter, hdots.1, hdots.2, hlong, hdir]

/-- The name of a file leads nowhere. -/
theorem enter_of_file (t : FileTree) {place : Place} {segment contents : String}
    (hdots : isDots segment = false) (hlong : isLongName segment = false)
    (hfile : t.at? (place ++ [segment]) = some (.file contents)) :
    t.enter place segment = .error .notDirectory := by
  simp only [isDots, Bool.or_eq_false_iff, decide_eq_false_iff_not] at hdots
  simp [enter, hdots.1, hdots.2, hlong, hfile]

/-- Walking along two lists of segments is walking along one and then along the other. -/
theorem walk_append (t : FileTree) (place : Place) (segments more : List String) :
    t.walk place (segments ++ more) =
      t.walk place segments >>= fun place' => t.walk place' more := by
  induction segments generalizing place with
  | nil => rfl
  | cons segment segments ih =>
      rw [List.cons_append, walk, walk]
      cases t.enter place segment with
      | error fault => rfl
      | ok place' => exact ih place'

/-- A walk skips the void segments. -/
theorem walk_meaningful (t : FileTree) (place : Place) (segments : List String) :
    t.walk place (Path.meaningful segments) = t.walk place segments := by
  induction segments generalizing place with
  | nil => rfl
  | cons segment segments ih =>
      rcases hvoid : Path.isVoid segment with _ | _
      · have hcons :
            Path.meaningful (segment :: segments) = segment :: Path.meaningful segments := by
          simp [Path.meaningful, hvoid]
        rw [hcons, walk, walk]
        cases t.enter place segment with
        | error fault => rfl
        | ok place' => exact ih place'
      · have hcons : Path.meaningful (segment :: segments) = Path.meaningful segments := by
          simp [Path.meaningful, hvoid]
        rw [hcons, ih, walk, enter_of_isVoid t place hvoid]

/-- Walks agree that begin with the same segment and mean the same after it. -/
theorem walk_cons_congr (t : FileTree) (place : Place) (segment : String) {tail tail' : List String}
    (h : Path.meaningful tail = Path.meaningful tail') :
    t.walk place (segment :: tail) = t.walk place (segment :: tail') := by
  rw [walk, walk]
  cases t.enter place segment with
  | error fault => rfl
  | ok place' =>
      change t.walk place' tail = t.walk place' tail'
      rw [← walk_meaningful, h, walk_meaningful]

/-- A path leads where **its components** lead. -/
theorem resolve_eq_walk_components (t : FileTree) (p : Path) :
    t.resolve p = t.walk (t.start p) p.components := by
  refine t.walk_cons_congr _ _ ?_
  simp [Path.meaningful]

/-- What a proper leading part of a path leads to is reached from the start of the path along some
of its components. -/
theorem exists_walk_of_isProperPart {t : FileTree} {p q : Path} {place : Place}
    (hq : q.IsProperPart p) (h : t.resolve q = .ok place) :
    ∃ part, part <+: p.components ∧ part ≠ p.components ∧
      t.walk (t.start p) part = .ok place := by
  have hhead : q.head = p.head := (List.cons_prefix_cons.mp hq.1).1
  have hstart : t.start p = t.start q := by
    rw [start, start, Path.isAbsolute, Path.isAbsolute, hhead]
  refine ⟨q.components, hq.1, hq.2, ?_⟩
  rw [hstart, ← resolve_eq_walk_components, h]

/-- A path leads where its last segment leads from its directories. -/
theorem resolve_eq_enter_last (t : FileTree) (p : Path) :
    t.resolve p = t.walk (t.start p) p.directories >>= fun place => t.enter place p.last := by
  have hcore : t.resolve p = t.walk (t.start p) p.core :=
    t.walk_cons_congr _ _ p.meaningful_tail_core.symm
  rw [hcore, p.core_eq_directories_append, walk_append]
  congr 1
  funext place
  simp only [walk]
  cases t.enter place p.last <;> rfl

/-! ### Walks in trees that keep their directories -/

namespace DirsKept

variable {t t' : FileTree}

/-- A tree keeps its own directories. -/
theorem refl (t : FileTree) : DirsKept t t := ⟨rfl, id⟩

/-- One segment leads to the same directory. -/
theorem enter_eq_ok (h : DirsKept t t') {place place' : Place} {segment : String}
    (henter : t.enter place segment = .ok place') : t'.enter place segment = .ok place' := by
  rw [enter] at henter ⊢
  split at henter
  next hvoid => rwa [if_pos hvoid]
  next hvoid =>
    rw [if_neg hvoid]
    split at henter
    next hup => rwa [if_pos hup]
    next hup =>
      rw [if_neg hup]
      split at henter
      next => cases henter
      next hlong =>
        rw [if_neg hlong]
        split at henter
        next => cases henter
        next => cases henter
        next hdir =>
          rw [h.at?_dir hdir]
          exact henter

/-- Several segments lead to the same directory. -/
theorem walk_eq_ok (h : DirsKept t t') {place place' : Place} {segments : List String}
    (hwalk : t.walk place segments = .ok place') : t'.walk place segments = .ok place' := by
  induction segments generalizing place with
  | nil => exact hwalk
  | cons segment segments ih =>
      rw [walk] at hwalk ⊢
      rcases henter : t.enter place segment with fault | next
      · rw [henter] at hwalk
        cases hwalk
      · rw [henter] at hwalk
        rw [h.enter_eq_ok henter]
        exact ih hwalk

/-- A path begins at the same place. -/
theorem start_eq (h : DirsKept t t') (p : Path) : t'.start p = t.start p := by
  rw [start, start, h.working_eq]

/-- A path **leads to the same directory**. -/
theorem resolve_eq_ok (h : DirsKept t t') {p : Path} {place : Place}
    (hp : t.resolve p = .ok place) : t'.resolve p = .ok place := by
  rw [resolve, h.start_eq p]
  exact h.walk_eq_ok hp

end DirsKept

/-! ### Places for something new -/

/-- A path names a place for something new exactly when it is not too long, its directories are
there, and its last segment is a name. -/
theorem target?_eq_ok_some_iff {t : FileTree} {p : Path} {place : Place} :
    t.target? p = .ok (some place) ↔
      isLongPath p = false ∧ isDots p.last = false ∧
        ∃ dir, t.walk (t.start p) p.directories = .ok dir ∧ place = dir ++ [p.last] := by
  rw [target?]
  cases isLongPath p with
  | true => simp
  | false =>
      cases t.walk (t.start p) p.directories with
      | error fault => simp
      | ok dir => cases isDots p.last <;> simp [eq_comm]

/-- A place for something new is never the root. -/
theorem ne_nil_of_target? {t : FileTree} {p : Path} {place : Place}
    (h : t.target? p = .ok (some place)) : place ≠ [] := by
  obtain ⟨-, -, dir, -, rfl⟩ := target?_eq_ok_some_iff.mp h
  exact List.concat_ne_nil _ _

/-- A path names the same place for something new as long as directories are kept. -/
theorem DirsKept.target?_eq_ok_some {t t' : FileTree} (h : DirsKept t t') {p : Path} {place : Place}
    (hp : t.target? p = .ok (some place)) : t'.target? p = .ok (some place) := by
  obtain ⟨hlong, hdots, dir, hdir, rfl⟩ := target?_eq_ok_some_iff.mp hp
  refine target?_eq_ok_some_iff.mpr ⟨hlong, hdots, dir, ?_, rfl⟩
  rw [h.start_eq p]
  exact h.walk_eq_ok hdir

/-- A path leads to the directory at the place that it names. -/
theorem resolve_of_target?_dir {t : FileTree} {p : Path} {place : Place}
    (h : t.target? p = .ok (some place)) (hname : isLongName p.last = false)
    (hdir : t.at? place = some .dir) : t.resolve p = .ok place := by
  obtain ⟨-, hdots, dir, hwalk, rfl⟩ := target?_eq_ok_some_iff.mp h
  rw [resolve_eq_enter_last, hwalk]
  exact t.enter_of_name hdots hname hdir

/-- A path leads to no directory if there is a file at the place that it names. -/
theorem resolve_of_target?_file {t : FileTree} {p : Path} {place : Place} {contents : String}
    (h : t.target? p = .ok (some place)) (hname : isLongName p.last = false)
    (hfile : t.at? place = some (.file contents)) : t.resolve p = .error .notDirectory := by
  obtain ⟨-, hdots, dir, hwalk, rfl⟩ := target?_eq_ok_some_iff.mp h
  rw [resolve_eq_enter_last, hwalk]
  exact t.enter_of_file hdots hname hfile

end FileTree

end Lexicon
