import Mathlib.Data.List.DropRight
import Lexicon.FileTree.Path

/-!
# The Components of a Path

The segments of a path carry more than the path means: after the first one, empty segments and
dots can stand anywhere. Its **components** are what is left without them. They are what the
parent of a path is a leading part of, however the path is written: `a//b/.` has the components
`a` and `b`, and its parent has the component `a`.

A disk does not see components. It cuts off the empty segments at the end of a path, which leaves
its *core*, takes the last of the rest as a name and walks along what stands before. Both ways of
cutting drop void segments only, so neither changes the components.

## Main results

* `Path.components_parent?`: a path has exactly one component more than its parent.
* `Path.isProperPart_of_parent?`: a parent is a proper leading part of a path.
* `Path.meaningful_tail_core`: the core of a path means what the path means.
* `Path.core_eq_directories_append`: the core is the directories of the path and its last segment.
-/

namespace Lexicon

namespace Path

/-- The segments of a list that mean something. -/
def meaningful (segments : List String) : List String :=
  segments.filter fun s => !isVoid s

/-- The **components** of a path: its first segment, and the later ones that mean something. -/
def components (p : Path) : List String :=
  p.head :: meaningful p.tail

/-! ### Cutting void segments off the end -/

/-- Cutting off void segments at the end takes away nothing that means something. -/
theorem meaningful_rdropWhile {drop : String → Bool} (hdrop : ∀ s, drop s = true → isVoid s = true)
    (segments : List String) : meaningful (segments.rdropWhile drop) = meaningful segments := by
  induction segments using List.reverseRecOn with
  | nil => rw [List.rdropWhile_nil]
  | append_singleton segments s ih =>
      by_cases hs : drop s = true
      · rw [List.rdropWhile_concat_pos _ _ _ hs, ih]
        simp [meaningful, hdrop s hs]
      · rw [List.rdropWhile_concat_neg _ _ _ hs]

/-- Trimming a path keeps its components. -/
theorem components_trim (p : Path) : p.trim.components = p.components := by
  have htail : meaningful p.trim.tail = meaningful p.tail :=
    meaningful_rdropWhile (fun _ hs => hs) p.tail
  rw [components, components, htail]
  rfl

/-- The last segment of a trimmed path means something. -/
theorem exists_trim_tail_eq {p : Path} (h : p.trim.tail ≠ []) :
    ∃ init s, p.trim.tail = init ++ [s] ∧ isVoid s = false := by
  have hlast : ¬ isVoid (p.trim.tail.getLast h) = true := List.rdropWhile_last_not isVoid p.tail h
  refine ⟨p.trim.tail.dropLast, p.trim.tail.getLast h, ?_, Bool.eq_false_iff.mpr hlast⟩
  exact (List.dropLast_concat_getLast h).symm

/-- A path has exactly **one component more** than its parent. -/
theorem components_parent? {p q : Path} (h : p.parent? = some q) :
    ∃ s, p.components = q.components ++ [s] := by
  rw [parent?] at h
  split at h
  next => cases h
  next hne =>
    obtain ⟨init, s, htail, hs⟩ := exists_trim_tail_eq (mt List.isEmpty_iff.mpr hne)
    obtain rfl := Option.some.inj h
    have hmeaningful : meaningful (init ++ [s]) = meaningful init ++ [s] := by
      simp [meaningful, hs]
    refine ⟨s, ?_⟩
    calc
      p.components = p.head :: meaningful p.trim.tail := (components_trim p).symm
      _ = p.head :: meaningful init ++ [s] := by rw [htail, hmeaningful, List.cons_append]
      _ = components { p with tail := p.trim.tail.dropLast } ++ [s] := by
        rw [htail, List.dropLast_concat, components]
      _ = components (trim { p with tail := p.trim.tail.dropLast }) ++ [s] := by
        rw [components_trim]

/-- A **proper leading part** of a path: its components are the first few of the path's
components, and not all of them. -/
def IsProperPart (q p : Path) : Prop :=
  q.components <+: p.components ∧ q.components ≠ p.components

/-- A parent is a proper leading part. -/
theorem isProperPart_of_parent? {p q : Path} (h : p.parent? = some q) : q.IsProperPart p := by
  obtain ⟨s, hs⟩ := components_parent? h
  rw [IsProperPart, hs]
  exact ⟨List.prefix_append _ _, by simp⟩

/-- The parent of a proper leading part is one as well. -/
theorem IsProperPart.of_parent? {p q r : Path} (h : q.IsProperPart p) (hr : q.parent? = some r) :
    r.IsProperPart p := by
  obtain ⟨hrq, hne⟩ := isProperPart_of_parent? hr
  refine ⟨hrq.trans h.1, fun heq => hne ?_⟩
  exact hrq.eq_of_length_le (heq ▸ h.1.length_le)

/-! ### The core -/

/-- Behind the first segment, the core of a path means what the path means. -/
theorem meaningful_tail_core (p : Path) : meaningful p.core.tail = meaningful p.tail := by
  refine meaningful_rdropWhile (fun s hs => ?_) p.tail
  rw [isVoid, hs, Bool.true_or]

/-- The core of a path consists of its directories and its last segment. -/
theorem core_eq_directories_append (p : Path) : p.core = p.directories ++ [p.last] :=
  (List.dropLast_concat_getLast _).symm

end Path

end Lexicon
