import Lexicon.Token
import Lexicon.Proofs.Quoting

/-!
# The Displayed Form of a Token Is Unambiguous

A token is displayed as the name of its source, a line, a column and its quoted rendering. The name
stands there as it is, and it may look like the rest of such a form. The form can be taken apart all
the same, from the right: the quoted rendering at the end is framed, the two numbers before it have
no colon in them, and what is left is the name.

## Main results

* `append_display_inj`: a position behind a colon is found from the right.
* `Token.display_eq_iff`: **the displayed form tells** the source, the position and the rendering.
-/

namespace Lexicon

/-- A numeral has no colon in it. -/
theorem colon_notMem_toDigits (n : Nat) : ':' ∉ Nat.toDigits 10 n :=
  notMem_toDigits (by decide) (by simp)

/-- A number of 64 bits is known by its numeral. -/
theorem toDigits_toNat_inj {a b : UInt64} :
    Nat.toDigits 10 a.toNat = Nat.toDigits 10 b.toNat ↔ a = b := by
  refine ⟨fun h => ?_, fun h => h ▸ rfl⟩
  exact UInt64.toNat_inj.mp (toDigits_inj (by decide) (by decide) h)

/-- The characters of a displayed position. -/
theorem Position.toList_display (p : Position) :
    p.display.toList = Nat.toDigits 10 p.line.toNat ++ ':' :: Nat.toDigits 10 p.column.toNat := by
  simp [display]

/-- A displayed position behind a colon is found from the right, whatever stands before it. -/
theorem append_display_inj {x y : List Char} {p q : Position} :
    x ++ ':' :: p.display.toList = y ++ ':' :: q.display.toList ↔ x = y ∧ p = q := by
  refine ⟨fun h => ?_, fun ⟨hxy, hpq⟩ => by rw [hxy, hpq]⟩
  simp only [Position.toList_display, ← List.cons_append, ← List.append_assoc] at h
  -- The last colon stands before the column, the one before it before the line.
  obtain ⟨hline, hcolumn⟩ := (append_cons_inj_of_notMem_right (colon_notMem_toDigits _)
    (colon_notMem_toDigits _)).mp h
  obtain ⟨hxy, hline⟩ := (append_cons_inj_of_notMem_right (colon_notMem_toDigits _)
    (colon_notMem_toDigits _)).mp hline
  refine ⟨hxy, ?_⟩
  cases p
  cases q
  rw [toDigits_toNat_inj] at hline hcolumn
  exact congrArg₂ Position.mk hline hcolumn

namespace Token

/-- The characters of a displayed token: what stands before the rendering, and the rendering behind
a space. -/
theorem toList_display (t : Token) :
    t.display.toList =
      (t.file.toList ++ ':' :: t.position.display.toList ++ [':']) ++
        ' ' :: (quote t.kind.render).toList := by
  simp [display]

/-- **The displayed form is unambiguous**: two tokens are displayed alike exactly when they have
the same source, the same position and the same rendering. The name of a source may be any text. -/
theorem display_eq_iff (t u : Token) :
    t.display = u.display ↔
      t.file = u.file ∧ t.position = u.position ∧ t.kind.render = u.kind.render := by
  rw [← String.toList_inj, toList_display, toList_display, append_quote_inj, List.append_left_inj,
    append_display_inj, String.toList_inj, and_assoc]

/-- A source whose name looks like a displayed token is told from that token. -/
example :
    (⟨.identifier "y", "x", ⟨1, 2⟩⟩ : Token).display = "x:1:2: \"y\"" ∧
      (⟨.identifier "y", "x:1:2: \"y\"", ⟨1, 2⟩⟩ : Token).display =
        "x:1:2: \"y\":1:2: \"y\"" := by
  decide +kernel

end Token

end Lexicon
