import Lexicon.Proofs.Description
import Lexicon.Proofs.Display
import Lexicon.Proofs.NamedKinds

/-!
# The Debug Form Tells Everything

The debug form of a kind is the name of its tag, and behind it the payload in parentheses if there
is one. That of a token names its fields. What a payload or the name of a source contains may look
like the text around it, with quotation marks, parentheses or the name of a field. The form can be
taken apart all the same, this time **from the left**: the name of a tag consists of letters, so it
ends at the first character that is none, and the name says what follows; a payload delimits itself,
because it is quoted, or because it is closed by a character that cannot occur in it.

A kind alone is not delimited: `Plus` is the beginning of `PlusAssign`. The comma that follows it in
the form of a token is needed.

The displayed form, in contrast, shows only how a kind is rendered, and kinds may be rendered alike.

## Main definitions

* `Kind.payloadForm`: what stands behind the name of the tag.

## Main results

* `Kind.prefixFree_debug_comma`: kinds with a comma behind them delimit themselves.
* `Position.prefixFree_debug`: so do positions.
* `Kind.debug_injective`, `Token.debug_injective`: the forms of **kinds and tokens** are different
  for different ones.
* `debug_faithful`: the two together, and against the displayed form.
-/

namespace Lexicon

/-! ### Names -/

/-- Reserved words have different names. -/
theorem Keyword.name_injective : Function.Injective Keyword.name := by
  have hnodup : (Keyword.all.map Keyword.name).Nodup := by decide +kernel
  intro k l h
  exact List.inj_on_of_nodup_map hnodup k.mem_all l.mem_all h

/-- Modes have different names. -/
theorem Mode.name_injective : Function.Injective Mode.name := by
  have hnodup : (Mode.all.map Mode.name).Nodup := by decide +kernel
  intro m n h
  exact List.inj_on_of_nodup_map hnodup m.mem_all n.mem_all h

/-! ### Payloads that are closed -/

/-- A text in parentheses. -/
def parenthesized (text : List Char) : List Char :=
  '(' :: (text ++ [')'])

/-- A text in parentheses delimits itself if the text does so with the closing parenthesis. -/
theorem prefixFree_parenthesized {α : Type} {code : α → List Char}
    (h : PrefixFree fun a => code a ++ [')']) : PrefixFree fun a => parenthesized (code a) := by
  intro a b x y heq
  exact h a b x y (List.cons.inj heq).2

/-- Quoted texts in parentheses delimit themselves. -/
theorem prefixFree_parenthesized_quote :
    PrefixFree fun s : String => parenthesized (quote s).toList :=
  prefixFree_parenthesized (prefixFree_quote.append_right [')'])

/-- So do the numerals of bytes. -/
theorem prefixFree_parenthesized_byte :
    PrefixFree fun b : UInt8 => parenthesized (Nat.toDigits 10 b.toNat) := by
  refine prefixFree_parenthesized (prefixFree_append_singleton (fun b c h => ?_) fun b => ?_)
  · exact UInt8.toNat_inj.mp (toDigits_inj (by decide) (by decide) h)
  · exact notMem_toDigits (by decide) (by simp)

/-- So do names, if they are different and consist of letters. -/
theorem prefixFree_parenthesized_name {α : Type} {name : α → String}
    (hname : Function.Injective name) (hletters : ∀ a, (name a).toList.all Char.isAlpha = true) :
    PrefixFree fun a => parenthesized (name a).toList := by
  refine prefixFree_parenthesized (prefixFree_append_singleton (fun a b h => ?_) fun a => ?_)
  · exact hname (String.toList_inj.mp h)
  · exact notMem_of_all_isAlpha (hletters a) rfl

/-! ### Kinds -/

namespace Kind

/-- What stands **behind the name** in the debug form of a kind. -/
def payloadForm : Kind → List Char
  | identifier text | string text | integer text | float text => parenthesized (quote text).toList
  | character b => parenthesized (Nat.toDigits 10 b.toNat)
  | keyword k => parenthesized k.name.toList
  | mode m => parenthesized m.name.toList
  | symbol _ | marker _ => []

/-- The debug form of a kind is the name of its tag and its payload. -/
theorem toList_debug (k : Kind) : k.debug.toList = k.tag.name.toList ++ k.payloadForm := by
  cases k <;> simp [debug, payloadForm, parenthesized, tag, Tag.name]

/-- Behind the name of a tag, a parenthesis opens or the comma follows. -/
theorem exists_payloadForm_append (k : Kind) (rest : List Char) :
    ∃ c more, k.payloadForm ++ ',' :: rest = c :: more ∧ c.isAlpha = false := by
  cases k with
  | symbol s => exact ⟨',', rest, rfl, rfl⟩
  | marker m => exact ⟨',', rest, rfl, rfl⟩
  | _ => exact ⟨'(', _, rfl, rfl⟩

/-- Among kinds **with the same tag**, the payload tells the kind, and where it ends. -/
theorem eq_of_payloadForm_append_eq {k l : Kind} {x y : List Char} (htag : k.tag = l.tag)
    (h : k.payloadForm ++ x = l.payloadForm ++ y) : k = l ∧ x = y := by
  cases k with
  | identifier s =>
      cases l with
      | identifier t =>
          exact (prefixFree_parenthesized_quote s t x y h).imp_left (congrArg identifier)
      | _ => cases htag
  | string s =>
      cases l with
      | string t => exact (prefixFree_parenthesized_quote s t x y h).imp_left (congrArg string)
      | _ => cases htag
  | character b =>
      cases l with
      | character c => exact (prefixFree_parenthesized_byte b c x y h).imp_left (congrArg character)
      | _ => cases htag
  | integer s =>
      cases l with
      | integer t => exact (prefixFree_parenthesized_quote s t x y h).imp_left (congrArg integer)
      | _ => cases htag
  | float s =>
      cases l with
      | float t => exact (prefixFree_parenthesized_quote s t x y h).imp_left (congrArg float)
      | _ => cases htag
  | keyword v =>
      cases l with
      | keyword w =>
          have hname := prefixFree_parenthesized_name Keyword.name_injective
            Keyword.all_isAlpha_name
          exact (hname v w x y h).imp_left (congrArg keyword)
      | _ => cases htag
  | mode m =>
      cases l with
      | mode n =>
          have hname := prefixFree_parenthesized_name Mode.name_injective Mode.all_isAlpha_name
          exact (hname m n x y h).imp_left (congrArg mode)
      | _ => cases htag
  | symbol s =>
      cases l with
      | symbol t => exact ⟨congrArg symbol (Tag.symbol.inj htag), h⟩
      | _ => cases htag
  | marker m =>
      cases l with
      | marker n => exact ⟨congrArg marker (Tag.marker.inj htag), h⟩
      | _ => cases htag

/-- Kinds **with a comma behind them** delimit themselves. -/
theorem prefixFree_debug_comma : PrefixFree fun k : Kind => k.debug.toList ++ [','] := by
  intro k l x y h
  simp only [toList_debug, List.append_assoc, List.singleton_append] at h
  obtain ⟨c, more, hk, hc⟩ := k.exists_payloadForm_append x
  obtain ⟨d, more', hl, hd⟩ := l.exists_payloadForm_append y
  -- The names end where the letters end, and then the tags are the same.
  have hcut : k.tag.name.toList ++ c :: more = l.tag.name.toList ++ d :: more' := by
    rw [← hk, ← hl, h]
  obtain ⟨hname, rfl, rfl⟩ := (append_cons_inj_of_forall
    (List.all_eq_true.mp k.tag.all_isAlpha_name) (List.all_eq_true.mp l.tag.all_isAlpha_name)
    (Bool.eq_false_iff.mp hc) (Bool.eq_false_iff.mp hd)).mp hcut
  obtain ⟨hkind, hrest⟩ := eq_of_payloadForm_append_eq
    (Tag.name_injective (String.toList_inj.mp hname)) (hk.trans hl.symm)
  exact ⟨hkind, (List.cons.inj hrest).2⟩

/-- The debug forms of **different kinds** are different. -/
theorem debug_injective : Function.Injective debug := by
  intro k l h
  refine prefixFree_debug_comma.injective ?_
  rw [h]

end Kind

/-! ### Tokens -/

/-- A numeral of a number of 64 bits, closed by a character that is no digit, delimits itself. -/
theorem prefixFree_numeral {stop : Char} (hstop : ∀ d : Nat, d.digitChar ≠ stop) :
    PrefixFree fun n : UInt64 => Nat.toDigits 10 n.toNat ++ [stop] :=
  prefixFree_append_singleton (fun _ _ h => toDigits_toNat_inj.mp h)
    fun _ => notMem_toDigits (by decide) hstop

/-- The debug form of a position: its two numerals, each closed, between fixed texts. -/
theorem Position.exists_toList_debug :
    ∃ front middle : List Char, ∀ p : Position, p.debug.toList =
      front ++ ((Nat.toDigits 10 p.line.toNat ++ [',']) ++
        (middle ++ ((Nat.toDigits 10 p.column.toNat ++ [' ']) ++ ['\x7d']))) := by
  refine ⟨"Position \x7b line: ".toList, " column: ".toList, fun p => ?_⟩
  delta debug
  simp

/-- Positions in their debug form delimit themselves. -/
theorem Position.prefixFree_debug : PrefixFree fun p : Position => p.debug.toList := by
  obtain ⟨front, middle, hform⟩ := exists_toList_debug
  intro p q x y h
  simp only [hform, List.append_assoc (_ ++ [',']), List.append_assoc (_ ++ [' ']),
    List.append_assoc front, List.append_assoc middle] at h
  obtain ⟨hline, hrest⟩ := prefixFree_numeral (by simp) _ _ _ _ (List.append_cancel_left h)
  obtain ⟨hcolumn, hend⟩ := prefixFree_numeral (by simp) _ _ _ _ (List.append_cancel_left hrest)
  refine ⟨?_, List.append_cancel_left hend⟩
  cases p
  cases q
  exact congrArg₂ Position.mk hline hcolumn

namespace Token

/-- The debug form of a token: its kind with a comma, its source and its position, between fixed
texts. -/
theorem exists_toList_debug :
    ∃ front middle middle' rest : List Char, ∀ t : Token, t.debug.toList =
      front ++ ((t.kind.debug.toList ++ [',']) ++
        (middle ++ ((quote t.file).toList ++ (middle' ++ (t.position.debug.toList ++ rest))))) := by
  refine ⟨"Token \x7b kind: ".toList, " file: ".toList, ", position: ".toList, " \x7d".toList,
    fun t => ?_⟩
  delta debug
  simp

/-- The debug forms of **different tokens** are different. -/
theorem debug_injective : Function.Injective debug := by
  obtain ⟨front, middle, middle', rest, hform⟩ := exists_toList_debug
  intro t u h
  rw [← String.toList_inj, hform, hform] at h
  obtain ⟨hkind, hrest⟩ := Kind.prefixFree_debug_comma _ _ _ _ (List.append_cancel_left h)
  obtain ⟨hfile, hend⟩ := prefixFree_quote _ _ _ _ (List.append_cancel_left hrest)
  obtain ⟨hposition, -⟩ := Position.prefixFree_debug _ _ _ _ (List.append_cancel_left hend)
  cases t
  cases u
  exact Token.mk.injEq .. ▸ ⟨hkind, hfile, hposition⟩

/-- Tokens at the same place are displayed alike exactly when their kinds are rendered alike. -/
theorem display_mk_eq_iff {k l : Kind} (file : String) (position : Position) :
    (⟨k, file, position⟩ : Token).display = (⟨l, file, position⟩ : Token).display ↔
      k.render = l.render := by
  rw [← String.toList_inj, toList_display, toList_display, append_quote_inj]
  exact and_iff_right rfl

end Token

/-- **The debug form is faithful.** Two kinds have the same debug form exactly when they are the
same, whatever they carry, and so do two tokens, whatever the names of their sources are. The
displayed form identifies kinds that are rendered alike: at the same place they cannot be told
apart, and there are different kinds of which this is true. -/
theorem debug_faithful :
    (∀ k l : Kind, k.debug = l.debug ↔ k = l) ∧
    (∀ t u : Token, t.debug = u.debug ↔ t = u) ∧
    (∀ (k l : Kind) (file : String) (position : Position),
      (⟨k, file, position⟩ : Token).display = (⟨l, file, position⟩ : Token).display ↔
        k.render = l.render) ∧
    ∃ k l : Kind, k ≠ l ∧ k.render = l.render := by
  refine ⟨fun k l => Kind.debug_injective.eq_iff, fun t u => Token.debug_injective.eq_iff,
    fun k l file position => Token.display_mk_eq_iff file position, ?_⟩
  refine ⟨.identifier "let", .keyword .letKw, ?_, rfl⟩
  rintro ⟨⟩

/-- A source whose name imitates the fields of a token does not change where they end. -/
example :
    (⟨.string "\")", "a\", position: ", ⟨1, 2⟩⟩ : Token).debug =
      "Token \x7b kind: String(\"\\\")\"), file: \"a\\\", position: \", "
        ++ "position: Position \x7b line: 1, column: 2 \x7d \x7d" := by
  decide +kernel

end Lexicon
