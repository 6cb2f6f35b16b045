import Mathlib.Data.List.Basic
import Lexicon.Text.Quoted

/-!
# Quoted Text Can Be Read Back

A quoted text is framed by its quotation marks, whatever the text contains. Read from the left, the
escapes of characters delimit themselves: no escape is the beginning of another one, and none begins
with a quotation mark, so the first quotation mark that does not belong to an escape ends the text.
Read from the right, every quotation mark of the escaped text has a backslash before it, so the last
one with a space before it is the opening one.

Both readings rest on one inversion, `escapeForm_escapeChar`: an escape is a backslash with one
character, or a code point in hexadecimal, or a printable character that stands for itself.

## Main results

* `toDigits_inj`: numerals of a base up to sixteen are different for different numbers.
* `append_cons_inj_of_forall`: texts are cut off at the first character that is none of theirs.
* `prefixFree_escapeChar`, `prefixFree_quote`: escapes, and **quoted texts**, delimit themselves.
* `append_quote_inj`: a quoted text at the end, after a space, is found from the right.
* `newline_notMem_quote`: a quoted text stays on one line.
-/

namespace Lexicon

/-! ### Numerals -/

/-- The digits of a numeral are the digits of numbers below the base. -/
theorem exists_digitChar_of_mem_toDigits {b n : Nat} {c : Char} (hb : 1 < b)
    (hc : c ∈ Nat.toDigits b n) : ∃ d < b, c = Nat.digitChar d := by
  induction n using Nat.strongRecOn with
  | ind n ih =>
      rw [Nat.toDigits_eq_if hb] at hc
      split at hc
      next hlt => exact ⟨n, hlt, List.mem_singleton.mp hc⟩
      next hge =>
        rcases List.mem_append.mp hc with hc | hc
        · exact ih (n / b) (Nat.div_lt_self (by omega) hb) hc
        · exact ⟨n % b, Nat.mod_lt n (by omega), List.mem_singleton.mp hc⟩

/-- A character that is no digit does not occur in a numeral. -/
theorem notMem_toDigits {b n : Nat} {c : Char} (hb : 1 < b) (hc : ∀ d : Nat, d.digitChar ≠ c) :
    c ∉ Nat.toDigits b n := by
  intro hmem
  obtain ⟨d, -, rfl⟩ := exists_digitChar_of_mem_toDigits hb hmem
  exact hc d rfl

/-- Different numbers below sixteen have different digits. -/
theorem digitChar_inj {d e : Nat} (hd : d < 16) (he : e < 16)
    (h : d.digitChar = e.digitChar) : d = e := by
  have hall : ∀ d < 16, ∀ e < 16, Nat.digitChar d = Nat.digitChar e → d = e := by decide
  exact hall d hd e he h

/-- **Numerals are different for different numbers**, in every base that has enough digits. -/
theorem toDigits_inj {b m n : Nat} (hb : 1 < b) (hdigits : b ≤ 16)
    (h : Nat.toDigits b m = Nat.toDigits b n) : m = n := by
  induction m using Nat.strongRecOn generalizing n with
  | ind m ih =>
      have hmod (k : Nat) : k % b < b := Nat.mod_lt k (by omega)
      rw [Nat.toDigits_eq_if hb, Nat.toDigits_eq_if hb (n := n)] at h
      split at h <;> split at h
      next hm hn => exact digitChar_inj (by omega) (by omega) (List.singleton_inj.mp h)
      next => exact absurd (congrArg List.length h) (by simp)
      next => exact absurd (congrArg List.length h) (by simp)
      next hm hn =>
        obtain ⟨hdiv, hlast⟩ := List.append_inj' h rfl
        have hquot : m / b = n / b := ih (m / b) (Nat.div_lt_self (by omega) hb) hdiv
        have hrem : m % b = n % b := by
          have hm' := hmod m
          have hn' := hmod n
          exact digitChar_inj (by omega) (by omega) (List.singleton_inj.mp hlast)
        rw [← Nat.div_add_mod m b, ← Nat.div_add_mod n b, hquot, hrem]

/-! ### Codes that delimit themselves -/

/-- Two texts can be cut off at the first element that does not belong in them, whatever follows. -/
theorem append_cons_inj_of_forall {α : Type} {p : α → Prop} {x y u v : List α} {s t : α}
    (hx : ∀ a ∈ x, p a) (hy : ∀ a ∈ y, p a) (hs : ¬ p s) (ht : ¬ p t) :
    x ++ s :: u = y ++ t :: v ↔ x = y ∧ s = t ∧ u = v := by
  refine ⟨fun h => ?_, fun ⟨hxy, hst, huv⟩ => by rw [hxy, hst, huv]⟩
  induction x generalizing y with
  | nil =>
      cases y with
      | nil => exact ⟨rfl, List.cons.inj h⟩
      | cons b y => exact absurd ((List.cons.inj h).1 ▸ hy b List.mem_cons_self) hs
  | cons a x ih =>
      cases y with
      | nil => exact absurd ((List.cons.inj h).1 ▸ hx a List.mem_cons_self) ht
      | cons b y =>
          obtain ⟨rfl, htail⟩ := List.cons.inj h
          obtain ⟨rfl, hrest⟩ := ih (fun c hc => hx c (List.mem_cons_of_mem a hc))
            (fun c hc => hy c (List.mem_cons_of_mem a hc)) htail
          exact ⟨rfl, hrest⟩

/-- Two texts that are continued by the same separator agree if the separator is not in them. -/
theorem append_cons_inj_of_notMem_left {α : Type} {x y u v : List α} {sep : α} (hx : sep ∉ x)
    (hy : sep ∉ y) : x ++ sep :: u = y ++ sep :: v ↔ x = y ∧ u = v := by
  have hcut := append_cons_inj_of_forall (p := fun a => a ≠ sep) (u := u) (v := v)
    (fun a ha => ne_of_mem_of_not_mem ha hx) (fun a ha => ne_of_mem_of_not_mem ha hy)
    (fun hsep => hsep rfl) (fun hsep => hsep rfl)
  rw [hcut, and_iff_right rfl]

/-- The same from the other end: what follows the last separator can be told, whatever stands
before it. -/
theorem append_cons_inj_of_notMem_right {α : Type} {x y u v : List α} {sep : α} (hu : sep ∉ u)
    (hv : sep ∉ v) : x ++ sep :: u = y ++ sep :: v ↔ x = y ∧ u = v := by
  rw [← List.reverse_inj]
  simp only [List.reverse_append, List.reverse_cons, List.append_assoc, List.singleton_append]
  rw [append_cons_inj_of_notMem_left (mt List.mem_reverse.mp hu) (mt List.mem_reverse.mp hv),
    List.reverse_inj, List.reverse_inj, and_comm]

/-- A code is **prefix-free** when its words delimit themselves: whatever follows a word, the word
can be told from the front. -/
def PrefixFree {α : Type} (code : α → List Char) : Prop :=
  ∀ (a b : α) (x y : List Char), code a ++ x = code b ++ y → a = b ∧ x = y

/-- Different letters have different words in a prefix-free code. -/
theorem PrefixFree.injective {α : Type} {code : α → List Char} (h : PrefixFree code) :
    Function.Injective code := by
  intro a b hab
  exact (h a b [] [] (by rw [hab])).1

/-- A code with different words becomes prefix-free by a stop character that is in none of them. -/
theorem prefixFree_append_singleton {α : Type} {code : α → List Char} {stop : Char}
    (h : Function.Injective code) (hstop : ∀ a, stop ∉ code a) :
    PrefixFree fun a => code a ++ [stop] := by
  intro a b x y heq
  simp only [List.append_assoc, List.singleton_append] at heq
  obtain ⟨hword, hrest⟩ := (append_cons_inj_of_notMem_left (hstop a) (hstop b)).mp heq
  exact ⟨h hword, hrest⟩

/-- A prefix-free code stays so when the same text is put behind every word. -/
theorem PrefixFree.append_right {α : Type} {code : α → List Char} (h : PrefixFree code)
    (tail : List Char) : PrefixFree fun a => code a ++ tail := by
  intro a b x y heq
  simp only [List.append_assoc] at heq
  obtain ⟨hword, hrest⟩ := h a b _ _ heq
  exact ⟨hword, List.append_cancel_left hrest⟩

/-- Words of a prefix-free code, one after the other up to a stop character, form a prefix-free code
if no word begins with that character. -/
theorem PrefixFree.flatMap_append_singleton {α : Type} {code : α → List Char} {stop : Char}
    (h : PrefixFree code) (hne : ∀ a, code a ≠ []) (hstop : ∀ a, (code a).head? ≠ some stop) :
    PrefixFree fun l : List α => l.flatMap code ++ [stop] := by
  have hfirst (a : α) (x y : List Char) : code a ++ x ≠ stop :: y := by
    intro heq
    have hhead := congrArg List.head? heq
    rw [List.head?_append_of_ne_nil _ (hne a), List.head?_cons] at hhead
    exact hstop a hhead
  intro l m x y heq
  induction l generalizing m with
  | nil =>
      cases m with
      | nil => exact ⟨rfl, (List.cons.inj heq).2⟩
      | cons b m =>
          simp only [List.flatMap_cons, List.append_assoc] at heq
          exact absurd heq.symm (hfirst b _ _)
  | cons a l ih =>
      cases m with
      | nil =>
          simp only [List.flatMap_cons, List.append_assoc] at heq
          exact absurd heq (hfirst a _ _)
      | cons b m =>
          simp only [List.flatMap_cons, List.append_assoc] at heq
          obtain ⟨rfl, hrest⟩ := h a b _ _ heq
          rw [← List.append_assoc, ← List.append_assoc] at hrest
          obtain ⟨rfl, hxy⟩ := ih m hrest
          exact ⟨rfl, hxy⟩

/-! ### The forms of an escape -/

/-- The characters with a short escape, each with the character behind the backslash. -/
def shortEscapes : List (Char × Char) :=
  [('\x00', '0'), ('\t', 't'), ('\r', 'r'), ('\n', 'n'), ('"', '"'), ('\\', '\\')]

/-- The **forms of an escape**: `EscapeForm c e` says in which of three ways `e` stands for `c`. -/
inductive EscapeForm (c : Char) : List Char → Prop
  | short {e : Char} : (c, e) ∈ shortEscapes → EscapeForm c ['\\', e]
  | code : EscapeForm c (codePointEscape c)
  | raw : c ≠ '"' → c ≠ '\\' → isUnprintable c = false → EscapeForm c [c]

/-- Every character is escaped in one of the three forms. -/
theorem escapeForm_escapeChar (c : Char) : EscapeForm c (escapeChar c) := by
  unfold escapeChar
  split_ifs with hnul htab hreturn hnewline hquote hbackslash hcode
  · exact .short (by rw [hnul]; decide)
  · exact .short (by rw [htab]; decide)
  · exact .short (by rw [hreturn]; decide)
  · exact .short (by rw [hnewline]; decide)
  · exact .short (by rw [hquote]; decide)
  · exact .short (by rw [hbackslash]; decide)
  · exact .code
  · rw [Bool.not_eq_true, Bool.or_eq_false_iff] at hcode
    exact .raw hquote hbackslash hcode.2

namespace EscapeForm

/-- No escape is empty, and none begins with a quotation mark. -/
theorem exists_head? {c : Char} {e : List Char} (h : EscapeForm c e) :
    ∃ d, e.head? = some d ∧ d ≠ '"' := by
  cases h with
  | short _ => exact ⟨'\\', rfl, by decide⟩
  | code => exact ⟨'\\', rfl, by decide⟩
  | raw hquote _ _ => exact ⟨c, rfl, hquote⟩

/-- Escapes of different characters cannot be mistaken for one another. -/
theorem eq_of_append_eq {c d : Char} {e f x y : List Char} (hc : EscapeForm c e)
    (hd : EscapeForm d f) (h : e ++ x = f ++ y) : c = d ∧ x = y := by
  have hshort : ∀ p ∈ shortEscapes, ∀ q ∈ shortEscapes, p.2 = q.2 → p.1 = q.1 := by decide
  have hu : ∀ p ∈ shortEscapes, p.2 ≠ 'u' := by decide
  cases hc with
  | short hmem =>
      cases hd with
      | short hmem' =>
          simp only [List.cons_append, List.nil_append, List.cons.injEq, true_and] at h
          exact ⟨hshort _ hmem _ hmem' h.1, h.2⟩
      | code =>
          simp only [codePointEscape, List.cons_append, List.cons.injEq, true_and] at h
          exact absurd h.1 (hu _ hmem)
      | raw _ hbackslash _ => exact absurd (List.cons.inj h).1.symm hbackslash
  | code =>
      cases hd with
      | short hmem =>
          simp only [codePointEscape, List.cons_append, List.cons.injEq, true_and] at h
          exact absurd h.1.symm (hu _ hmem)
      | code =>
          simp only [codePointEscape, List.cons_append, List.append_assoc, List.nil_append,
            List.cons.injEq, true_and] at h
          -- The brace that closes the code point is no digit.
          have hbrace (n : Nat) : '\x7d' ∉ Nat.toDigits 16 n :=
            notMem_toDigits (by decide) (by simp)
          obtain ⟨hdigits, hxy⟩ :=
            (append_cons_inj_of_notMem_left (hbrace _) (hbrace _)).mp h
          exact ⟨Char.toNat_inj.mp (toDigits_inj (by decide) (by decide) hdigits), hxy⟩
      | raw _ hbackslash _ => exact absurd (List.cons.inj h).1.symm hbackslash
  | raw _ hbackslash _ =>
      cases hd with
      | short _ => exact absurd (List.cons.inj h).1 hbackslash
      | code => exact absurd (List.cons.inj h).1 hbackslash
      | raw _ _ _ => exact List.cons.inj h

/-- An escape has no newline in it. -/
theorem newline_notMem {c : Char} {e : List Char} (h : EscapeForm c e) : '\n' ∉ e := by
  cases h with
  | short hmem =>
      have hall : ∀ p ∈ shortEscapes, '\n' ∉ ['\\', p.2] := by decide
      exact hall _ hmem
  | code =>
      have hdigits : '\n' ∉ Nat.toDigits 16 c.toNat := notMem_toDigits (by decide) (by simp)
      simp [codePointEscape, hdigits]
  | raw _ _ hprintable =>
      intro hmem
      rw [← List.mem_singleton.mp hmem] at hprintable
      exact absurd hprintable (by decide)

end EscapeForm

/-- No escape is empty. -/
theorem escapeChar_ne_nil (c : Char) : escapeChar c ≠ [] := by
  obtain ⟨d, hd, -⟩ := (escapeForm_escapeChar c).exists_head?
  intro hnil
  rw [hnil] at hd
  exact Option.some_ne_none d hd.symm

/-- No escape begins with a quotation mark. -/
theorem head?_escapeChar_ne_quote (c : Char) : (escapeChar c).head? ≠ some '"' := by
  obtain ⟨d, hd, hne⟩ := (escapeForm_escapeChar c).exists_head?
  rw [hd]
  exact fun heq => hne (Option.some.inj heq)

/-- **Escapes delimit themselves.** -/
theorem prefixFree_escapeChar : PrefixFree escapeChar := by
  intro c d x y h
  exact (escapeForm_escapeChar c).eq_of_append_eq (escapeForm_escapeChar d) h

/-! ### Quoted texts, read from the left -/

/-- The characters of an escaped text. -/
@[simp] theorem toList_escape (s : String) : (escape s).toList = s.toList.flatMap escapeChar := by
  rw [escape, String.toList_ofList]

/-- The characters of a quoted text. -/
theorem toList_quote (s : String) :
    (quote s).toList = '"' :: (s.toList.flatMap escapeChar ++ ['"']) := by
  simp [quote]

/-- **Quoted texts delimit themselves**: the text and its end can be told from the front. -/
theorem prefixFree_quote : PrefixFree fun s : String => (quote s).toList := by
  intro s t x y h
  simp only [toList_quote, List.cons_append, List.cons.injEq, true_and] at h
  obtain ⟨hst, hxy⟩ := prefixFree_escapeChar.flatMap_append_singleton escapeChar_ne_nil
    head?_escapeChar_ne_quote _ _ _ _ h
  exact ⟨String.toList_inj.mp hst, hxy⟩

/-- A quoted text stays on one line. -/
theorem newline_notMem_quote (s : String) : '\n' ∉ (quote s).toList := by
  have hescaped : '\n' ∉ s.toList.flatMap escapeChar := by
    intro hmem
    obtain ⟨c, -, hc⟩ := List.mem_flatMap.mp hmem
    exact (escapeForm_escapeChar c).newline_notMem hc
  simp [toList_quote, hescaped]

/-! ### Quoted texts, read from the right -/

/-- Every quotation mark has a **backslash before it**. -/
def QuotesEscaped (l : List Char) : Prop :=
  ∀ p q : List Char, l = p ++ '"' :: q → p.getLast? = some '\\'

/-- A text without quotation marks has nothing to escape. -/
theorem quotesEscaped_of_notMem {l : List Char} (h : '"' ∉ l) : QuotesEscaped l := by
  rintro p q rfl
  exact absurd (List.mem_append_right p List.mem_cons_self) h

/-- Texts with escaped quotation marks can be joined. -/
theorem QuotesEscaped.append {l m : List Char} (hl : QuotesEscaped l) (hm : QuotesEscaped m) :
    QuotesEscaped (l ++ m) := by
  intro p q h
  rcases List.append_eq_append_iff.mp h with ⟨r, rfl, hr⟩ | ⟨r, hr, hrm⟩
  · rw [List.getLast?_append, hm r q hr, Option.some_or]
  · rcases List.cons_eq_append_iff.mp hrm with ⟨rfl, hm'⟩ | ⟨r', rfl, -⟩
    · exact absurd (hm [] q hm') (by simp)
    · exact hl p r' hr

/-- In an escape, a quotation mark comes behind a backslash. -/
theorem EscapeForm.quotesEscaped {c : Char} {e : List Char} (h : EscapeForm c e) :
    QuotesEscaped e := by
  cases h with
  | @short e _ =>
      intro p q heq
      match p with
      | [] => exact absurd (List.cons.inj heq).1 (by decide)
      | [d] => rw [← (List.cons.inj heq).1, List.getLast?_singleton]
      | _ :: _ :: _ => exact absurd (congrArg List.length heq) (by simp)
  | code =>
      have hdigits : '"' ∉ Nat.toDigits 16 c.toNat := notMem_toDigits (by decide) (by simp)
      exact quotesEscaped_of_notMem (by simp [codePointEscape, hdigits])
  | raw hquote _ _ =>
      exact quotesEscaped_of_notMem fun hmem => hquote (List.mem_singleton.mp hmem).symm

/-- In an escaped text, every quotation mark has a backslash before it. -/
theorem quotesEscaped_flatMap_escapeChar (l : List Char) :
    QuotesEscaped (l.flatMap escapeChar) := by
  induction l with
  | nil => exact quotesEscaped_of_notMem (by simp)
  | cons c l ih =>
      rw [List.flatMap_cons]
      exact (escapeForm_escapeChar c).quotesEscaped.append ih

/-- Behind a quotation mark with a space before it, no other one follows in an escaped text. -/
theorem QuotesEscaped.eq_nil_of_cons_cons_eq {u v r : List Char} (hu : QuotesEscaped u)
    (h : ' ' :: '"' :: u = r ++ ' ' :: '"' :: v) : r = [] ∧ u = v := by
  match r with
  | [] => exact ⟨rfl, by simpa using h⟩
  | [c] => exact absurd h (by simp)
  | _ :: _ :: r =>
      simp only [List.cons_append, List.cons.injEq] at h
      have hlast := hu (r ++ [' ']) v (by rw [h.2.2, List.append_assoc]; rfl)
      rw [List.getLast?_concat] at hlast
      exact absurd hlast (by decide)

/-- **A quoted text at the end, after a space, is found from the right**, whatever stands before
it. -/
theorem append_quote_inj {x y : List Char} {s t : String} :
    x ++ ' ' :: (quote s).toList = y ++ ' ' :: (quote t).toList ↔ x = y ∧ s = t := by
  refine ⟨fun h => ?_, fun ⟨hxy, hst⟩ => by rw [hxy, hst]⟩
  have hbody : x ++ ' ' :: '"' :: s.toList.flatMap escapeChar =
      y ++ ' ' :: '"' :: t.toList.flatMap escapeChar := by
    simp only [toList_quote, ← List.cons_append, ← List.append_assoc] at h
    exact List.append_cancel_right h
  have hs := quotesEscaped_flatMap_escapeChar s.toList
  have ht := quotesEscaped_flatMap_escapeChar t.toList
  obtain ⟨hxy, hescaped⟩ : x = y ∧ s.toList.flatMap escapeChar = t.toList.flatMap escapeChar := by
    rcases List.append_eq_append_iff.mp hbody with ⟨r, rfl, hr⟩ | ⟨r, rfl, hr⟩
    · obtain ⟨rfl, heq⟩ := hs.eq_nil_of_cons_cons_eq hr
      exact ⟨(List.append_nil x).symm, heq⟩
    · obtain ⟨rfl, heq⟩ := ht.eq_nil_of_cons_cons_eq hr
      exact ⟨List.append_nil y, heq.symm⟩
  refine ⟨hxy, prefixFree_quote.injective ?_⟩
  rw [toList_quote, toList_quote, hescaped]

end Lexicon
