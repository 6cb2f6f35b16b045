import Lexicon.Proofs.Scan

/-!
# Scanning Concatenated Inputs

Cutting an input in two and scanning the parts gives the scan of the whole only if the cut does not
go through a lexeme. Since one further byte decides whether a symbol grows, the cut is harmless
exactly when the last lexeme before it does not grow into the first byte behind it; whatever stands
further left is out of reach of that byte.

The same criterion, applied to each pair of neighbours, says which symbols can be written down
without separators and be read back one by one.

## Main results

* `Scans.cons_inv`: what the first step of a scan can be.
* `Scans.append_iff`: scans join exactly when the last lexeme of the first does not grow.
* `scan_append_iff`: **the split law** of the scan.
* `scan_renderBytes_iff`: **symbols read back** exactly when no neighbours grow together.
-/

namespace Lexicon

/-! ### The first step of a scan -/

/-- Inversion of a scan with at least one lexeme: the first one is a symbol that does not grow, or
a single byte that is a marker, and the others scan the rest. -/
theorem Scans.cons_inv {offset : Nat} {input : List UInt8} {l : Lexeme} {lexemes : List Lexeme}
    (h : Scans offset input (l :: lexemes)) :
    (∃ (s : Symbol) (rest : List UInt8), input = s.bytes ++ rest ∧
      l = ⟨offset, .symbol, .symbol s, s.bytes.length⟩ ∧ ¬ Symbol.Grows s.bytes rest ∧
      Scans (offset + s.bytes.length) rest lexemes) ∨
    ∃ (b : UInt8) (m : Marker) (rest : List UInt8), input = b :: rest ∧
      l = ⟨offset, .byte, .marker m, 1⟩ ∧ Kind.ofByte b = .marker m ∧
      Scans (offset + 1) rest lexemes := by
  cases h with
  | symbol hgrows htail => exact .inl ⟨_, _, rfl, rfl, hgrows, htail⟩
  | byte hm htail => exact .inr ⟨_, _, _, rfl, rfl, hm, htail⟩

/-- A scan that begins with a symbol of the input took it because it does not grow. -/
theorem Scans.not_grows_of_kind_eq {offset : Nat} {s : Symbol} {rest : List UInt8} {l : Lexeme}
    {lexemes : List Lexeme} (h : Scans offset (s.bytes ++ rest) (l :: lexemes))
    (hkind : l.kind = .symbol s) :
    ¬ Symbol.Grows s.bytes rest ∧ Scans (offset + s.bytes.length) rest lexemes := by
  rcases h.cons_inv with ⟨t, tail, hinput, rfl, hgrows, htail⟩ | ⟨b, m, tail, -, rfl, -, -⟩
  · obtain rfl : t = s := Kind.symbol.inj hkind
    obtain rfl : rest = tail := List.append_cancel_left hinput
    exact ⟨hgrows, htail⟩
  · exact absurd hkind (by simp)

/-- A symbol is the first lexeme of a scan exactly when it does not grow into what follows. -/
theorem scans_symbol_iff {offset : Nat} {s : Symbol} {rest : List UInt8}
    {lexemes : List Lexeme} :
    Scans offset (s.bytes ++ rest) (⟨offset, .symbol, .symbol s, s.bytes.length⟩ :: lexemes) ↔
      ¬ Symbol.Grows s.bytes rest ∧ Scans (offset + s.bytes.length) rest lexemes :=
  ⟨fun h => h.not_grows_of_kind_eq rfl, fun ⟨hgrows, htail⟩ => Scans.symbol hgrows htail⟩

/-- Behind the byte of a marker the scan goes on with the next byte, whatever that is. -/
theorem scans_byte_iff {offset : Nat} {b : UInt8} {m : Marker} {rest : List UInt8}
    {lexemes : List Lexeme} (hm : Kind.ofByte b = .marker m) :
    Scans offset (b :: rest) (⟨offset, .byte, .marker m, 1⟩ :: lexemes) ↔
      Scans (offset + 1) rest lexemes := by
  refine ⟨fun h => ?_, Scans.byte hm⟩
  rcases h.cons_inv with ⟨s, tail, -, hl, -, -⟩ | ⟨c, m', tail, hinput, -, -, htail⟩
  · exact absurd (congrArg Lexeme.origin hl) (by simp)
  · obtain ⟨-, rfl⟩ := List.cons.inj hinput
    exact htail

/-- A scan has no lexemes exactly when there is nothing to scan. -/
theorem Scans.eq_nil_iff {offset : Nat} {input : List UInt8} {lexemes : List Lexeme}
    (h : Scans offset input lexemes) : lexemes = [] ↔ input = [] := by
  constructor
  · rintro rfl
    exact List.length_eq_zero_iff.mp h.tiles.sum_length.symm
  · rintro rfl
    rw [← h.scanFrom_eq, scanFrom_nil]

/-! ### Moving a scan -/

/-- A lexeme `n` places further on. -/
def Lexeme.shift (n : Nat) (l : Lexeme) : Lexeme :=
  { l with offset := l.offset + n }

/-- A scan may begin anywhere: only the offsets change. -/
theorem Scans.shift {offset : Nat} {input : List UInt8} {lexemes : List Lexeme}
    (h : Scans offset input lexemes) (n : Nat) :
    Scans (offset + n) input (lexemes.map (Lexeme.shift n)) := by
  induction h with
  | nil => exact Scans.nil
  | symbol hgrows _ ih =>
      rw [Nat.add_right_comm] at ih
      exact Scans.symbol hgrows ih
  | byte hm _ ih =>
      rw [Nat.add_right_comm] at ih
      exact Scans.byte hm ih

/-! ### Joining two scans -/

/-- **Scans join** exactly when the last lexeme of the first does not grow into the second
input. -/
theorem Scans.append_iff {offset : Nat} {a b : List UInt8} {la lb : List Lexeme}
    (ha : Scans offset a la) (hb : Scans (offset + a.length) b lb) :
    Scans offset (a ++ b) (la ++ lb) ↔
      ∀ l ∈ la.getLast?, l.origin = .symbol → ¬ Symbol.Grows l.kind.renderBytes b := by
  -- The induction follows the first scan; only its very last step meets the bytes of `b`.
  induction ha with
  | nil => exact iff_of_true hb (by simp)
  | @symbol offset s rest lexemes hgrows htail ih =>
      rw [List.length_append, ← Nat.add_assoc] at hb
      rw [List.append_assoc, List.cons_append, scans_symbol_iff]
      by_cases hrest : rest = []
      · obtain rfl := htail.eq_nil_iff.mpr hrest
        subst hrest
        rw [List.length_nil, Nat.add_zero] at hb
        rw [List.nil_append, List.nil_append, and_iff_left hb, List.getLast?_singleton]
        simp [Kind.renderBytes]
      · rw [Symbol.grows_append_iff hrest, and_iff_right hgrows, ih hb,
          List.getLast?_cons_of_ne_nil (mt htail.eq_nil_iff.mp hrest)]
  | @byte offset c m rest lexemes hm htail ih =>
      rw [List.length_cons, Nat.add_comm rest.length 1, ← Nat.add_assoc] at hb
      rw [List.cons_append, List.cons_append, scans_byte_iff hm, ih hb]
      by_cases hrest : rest = []
      · obtain rfl := htail.eq_nil_iff.mpr hrest
        simp
      · rw [List.getLast?_cons_of_ne_nil (mt htail.eq_nil_iff.mp hrest)]

/-- The scan of a concatenation in terms of the last lexeme, for any two inputs. -/
theorem scan_append_eq_iff {a b : List UInt8} :
    scan (a ++ b) = scan a ++ (scan b).map (Lexeme.shift a.length) ↔
      ∀ l ∈ (scan a).getLast?, l.origin = .symbol → ¬ Symbol.Grows l.kind.renderBytes b := by
  have hb : Scans (0 + a.length) b ((scan b).map (Lexeme.shift a.length)) :=
    (scans_scan b).shift a.length
  rw [← (scans_scan a).append_iff hb]
  exact scans_iff.symm

/-- **The split law.** Scanning two inputs one after the other gives the scan of their
concatenation, with the offsets of the second moved behind the first, exactly when the last lexeme
of the first is a single byte, or a symbol whose spelling does not become the spelling of another
symbol by the first byte of the second input. -/
theorem scan_append_iff {a b : List UInt8} (ha : a ≠ []) :
    scan (a ++ b) = scan a ++ (scan b).map (Lexeme.shift a.length) ↔
      ∃ l, (scan a).getLast? = some l ∧
        (l.origin = .byte ∨ l.origin = .symbol ∧ ¬ Symbol.Grows l.kind.renderBytes b) := by
  rw [scan_append_eq_iff]
  have hne : scan a ≠ [] := mt (scans_scan a).eq_nil_iff.mp ha
  obtain ⟨l, hl⟩ : ∃ l, (scan a).getLast? = some l :=
    ⟨_, List.getLast?_eq_getLast_of_ne_nil hne⟩
  rw [hl]
  constructor
  · intro h
    refine ⟨l, rfl, ?_⟩
    cases horigin : l.origin with
    | symbol => exact .inr ⟨rfl, h l rfl horigin⟩
    | byte => exact .inl rfl
  · rintro ⟨_, ⟨⟩, h⟩ m hm hsymbol
    obtain rfl : l = m := Option.some.inj hm
    rcases h with hbyte | ⟨-, hgrows⟩
    · exact absurd (hbyte.symm.trans hsymbol) (by simp)
    · exact hgrows

/-- Two dots and one dot are scanned apart, but two dots and an equals sign grow together. -/
theorem scan_append_dots :
    ([0x2e, 0x2e] : List UInt8) ≠ [] ∧
      scan ([0x2e, 0x2e] ++ [0x2e]) =
        scan [0x2e, 0x2e] ++ (scan [0x2e]).map (Lexeme.shift 2) ∧
      scan ([0x2e, 0x2e] ++ [0x3d]) ≠
        scan [0x2e, 0x2e] ++ (scan [0x3d]).map (Lexeme.shift 2) := by
  have hscan : scan [0x2e, 0x2e] = [⟨0, .symbol, .symbol .rangeExc, 2⟩] :=
    Scans.scanFrom_eq (Scans.symbol (s := .rangeExc) (Symbol.not_grows_nil _) Scans.nil)
  refine ⟨by decide, (scan_append_iff (by decide)).mpr ?_, mt (scan_append_iff (by decide)).mp ?_⟩
  · exact ⟨_, by rw [hscan]; rfl, .inr ⟨rfl, by decide⟩⟩
  · rintro ⟨l, hl, h⟩
    rw [hscan] at hl
    obtain rfl := Option.some.inj hl
    exact absurd h (by decide)

/-! ### Reading symbols back -/

/-- A spelling grows into the spellings of some symbols exactly when it grows into the first of
them. -/
theorem Symbol.grows_flatMap_iff {spelling : List UInt8} {symbols : List Symbol} :
    Grows spelling (symbols.flatMap bytes) ↔
      ∃ t ∈ symbols.head?, Grows spelling t.bytes := by
  cases symbols with
  | nil => simp
  | cons t symbols =>
      rw [List.flatMap_cons, grows_append_iff t.bytes_ne_nil]
      simp

/-- Symbols that are written side by side read back one by one exactly when no symbol grows into
the next one. -/
theorem scanFrom_flatMap_bytes_iff (offset : Nat) (symbols : List Symbol) :
    (scanFrom offset (symbols.flatMap Symbol.bytes)).map (fun l => (l.origin, l.kind)) =
        symbols.map (fun s => (Origin.symbol, Kind.symbol s)) ↔
      symbols.IsChain fun s t => ¬ Symbol.Grows s.bytes t.bytes := by
  induction symbols generalizing offset with
  | nil => simp
  | cons s symbols ih =>
      have hchain : (∀ t ∈ symbols.head?, ¬ Symbol.Grows s.bytes t.bytes) ↔
          ¬ Symbol.Grows s.bytes (symbols.flatMap Symbol.bytes) := by
        rw [Symbol.grows_flatMap_iff]
        exact ⟨fun h ⟨t, ht, hgrows⟩ => h t ht hgrows, fun h t ht hgrows => h ⟨t, ht, hgrows⟩⟩
      rw [List.flatMap_cons, List.map_cons, List.isChain_cons, hchain]
      constructor
      · intro h
        obtain ⟨l, lexemes, hscan, hl, htail⟩ := List.map_eq_cons_iff.mp h
        obtain ⟨hgrows, hrest⟩ := (scans_iff.mpr hscan).not_grows_of_kind_eq
          (Prod.mk.inj hl).2
        rw [← hrest.scanFrom_eq] at htail
        exact ⟨hgrows, (ih _).mp htail⟩
      · rintro ⟨hgrows, h⟩
        rw [scanFrom_symbol hgrows, List.map_cons, (ih _).mpr h]

/-- Kinds that are symbols come from a list of symbols. -/
theorem Kind.exists_map_symbol {kinds : List Kind} (h : ∀ k ∈ kinds, k.isSymbol = true) :
    ∃ symbols : List Symbol, kinds = symbols.map Kind.symbol := by
  induction kinds with
  | nil => exact ⟨[], rfl⟩
  | cons k kinds ih =>
      obtain ⟨symbols, rfl⟩ := ih fun l hl => h l (List.mem_cons_of_mem k hl)
      cases k with
      | symbol s => exact ⟨s :: symbols, rfl⟩
      | _ => exact absurd (h _ List.mem_cons_self) (by simp [Kind.isSymbol_eq])

/-- **Symbols read back without separators.** The bytes of some symbols, one after the other, scan
to exactly these symbols in order if and only if no two neighbours grow together: the spelling of
the first with the first byte of the second is not the spelling of a symbol. -/
theorem scan_renderBytes_iff {kinds : List Kind} (h : ∀ k ∈ kinds, k.isSymbol = true) :
    (scan (kinds.flatMap Kind.renderBytes)).map (fun l => (l.origin, l.kind)) =
        kinds.map (fun k => (Origin.symbol, k)) ↔
      kinds.IsChain fun k l => ¬ Symbol.Grows k.renderBytes l.renderBytes := by
  obtain ⟨symbols, rfl⟩ := Kind.exists_map_symbol h
  rw [List.flatMap_map, List.map_map, List.isChain_map]
  exact scanFrom_flatMap_bytes_iff 0 symbols

/-- The symbols `..`, `.` and `=` read back from `...=`, but `..` and `=` alone do not. -/
theorem scan_renderBytes_dots :
    (∀ k ∈ [Kind.symbol .rangeExc, .symbol .dot, .symbol .assign], k.isSymbol = true) ∧
      (scan ([Kind.symbol .rangeExc, .symbol .dot, .symbol .assign].flatMap Kind.renderBytes)).map
          (fun l => (l.origin, l.kind)) =
        [(.symbol, .symbol .rangeExc), (.symbol, .symbol .dot), (.symbol, .symbol .assign)] ∧
      (scan ([Kind.symbol .rangeExc, .symbol .assign].flatMap Kind.renderBytes)).map
          (fun l => (l.origin, l.kind)) ≠
        [(.symbol, .symbol .rangeExc), (.symbol, .symbol .assign)] := by
  refine ⟨by decide, (scan_renderBytes_iff (by decide)).mpr (by decide), ?_⟩
  exact mt (scan_renderBytes_iff (by decide)).mp (by decide)

end Lexicon
