import ConstantScan.Json.Parser
import ConstantScan.Json.Printer
import ConstantScan.Proofs.Numerals
import ConstantScan.Proofs.ReadBack
import Mathlib

/-!
# JSON read back

The text that a value is written as reads as that value, whatever stands in its strings.
-/

namespace ConstantScan

/-! ## Values that have a written form -/

/-- A value of texts, flags and whole numbers up to `top`, with so many levels of lists and
dictionaries at most. -/
inductive Value.Plain (top : Nat) : Nat → Value → Prop
  | bool (room : Nat) (b : Bool) : Plain top room (.bool b)
  | string (room : Nat) (s : String) : Plain top room (.string s)
  | natural (room : Nat) {n : Nat} (h : n ≤ top) : Plain top room (.number (.unsigned n))
  | list {room : Nat} {vs : List Value} (h : ∀ v ∈ vs, Plain top room v) :
    Plain top (room + 1) (.list vs)
  | dict {room : Nat} {es : Dict} (h : ∀ e ∈ es, Plain top room e.2) :
    Plain top (room + 1) (.dict es)

namespace Json

open Unicode (Runs)

/-! ## Blanks -/

theorem skip_append {blanks : List Char} (h : ∀ c ∈ blanks, isBlank c = true) (cs : List Char) :
    skip (blanks ++ cs) = skip cs := List.dropWhile_append_of_pos h

theorem skip_cons_of_not_isBlank {c : Char} (h : isBlank c = false) (cs : List Char) :
    skip (c :: cs) = c :: cs := by simp [skip, h]

theorem skip_skip (cs : List Char) : skip (skip cs) = skip cs := List.dropWhile_idempotent _ _

theorem value_skip (room fuel : Nat) (cs : List Char) :
    value room fuel (skip cs) = value room fuel cs := by
  cases fuel with
  | zero => rw [value, value]
  | succ fuel => rw [value, value, skip_skip]

theorem items_skip (room : Nat) (acc : List Value) (fuel : Nat) (cs : List Char) :
    items room acc fuel (skip cs) = items room acc fuel cs := by
  cases fuel with
  | zero => rw [items, items]
  | succ fuel => rw [items, items, value_skip]

theorem members_skip (room : Nat) (acc : Dict) (fuel : Nat) (cs : List Char) :
    members room acc fuel (skip cs) = members room acc fuel cs := by
  cases fuel with
  | zero => rw [members, members]
  | succ fuel => rw [members, members, skip_skip]

theorem isBlank_of_mem_indent {depth : Nat} {c : Char} (h : c ∈ (indent depth).toList) :
    isBlank c = true := by
  rw [indent, String.toList_ofList] at h
  rw [List.eq_of_mem_replicate h]
  rfl

/-! ## Strings -/

theorem hexDigit?_hexDigit : ∀ n < 16, Runs.hexDigit? (hexDigit n) = some n := by decide

theorem scalar?_toNat (c : Char) : scalar? c.toNat = some c := by
  have hvalid : c.toNat.isValidChar := c.valid
  rw [scalar?, dif_pos hvalid]
  rfl

theorem stringBody_escapeChar (acc : List Char) (fuel : Nat) (c : Char) (rest : List Char) :
    stringBody acc (fuel + 1) (escapeChar c ++ rest) = stringBody (c :: acc) fuel rest := by
  unfold escapeChar
  split
  case h_8 =>
    split
    · next hcontrol =>
      have hhigh := hexDigit?_hexDigit (c.toNat / 16) (by omega)
      have hlow := hexDigit?_hexDigit (c.toNat % 16) (by omega)
      have hzero : Runs.hexDigit? '0' = some 0 := rfl
      have hvalue : c.toNat / 16 * 16 + c.toNat % 16 = c.toNat := by omega
      have hplain : ¬ (0xD800 ≤ c.toNat ∧ c.toNat < 0xDC00) := by omega
      simp [stringBody, escape, unicodeEscape, hex4, hhigh, hlow, hzero, hvalue, hplain,
        scalar?_toNat]
    · next hquote hbackslash _ _ _ _ _ hcontrol =>
      simp [stringBody, hcontrol]
  all_goals rfl

theorem one_le_length_escapeChar (c : Char) : 1 ≤ (escapeChar c).length := by
  unfold escapeChar
  split
  case h_8 => split <;> simp
  all_goals simp

theorem length_le_length_flatMap_escapeChar (cs : List Char) :
    cs.length ≤ (cs.flatMap escapeChar).length := by
  induction cs with
  | nil => simp
  | cons c cs ih =>
    have hc := one_le_length_escapeChar c
    simp only [List.flatMap_cons, List.length_cons, List.length_append]
    omega

theorem stringBody_flatMap_escapeChar (acc cs : List Char) {fuel : Nat} (h : cs.length < fuel)
    (rest : List Char) :
    stringBody acc fuel (cs.flatMap escapeChar ++ '"' :: rest) =
      some (acc.reverse ++ cs, rest) := by
  induction cs generalizing acc fuel with
  | nil =>
    obtain ⟨fuel, rfl⟩ := Nat.exists_eq_add_of_lt h
    simp [stringBody]
  | cons c cs ih =>
    cases fuel with
    | zero => simp at h
    | succ fuel =>
      rw [List.flatMap_cons, List.append_assoc, stringBody_escapeChar,
        ih _ (by simpa using h)]
      simp

/-- What stands after the opening quote of a string. -/
theorem stringBody_quote (s : String) {fuel : Nat}
    (h : (s.toList.flatMap escapeChar).length < fuel) (rest : List Char) :
    stringBody [] fuel (s.toList.flatMap escapeChar ++ '"' :: rest) = some (s.toList, rest) := by
  have hlength := length_le_length_flatMap_escapeChar s.toList
  exact stringBody_flatMap_escapeChar [] s.toList (by omega) rest

theorem toList_quote (s : String) :
    (quote s).toList = '"' :: (s.toList.flatMap escapeChar ++ ['"']) := by
  simp [quote]

/-! ## Numbers -/

def continuesNumber (c : Char) : Bool := c.isDigit || c == '.' || c == 'e' || c == 'E'

theorem spanDigits_append {digits rest : List Char} (h : Stops Char.isDigit rest)
    (hdigits : ∀ c ∈ digits, c.isDigit = true) : spanDigits (digits ++ rest) = (digits, rest) := by
  rw [spanDigits, h.takeWhile_append hdigits, List.drop_left]

theorem wholePart_toDigits {n : Nat} (h : n ≤ maxUnsigned) :
    wholePart (Nat.toDigits 10 n) = (n, 0) := by
  induction n using Nat.strongRec with
  | ind n ih =>
    rcases Nat.lt_or_ge n 10 with hlt | hge
    · rw [Nat.toDigits_of_lt_base hlt]
      simp [wholePart, Nat.toNat_digitChar_sub_48_of_lt_ten hlt, h]
    · have hback : n / 10 * 10 + n % 10 = n := by omega
      have hstep := ih (n / 10) (by omega) (by omega)
      rw [wholePart] at hstep
      rw [Nat.toDigits_of_base_le (by decide) hge, wholePart, List.foldl_append, hstep]
      simp [Nat.toNat_digitChar_sub_48_of_lt_ten (Nat.mod_lt n (by decide : 0 < 10)), hback, h]

theorem unsignedNumber_toDigits {n : Nat} (h : n ≤ maxUnsigned) {rest : List Char}
    (hrest : Stops continuesNumber rest) :
    unsignedNumber false (Nat.toDigits 10 n ++ rest) = some (.unsigned n, rest) := by
  have hspan : spanDigits (Nat.toDigits 10 n ++ rest) = (Nat.toDigits 10 n, rest) :=
    spanDigits_append (hrest.mono fun c hc => by simp [continuesNumber, hc])
      fun c hc => Decimal.isDigit_of_mem_toDigits hc
  have hexponent : exponentPart rest = some (none, rest) := by
    cases rest with
    | nil => rfl
    | cons c rest =>
      have hc := stops_cons.1 hrest
      simp only [continuesNumber, Bool.or_eq_false_iff, beq_eq_false_iff_ne] at hc
      simp [exponentPart, hc]
  have hpoint : ∀ more, rest ≠ '.' :: more := by
    rintro more rfl
    simp [Stops, continuesNumber] at hrest
  have hdigits : Nat.toDigits 10 n ≠ [] := Nat.toDigits_ne_nil
  have hzero : ∀ c cs, Nat.toDigits 10 n ≠ '0' :: c :: cs := by
    intro c cs hcs
    rcases Decimal.toDigits_eq_cons n with hn | ⟨d, ds, hn, hd⟩
    · simp [hn] at hcs
    · rw [hn, List.cons.injEq] at hcs
      exact hd hcs.1
  have hwhole : wholeNumber? false n 0 = some (.unsigned n) := rfl
  unfold unsignedNumber
  simp only [hspan, wholePart_toDigits h, hexponent, hwhole]
  split
  · next hempty => simp [hdigits] at hempty
  · rfl

theorem number_toDigits {n : Nat} (h : n ≤ maxUnsigned) {rest : List Char}
    (hrest : Stops continuesNumber rest) :
    number (Nat.toDigits 10 n ++ rest) = some (.unsigned n, rest) := by
  rw [← unsignedNumber_toDigits h hrest]
  unfold number
  split
  · next cs hcs =>
    obtain ⟨c, cs', hdigits⟩ := List.exists_cons_of_ne_nil (Nat.toDigits_ne_nil (n := n) (b := 10))
    have hc := Decimal.isDigit_of_mem_toDigits (n := n) (c := c) (by simp [hdigits])
    rw [hdigits, List.cons_append, List.cons.injEq] at hcs
    obtain ⟨rfl, -⟩ := hcs
    exact absurd hc (by decide)
  · rfl

/-! ## Values -/

/-- The text reads as the value wherever a value may stand. -/
structure Reads (room : Nat) (text : List Char) (v : Value) : Prop where
  head : ∃ c cs, text = c :: cs ∧ isBlank c = false ∧ c ≠ ']'
  read : ∀ rest, Stops continuesNumber rest → ∀ fuel, (text ++ rest).length < fuel →
    value room fuel (text ++ rest) = some (v, rest)

theorem Reads.of_read {room : Nat} {c : Char} {cs : List Char} {v : Value}
    (hblank : isBlank c = false) (hclose : c ≠ ']')
    (h : ∀ rest, Stops continuesNumber rest → ∀ fuel, (cs ++ rest).length < fuel →
      value room (fuel + 1) (c :: (cs ++ rest)) = some (v, rest)) :
    Reads room (c :: cs) v where
  head := ⟨c, cs, rfl, hblank, hclose⟩
  read rest hrest fuel hfuel := by
    cases fuel with
    | zero => simp at hfuel
    | succ fuel => exact h rest hrest fuel (by simpa using hfuel)

theorem reads_bool (room : Nat) (b : Bool) :
    Reads room (pretty 0 (.bool b)).toList (.bool b) := by
  cases b with
  | true =>
    change Reads room ('t' :: ['r', 'u', 'e']) _
    refine Reads.of_read rfl (by decide) fun rest _ fuel _ => ?_
    simp [value, skip_cons_of_not_isBlank (c := 't') rfl]
  | false =>
    change Reads room ('f' :: ['a', 'l', 's', 'e']) _
    refine Reads.of_read rfl (by decide) fun rest _ fuel _ => ?_
    simp [value, skip_cons_of_not_isBlank (c := 'f') rfl]

theorem reads_quote (room : Nat) (s : String) : Reads room (quote s).toList (.string s) := by
  rw [toList_quote]
  refine Reads.of_read rfl (by decide) fun rest _ fuel hfuel => ?_
  rw [List.append_assoc, List.singleton_append, value, skip_cons_of_not_isBlank rfl]
  simp only [List.length_append] at hfuel
  simp only [stringBody_quote s (by omega : _ < fuel), Option.map_some, String.ofList_toList]

theorem reads_toDigits (room : Nat) {n : Nat} (h : n ≤ maxUnsigned) :
    Reads room (Nat.toDigits 10 n) (.number (.unsigned n)) := by
  obtain ⟨c, cs, hdigits⟩ := List.exists_cons_of_ne_nil (Nat.toDigits_ne_nil (n := n) (b := 10))
  have hc := Decimal.isDigit_of_mem_toDigits (n := n) (c := c) (by simp [hdigits])
  have hne (d : Char) (hd : d.isDigit = false) : c ≠ d := by
    rintro rfl
    simp [hc] at hd
  have hblank : isBlank c = false := by
    simp [isBlank, hne ' ' rfl, hne '\n' rfl, hne '\t' rfl, hne '\r' rfl]
  have hnumber (rest : List Char) (hrest : Stops continuesNumber rest) :=
    number_toDigits h hrest
  rw [hdigits] at hnumber ⊢
  refine Reads.of_read hblank (hne ']' rfl) fun rest hrest fuel hfuel => ?_
  specialize hnumber rest hrest
  rw [List.cons_append] at hnumber
  rw [value, skip_cons_of_not_isBlank hblank]
  simpa [hne 'n' rfl, hne 't' rfl, hne 'f' rfl, hne '"' rfl, hne '[' rfl, hne '\x7b' rfl]
    using hnumber

/-! ## Lists and dictionaries -/

theorem prettyItems_eq (depth : Nat) (acc : List String) (vs : List Value) :
    prettyItems depth acc vs = acc.reverse ++ vs.map (pretty depth) := by
  induction vs generalizing acc with
  | nil => simp [prettyItems]
  | cons v vs ih => simp [prettyItems, ih]

def memberText (depth : Nat) (e : String × Value) : String := quote e.1 ++ ": " ++ pretty depth e.2

theorem prettyMembers_eq (depth : Nat) (acc : List String) (es : List (String × Value)) :
    prettyMembers depth acc es = acc.reverse ++ es.map (memberText depth) := by
  induction es generalizing acc with
  | nil => simp [prettyMembers]
  | cons e es ih =>
    obtain ⟨k, v⟩ := e
    simp [prettyMembers, ih, memberText]

/-- Texts on lines of their own and what closes them. -/
def linesText (depth : Nat) (lines : List String) (stop : List Char) : List Char :=
  ['\n'] ++ [',', '\n'].intercalate (lines.map fun l => (indent (depth + 1) ++ l).toList) ++
    '\n' :: ((indent depth).toList ++ stop)

theorem toList_enclose (start stop : String) (depth : Nat) {lines : List String}
    (h : lines ≠ []) :
    (enclose start stop depth lines).toList = start.toList ++ linesText depth lines stop.toList := by
  have hempty : lines.isEmpty = false := by simpa using h
  simp [enclose, hempty, linesText, String.toList_intercalate, Function.comp_def]

theorem linesText_singleton (depth : Nat) (l : String) (stop : List Char) :
    linesText depth [l] stop =
      '\n' :: ((indent (depth + 1)).toList ++ (l.toList ++ '\n' :: ((indent depth).toList ++ stop))) := by
  simp [linesText]

theorem linesText_cons_cons (depth : Nat) (l l' : String) (lines : List String)
    (stop : List Char) :
    linesText depth (l :: l' :: lines) stop =
      '\n' :: ((indent (depth + 1)).toList ++ (l.toList ++ ',' :: linesText depth (l' :: lines) stop)) := by
  simp [linesText]

theorem skip_linesText (depth : Nat) (cs : List Char) :
    skip ('\n' :: ((indent depth).toList ++ cs)) = skip cs := by
  have hblanks : ∀ c ∈ '\n' :: (indent depth).toList, isBlank c = true := by
    intro c hc
    rcases List.mem_cons.1 hc with rfl | hc
    · rfl
    · exact isBlank_of_mem_indent hc
  rw [← skip_append hblanks cs, List.cons_append]

theorem skip_linesText_cons (depth : Nat) {l : String} {c : Char} {cs : List Char}
    (hl : l.toList = c :: cs) (hc : isBlank c = false) (lines : List String) (stop : List Char) :
    ∃ cs', skip (linesText depth (l :: lines) stop) = c :: cs' := by
  cases lines with
  | nil =>
    rw [linesText_singleton, skip_linesText, hl, List.cons_append, skip_cons_of_not_isBlank hc]
    exact ⟨_, rfl⟩
  | cons l' lines =>
    rw [linesText_cons_cons, skip_linesText, hl, List.cons_append, skip_cons_of_not_isBlank hc]
    exact ⟨_, rfl⟩

theorem linesText_append (depth : Nat) (lines : List String) (stop rest : List Char) :
    linesText depth lines stop ++ rest = linesText depth lines (stop ++ rest) := by
  simp [linesText]

/-- The items of a list from the line of the first one on. -/
theorem items_linesText {room depth : Nat} {vs : List Value} {number : Nat → Number}
    (h : ∀ v ∈ vs, Reads room (pretty (depth + 1) v).toList (v.readBack number)) (hvs : vs ≠ [])
    (acc : List Value) (rest : List Char) {fuel : Nat}
    (hfuel : (linesText depth (vs.map (pretty (depth + 1))) (']' :: rest)).length < fuel) :
    items room acc fuel (linesText depth (vs.map (pretty (depth + 1))) (']' :: rest)) =
      some (acc.reverse ++ Value.readBackItems number vs, rest) := by
  induction vs generalizing acc fuel with
  | nil => exact absurd rfl hvs
  | cons v vs ih =>
    -- What stands behind an item, a comma or a line end, does not go on with a number.
    have hv := (h v List.mem_cons_self).read
    cases fuel with
    | zero => simp at hfuel
    | succ fuel =>
      cases vs with
      | nil =>
        rw [List.map_singleton, linesText_singleton] at hfuel ⊢
        simp only [List.length_cons, List.length_append] at hfuel
        rw [← items_skip, skip_linesText, items_skip, items, hv _ (stops_cons.2 rfl) fuel (by
          simp only [List.length_cons, List.length_append]
          omega)]
        simp only [skip_linesText, skip_cons_of_not_isBlank (c := ']') rfl]
        simp [Value.readBackItems]
      | cons w vs =>
        rw [List.map_cons, List.map_cons, linesText_cons_cons, ← List.map_cons] at hfuel ⊢
        simp only [List.length_cons, List.length_append] at hfuel
        rw [← items_skip, skip_linesText, items_skip, items, hv _ (stops_cons.2 rfl) fuel (by
          simp only [List.length_cons, List.length_append]
          omega)]
        simp only [skip_cons_of_not_isBlank (c := ',') rfl]
        rw [ih (fun v hv => h v (List.mem_cons_of_mem _ hv)) (by simp) _ (by omega)]
        simp [Value.readBackItems]

theorem members_member {room depth : Nat} {e : String × Value} {v : Value}
    (h : Reads room (pretty depth e.2).toList v) (acc : Dict) {rest : List Char} {fuel : Nat}
    (hrest : Stops continuesNumber rest)
    (hfuel : ((memberText depth e).toList ++ rest).length < fuel) :
    members room acc (fuel + 1) ((memberText depth e).toList ++ rest) =
      match skip rest with
      | ',' :: rest => members room ((e.1, v) :: acc) fuel rest
      | '\x7d' :: rest => some (((e.1, v) :: acc).reverse, rest)
      | _ => none := by
  have htext : (memberText depth e).toList ++ rest =
      '"' :: (e.1.toList.flatMap escapeChar ++
        '"' :: ':' :: ' ' :: ((pretty depth e.2).toList ++ rest)) := by
    simp [memberText, toList_quote]
  rw [htext] at hfuel ⊢
  simp only [List.length_cons, List.length_append] at hfuel
  rw [members, skip_cons_of_not_isBlank (c := '"') rfl]
  simp only [stringBody_quote e.1 (by omega : _ < fuel), String.ofList_toList,
    skip_cons_of_not_isBlank (c := ':') rfl]
  have hread : value room fuel (' ' :: ((pretty depth e.2).toList ++ rest)) = some (v, rest) := by
    rw [← value_skip, ← List.singleton_append, skip_append (by simp [isBlank]), value_skip]
    exact h.read rest hrest fuel (by
      rw [List.length_append]
      omega)
  rewrite [hread]
  rfl

theorem members_linesText {room depth : Nat} {es : List (String × Value)} {number : Nat → Number}
    (h : ∀ e ∈ es, Reads room (pretty (depth + 1) e.2).toList (e.2.readBack number))
    (hes : es ≠ []) (acc : Dict) (rest : List Char) {fuel : Nat}
    (hfuel : (linesText depth (es.map (memberText (depth + 1))) ('\x7d' :: rest)).length < fuel) :
    members room acc fuel (linesText depth (es.map (memberText (depth + 1))) ('\x7d' :: rest)) =
      some (acc.reverse ++ Dict.readBackEntries number es, rest) := by
  induction es generalizing acc fuel with
  | nil => exact absurd rfl hes
  | cons e es ih =>
    have he := h e List.mem_cons_self
    cases fuel with
    | zero => simp at hfuel
    | succ fuel =>
      cases es with
      | nil =>
        rw [List.map_singleton, linesText_singleton] at hfuel ⊢
        simp only [List.length_cons, List.length_append] at hfuel
        rw [← members_skip, skip_linesText, members_skip,
          members_member he _ (stops_cons.2 rfl) (by
            simp only [List.length_cons, List.length_append]
            omega), skip_linesText]
        simp [skip_cons_of_not_isBlank (c := '\x7d') rfl, Dict.readBackEntries]
      | cons e' es =>
        rw [List.map_cons, List.map_cons, linesText_cons_cons, ← List.map_cons] at hfuel ⊢
        simp only [List.length_cons, List.length_append] at hfuel
        rw [← members_skip, skip_linesText, members_skip,
          members_member he _ (stops_cons.2 rfl) (by
            simp only [List.length_cons, List.length_append]
            omega)]
        simp only [skip_cons_of_not_isBlank (c := ',') rfl]
        rw [ih (fun e he => h e (List.mem_cons_of_mem _ he)) (by simp) _ (by omega)]
        simp [Dict.readBackEntries]

theorem reads_list {room depth : Nat} {vs : List Value} {number : Nat → Number}
    (h : ∀ v ∈ vs, Reads room (pretty (depth + 1) v).toList (v.readBack number)) :
    Reads (room + 1) (pretty depth (.list vs)).toList (.list (Value.readBackItems number vs)) := by
  rw [pretty, prettyItems_eq, List.reverse_nil, List.nil_append]
  cases vs with
  | nil =>
    have htext : (enclose "[" "]" depth []).toList = ['[', ']'] := by simp [enclose]
    rw [List.map_nil, htext, Value.readBackItems]
    refine Reads.of_read rfl (by decide) fun rest _ fuel _ => ?_
    rw [value, skip_cons_of_not_isBlank rfl]
    simp [skip_cons_of_not_isBlank (c := ']') rfl]
  | cons v vs =>
    obtain ⟨c, cs, hhead, hblank, hclose⟩ := (h v List.mem_cons_self).head
    have htext : (enclose "[" "]" depth ((v :: vs).map (pretty (depth + 1)))).toList =
        '[' :: linesText depth ((v :: vs).map (pretty (depth + 1))) [']'] :=
      toList_enclose _ _ _ (by simp)
    rw [htext]
    refine Reads.of_read rfl (by decide) fun rest _ fuel hfuel => ?_
    rw [linesText_append, List.singleton_append] at hfuel ⊢
    have hitems := items_linesText h (by simp) [] rest hfuel
    obtain ⟨cs', hskip⟩ := skip_linesText_cons depth hhead hblank
      (vs.map (pretty (depth + 1))) (']' :: rest)
    rw [← items_skip, List.map_cons, hskip] at hitems
    rw [value, skip_cons_of_not_isBlank rfl]
    simp only [List.map_cons, hskip]
    -- The first item would have to begin with the bracket for the list to be empty.
    split
    · next heq => exact absurd (List.cons.inj heq).1 hclose
    · rw [hitems]
      rfl

theorem reads_dict {room depth : Nat} {es : Dict} {number : Nat → Number}
    (h : ∀ e ∈ es, Reads room (pretty (depth + 1) e.2).toList (e.2.readBack number)) :
    Reads (room + 1) (pretty depth (.dict es)).toList
      (.dict (Dict.ofList (Dict.readBackEntries number es))) := by
  rw [pretty, prettyMembers_eq, List.reverse_nil, List.nil_append]
  cases es with
  | nil =>
    have htext : (enclose "\x7b" "\x7d" depth []).toList = ['\x7b', '\x7d'] := by simp [enclose]
    rw [List.map_nil, htext, Dict.readBackEntries]
    refine Reads.of_read rfl (by decide) fun rest _ fuel _ => ?_
    rw [value, skip_cons_of_not_isBlank rfl]
    simp [skip_cons_of_not_isBlank (c := '\x7d') rfl, Dict.ofList]
  | cons e es =>
    have hhead : ∃ cs, (memberText (depth + 1) e).toList = '"' :: cs :=
      ⟨_, by rw [memberText, String.toList_append, String.toList_append, toList_quote]; rfl⟩
    obtain ⟨cs, hhead⟩ := hhead
    have htext : (enclose "\x7b" "\x7d" depth ((e :: es).map (memberText (depth + 1)))).toList =
        '\x7b' :: linesText depth ((e :: es).map (memberText (depth + 1))) ['\x7d'] :=
      toList_enclose _ _ _ (by simp)
    rw [htext]
    refine Reads.of_read rfl (by decide) fun rest _ fuel hfuel => ?_
    rw [linesText_append, List.singleton_append] at hfuel ⊢
    have hmembers := members_linesText h (by simp) [] rest hfuel
    obtain ⟨cs', hskip⟩ := skip_linesText_cons depth hhead rfl
      (es.map (memberText (depth + 1))) ('\x7d' :: rest)
    rw [← members_skip, List.map_cons, hskip] at hmembers
    rw [value, skip_cons_of_not_isBlank rfl]
    simp only [List.map_cons, hskip]
    split
    · next heq => exact absurd (List.cons.inj heq).1 (by decide)
    · rw [hmembers]
      rfl

/-- The text of a value reads as that value wherever it may stand. -/
theorem reads_pretty {room : Nat} {v : Value} (h : v.Plain maxUnsigned room) (depth : Nat) :
    Reads room (pretty depth v).toList (v.readBack .unsigned) := by
  induction h generalizing depth with
  | bool room b =>
    rw [Value.readBack_bool]
    exact reads_bool room b
  | string room s =>
    rw [Value.readBack_string]
    exact reads_quote room s
  | natural room h =>
    rw [Value.readBack_unsigned, pretty, numberText, Decimal.toList_toString]
    exact reads_toDigits room h
  | list h ih =>
    rw [Value.readBack_list]
    exact reads_list fun v hv => ih v hv (depth + 1)
  | dict h ih =>
    rw [Value.readBack_dict]
    exact reads_dict fun e he => ih e he (depth + 1)

/-- A whole text, with a line end or without. -/
theorem parseChars_pretty {v : Value} (h : v.Plain maxUnsigned maxOpen) {rest : List Char}
    (hrest : rest = [] ∨ rest = ['\n']) :
    parseChars ((pretty 0 v).toList ++ rest) = some (v.readBack .unsigned) := by
  have hstops : Stops continuesNumber rest := by
    rcases hrest with rfl | rfl <;> simp [Stops, continuesNumber]
  have hskip : skip rest = [] := by rcases hrest with rfl | rfl <;> rfl
  rw [parseChars, (reads_pretty h 0).read rest hstops _ (Nat.lt_succ_self _)]
  simp only [hskip]
  rfl

end Json

end ConstantScan
