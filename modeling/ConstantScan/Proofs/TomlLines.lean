import ConstantScan.Proofs.ReadBack
import ConstantScan.Proofs.TomlStrings

/-!
# Lines of a TOML document read back

The line of a key and its value adds that entry to the table that is open, and the line of a header
opens a table.
-/

namespace ConstantScan.Toml

/-! ## Spaces and line ends -/

/-- Spaces and the starts of comments and line ends, and what may mark the start of a file. -/
def isSkipped (c : Char) : Bool :=
  isSpace c || c == '#' || c == '\n' || c == '\r' || c == '\uFEFF'

/-- The text starts with something that is read. -/
def StartsSolid (cs : List Char) : Prop := Stops isSkipped cs

theorem StartsSolid.skipSpaces {cs : List Char} (h : StartsSolid cs) :
    skipSpaces cs = cs := (h.mono fun c hc => by simp [isSkipped, hc]).dropWhile

theorem StartsSolid.skipLines {cs : List Char} (h : StartsSolid cs) (fuel : Nat) :
    skipLines fuel cs = cs := by
  cases fuel with
  | zero => rfl
  | succ fuel =>
    rw [Toml.skipLines, h.skipSpaces]
    cases cs with
    | nil => rfl
    | cons c cs =>
      have hc := stops_cons.1 h
      simp only [isSkipped, Bool.or_eq_false_iff, beq_eq_false_iff_ne] at hc
      have hcomment : skipComment (c :: cs) = c :: cs := by
        rw [skipComment]
        exact fun _ heq => hc.1.1.1.2 (List.cons.inj heq).1
      simp only [hcomment, afterNewline?_cons hc.1.1.2 hc.1.2]

theorem skipLines_newline (fuel : Nat) (cs : List Char) :
    skipLines (fuel + 1) ('\n' :: cs) = skipLines fuel cs := rfl

theorem skipLines_spaces {spaces : List Char} (h : ∀ c ∈ spaces, isSpace c = true) (fuel : Nat)
    (cs : List Char) : skipLines (fuel + 1) (spaces ++ cs) = skipLines (fuel + 1) cs := by
  have hspaces : skipSpaces (spaces ++ cs) = skipSpaces cs := List.dropWhile_append_of_pos h
  rw [skipLines, skipLines, hspaces]

/-! ## Values -/

def isAfterValue (c : Char) : Bool := c == '\n' || c == ',' || c == ']'

def AfterValue (rest : List Char) : Prop := Stops (fun c => !isAfterValue c) rest

theorem AfterValue.stops {rest : List Char} (h : AfterValue rest) {p : Char → Bool}
    (hp : ∀ c, isAfterValue c = true → p c = false) : Stops p rest := by
  refine Stops.mono h fun c hc => ?_
  cases hafter : isAfterValue c with
  | false => rfl
  | true => simp [hp c hafter] at hc

theorem AfterValue.string {rest : List Char} (h : AfterValue rest) : AfterString rest := by
  refine h.stops fun c hc => ?_
  simp only [isAfterValue, Bool.or_eq_true, beq_iff_eq] at hc
  rcases hc with (rfl | rfl) | rfl <;> decide

/-- The text reads as the value at the end of a line or in an array, if so many levels of arrays may
still open. -/
structure Reads (depth : Nat) (text : List Char) (v : Value) : Prop where
  solid : ∀ rest, StartsSolid (text ++ rest)
  read : ∀ room rest fuel, AfterValue rest → text.length < fuel →
    value? (room + depth) fuel (text ++ rest) = some (v, rest)

theorem Reads.succ {depth : Nat} {text : List Char} {v : Value} (h : Reads depth text v) :
    Reads (depth + 1) text v where
  solid := h.solid
  read room rest fuel hrest hfuel := by
    rw [Nat.add_comm depth, ← Nat.add_assoc]
    exact h.read (room + 1) rest fuel hrest hfuel

theorem startsSolid_cons {c : Char} {cs : List Char} (h : isSkipped c = false) :
    StartsSolid (c :: cs) := stops_cons.2 h

theorem reads_bool (b : Bool) : Reads 0 (if b then "true" else "false").toList (.bool b) := by
  cases b with
  | true =>
    refine ⟨fun rest => startsSolid_cons rfl, fun room rest fuel _ hfuel => ?_⟩
    obtain ⟨fuel, rfl⟩ := Nat.exists_eq_add_of_lt (Nat.zero_lt_of_lt hfuel)
    rfl
  | false =>
    refine ⟨fun rest => startsSolid_cons rfl, fun room rest fuel _ hfuel => ?_⟩
    obtain ⟨fuel, rfl⟩ := Nat.exists_eq_add_of_lt (Nat.zero_lt_of_lt hfuel)
    rfl

theorem reads_quote (s : String) : Reads 0 (quote s).toList (.string s) := by
  obtain ⟨c, cs, hhead, hquote⟩ := toList_quote_head s
  refine ⟨fun rest => ?_, fun room rest fuel hrest hfuel => ?_⟩
  · rw [hhead]
    rcases hquote with rfl | rfl <;> exact startsSolid_cons rfl
  · obtain ⟨fuel, rfl⟩ := Nat.exists_eq_add_of_lt (Nat.zero_lt_of_lt hfuel)
    have hread := string?_quote s hrest.string
    rw [hhead] at hread ⊢
    rw [Nat.zero_add, List.cons_append] at *
    rcases hquote with rfl | rfl <;> simp [value?, hread]

/-! ## Numbers -/

/-- After digits that are counted off no sign of a date follows where a number ends. -/
theorem expect_of_fixed {ds rest cs : List Char} {count n : Nat} {sign : Char}
    (hds : ∀ c ∈ ds, c.isDigit = true) (hrest : Stops (fun c => c.isDigit || c == sign) rest)
    (hsign : sign.isDigit = false) (h : fixed count (ds ++ rest) = some (n, cs)) :
    expect sign cs = none := by
  simp only [fixed] at h
  split at h
  · next hfixed =>
    simp only [Bool.and_eq_true, decide_eq_true_eq, List.all_eq_true] at hfixed
    obtain ⟨hlength, hdigits⟩ := hfixed
    obtain ⟨-, rfl⟩ := Prod.mk.inj (Option.some.inj h)
    have hcount : count ≤ ds.length := by
      by_contra hlt
      -- The first character after the digits is counted off, too, and is none.
      cases rest with
      | nil =>
        rw [List.append_nil, List.length_take] at hlength
        omega
      | cons c rest =>
        have hc := stops_cons.1 hrest
        simp only [Bool.or_eq_false_iff] at hc
        have hmem : c ∈ (ds ++ c :: rest).take count := by
          obtain ⟨more, rfl⟩ : ∃ more, count = ds.length + (more + 1) :=
            ⟨count - ds.length - 1, by omega⟩
          simp [List.take_length_add_append]
        exact absurd (hdigits c hmem) (by simp [hc.1])
    rw [List.drop_append_of_le_length hcount]
    cases hdrop : ds.drop count with
    | nil =>
      cases rest with
      | nil => rfl
      | cons c rest =>
        have hc := stops_cons.1 hrest
        simp only [Bool.or_eq_false_iff, beq_eq_false_iff_ne] at hc
        exact if_neg fun heq => hc.2 heq.symm
    | cons c more =>
      have hc := hds c (List.mem_of_mem_drop (by rw [hdrop]; exact List.mem_cons_self))
      exact if_neg fun heq => by simp [← heq, hsign] at hc
  · simp at h

theorem dateTime?_digits {ds rest : List Char} (hds : ∀ c ∈ ds, c.isDigit = true)
    (hrest : AfterValue rest) : dateTime? (ds ++ rest) = none := by
  have hstops (sign : Char) (hsign : isAfterValue sign = false) :
      Stops (fun c => c.isDigit || c == sign) rest := by
    refine hrest.stops fun c hc => ?_
    have hne : c ≠ sign := fun heq => by simp [heq, hsign] at hc
    simp only [isAfterValue, Bool.or_eq_true, beq_iff_eq] at hc
    rcases hc with (rfl | rfl) | rfl <;> simpa using hne
  have hdate : date? (ds ++ rest) = none := by
    rw [date?]
    cases hfixed : fixed 4 (ds ++ rest) with
    | none => rfl
    | some r =>
      obtain ⟨n, cs⟩ := r
      simp [expect_of_fixed hds (hstops '-' (by decide)) rfl hfixed]
  have htime : time? (ds ++ rest) = none := by
    rw [time?]
    cases hfixed : fixed 2 (ds ++ rest) with
    | none => rfl
    | some r =>
      obtain ⟨n, cs⟩ := r
      simp [expect_of_fixed hds (hstops ':' (by decide)) rfl hfixed]
  rw [dateTime?, afterDateTime?, hdate]
  simp [htime]

theorem kept_digits {ds : List Char} (h : ∀ c ∈ ds, c.isDigit = true) :
    digits.kept Char.isDigit ds = some ds := by
  induction ds with
  | nil => rfl
  | cons c ds ih =>
    have hc := h c List.mem_cons_self
    have hne : c ≠ '_' := by
      rintro rfl
      exact absurd hc (by decide)
    unfold digits.kept
    split
    · next heq => simp at heq
    · next heq => exact absurd (List.cons.inj heq).1 hne
    · next heq => exact absurd (List.cons.inj heq).1 hne
    · next heq =>
      obtain ⟨rfl, rfl⟩ := List.cons.inj heq
      rw [ih fun d hd => h d (List.mem_cons_of_mem _ hd)]
      rfl

theorem digits_append {ds rest : List Char} (hds : ∀ c ∈ ds, c.isDigit = true) (hne : ds ≠ [])
    (hrest : AfterValue rest) : digits Char.isDigit (ds ++ rest) = some (ds, rest) := by
  have hrun : (ds ++ rest).takeWhile (fun c => c.isDigit || c == '_') = ds := by
    refine Stops.takeWhile_append (hrest.stops fun c hc => ?_) fun c hc => by simp [hds c hc]
    simp only [isAfterValue, Bool.or_eq_true, beq_iff_eq] at hc
    rcases hc with (rfl | rfl) | rfl <;> rfl
  obtain ⟨c, cs, rfl⟩ := List.exists_cons_of_ne_nil hne
  have hhead : (c :: cs).head?.any Char.isDigit = true := by simp [hds]
  simp only [digits, hrun, hhead, if_true, kept_digits hds, Option.map_some, List.drop_left]

theorem AfterValue.exponent? {rest : List Char} (h : AfterValue rest) :
    exponent? rest = some (none, rest) := by
  cases rest with
  | nil => rfl
  | cons c rest =>
    have hc := stops_cons.1 h
    simp only [Bool.not_eq_false', isAfterValue, Bool.or_eq_true, beq_iff_eq] at hc
    rcases hc with (rfl | rfl) | rfl <;> rfl

theorem decimal_toDigits (n : Nat) {rest : List Char} (hrest : AfterValue rest) :
    decimal false (Nat.toDigits 10 n ++ rest) =
      if n ≤ maxInteger then some (.number (.signed n), rest) else none := by
  have hdigits := digits_append (fun c hc => Decimal.isDigit_of_mem_toDigits (n := n) hc)
    Nat.toDigits_ne_nil hrest
  have hzero : (Nat.toDigits 10 n).length = 1 ∨ (Nat.toDigits 10 n).head? ≠ some '0' := by
    rcases Decimal.toDigits_eq_cons n with hn | ⟨c, cs, hn, hc⟩
    · exact .inl (by rw [hn]; rfl)
    · exact .inr (by simpa [hn] using hc)
  have hpoint : ∀ more, rest ≠ '.' :: more := by
    rintro more rfl
    exact absurd (stops_cons.1 hrest) (by decide)
  rw [decimal, hdigits]
  simp only [Option.bind_eq_bind, Option.bind_some]
  have hguard : (guard ((Nat.toDigits 10 n).length = 1 || (Nat.toDigits 10 n).head? ≠ some '0') :
      Option Unit) = some () := by
    rw [guard, if_pos (by simpa using hzero)]
    rfl
  rw [hguard]
  by_cases h : n ≤ maxInteger <;> simp [hrest.exponent?, Decimal.ofDigits_toDigits, h, guard]

/-- A digit and a character that is none of the letters that a number may hold. -/
theorem number?_cons {c : Char} {cs : List Char} (hc : c.isDigit = true)
    (hnext : Stops (fun d => d == 'x' || d == 'o' || d == 'b') cs) :
    number? (c :: cs) = decimal false (c :: cs) := by
  have hne (d : Char) (hd : d.isDigit = false) : c ≠ d := by
    rintro rfl
    simp [hc] at hd
  have hsign : Decimal.splitSign (c :: cs) = (false, c :: cs) := by
    simp [Decimal.splitSign, hne '-' rfl, hne '+' rfl]
  unfold number?
  split
  · next heq => simp [(List.cons.inj heq).2, Stops] at hnext
  · next heq => simp [(List.cons.inj heq).2, Stops] at hnext
  · next heq => simp [(List.cons.inj heq).2, Stops] at hnext
  · simp only [hsign]
    split
    · next heq => exact absurd (List.cons.inj heq).1 (hne 'i' rfl)
    · next heq => exact absurd (List.cons.inj heq).1 (hne 'n' rfl)
    · rfl

theorem startsSolid_toDigits (n : Nat) (rest : List Char) :
    StartsSolid (Nat.toDigits 10 n ++ rest) := by
  obtain ⟨c, cs, hcons⟩ := List.exists_cons_of_ne_nil (Nat.toDigits_ne_nil (n := n) (b := 10))
  have hc : c.isDigit = true := Decimal.isDigit_of_mem_toDigits (n := n) (by simp [hcons])
  have hne (d : Char) (hd : d.isDigit = false) : c ≠ d := by
    rintro rfl
    simp [hc] at hd
  rw [hcons]
  refine startsSolid_cons ?_
  simp [isSkipped, isSpace, hne ' ' rfl, hne '\t' rfl, hne '#' rfl, hne '\n' rfl, hne '\r' rfl,
    hne '\uFEFF' rfl]

/-- Digits are read as a number if it is not greater than a TOML integer can be. -/
theorem value?_toDigits (n room fuel : Nat) {rest : List Char} (hrest : AfterValue rest) :
    value? room (fuel + 1) (Nat.toDigits 10 n ++ rest) =
      if n ≤ maxInteger then some (.number (.signed n), rest) else none := by
  have hdigits : ∀ c ∈ Nat.toDigits 10 n, c.isDigit = true :=
    fun c hc => Decimal.isDigit_of_mem_toDigits hc
  have hdate := dateTime?_digits hdigits hrest
  have hdecimal := decimal_toDigits n hrest
  obtain ⟨c, cs, hcons⟩ := List.exists_cons_of_ne_nil (Nat.toDigits_ne_nil (n := n) (b := 10))
  rw [hcons] at hdigits hdate hdecimal ⊢
  have hc := hdigits c List.mem_cons_self
  have hne (d : Char) (hd : d.isDigit = false) : c ≠ d := by
    rintro rfl
    simp [hc] at hd
  have hnext : Stops (fun d => d == 'x' || d == 'o' || d == 'b') (cs ++ rest) := by
    cases cs with
    | nil =>
      refine hrest.stops fun d hd => ?_
      simp only [isAfterValue, Bool.or_eq_true, beq_iff_eq] at hd
      rcases hd with (rfl | rfl) | rfl <;> rfl
    | cons d cs =>
      have hd := hdigits d (by simp)
      refine stops_cons.2 ?_
      simp only [Bool.or_eq_false_iff, beq_eq_false_iff_ne]
      refine ⟨⟨?_, ?_⟩, ?_⟩ <;> rintro rfl <;> exact absurd hd (by decide)
  have hstring : string? (c :: (cs ++ rest)) = none := by
    simp [string?, hne '"' rfl, hne '\'' rfl]
  -- A digit begins no string, list or table; the text is no date, so it is a number.
  rw [List.cons_append] at hdate hdecimal ⊢
  rw [← number?_cons hc hnext] at hdecimal
  simp [value?, hne 't' rfl, hne 'f' rfl, hne '[' rfl, hne '\x7b' rfl, hstring, hdate, hdecimal]

theorem reads_toDigits {n : Nat} (h : n ≤ maxInteger) :
    Reads 0 (Nat.toDigits 10 n) (.number (.signed n)) := by
  refine ⟨startsSolid_toDigits n, fun room rest fuel hrest hfuel => ?_⟩
  obtain ⟨fuel, rfl⟩ := Nat.exists_eq_add_of_lt (Nat.zero_lt_of_lt hfuel)
  rw [value?_toDigits n _ _ hrest, if_pos h]

/-! ## Arrays of strings -/

theorem mapM_leaf?_string (ss : List String) :
    (ss.map Value.string).mapM leaf? = some (ss.map quote) := by
  induction ss with
  | nil => rfl
  | cons s ss ih => simp [leaf?, ih]

def arrayText (ss : List String) : String :=
  match ss.map quote with
  | [] => "[]"
  | [t] => "[" ++ t ++ "]"
  | ts => "[\n" ++ String.join (ts.map ("    " ++ · ++ ",\n")) ++ "]"

theorem array?_strings (ss : List String) :
    array? (ss.map Value.string) = some (arrayText ss) := by
  rw [array?, mapM_leaf?_string, Option.map_some]
  rfl

def margin : List Char := [' ', ' ', ' ', ' ']

theorem skipLines_margin {t : List Char} (h : StartsSolid t) :
    skipLines ('\n' :: (margin ++ t)).length ('\n' :: (margin ++ t)) = t := by
  obtain ⟨fuel, hfuel⟩ : ∃ fuel, (margin ++ t).length = fuel + 1 :=
    ⟨t.length + 3, by
      rw [List.length_append, Nat.add_comm]
      rfl⟩
  have hspaces : ∀ c ∈ margin, isSpace c = true := by simp [margin, isSpace]
  rw [List.length_cons, hfuel, skipLines_newline, skipLines_spaces hspaces, h.skipLines]

/-- What comes after an item decides whether another one follows. -/
theorem items?_item {room : Nat} (acc : List Value) (s : String) {cs rest : List Char} {fuel : Nat}
    (hfuel : (quote s).toList.length < fuel) {stop : Char} (hstop : stop = ',' ∨ stop = ']')
    (hskip : skipLines cs.length cs = (quote s).toList ++ stop :: rest) :
    items? room acc (fuel + 1) cs =
      if stop = ',' then items? room (.string s :: acc) fuel rest
      else some ((.string s :: acc).reverse, rest) := by
  obtain ⟨c, cs', hhead, hquote⟩ := toList_quote_head s
  have hafter : AfterValue (stop :: rest) := stops_cons.2 (by rcases hstop with rfl | rfl <;> rfl)
  have hsolid : StartsSolid (stop :: rest) :=
    startsSolid_cons (by rcases hstop with rfl | rfl <;> rfl)
  have hread := (reads_quote s).read room (stop :: rest) fuel hafter hfuel
  rw [Nat.add_zero] at hread
  rw [items?, hskip]
  split
  · -- No item begins with the closing bracket.
    next heq =>
    rw [hhead, List.cons_append] at heq
    rcases hquote with rfl | rfl <;> exact absurd (List.cons.inj heq).1 (by decide)
  · rcases hstop with rfl | rfl <;> simp [hread, hsolid.skipLines]

/-- Items on lines of their own, from the end of the line before on. -/
def itemLines (close : List Char) : List String → List Char
  | [] => '\n' :: close
  | s :: ss => '\n' :: (margin ++ ((quote s).toList ++ ',' :: itemLines close ss))

theorem itemLines_append (close rest : List Char) (ss : List String) :
    itemLines close ss ++ rest = itemLines (close ++ rest) ss := by
  induction ss with
  | nil => rfl
  | cons s ss ih => simp [itemLines, ih]

theorem items?_itemLines {room : Nat} (ss : List String) (acc : List Value) (rest : List Char)
    {fuel : Nat} (hfuel : (itemLines [] ss).length < fuel) :
    items? room acc fuel (itemLines (']' :: rest) ss) =
      some (acc.reverse ++ ss.map Value.string, rest) := by
  induction ss generalizing acc fuel with
  | nil =>
    obtain ⟨fuel, rfl⟩ := Nat.exists_eq_add_of_lt (Nat.zero_lt_of_lt hfuel)
    have hskip : skipLines ('\n' :: ']' :: rest).length ('\n' :: ']' :: rest) = ']' :: rest :=
      (startsSolid_cons (c := ']') rfl).skipLines _
    rw [itemLines, items?, hskip]
    simp
  | cons s ss ih =>
    obtain ⟨fuel, rfl⟩ := Nat.exists_eq_add_of_lt (Nat.zero_lt_of_lt hfuel)
    rw [itemLines] at hfuel ⊢
    simp only [List.length_cons, List.length_append] at hfuel
    have hskip := skipLines_margin ((reads_quote s).solid (',' :: itemLines (']' :: rest) ss))
    rw [items?_item acc s (by omega) (.inl rfl) hskip, if_pos rfl, ih _ (by omega)]
    simp

theorem toList_arrayText (ss : List String) :
    (arrayText ss).toList =
      match ss with
      | [] => ['[', ']']
      | [s] => '[' :: ((quote s).toList ++ [']'])
      | ss => '[' :: itemLines [']'] ss := by
  match ss with
  | [] => rfl
  | [s] => simp [arrayText]
  | s :: s' :: ss =>
    have hjoin (ss : List String) :
        '\n' :: ((String.join ((ss.map quote).map ("    " ++ · ++ ",\n"))).toList ++ [']']) =
          itemLines [']'] ss := by
      induction ss with
      | nil => rfl
      | cons s ss ih =>
        rw [itemLines, ← ih]
        simp [margin]
    dsimp only
    rw [← hjoin]
    simp [arrayText]

theorem reads_array {text : List Char} {vs : List Value}
    (h : ∀ room rest fuel, text.length < fuel → items? room [] fuel (text ++ rest) = some (vs, rest)) :
    Reads 1 ('[' :: text) (.list vs) := by
  refine ⟨fun rest => startsSolid_cons rfl, fun room rest fuel _ hfuel => ?_⟩
  obtain ⟨fuel, rfl⟩ := Nat.exists_eq_add_of_lt (Nat.zero_lt_of_lt hfuel)
  rw [List.length_cons] at hfuel
  rw [List.cons_append, Nat.zero_add, value?]
  simp [h room rest fuel (by omega)]

theorem reads_arrayText (ss : List String) : Reads 1 (arrayText ss).toList (.strings ss) := by
  rw [toList_arrayText, Value.strings]
  rcases ss with _ | ⟨s, _ | ⟨s', ss⟩⟩
  · -- an empty array
    refine reads_array fun room rest fuel hfuel => ?_
    obtain ⟨fuel, rfl⟩ := Nat.exists_eq_add_of_lt (Nat.zero_lt_of_lt hfuel)
    have hskip : skipLines (']' :: rest).length (']' :: rest) = ']' :: rest :=
      (startsSolid_cons (c := ']') rfl).skipLines _
    rw [List.singleton_append, items?, hskip]
    rfl
  · -- a single item, on the line of the brackets
    refine reads_array fun room rest fuel hfuel => ?_
    obtain ⟨fuel, rfl⟩ := Nat.exists_eq_add_of_lt (Nat.zero_lt_of_lt hfuel)
    rw [List.length_append, List.length_singleton] at hfuel
    rw [List.append_assoc, List.singleton_append, items?_item [] s (by omega) (.inr rfl)
      (((reads_quote s).solid _).skipLines _)]
    rfl
  · -- an item a line
    refine reads_array fun room rest fuel hfuel => ?_
    have hlength := congrArg List.length (itemLines_append [] [']'] (s :: s' :: ss))
    rw [List.length_append, List.nil_append, List.length_singleton] at hlength
    rw [itemLines_append, List.singleton_append, items?_itemLines _ _ _ (by omega)]
    rfl

/-! ## Keys -/

structure Bare (k : String) : Prop where
  ne_nil : k.toList ≠ []
  chars : ∀ c ∈ k.toList, isBareKey c = true

theorem Bare.keyText {k : String} (h : Bare k) : keyText k = k := by
  have hempty : k.isEmpty = false := by
    rw [← Bool.not_eq_true, String.isEmpty_iff]
    rintro rfl
    exact h.ne_nil rfl
  rw [Toml.keyText, if_pos]
  simpa [hempty] using h.chars

theorem Bare.head {k : String} (h : Bare k) :
    ∃ c cs, k.toList = c :: cs ∧ isBareKey c = true := by
  obtain ⟨c, cs, hcons⟩ := List.exists_cons_of_ne_nil h.ne_nil
  exact ⟨c, cs, hcons, h.chars c (by simp [hcons])⟩

theorem ne_of_isBareKey {c d : Char} (h : isBareKey c = true) (hd : isBareKey d = false) :
    c ≠ d := by
  rintro rfl
  simp [h] at hd

theorem Bare.startsSolid {k : String} (h : Bare k) (cs : List Char) :
    StartsSolid (k.toList ++ cs) := by
  obtain ⟨c, cs', hcons, hc⟩ := h.head
  rw [hcons]
  refine startsSolid_cons ?_
  have hne (d : Char) (hd : isBareKey d = false) : c ≠ d := ne_of_isBareKey hc hd
  simp [isSkipped, isSpace, hne ' ' (by decide), hne '\t' (by decide), hne '#' (by decide),
    hne '\n' (by decide), hne '\r' (by decide), hne '\uFEFF' (by decide)]

theorem Bare.simpleKey? {k : String} (h : Bare k) {rest : List Char}
    (hrest : Stops isBareKey rest) : simpleKey? (k.toList ++ rest) = some (k, rest) := by
  obtain ⟨c, cs, hcons, hc⟩ := h.head
  have hkey := hrest.takeWhile_append h.chars
  have hempty : k.toList.isEmpty = false := by simpa using h.ne_nil
  unfold Toml.simpleKey?
  split
  · next heq =>
    rw [hcons, List.cons_append] at heq
    exact absurd (List.cons.inj heq).1 (ne_of_isBareKey hc (by decide))
  · next heq =>
    rw [hcons, List.cons_append] at heq
    exact absurd (List.cons.inj heq).1 (ne_of_isBareKey hc (by decide))
  · simp only [hkey, hempty, List.drop_left, String.ofList_toList]
    rfl

def dotted : List String → List Char
  | [] => []
  | [k] => k.toList
  | k :: ks => k.toList ++ '.' :: dotted ks

theorem key?_dotted {ks : List String} (h : ∀ k ∈ ks, Bare k) (hks : ks ≠ []) {rest : List Char}
    (hrest : Stops (fun c => isBareKey c || c == '.') (skipSpaces rest))
    (hbare : Stops isBareKey rest) {fuel : Nat}
    (hfuel : ks.length < fuel) : key? fuel (dotted ks ++ rest) = some (ks, skipSpaces rest) := by
  induction ks generalizing fuel with
  | nil => exact absurd rfl hks
  | cons k ks ih =>
    obtain ⟨fuel, rfl⟩ := Nat.exists_eq_add_of_lt (Nat.zero_lt_of_lt hfuel)
    have hk := h k List.mem_cons_self
    cases ks with
    | nil =>
      rw [dotted, key?, (hk.startsSolid rest).skipSpaces, hk.simpleKey? hbare]
      simp only [Option.bind_eq_bind, Option.bind_some]
      split
      · next heq =>
        rw [heq] at hrest
        exact absurd (stops_cons.1 hrest) (by simp)
      · rfl
    | cons k' ks =>
      have hdot : Stops isBareKey ('.' :: (dotted (k' :: ks) ++ rest)) := stops_cons.2 (by decide)
      have hsolid : StartsSolid ('.' :: (dotted (k' :: ks) ++ rest)) := startsSolid_cons rfl
      have hfuel' : (k' :: ks).length < fuel := by
        simp only [List.length_cons] at hfuel ⊢
        omega
      have hrec := ih (fun k hk => h k (List.mem_cons_of_mem _ hk)) (by simp) hfuel'
      have hdotted : dotted (k :: k' :: ks) = k.toList ++ '.' :: dotted (k' :: ks) := rfl
      rw [hdotted, Nat.zero_add, key?, List.append_assoc, List.cons_append,
        (hk.startsSolid _).skipSpaces, hk.simpleKey? hdot]
      simp only [Option.bind_eq_bind, Option.bind_some, hsolid.skipSpaces, hrec]
      rfl

/-! ## Lines -/

/-- What comes after the line: its end and the lines after it, or nothing. -/
inductive LineEnd : List Char → List Char → Prop
  | newline (rest : List Char) : LineEnd ('\n' :: rest) rest
  | last : LineEnd [] []

theorem LineEnd.endLine? {tail rest : List Char} (h : LineEnd tail rest) :
    endLine? tail = some rest := by
  cases h <;> rfl

theorem LineEnd.afterValue {tail rest : List Char} (h : LineEnd tail rest) : AfterValue tail := by
  cases h with
  | newline => exact stops_cons.2 rfl
  | last => exact stops_nil _

/-- The line takes the document from one state to the next. -/
structure LineReads (d : Document) (l : List Char) (d' : Document) : Prop where
  solid : ∀ rest, StartsSolid (l ++ rest)
  ne_nil : l ≠ []
  read : ∀ tail rest, LineEnd tail rest → line? d (l ++ tail) = some (d', rest)

def keyLine (k : String) (t : List Char) : List Char := k.toList ++ ' ' :: '=' :: ' ' :: t

theorem keyLine_append (k : String) (t tail : List Char) :
    keyLine k t ++ tail = k.toList ++ ' ' :: '=' :: ' ' :: (t ++ tail) := by
  simp [keyLine]

theorem Bare.solid_keyLine {k : String} (hk : Bare k) (t rest : List Char) :
    StartsSolid (keyLine k t ++ rest) := by
  rw [keyLine, List.append_assoc]
  exact hk.startsSolid _

/-- All depends on the value, and on whether the key is new. -/
theorem line?_keyLine (d : Document) {k : String} (hk : Bare k) {t tail : List Char}
    (ht : StartsSolid (t ++ tail)) :
    line? d (keyLine k t ++ tail) =
      (value? (maxDepth - 1) (2 * (keyLine k t ++ tail).length + 2) (t ++ tail)).bind fun r =>
        (d.set? [k] r.1).bind fun d' => (endLine? r.2).bind fun rest => some (d', rest) := by
  obtain ⟨c, cs, hcons, hc⟩ := hk.head
  have hne : c ≠ '[' := ne_of_isBareKey hc (by decide)
  generalize hline : keyLine k t ++ tail = line
  rw [keyLine_append] at hline
  have hcs : line = c :: (cs ++ ' ' :: '=' :: ' ' :: (t ++ tail)) := by
    rw [← hline, hcons, List.cons_append]
  have hskip : skipSpaces (' ' :: '=' :: ' ' :: (t ++ tail)) = '=' :: ' ' :: (t ++ tail) := rfl
  have hvalue : skipSpaces (' ' :: (t ++ tail)) = t ++ tail := ht.skipSpaces
  have hkey : key? (line.length + 1) (dotted [k] ++ ' ' :: '=' :: ' ' :: (t ++ tail)) =
      some ([k], skipSpaces (' ' :: '=' :: ' ' :: (t ++ tail))) := by
    refine key?_dotted (by simpa using hk) (by simp) (stops_cons.2 (by decide))
      (stops_cons.2 (by decide)) ?_
    rw [hcs]
    simp
  rw [dotted, hskip, hline] at hkey
  have hexpect : expect '=' ('=' :: ' ' :: (t ++ tail)) = some (' ' :: (t ++ tail)) := rfl
  unfold line?
  split
  · exact absurd (List.cons.inj hcs).1.symm hne
  · exact absurd (List.cons.inj hcs).1.symm hne
  · simp only [hkey, hexpect, hvalue, Option.bind_eq_bind, Option.bind_some]
    rw [guard, if_pos (by simp [maxDepth])]
    rfl

theorem lineReads_entry {d d' : Document} {k : String} (hk : Bare k) {t : List Char} {v : Value}
    (ht : Reads 1 t v) (hd : d.set? [k] v = some d') : LineReads d (keyLine k t) d' := by
  refine ⟨hk.solid_keyLine t, by simp [keyLine], fun tail rest htail => ?_⟩
  have hread := ht.read (maxDepth - 2) tail (2 * (keyLine k t ++ tail).length + 2)
    htail.afterValue (by simp only [keyLine, List.length_append, List.length_cons]; omega)
  rw [show maxDepth - 2 + 1 = maxDepth - 1 from rfl] at hread
  rw [line?_keyLine d hk (ht.solid tail), hread, Option.bind_some, hd, Option.bind_some,
    htail.endLine?, Option.bind_some]

/-- A number that is too great for TOML keeps its line from being read. -/
theorem line?_too_great (d : Document) {k : String} (hk : Bare k) {n : Nat} (h : maxInteger < n)
    {tail : List Char} (htail : AfterValue tail) :
    line? d (keyLine k (Nat.toDigits 10 n) ++ tail) = none := by
  rw [line?_keyLine d hk (startsSolid_toDigits n tail), value?_toDigits n _ _ htail,
    if_neg (Nat.not_le.2 h), Option.bind_none]

theorem Bare.dotted_head {ks : List String} (h : ∀ k ∈ ks, Bare k) (hks : ks ≠ []) :
    ∃ c cs, dotted ks = c :: cs ∧ isBareKey c = true := by
  cases ks with
  | nil => exact absurd rfl hks
  | cons k ks =>
    obtain ⟨c, cs, hcons, hc⟩ := (h k List.mem_cons_self).head
    cases ks with
    | nil => exact ⟨c, cs, hcons, hc⟩
    | cons k' ks =>
      have hdotted : dotted (k :: k' :: ks) = k.toList ++ '.' :: dotted (k' :: ks) := rfl
      exact ⟨c, cs ++ '.' :: dotted (k' :: ks), by rw [hdotted, hcons, List.cons_append], hc⟩

theorem length_le_length_dotted {ks : List String} (h : ∀ k ∈ ks, Bare k) :
    ks.length ≤ (dotted ks).length := by
  induction ks with
  | nil => simp
  | cons k ks ih =>
    obtain ⟨c, cs, hcons, -⟩ := (h k List.mem_cons_self).head
    have hrec := ih fun k hk => h k (List.mem_cons_of_mem _ hk)
    cases ks with
    | nil => simp [dotted, hcons]
    | cons k' ks =>
      have hdotted : dotted (k :: k' :: ks) = k.toList ++ '.' :: dotted (k' :: ks) := rfl
      rw [hdotted, List.length_append, hcons]
      simp only [List.length_cons] at hrec ⊢
      omega

section

variable {d d' : Document} {ks : List String} (h : ∀ k ∈ ks, Bare k) (hks : ks ≠ [])
include h hks

theorem key?_header (rest : List Char) :
    key? ((dotted ks ++ ']' :: rest).length + 1) (dotted ks ++ ']' :: rest) =
      some (ks, ']' :: rest) := by
  have hlength := length_le_length_dotted h
  exact key?_dotted h hks (stops_cons.2 (by decide)) (stops_cons.2 (by decide)) (by
    rw [List.length_append]
    omega)

variable (hdepth : ks.length < maxDepth)
include hdepth

theorem lineReads_tableHeader (hd : d.tableHeader? ks = some d') :
    LineReads d ('[' :: (dotted ks ++ [']'])) d' := by
  refine ⟨fun rest => startsSolid_cons rfl, by simp, fun tail rest htail => ?_⟩
  obtain ⟨c, cs, hcons, hc⟩ := Bare.dotted_head h hks
  rw [List.cons_append, List.append_assoc, List.singleton_append]
  unfold line?
  split
  · next heq =>
    rw [hcons] at heq
    exact absurd (List.cons.inj (List.cons.inj heq).2).1 (ne_of_isBareKey hc (by decide))
  · next heq =>
    obtain rfl := (List.cons.inj heq).2
    simp only [key?_header h hks, hd, htail.endLine?, Option.bind_eq_bind, Option.bind_some]
    rw [guard, if_pos hdepth]
    rfl
  · next _ hno => exact (hno _ rfl).elim

theorem lineReads_arrayHeader (hd : d.arrayHeader? ks = some d') :
    LineReads d ('[' :: '[' :: (dotted ks ++ [']', ']'])) d' := by
  refine ⟨fun rest => startsSolid_cons rfl, by simp, fun tail rest htail => ?_⟩
  rw [List.cons_append, List.cons_append, List.append_assoc]
  unfold line?
  split
  · next heq =>
    obtain rfl := (List.cons.inj (List.cons.inj heq).2).2
    have hkey := key?_header h hks (']' :: tail)
    simp only [List.cons_append, List.nil_append, hkey, hd, htail.endLine?, Option.bind_eq_bind,
      Option.bind_some]
    rw [guard, if_pos hdepth]
    rfl
  · next hno heq => exact (hno _ (List.cons.inj heq).2.symm).elim
  · next hno _ => exact (hno _ rfl).elim

end

/-! ## Several lines -/

/-- The lines, some of which may be empty, take the document from one state to another. -/
inductive LinesRead : Document → List (List Char) → Document → Prop
  | nil (d : Document) : LinesRead d [] d
  | empty {d d' : Document} {ls : List (List Char)} (h : LinesRead d ls d') :
    LinesRead d ([] :: ls) d'
  | line {d d' d'' : Document} {l : List Char} {ls : List (List Char)} (hline : LineReads d l d')
    (h : LinesRead d' ls d'') : LinesRead d (l :: ls) d''

theorem LinesRead.append {d d' d'' : Document} {ls ls' : List (List Char)}
    (h : LinesRead d ls d') (h' : LinesRead d' ls' d'') : LinesRead d (ls ++ ls') d'' := by
  induction h with
  | nil => exact h'
  | empty _ ih => exact .empty (ih h')
  | line hline _ ih => exact .line hline (ih h')

def joined (ls : List (List Char)) : List Char := ls.flatMap (· ++ ['\n'])

theorem document?_line {d d' : Document} {l : List Char} (h : LineReads d l d')
    {tail rest : List Char} (htail : LineEnd tail rest) (fuel : Nat) :
    document? d (fuel + 1) (l ++ tail) = document? d' fuel rest := by
  rw [document?, (h.solid tail).skipLines]
  split
  · next heq => exact absurd (List.append_eq_nil_iff.1 heq).1 h.ne_nil
  · rw [h.read tail rest htail, Option.bind_some]

theorem document?_empty (d : Document) (fuel : Nat) (cs : List Char) :
    document? d (fuel + 1) ('\n' :: cs) = document? d (fuel + 1) cs := rfl

/-- The lines of a document are read, then what comes after them. -/
theorem document?_joined_append {d d' : Document} {ls : List (List Char)} (h : LinesRead d ls d')
    (rest : List Char) {fuel : Nat} (hfuel : (joined ls ++ rest).length < fuel) :
    ∃ left, rest.length < left ∧ document? d fuel (joined ls ++ rest) = document? d' left rest := by
  induction h generalizing fuel with
  | nil d => exact ⟨fuel, hfuel, rfl⟩
  | @empty d d' ls _ ih =>
    obtain ⟨fuel, rfl⟩ := Nat.exists_eq_add_of_lt (Nat.zero_lt_of_lt hfuel)
    have hjoined : joined ([] :: ls) ++ rest = '\n' :: (joined ls ++ rest) := rfl
    rw [hjoined, List.length_cons] at hfuel
    rw [hjoined, document?_empty]
    exact ih (by omega)
  | @line d d' d'' l' ls hline _ ih =>
    obtain ⟨fuel, rfl⟩ := Nat.exists_eq_add_of_lt (Nat.zero_lt_of_lt hfuel)
    have hjoined : joined (l' :: ls) ++ rest = l' ++ '\n' :: (joined ls ++ rest) := by
      simp [joined]
    rw [hjoined, List.length_append, List.length_cons] at hfuel
    rw [hjoined, document?_line hline (.newline _)]
    exact ih (by omega)

/-- A document up to its last line, whose end may be missing. -/
theorem document?_joined {d d' d'' : Document} {ls : List (List Char)} (h : LinesRead d ls d')
    {l tail : List Char} (hl : LineReads d' l d'') (htail : LineEnd tail []) {fuel : Nat}
    (hfuel : (joined ls ++ (l ++ tail)).length < fuel) :
    document? d fuel (joined ls ++ (l ++ tail)) = some d'' := by
  obtain ⟨left, hleft, hrest⟩ := document?_joined_append h (l ++ tail) hfuel
  have hlength := List.length_pos_of_ne_nil hl.ne_nil
  rw [List.length_append] at hleft
  obtain ⟨left, rfl⟩ : ∃ k, left = k + 2 := ⟨left - 2, by omega⟩
  rw [hrest, document?_line hl htail]
  rfl

/-- A document with a line that is not read. -/
theorem document?_stuck {d d' : Document} {ls : List (List Char)} (h : LinesRead d ls d')
    {rest : List Char} (hsolid : StartsSolid rest) (hne : rest ≠ []) (hline : line? d' rest = none)
    {fuel : Nat} (hfuel : (joined ls ++ rest).length < fuel) :
    document? d fuel (joined ls ++ rest) = none := by
  obtain ⟨left, hleft, hrest⟩ := document?_joined_append h rest hfuel
  obtain ⟨left, rfl⟩ := Nat.exists_eq_add_one_of_ne_zero (Nat.ne_zero_of_lt hleft)
  rw [hrest, document?, hsolid.skipLines]
  split
  · exact absurd rfl hne
  · rw [hline, Option.bind_none]

end ConstantScan.Toml
