import ConstantScan.Proofs.Numerals
import ConstantScan.Yaml.Printer
import ConstantScan.Yaml.Scalar
import Mathlib

/-!
# Quoted YAML scalars read back

Between quotes a run of blanks is kept, and line ends that are not newlines are kept with the
indentation after them left out. So what the two quoted forms write is read as it was.
-/

namespace ConstantScan.Yaml

open Unicode (Runs)

/-! ## Line ends -/

/-- A line end that is written as it is. -/
def IsLineEnd (c : Char) : Prop := isBreak c = true ∧ isPrintable c = true

theorem isLineEnd_iff {c : Char} :
    IsLineEnd c ↔ c = '\n' ∨ c = '\u2028' ∨ c = '\u2029' := by
  constructor
  · rintro ⟨hbreak, hprintable⟩
    simp only [isBreak, Bool.or_eq_true, beq_iff_eq] at hbreak
    rcases hbreak with (((rfl | rfl) | rfl) | rfl) | rfl
    · exact .inl rfl
    · exact absurd hprintable (by decide)
    · exact absurd hprintable (by decide)
    · exact .inr (.inl rfl)
    · exact .inr (.inr rfl)
  · rintro (rfl | rfl | rfl) <;> exact ⟨by decide, by decide⟩

theorem Cursor.nextLine_cons {c : Cursor} {b : Char} {rest : List Char} (h : c.rest = b :: rest)
    (hb : IsLineEnd b) :
    c.nextLine = (some b, { rest, line := c.line + 1, index := c.index + 1 }) := by
  rcases isLineEnd_iff.1 hb with rfl | rfl | rfl <;> simp [nextLine, h, isBreak]

theorem Cursor.atDocumentMark_of_column {c : Cursor} (h : c.column ≠ 0) :
    c.atDocumentMark = false := by
  simp [atDocumentMark, h]

theorem Cursor.skip_zero (c : Cursor) : c.skip 0 = c := rfl

theorem Cursor.next_eq_skip (c : Cursor) : c.next = c.skip 1 := by simp [next, skip]

theorem Cursor.next_skip (c : Cursor) (n : Nat) : c.next.skip n = c.skip (n + 1) := by
  simp [next, skip, Nat.add_comm 1, Nat.add_assoc]

theorem Cursor.skip_skip (c : Cursor) (m n : Nat) : (c.skip m).skip n = c.skip (m + n) := by
  simp [skip, Nat.add_assoc]

theorem Cursor.rest_skip {c : Cursor} {text rest : List Char} (h : c.rest = text ++ rest) :
    (c.skip text.length).rest = rest := by
  simp [skip, h]

/-! ## Gaps -/

def isGap (c : Char) : Bool := isBlank c || isBreak c

def spaces (n : Nat) : List Char := List.replicate n ' '

@[simp] theorem length_spaces (n : Nat) : (spaces n).length = n := List.length_replicate

theorem spaces_succ (n : Nat) : spaces (n + 1) = ' ' :: spaces n := rfl

theorem reverse_spaces (n : Nat) : (spaces n).reverse = spaces n := List.reverse_replicate

theorem readGap_stop (indent : Option Int) (g : Gap) {fuel : Nat} (hfuel : 0 < fuel) {c : Cursor}
    (h : Stops isGap c.rest) : readGap indent g fuel c = some (g, c) := by
  obtain ⟨fuel, rfl⟩ := Nat.exists_eq_add_of_lt hfuel
  rw [Nat.zero_add, readGap]
  split
  · next x xs hrest =>
    rw [hrest] at h
    have hx := stops_cons.1 h
    simp only [isGap, Bool.or_eq_false_iff] at hx
    simp [hx]
  · rfl

theorem readGap_space (indent : Option Int) (g : Gap) (fuel : Nat) {c : Cursor} {rest : List Char}
    (h : c.rest = ' ' :: rest) :
    readGap indent g (fuel + 1) c =
      readGap indent (if g.broken then g else { g with blanks := ' ' :: g.blanks }) fuel c.next := by
  rw [readGap, h]
  simp [isBlank]

theorem readGap_lineEnd (indent : Option Int) (g : Gap) (fuel : Nat) {c : Cursor} {b : Char}
    {rest : List Char} (h : c.rest = b :: rest) (hb : IsLineEnd b) :
    readGap indent g (fuel + 1) c =
      readGap indent
        (if g.broken then { g with more := b :: g.more } else { first := some b, broken := true }) fuel
        { rest, line := c.line + 1, index := c.index + 1 } := by
  have hblank : isBlank b = false := by rcases isLineEnd_iff.1 hb with rfl | rfl | rfl <;> decide
  rw [readGap, h]
  simp [hblank, hb.1, Cursor.nextLine_cons h hb]

/-- Blanks of the line are kept. -/
theorem readGap_spaces (indent : Option Int) {n fuel : Nat} {c : Cursor} {rest : List Char}
    (h : c.rest = spaces n ++ rest) (hrest : Stops isGap rest) (hfuel : n < fuel) :
    readGap indent {} fuel c = some ({ blanks := spaces n }, c.skip n) := by
  -- The spaces that were read already are gathered, so the claim is for any number of them.
  suffices hgap : ∀ m, readGap indent { blanks := spaces m } fuel c =
      some ({ blanks := spaces (n + m) }, c.skip n) by
    exact hgap 0
  intro m
  induction n generalizing m c fuel with
  | zero =>
    rw [readGap_stop _ _ hfuel (by rw [h]; exact hrest), Nat.zero_add]
    rfl
  | succ n ih =>
    obtain ⟨fuel, rfl⟩ := Nat.exists_eq_add_of_lt (Nat.zero_lt_of_lt hfuel)
    have hnext : c.next.rest = spaces n ++ rest := by rw [Cursor.next, h]; rfl
    have hrec := ih hnext (by omega : n < 0 + fuel) (m + 1)
    have hsum : n + (m + 1) = n + 1 + m := by omega
    rw [Cursor.next_skip, hsum] at hrec
    rw [readGap_space indent _ _ h]
    exact hrec

/-- After a line end blanks are left out. -/
theorem readGap_indentation (indent : Option Int) {g : Gap} (hg : g.broken = true) {n fuel : Nat}
    {c : Cursor} {rest : List Char} (h : c.rest = spaces n ++ rest) (hrest : Stops isGap rest)
    (hfuel : n < fuel) : readGap indent g fuel c = some (g, c.skip n) := by
  induction n generalizing c fuel with
  | zero =>
    rw [readGap_stop _ _ hfuel (by rw [h]; exact hrest)]
    rfl
  | succ n ih =>
    obtain ⟨fuel, rfl⟩ := Nat.exists_eq_add_of_lt (Nat.zero_lt_of_lt hfuel)
    have hnext : c.next.rest = spaces n ++ rest := by rw [Cursor.next, h]; rfl
    rw [readGap_space indent _ _ h, if_pos hg, ih hnext (by omega), Cursor.next_skip]

theorem readGap_broken (indent : Option Int) {g : Gap} (hg : g.broken = true) {bs : List Char}
    (hbs : ∀ b ∈ bs, IsLineEnd b) {n fuel : Nat} {c : Cursor} {rest : List Char}
    (h : c.rest = bs ++ (spaces n ++ rest)) (hcolumn : c.column = 0) (hrest : Stops isGap rest)
    (hfuel : bs.length + n < fuel) :
    readGap indent g fuel c = some ({ g with more := bs.reverse ++ g.more },
      { rest, line := c.line + bs.length, column := n, index := c.index + bs.length + n }) := by
  induction bs generalizing g c fuel with
  | nil =>
    rw [readGap_indentation indent hg h hrest (by simpa using hfuel)]
    simp [Cursor.skip, h, hcolumn]
  | cons b bs ih =>
    obtain ⟨hb, hbs⟩ := List.forall_mem_cons.1 hbs
    rw [List.length_cons] at hfuel
    obtain ⟨fuel, rfl⟩ := Nat.exists_eq_add_of_lt (Nat.zero_lt_of_lt hfuel)
    rw [readGap_lineEnd indent _ _ h hb, if_pos hg]
    refine (ih (g := { g with more := b :: g.more }) hg hbs
      (c := ⟨bs ++ (spaces n ++ rest), c.line + 1, 0, c.index + 1⟩) rfl rfl (by omega)).trans ?_
    simp [Nat.add_assoc, Nat.add_comm 1]

theorem readGap_breaks (indent : Option Int) {b : Char} (hb : IsLineEnd b) {bs : List Char}
    (hbs : ∀ b ∈ bs, IsLineEnd b) {n fuel : Nat} {c : Cursor} {rest : List Char}
    (h : c.rest = b :: (bs ++ (spaces n ++ rest))) (hrest : Stops isGap rest)
    (hfuel : bs.length + n + 1 < fuel) :
    readGap indent {} fuel c = some ({ first := some b, more := bs.reverse, broken := true },
      { rest, line := c.line + (bs.length + 1), column := n,
        index := c.index + (bs.length + 1) + n }) := by
  obtain ⟨fuel, rfl⟩ := Nat.exists_eq_add_of_lt (Nat.zero_lt_of_lt hfuel)
  rw [readGap_lineEnd indent _ _ h hb, if_neg (by simp), readGap_broken indent rfl hbs rfl rfl hrest
    (by omega)]
  simp [Nat.add_assoc, Nat.add_comm 1]

/-! ## Runs of spaces -/

/-- A text as characters and runs of spaces. -/
inductive Spaced : List Char → Prop
  | nil : Spaced []
  | char {c : Char} {cs : List Char} (hc : c ≠ ' ') (h : Spaced cs) : Spaced (c :: cs)
  | spaces (n : Nat) {cs : List Char} (hcs : Stops isSpace cs) (h : Spaced cs) :
    Spaced (spaces (n + 1) ++ cs)

theorem spaced (cs : List Char) : Spaced cs := by
  induction cs with
  | nil => exact .nil
  | cons c cs ih =>
    by_cases hc : c = ' '
    · subst hc
      cases ih with
      | nil => exact .spaces 0 (stops_nil _) .nil
      | char hd h => exact .spaces 0 (stops_cons.2 (by simpa [isSpace] using hd)) (.char hd h)
      | spaces n hds h => exact .spaces (n + 1) hds h
    · exact .char hc ih

/-! ## Steps between quotes -/

section

variable (single : Bool) (acc : List Char) (fuel : Nat) {c : Cursor} (hcolumn : c.column ≠ 0)
include hcolumn

theorem quotedText_gap {x : Char} {rest : List Char} (h : c.rest = x :: rest)
    (hx : isGap x = true) {g : Gap} {c' : Cursor}
    (hgap : readGap none {} (c.rest.length + 1) c = some (g, c')) :
    quotedText single acc (fuel + 1) c = quotedText single (g.text.reverse ++ acc) fuel c' := by
  have hgap' : (isBlank x || isBreak x) = true := hx
  rw [quotedText, Cursor.atDocumentMark_of_column hcolumn]
  rw [h] at hgap
  simp only [h, hgap']
  rw [if_neg (by simp), if_pos trivial, hgap]
  rfl

theorem quotedText_spaces {n : Nat} {rest : List Char} (h : c.rest = spaces (n + 1) ++ rest)
    (hrest : Stops isGap rest) :
    quotedText single acc (fuel + 1) c =
      quotedText single (spaces (n + 1) ++ acc) fuel (c.skip (n + 1)) := by
  have hfuel : n + 1 < c.rest.length + 1 := by simp [h]
  rw [quotedText_gap single acc fuel hcolumn h (by decide) (readGap_spaces none h hrest hfuel)]
  simp [Gap.text, reverse_spaces]

theorem quotedText_char {x : Char} {rest : List Char} (h : c.rest = x :: rest)
    (hx : isGap x = false) (hquote : x ≠ if single then '\'' else '"')
    (hescape : single = false → x ≠ '\\') :
    quotedText single acc (fuel + 1) c = quotedText single (x :: acc) fuel c.next := by
  have hgap : (isBlank x || isBreak x) = false := hx
  rw [quotedText, Cursor.atDocumentMark_of_column hcolumn]
  cases single <;> simp_all

end

/-! ## Double quotes -/

def doubleChar (c : Char) : List Char :=
  if !isPrintable c || isBreak c || c == '"' || c == '\\' then escapeOf c else [c]

theorem doubleText_eq (cs : List Char) :
    doubleText cs = '"' :: (cs.flatMap doubleChar ++ ['"']) := rfl

theorem hexDigit?_upperHex : ∀ n < 16, Runs.hexDigit? (upperHex n) = some n := by decide

theorem length_hexDigits (n : Nat) (acc : List Char) (count : Nat) :
    (hexDigits n acc count).length = count + acc.length := by
  induction count generalizing n acc with
  | zero => simp [hexDigits]
  | succ count ih =>
    rw [hexDigits, ih, List.length_cons]
    omega

/-- The digits of a number below the power are read as that number. -/
theorem foldlM_hexDigits (n value : Nat) (acc : List Char) (count : Nat) :
    (hexDigits n acc count).foldlM (fun n d => (Runs.hexDigit? d).map (n * 16 + ·)) value =
      acc.foldlM (fun n d => (Runs.hexDigit? d).map (n * 16 + ·))
        (value * 16 ^ count + n % 16 ^ count) := by
  induction count generalizing n acc with
  | zero => simp [hexDigits, Nat.mod_one]
  | succ count ih =>
    have hdigit := hexDigit?_upperHex (n % 16) (Nat.mod_lt _ (by decide))
    have hvalue : (value * 16 ^ count + n / 16 % 16 ^ count) * 16 + n % 16 =
        value * 16 ^ (count + 1) + n % 16 ^ (count + 1) := by
      rw [Nat.pow_succ', Nat.mod_mul]
      ring
    rw [hexDigits, ih, List.foldlM_cons, hdigit, ← hvalue]
    rfl

theorem numbered_hexDigits {x : Char} {count : Nat} (h : x.toNat < 16 ^ count) {c : Cursor}
    {rest : List Char} (hrest : c.rest = hexDigits x.toNat [] count ++ rest) :
    numbered count c = some (x, c.skip count) := by
  have hlength : (hexDigits x.toNat [] count).length = count := by simp [length_hexDigits]
  have htake : c.rest.take count = hexDigits x.toNat [] count := by
    rw [hrest, List.take_left' hlength]
  have hvalid : x.toNat.isValidChar := x.valid
  have hscalar : scalarOf? x.toNat = some x := by
    rw [scalarOf?, dif_pos hvalid]
    rfl
  rw [numbered, htake, foldlM_hexDigits]
  simp [hlength, Nat.mod_eq_of_lt h, hscalar, guard]

theorem escape_escapeOf (x : Char) :
    ∃ text, escapeOf x = '\\' :: text ∧ Stops isBreak text ∧ text ≠ [] ∧
      ∀ (c : Cursor) (rest : List Char), c.rest = text ++ rest →
        escape c = some (x, c.skip text.length) := by
  -- Two kinds of escapes: one sign, or a sign and a number of hexadecimal digits.
  have hsign (s : Char) (hs : isBreak s = false)
      (h : ∀ c : Cursor, c.rest.head? = some s → escape c = some (x, c.next)) :
      ∃ text, ['\\', s] = '\\' :: text ∧ Stops isBreak text ∧ text ≠ [] ∧
        ∀ (c : Cursor) (rest : List Char), c.rest = text ++ rest →
          escape c = some (x, c.skip text.length) := by
    refine ⟨[s], rfl, stops_cons.2 hs, by simp, fun c rest hrest => ?_⟩
    rw [h c (by rw [hrest]; rfl)]
    simp [Cursor.next, Cursor.skip]
  have hnumber (s : Char) (hs : isBreak s = false) (count : Nat) (hx : x.toNat < 16 ^ count)
      (h : ∀ c : Cursor, c.rest.head? = some s → escape c = numbered count c.next) :
      ∃ text, '\\' :: s :: hexDigits x.toNat [] count = '\\' :: text ∧ Stops isBreak text ∧
        text ≠ [] ∧ ∀ (c : Cursor) (rest : List Char), c.rest = text ++ rest →
          escape c = some (x, c.skip text.length) := by
    refine ⟨_, rfl, stops_cons.2 hs, by simp, fun c rest hrest => ?_⟩
    have hnext : c.next.rest = hexDigits x.toNat [] count ++ rest := by
      rw [Cursor.next, hrest]
      rfl
    rw [h c (by rw [hrest]; rfl), numbered_hexDigits hx hnext, Cursor.next_skip]
    simp [length_hexDigits]
  have hmax : x.toNat < 16 ^ 8 := lt_of_lt_of_le x.val.toNat_lt (by decide)
  unfold escapeOf
  dsimp only
  split
  · next s heq =>
    split at heq <;> cases heq
    all_goals exact hsign _ (by decide) fun c hc => by simp [escape, Cursor.peek, hc]
  · split_ifs with hbyte hshort
    · exact hnumber 'x' (by decide) 2 (by omega) fun c hc => by simp [escape, Cursor.peek, hc]
    · exact hnumber 'u' (by decide) 4 (by omega) fun c hc => by simp [escape, Cursor.peek, hc]
    · exact hnumber 'U' (by decide) 8 hmax fun c hc => by simp [escape, Cursor.peek, hc]

theorem isBlank_iff_of_isPrintable {c : Char} (h : isPrintable c = true) :
    isBlank c = true ↔ c = ' ' := by
  constructor
  · intro hblank
    simp only [isBlank, Bool.or_eq_true, beq_iff_eq] at hblank
    rcases hblank with rfl | rfl
    · rfl
    · exact absurd h (by decide)
  · rintro rfl
    decide

theorem flatMap_doubleChar_spaces (n : Nat) :
    (spaces n).flatMap doubleChar = spaces n := by
  induction n with
  | zero => rfl
  | succ n ih =>
    rw [spaces_succ, List.flatMap_cons, ih]
    rfl

theorem stops_flatMap_doubleChar {cs rest : List Char} (h : Stops isSpace cs) :
    Stops isGap (cs.flatMap doubleChar ++ '"' :: rest) := by
  cases cs with
  | nil => exact stops_cons.2 (by decide)
  | cons c cs =>
    have hc : c ≠ ' ' := by simpa [isSpace] using stops_cons.1 h
    rw [List.flatMap_cons, doubleChar]
    split_ifs with hspecial
    · obtain ⟨text, htext, -⟩ := escape_escapeOf c
      rw [htext]
      exact stops_cons.2 (by decide)
    · simp only [Bool.or_eq_true, Bool.not_eq_true', not_or, Bool.not_eq_false] at hspecial
      obtain ⟨⟨⟨hprintable, hbreak⟩, -⟩, -⟩ := hspecial
      have hblank : isBlank c = false := by
        rw [← Bool.not_eq_true, isBlank_iff_of_isPrintable hprintable]
        exact hc
      exact stops_cons.2 (by simp [isGap, hblank, hbreak])

theorem quotedText_doubleChar (acc : List Char) (fuel : Nat) {c : Cursor} {x : Char}
    {rest : List Char} (hcolumn : c.column ≠ 0) (hx : x ≠ ' ') (h : c.rest = doubleChar x ++ rest) :
    quotedText false acc (fuel + 1) c =
      quotedText false (x :: acc) fuel (c.skip (doubleChar x).length) := by
  rw [doubleChar] at h ⊢
  split_ifs at h ⊢ with hspecial
  · obtain ⟨text, htext, hbreak, htext', hread⟩ := escape_escapeOf x
    rw [htext, List.cons_append] at h
    have hnext : c.next.rest = text ++ rest := by rw [Cursor.next, h]; rfl
    have hsees : c.seesBreak 1 = false := by
      obtain ⟨y, text, rfl⟩ := List.exists_cons_of_ne_nil htext'
      simpa [Cursor.seesBreak, h] using stops_cons.1 hbreak
    rw [quotedText, Cursor.atDocumentMark_of_column hcolumn, h]
    simp only [hsees, hread c.next rest hnext, Cursor.next_skip, htext]
    simp [isBlank, isBreak]
  · simp only [Bool.or_eq_true, Bool.not_eq_true', not_or, Bool.not_eq_false, Bool.not_eq_true,
      beq_eq_false_iff_ne] at hspecial
    obtain ⟨⟨⟨hprintable, hbreak⟩, hquote⟩, hescape⟩ := hspecial
    have hblank : isBlank x = false := by
      rw [← Bool.not_eq_true, isBlank_iff_of_isPrintable hprintable]
      exact hx
    rw [quotedText_char false acc fuel hcolumn h (by simp [isGap, hblank, hbreak])
      (by simpa using hquote) fun _ => hescape, Cursor.next_eq_skip]
    rfl

/-- What stands between double quotes is read as it was. -/
theorem quotedText_double {cs : List Char} (acc : List Char) {fuel : Nat} {c : Cursor}
    {rest : List Char} (hcolumn : c.column ≠ 0) (h : c.rest = cs.flatMap doubleChar ++ '"' :: rest)
    (hfuel : cs.length < fuel) :
    quotedText false acc fuel c =
      some (acc.reverse ++ cs, c.skip ((cs.flatMap doubleChar).length + 1)) := by
  induction spaced cs generalizing acc fuel c with
  | nil =>
    obtain ⟨fuel, rfl⟩ := Nat.exists_eq_add_one_of_ne_zero (Nat.ne_zero_of_lt hfuel)
    have hrest : c.rest = '"' :: rest := h
    rw [quotedText, Cursor.atDocumentMark_of_column hcolumn, hrest]
    simp [isBlank, isBreak, Cursor.next_eq_skip]
  | @char x cs hx hcs ih =>
    obtain ⟨fuel, rfl⟩ := Nat.exists_eq_add_one_of_ne_zero (Nat.ne_zero_of_lt hfuel)
    rw [List.flatMap_cons, List.append_assoc] at h
    rw [List.length_cons] at hfuel
    have hnext : (c.skip (doubleChar x).length).rest = cs.flatMap doubleChar ++ '"' :: rest :=
      Cursor.rest_skip h
    have hrec := ih (x :: acc) (by simp [Cursor.skip]; omega) hnext (by omega : cs.length < fuel)
    rw [Cursor.skip_skip, List.reverse_cons, List.append_assoc] at hrec
    rw [quotedText_doubleChar acc fuel hcolumn hx h, hrec, List.flatMap_cons, List.length_append,
      Nat.add_assoc]
    rfl
  | @spaces n cs hcs _ ih =>
    obtain ⟨fuel, rfl⟩ := Nat.exists_eq_add_one_of_ne_zero (Nat.ne_zero_of_lt hfuel)
    rw [List.length_append, length_spaces] at hfuel
    rw [List.flatMap_append, flatMap_doubleChar_spaces, List.append_assoc] at h
    have hnext : (c.skip (n + 1)).rest = cs.flatMap doubleChar ++ '"' :: rest := by
      simpa using Cursor.rest_skip h
    rw [quotedText_spaces false acc fuel hcolumn h (stops_flatMap_doubleChar hcs),
      ih _ (by simp [Cursor.skip]) hnext (by omega), Cursor.skip_skip]
    simp [flatMap_doubleChar_spaces, reverse_spaces, Nat.add_assoc]

/-! ## Single quotes -/

theorem hasPair_cons_cons {p q : Char → Bool} {a b : Char} {cs : List Char} :
    hasPair p q (a :: b :: cs) = ((p a && q b) || hasPair p q (b :: cs)) := rfl

theorem hasPair_of_cons {p q : Char → Bool} {c : Char} {cs : List Char}
    (h : hasPair p q (c :: cs) = false) : hasPair p q cs = false := by
  cases cs with
  | nil => rfl
  | cons d cs =>
    rw [hasPair_cons_cons, Bool.or_eq_false_iff] at h
    exact h.2

/-- A text of characters, runs of spaces and runs of line ends that are no newlines, without spaces
next to line ends. -/
inductive Folded : List Char → Prop
  | nil : Folded []
  | char {c : Char} {cs : List Char} (hc : isGap c = false) (h : Folded cs) : Folded (c :: cs)
  | spaces (n : Nat) {cs : List Char} (hcs : Stops isGap cs) (h : Folded cs) :
    Folded (spaces (n + 1) ++ cs)
  | breaks {b : Char} {bs cs : List Char} (hbs : ∀ x ∈ b :: bs, IsLineEnd x ∧ x ≠ '\n')
    (hcs : Stops isGap cs) (h : Folded cs) : Folded (b :: (bs ++ cs))

theorem folded_of_fitsSingle {cs : List Char} (h : fitsSingle cs = true) (hnewline : '\n' ∉ cs) :
    Folded cs := by
  simp only [fitsSingle, fitsDoubleOnly, Bool.and_eq_true, Bool.not_eq_true', Bool.or_eq_false_iff,
    Bool.not_eq_false', List.all_eq_true] at h
  obtain ⟨⟨hbefore, hprintable⟩, hafter⟩ := h
  induction cs with
  | nil => exact .nil
  | cons c cs ih =>
    obtain ⟨hc, hcs⟩ := List.forall_mem_cons.1 hprintable
    obtain ⟨hne, hnewline⟩ := not_or.1 (mt List.mem_cons.2 hnewline)
    have hfolded := ih hnewline (hasPair_of_cons hafter) (hasPair_of_cons hbefore) hcs
    -- No space is next to a line end, so runs of both grow at their front only.
    by_cases hspace : c = ' '
    · subst hspace
      cases hfolded with
      | nil => exact .spaces 0 (stops_nil _) .nil
      | char hd h => exact .spaces 0 (stops_cons.2 hd) (.char hd h)
      | spaces n hds h => exact .spaces (n + 1) hds h
      | breaks hbs hds h =>
        rw [hasPair_cons_cons, (hbs _ List.mem_cons_self).1.1] at hbefore
        cases hbefore
    · by_cases hbreak : isBreak c = true
      · have hend : IsLineEnd c ∧ c ≠ '\n' := ⟨⟨hbreak, hc⟩, Ne.symm hne⟩
        have hone : ∀ x ∈ [c], IsLineEnd x ∧ x ≠ '\n' := List.forall_mem_singleton.2 hend
        cases hfolded with
        | nil => exact .breaks hone (stops_nil _) .nil
        | char hd h => exact .breaks hone (stops_cons.2 hd) (.char hd h)
        | spaces n hds h =>
          rw [spaces_succ, List.cons_append, hasPair_cons_cons, hbreak] at hafter
          cases hafter
        | breaks hbs hds h => exact .breaks (List.forall_mem_cons.2 ⟨hend, hbs⟩) hds h
      · have hblank : isBlank c = false := by
          rw [← Bool.not_eq_true, isBlank_iff_of_isPrintable hc]
          exact hspace
        exact .char (by simp [isGap, hblank, hbreak]) hfolded

def singleChar (c : Char) : List Char := if c = '\'' then [c, c] else [c]

def singleBody (indent : Nat) (cs : List Char) : List Char :=
  indentLines indent false (cs.flatMap singleChar) ++
    if cs.getLast?.any isBreak then spaces indent else []

theorem singleText_eq (indent : Nat) (cs : List Char) :
    singleText indent cs = '\'' :: (singleBody indent cs ++ ['\'']) := by
  simp only [singleText, singleBody, List.cons_append]
  rfl

theorem getLast?_append_any (p : Char → Bool) (cs ds : List Char) :
    (cs ++ ds).getLast?.any p = if ds = [] then cs.getLast?.any p else ds.getLast?.any p := by
  cases ds using List.reverseRecOn <;> simp [← List.append_assoc]

/-- Characters that end no line stand as they are. -/
theorem indentLines_append (indent : Nat) {cs : List Char} (h : ∀ c ∈ cs, isBreak c = false)
    (ds : List Char) : indentLines indent false (cs ++ ds) = cs ++ indentLines indent false ds := by
  induction cs with
  | nil => rfl
  | cons c cs ih =>
    obtain ⟨hc, hcs⟩ := List.forall_mem_cons.1 h
    rw [List.cons_append, indentLines, hc, ih hcs]
    rfl

/-- Line ends stand as they are, and a line begins after them. -/
theorem indentLines_breaks (indent : Nat) (fresh : Bool) {b : Char} {bs : List Char}
    (h : ∀ x ∈ b :: bs, isBreak x = true) (ds : List Char) :
    indentLines indent fresh (b :: (bs ++ ds)) = b :: (bs ++ indentLines indent true ds) := by
  induction bs generalizing b fresh with
  | nil => rw [List.nil_append, List.nil_append, indentLines, h b List.mem_cons_self, if_pos rfl]
  | cons b' bs ih =>
    rw [indentLines, h b List.mem_cons_self, if_pos rfl, List.cons_append,
      ih true fun x hx => h x (List.mem_cons_of_mem _ hx), List.cons_append]

theorem indentLines_fresh (indent : Nat) {c : Char} (h : isBreak c = false) (cs : List Char) :
    indentLines indent true (c :: cs) = spaces indent ++ indentLines indent false (c :: cs) := by
  rw [indentLines, indentLines, h]
  rfl

theorem singleChar_of_isGap {c : Char} (h : isGap c = true) : singleChar c = [c] := by
  refine if_neg ?_
  rintro rfl
  exact absurd h (by decide)

theorem flatMap_singleChar_of_isGap {cs : List Char} (h : ∀ c ∈ cs, isGap c = true) :
    cs.flatMap singleChar = cs := by
  induction cs with
  | nil => rfl
  | cons c cs ih =>
    obtain ⟨hc, hcs⟩ := List.forall_mem_cons.1 h
    rw [List.flatMap_cons, singleChar_of_isGap hc, ih hcs, List.singleton_append]

theorem isBreak_of_mem_singleChar {c d : Char} (h : isBreak c = false) (hd : d ∈ singleChar c) :
    isBreak d = false := by
  rw [singleChar] at hd
  split_ifs at hd <;> simp_all

theorem singleBody_char (indent : Nat) {c : Char} (h : isBreak c = false) (cs : List Char) :
    singleBody indent (c :: cs) = singleChar c ++ singleBody indent cs := by
  rw [singleBody, List.flatMap_cons,
    indentLines_append indent fun d => isBreak_of_mem_singleChar h, List.append_assoc,
    ← List.singleton_append, getLast?_append_any]
  congr 2
  split_ifs with hcs <;> simp_all

theorem singleBody_spaces (indent n : Nat) (cs : List Char) :
    singleBody indent (spaces n ++ cs) = spaces n ++ singleBody indent cs := by
  induction n with
  | zero => rfl
  | succ n ih =>
    rw [spaces_succ, List.cons_append, singleBody_char indent (by decide), ih]
    rfl

theorem singleBody_breaks (indent : Nat) {b : Char} {bs cs : List Char}
    (hbs : ∀ x ∈ b :: bs, isBreak x = true) (hcs : Stops isGap cs) :
    singleBody indent (b :: (bs ++ cs)) = b :: (bs ++ (spaces indent ++ singleBody indent cs)) := by
  have hgap : ∀ x ∈ b :: bs, isGap x = true := fun x hx => by simp [isGap, hbs x hx]
  have hlast : (b :: bs).getLast?.any isBreak = true := by
    rw [List.getLast?_eq_some_getLast (List.cons_ne_nil b bs)]
    exact hbs _ (List.getLast_mem _)
  rw [singleBody, singleBody, ← List.cons_append, List.flatMap_append,
    flatMap_singleChar_of_isGap hgap, getLast?_append_any, hlast, List.cons_append,
    indentLines_breaks indent false hbs]
  cases cs with
  | nil => simp [indentLines]
  | cons c cs =>
    have hbreak : isBreak c = false := by
      have hc := stops_cons.1 hcs
      simp only [isGap, Bool.or_eq_false_iff] at hc
      exact hc.2
    obtain ⟨d, ds, hd⟩ : ∃ d ds, singleChar c = d :: ds := by
      rw [singleChar]
      split_ifs <;> exact ⟨_, _, rfl⟩
    have hdbreak : isBreak d = false :=
      isBreak_of_mem_singleChar hbreak (by rw [hd]; exact List.mem_cons_self)
    simp only [List.flatMap_cons, hd, List.cons_append, indentLines_fresh indent hdbreak,
      if_neg (List.cons_ne_nil c cs), List.append_assoc]

theorem stops_singleBody {indent : Nat} {cs rest : List Char} (h : Folded cs)
    (hcs : Stops isGap cs) : Stops isGap (singleBody indent cs ++ '\'' :: rest) := by
  cases h with
  | nil => exact stops_cons.2 (by decide)
  | @char c cs hc h =>
    have hbreak : isBreak c = false := by
      simp only [isGap, Bool.or_eq_false_iff] at hc
      exact hc.2
    rw [singleBody_char indent hbreak, singleChar]
    split_ifs with hquote
    · exact stops_cons.2 (by rw [hquote]; decide)
    · exact stops_cons.2 hc
  | spaces => exact absurd (stops_cons.1 hcs) (by decide)
  | breaks hbs =>
    exact absurd (stops_cons.1 hcs) (by simp [isGap, (hbs _ List.mem_cons_self).1.1])

theorem quotedText_singleChar (acc : List Char) (fuel : Nat) {c : Cursor} {x : Char}
    {rest : List Char} (hcolumn : c.column ≠ 0) (hx : isGap x = false)
    (h : c.rest = singleChar x ++ rest) :
    quotedText true acc (fuel + 1) c =
      quotedText true (x :: acc) fuel (c.skip (singleChar x).length) := by
  rw [singleChar] at h ⊢
  split_ifs at h ⊢ with hquote
  · subst hquote
    rw [quotedText, Cursor.atDocumentMark_of_column hcolumn, h]
    simp [isBlank, isBreak]
  · rw [quotedText_char true acc fuel hcolumn h hx (by simpa using hquote) (by simp),
      Cursor.next_eq_skip]
    rfl

theorem quotedText_breaks (acc : List Char) (fuel : Nat) {c : Cursor} {b : Char} {n : Nat}
    {bs rest : List Char} (hcolumn : c.column ≠ 0) (hbs : ∀ x ∈ b :: bs, IsLineEnd x ∧ x ≠ '\n')
    (h : c.rest = b :: (bs ++ (spaces n ++ rest))) (hrest : Stops isGap rest) :
    ∃ c', quotedText true acc (fuel + 1) c = quotedText true (bs.reverse ++ b :: acc) fuel c' ∧
      c'.rest = rest ∧ c'.column = n ∧ c.line ≤ c'.line := by
  obtain ⟨⟨hb, hne⟩, hbs⟩ := List.forall_mem_cons.1 hbs
  have hfuel : bs.length + n + 1 < c.rest.length + 1 := by
    rw [h]
    simp only [List.length_cons, List.length_append, length_spaces]
    omega
  refine ⟨⟨rest, c.line + (bs.length + 1), n, c.index + (bs.length + 1) + n⟩, ?_, rfl, rfl,
    Nat.le_add_right _ _⟩
  rw [quotedText_gap true acc fuel hcolumn h (by simp [isGap, hb.1])
    (readGap_breaks none hb (fun x hx => (hbs x hx).1) h hrest hfuel)]
  -- A newline would be taken for a space.
  have htext : Gap.text { first := some b, more := bs.reverse, broken := true } = b :: bs := by
    simp [Gap.text]
  simp [htext]

/-- What stands between single quotes is read as it was. -/
theorem quotedText_single {indent : Nat} (hindent : indent ≠ 0) {cs : List Char} (h : Folded cs)
    (acc : List Char) {fuel : Nat} {c : Cursor} {rest : List Char} (hcolumn : c.column ≠ 0)
    (hc : c.rest = singleBody indent cs ++ '\'' :: rest) (hrest : rest.head? ≠ some '\'')
    (hfuel : cs.length < fuel) :
    ∃ c', quotedText true acc fuel c = some (acc.reverse ++ cs, c') ∧ c'.rest = rest ∧
      c.line ≤ c'.line := by
  -- One step of the reader for each part; the column moves with it and is never the first.
  induction h generalizing acc fuel c with
  | nil =>
    obtain ⟨fuel, rfl⟩ := Nat.exists_eq_add_one_of_ne_zero (Nat.ne_zero_of_lt hfuel)
    have hquote : c.rest = '\'' :: rest := hc
    refine ⟨c.next, ?_, by rw [Cursor.next, hquote]; rfl, le_rfl⟩
    rw [quotedText, Cursor.atDocumentMark_of_column hcolumn, hquote]
    simp [isBlank, isBreak, hrest]
  | @char x cs hx hcs ih =>
    obtain ⟨fuel, rfl⟩ := Nat.exists_eq_add_one_of_ne_zero (Nat.ne_zero_of_lt hfuel)
    rw [List.length_cons] at hfuel
    have hbreak : isBreak x = false := by
      simp only [isGap, Bool.or_eq_false_iff] at hx
      exact hx.2
    rw [singleBody_char indent hbreak, List.append_assoc] at hc
    obtain ⟨c', hread, hrest', hline⟩ := ih (x :: acc) (by simp [Cursor.skip]; omega)
      (Cursor.rest_skip hc) (by omega : cs.length < fuel)
    refine ⟨c', ?_, hrest', hline⟩
    rw [quotedText_singleChar acc fuel hcolumn hx hc, hread]
    simp
  | @spaces n cs hstop hcs ih =>
    obtain ⟨fuel, rfl⟩ := Nat.exists_eq_add_one_of_ne_zero (Nat.ne_zero_of_lt hfuel)
    rw [List.length_append, length_spaces] at hfuel
    rw [singleBody_spaces, List.append_assoc] at hc
    have hnext : (c.skip (n + 1)).rest = singleBody indent cs ++ '\'' :: rest := by
      simpa using Cursor.rest_skip hc
    obtain ⟨c', hread, hrest', hline⟩ := ih (spaces (n + 1) ++ acc) (by simp [Cursor.skip]) hnext
      (by omega : cs.length < fuel)
    refine ⟨c', ?_, hrest', hline⟩
    rw [quotedText_spaces true acc fuel hcolumn hc (stops_singleBody hcs hstop), hread]
    simp [reverse_spaces]
  | @breaks b bs cs hbs hstop hcs ih =>
    obtain ⟨fuel, rfl⟩ := Nat.exists_eq_add_one_of_ne_zero (Nat.ne_zero_of_lt hfuel)
    rw [List.length_cons, List.length_append] at hfuel
    rw [singleBody_breaks indent (fun x hx => (hbs x hx).1.1) hstop, List.cons_append,
      List.append_assoc, List.append_assoc] at hc
    obtain ⟨d, hstep, hrest', hcolumn', hline⟩ :=
      quotedText_breaks acc fuel hcolumn hbs hc (stops_singleBody hcs hstop)
    obtain ⟨c', hread, hrest'', hline'⟩ := ih (bs.reverse ++ b :: acc) (by rwa [hcolumn']) hrest'
      (by omega : cs.length < fuel)
    refine ⟨c', ?_, hrest'', hline.trans hline'⟩
    rw [hstep, hread]
    simp

end ConstantScan.Yaml
