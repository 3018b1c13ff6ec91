import ConstantScan.Proofs.YamlQuoted
import ConstantScan.Yaml.Parser

/-!
# Plain YAML scalars read back

A text is written without quotes only if nothing in it ends it early and it looks like no number, no
flag and nothing else that has a meaning of its own.
-/

namespace ConstantScan.Yaml

open Unicode (Runs)

/-! ## Steps -/

section

variable (indent : Int) (acc : List Char) (gap : Gap) (start : Bool) (fuel : Nat) {c : Cursor}

theorem plainText_char {x : Char} {rest : List Char}
    (hstart : start = true → c.atDocumentMark = false ∧ x ≠ '#') (h : c.rest = x :: rest)
    (hx : isGap x = false) (hcolon : x = ':' → c.seesGap 1 = false) :
    plainText false indent acc gap start (fuel + 1) c =
      plainText false indent (x :: (gap.text.reverse ++ acc)) {} false fuel c.next := by
  have hgap : (isBlank x || isBreak x) = false := hx
  have hdone : (start && (c.atDocumentMark || c.sees '#')) = false := by
    cases start with
    | false => rfl
    | true =>
      obtain ⟨hmark, hhash⟩ := hstart rfl
      simp [hmark, Cursor.sees, h, hhash]
  have hends : endsPlain false c = false := by
    by_cases hx' : x = ':'
    · simp [endsPlain, hcolon hx']
    · simp [endsPlain, Cursor.sees, h, hx']
  rw [plainText]
  simp [hdone, h, hgap, hends]

theorem plainText_spaces {n : Nat} {x : Char} {rest : List Char}
    (h : c.rest = spaces (n + 1) ++ x :: rest) (hx : isGap x = false) (hindent : indent ≤ c.column) :
    plainText false indent acc {} false (fuel + 1) c =
      plainText false indent acc { blanks := spaces (n + 1) } true fuel (c.skip (n + 1)) := by
  have hgap := readGap_spaces (some indent) h (stops_cons.2 hx)
    (by simp [h] : n + 1 < c.rest.length + 1)
  have hcolumn : ¬ ((c.skip (n + 1)).column : Int) < indent := by simp [Cursor.skip]; omega
  rw [plainText]
  rw [h] at hgap ⊢
  simp only [spaces_succ, List.cons_append] at hgap ⊢
  simp only [hgap, isBlank]
  simp [hcolumn]

end

/-! ## The end of a text -/

/-- At this place a plain text ends; reading goes on at the other, perhaps on another line. -/
def EndsPlain (indent : Int) (c c' : Cursor) (broken : Bool) : Prop :=
  ∀ acc fuel, plainText false indent acc {} false (fuel + 1) c = some (acc.reverse, c', broken)

theorem endsPlain_nil (indent : Int) {c : Cursor} (h : c.rest = []) :
    EndsPlain indent c c false := by
  intro acc fuel
  rw [plainText, h]
  rfl

theorem endsPlain_colon (indent : Int) {c : Cursor} {rest : List Char} (h : c.rest = ':' :: rest)
    (hgap : c.seesGap 1 = true) : EndsPlain indent c c false := by
  intro acc fuel
  have hends : endsPlain false c = true := by simp [endsPlain, Cursor.sees, h, hgap]
  rw [plainText, h]
  simp [isBlank, isBreak, hends]

theorem endsPlain_newline {indent : Int} {c : Cursor} {n : Nat} {rest : List Char}
    (h : c.rest = '\n' :: (spaces n ++ rest)) (hrest : Stops isGap rest) (hn : (n : Int) < indent) :
    EndsPlain indent c ⟨rest, c.line + 1, n, c.index + 1 + n⟩ true := by
  intro acc fuel
  have h' : c.rest = '\n' :: ([] ++ (spaces n ++ rest)) := h
  have hgap := readGap_breaks (some indent) (isLineEnd_iff.2 (.inl rfl)) (by simp) h' hrest
    (by simp [h] : 0 + n + 1 < c.rest.length + 1)
  rw [plainText]
  rw [h] at hgap ⊢
  simp only [hgap]
  simp [isBreak, isBlank, hn]

/-! ## Whole texts -/

/-- The rest of a text that may stand without quotes. -/
structure Continues (cs : List Char) : Prop where
  printable : ∀ c ∈ cs, isPrintable c = true
  unbroken : ∀ c ∈ cs, isBreak c = false
  colon : hasPair (· == ':') isGap cs = false
  hash : hasPair isGap (· == '#') cs = false
  lastColon : cs.getLast? ≠ some ':'
  lastSpace : cs.getLast? ≠ some ' '

theorem Continues.tail {c : Char} {cs : List Char} (h : Continues (c :: cs)) : Continues cs := by
  have hlast (d : Char) (hd : (c :: cs).getLast? ≠ some d) : cs.getLast? ≠ some d := by
    cases cs with
    | nil => simp
    | cons e cs => rwa [List.getLast?_cons_cons] at hd
  exact ⟨fun d hd => h.printable d (List.mem_cons_of_mem _ hd),
    fun d hd => h.unbroken d (List.mem_cons_of_mem _ hd), hasPair_of_cons h.colon,
    hasPair_of_cons h.hash, hlast _ h.lastColon, hlast _ h.lastSpace⟩

theorem Continues.isGap {c : Char} {cs : List Char} (h : Continues (c :: cs)) (hc : c ≠ ' ') :
    isGap c = false := by
  have hblank : isBlank c = false := by
    rw [← Bool.not_eq_true, isBlank_iff_of_isPrintable (h.printable c List.mem_cons_self)]
    exact hc
  simp [Yaml.isGap, hblank, h.unbroken c List.mem_cons_self]

/-- A colon that is followed by a blank would end the text. -/
theorem Continues.seesGap {cs rest : List Char} (h : Continues (':' :: cs)) {c : Cursor}
    (hc : c.rest = ':' :: (cs ++ rest)) : c.seesGap 1 = false := by
  cases cs with
  | nil => exact absurd rfl h.lastColon
  | cons d cs =>
    have hcolon := h.colon
    rw [hasPair_cons_cons, Bool.or_eq_false_iff] at hcolon
    simpa [Cursor.seesGap, hc, Yaml.isGap] using hcolon.1

theorem Continues.of_spaces {n : Nat} {cs : List Char} (h : Continues (spaces n ++ cs)) :
    Continues cs := by
  induction n with
  | zero => exact h
  | succ n ih => exact ih h.tail

/-- After spaces something else follows, and no comment. -/
theorem Continues.after_spaces {n : Nat} {cs : List Char} (h : Continues (spaces (n + 1) ++ cs))
    (hcs : Stops isSpace cs) : ∃ d ds, cs = d :: ds ∧ d ≠ ' ' ∧ d ≠ '#' := by
  have hone : Continues (' ' :: cs) := by
    have hspaces : spaces (n + 1) ++ cs = spaces n ++ ' ' :: cs := by
      rw [spaces, List.replicate_succ', List.append_assoc]
      rfl
    exact Continues.of_spaces (hspaces ▸ h)
  cases cs with
  | nil => exact absurd rfl hone.lastSpace
  | cons d ds =>
    have hhash := hone.hash
    rw [hasPair_cons_cons, Bool.or_eq_false_iff] at hhash
    refine ⟨d, ds, rfl, by simpa [isSpace] using stops_cons.1 hcs, ?_⟩
    rintro rfl
    exact absurd hhash.1 (by decide)

/-- What may stand without quotes is read as it was. -/
theorem plainText_continues {indent : Int} {cs rest : List Char} (hcs : Continues cs)
    {c c' : Cursor} {broken : Bool} (h : c.rest = cs ++ rest)
    (hends : EndsPlain indent (c.skip cs.length) c' broken) (acc : List Char) {gap : Gap}
    {start : Bool} (hindent : indent ≤ c.column)
    (hgap : gap = {} ∧ start = false ∨ ∃ x xs, cs = x :: xs ∧ x ≠ ' ' ∧
      (start = true → c.atDocumentMark = false ∧ x ≠ '#')) {fuel : Nat} (hfuel : cs.length < fuel) :
    plainText false indent acc gap start fuel c =
      some (acc.reverse ++ gap.text ++ cs, c', broken) := by
  -- A gap is carried along only from spaces to the character behind them.
  induction spaced cs generalizing acc gap start fuel c with
  | nil =>
    obtain ⟨fuel, rfl⟩ := Nat.exists_eq_add_one_of_ne_zero (Nat.ne_zero_of_lt hfuel)
    obtain ⟨rfl, rfl⟩ | ⟨x, xs, hxs, -⟩ := hgap
    · have hread : plainText false indent acc {} false (fuel + 1) c = some (acc.reverse, c', broken) :=
        hends acc fuel
      rw [hread]
      simp [Gap.text]
    · cases hxs
  | @char x cs hx _ ih =>
    obtain ⟨fuel, rfl⟩ := Nat.exists_eq_add_one_of_ne_zero (Nat.ne_zero_of_lt hfuel)
    rw [List.length_cons] at hfuel
    have hstart : start = true → c.atDocumentMark = false ∧ x ≠ '#' := by
      obtain ⟨-, rfl⟩ | ⟨y, ys, hys, -, hstart⟩ := hgap
      · simp
      · rwa [(List.cons.inj hys).1]
    have hcolon : x = ':' → c.seesGap 1 = false := by
      rintro rfl
      exact hcs.seesGap h
    have hnext : c.next.rest = cs ++ rest := by rw [Cursor.next, h]; rfl
    have hends' : EndsPlain indent (c.next.skip cs.length) c' broken := by
      rwa [Cursor.next_skip]
    have hindent' : indent ≤ c.next.column := by
      simp only [Cursor.next, Nat.cast_add]
      omega
    rw [plainText_char indent acc gap start fuel hstart h (hcs.isGap hx) hcolon,
      ih hcs.tail hnext hends' _ hindent' (.inl ⟨rfl, rfl⟩) (by omega)]
    simp [Gap.text]
  | @spaces n cs hstop hspaced ih =>
    obtain ⟨fuel, rfl⟩ := Nat.exists_eq_add_one_of_ne_zero (Nat.ne_zero_of_lt hfuel)
    rw [List.length_append, length_spaces] at hfuel
    obtain ⟨rfl, rfl⟩ | ⟨y, ys, hys, hy, -⟩ := hgap
    · obtain ⟨d, ds, rfl, hd, hhash⟩ := hcs.after_spaces hstop
      have htail : Continues (d :: ds) := Continues.of_spaces hcs
      rw [List.append_assoc] at h
      have hnext : (c.skip (n + 1)).rest = d :: ds ++ rest := by simpa using Cursor.rest_skip h
      have hends' : EndsPlain indent ((c.skip (n + 1)).skip (d :: ds).length) c' broken := by
        rwa [Cursor.skip_skip, ← length_spaces (n + 1), ← List.length_append]
      have hindent' : indent ≤ (c.skip (n + 1)).column := by
        simp only [Cursor.skip, Nat.cast_add]
        omega
      have hmark : (c.skip (n + 1)).atDocumentMark = false :=
        Cursor.atDocumentMark_of_column (by simp [Cursor.skip])
      rw [plainText_spaces indent acc fuel h (htail.isGap hd) hindent,
        ih htail hnext hends' acc hindent' (.inr ⟨d, ds, rfl, hd, fun _ => ⟨hmark, hhash⟩⟩) (by omega)]
      simp [Gap.text, reverse_spaces]
    · exact absurd (List.cons.inj hys).1.symm hy

/-! ## The meaning of a plain text -/

theorem continues_of_fitsPlain {cs : List Char} (h : fitsPlain cs = true) : Continues cs := by
  simp only [fitsPlain, fitsDoubleOnly, hasSign, Bool.and_eq_true, Bool.not_eq_true',
    Bool.or_eq_false_iff, Bool.not_eq_false', List.all_eq_true, List.any_eq_false, beq_eq_false_iff_ne,
    bne_iff_ne, Bool.not_eq_true] at h
  obtain ⟨⟨⟨⟨⟨⟨-, hprintable⟩, hbreak⟩, -⟩, ⟨hcolon, hlast⟩, hhash⟩, -⟩, hspace⟩ := h
  exact ⟨hprintable, hbreak, hcolon, hhash, hlast, hspace⟩

/-- How a text starts that looks like no number. -/
structure StartsWord (c : Char) : Prop where
  digit : c.isDigit = false
  minus : c ≠ '-'
  point : c ≠ '.'
  plus : c ≠ '+'

theorem startsWord_of_isAmbiguous {cs : List Char} (h : isAmbiguous cs = false) :
    ∃ c rest, cs = c :: rest ∧ StartsWord c := by
  cases cs with
  | nil => simp [isAmbiguous] at h
  | cons c rest =>
    simp only [isAmbiguous, Bool.or_eq_false_iff, beq_eq_false_iff_ne] at h
    exact ⟨c, rest, rfl, h.1.1.1.1, h.1.1.1.2, h.1.1.2, h.1.2⟩

theorem hexDigit?_of_isDigit {c : Char} (h : c.isDigit = true) :
    Runs.hexDigit? c = some (Decimal.digitValue c) ∧ Decimal.digitValue c < 10 := by
  simp only [Char.isDigit, ge_iff_le, Bool.and_eq_true, decide_eq_true_eq] at h
  obtain ⟨hlow, hhigh⟩ := h
  refine ⟨if_pos ?_, ?_⟩
  · simpa [Char.le_def] using ⟨hlow, hhigh⟩
  · have hnat : c.val.toNat ≤ 57 := hhigh
    have hval : c.toNat = c.val.toNat := rfl
    have hzero : '0'.toNat = 48 := rfl
    rw [Decimal.digitValue]
    omega

theorem isDigit_of_hexDigit? {c : Char} {d : Nat} (h : Runs.hexDigit? c = some d) (hd : d < 10) :
    c.isDigit = true := by
  unfold Runs.hexDigit? at h
  split_ifs at h with hdigit hlower hupper
  · simpa [Char.isDigit, Char.le_def] using hdigit
  all_goals
    rw [Option.some.injEq] at h
    omega

theorem digitsTo?_word {c : Char} {cs : List Char} (h : c.isDigit = false) :
    digitsTo? 10 (c :: cs) = none := by
  rw [digitsTo?, if_neg (by simp), List.foldlM_cons]
  cases hc : Runs.hexDigit? c with
  | none => rfl
  | some d =>
    have hd : ¬ d < 10 := fun hd => by simp [isDigit_of_hexDigit? hc hd] at h
    simp [hd]

theorem whole?_word {c : Char} {cs : List Char} (h : StartsWord c) : whole? (c :: cs) = none := by
  have hzero : c ≠ '0' := by
    rintro rfl
    exact absurd h.digit (by decide)
  have hmagnitude : magnitude? (c :: cs) = none := by
    unfold magnitude?
    split
    iterate 3 next heq => exact absurd (List.cons.inj heq).1 hzero
    exact digitsTo?_word h.digit
  unfold whole?
  split
  · rfl
  · split
    · next heq => exact absurd (List.cons.inj heq).1 h.minus
    · next heq => exact absurd (List.cons.inj heq).1 h.plus
    · rw [hmagnitude]
      rfl

theorem read?_word {c : Char} {cs : List Char} (h : StartsWord c) :
    Decimal.read? (c :: cs) = none := by
  have hsign : Decimal.splitSign (c :: cs) = (false, c :: cs) := by
    unfold Decimal.splitSign
    split
    · next heq => exact absurd (List.cons.inj heq).1 h.minus
    · next heq => exact absurd (List.cons.inj heq).1 h.plus
    · rfl
  have hspan : Decimal.spanDigits (c :: cs) = ([], c :: cs) := by
    simp [Decimal.spanDigits, h.digit]
  rw [Decimal.read?, hsign]
  simp only [hspan]
  split
  · next heq => exact absurd (List.cons.inj heq).1 h.point
  · rfl

theorem real?_word {c : Char} {cs : List Char} (h : StartsWord c) : real? (c :: cs) = none := by
  have hword (ws : List String)
      (hws : ∀ w ∈ ws, w.toList.head? = some '.' ∨ w.toList.head? = some '-') :
      ws.contains (String.ofList (c :: cs)) = false := by
    rw [List.contains_eq_mem, decide_eq_false_iff_not]
    intro hmem
    simpa [h.point, h.minus] using hws _ hmem
  unfold real?
  dsimp only
  split
  · next heq => exact absurd (List.cons.inj heq).1 h.plus
  · rw [hword [".inf", ".Inf", ".INF"] (by decide), hword ["-.inf", "-.Inf", "-.INF"] (by decide),
      hword [".nan", ".NaN", ".NAN"] (by decide), read?_word h]
    rfl

/-- A text that is not ambiguous means itself. -/
theorem plainValue_ofList {cs : List Char} (h : isAmbiguous cs = false) :
    plainValue (String.ofList cs) = .string (String.ofList cs) := by
  obtain ⟨c, rest, rfl, hc⟩ := startsWord_of_isAmbiguous h
  have hword (ws : List String) (hws : ∀ w ∈ ws, isAmbiguous w.toList = true) :
      ws.contains (String.ofList (c :: rest)) = false := by
    rw [List.contains_eq_mem, decide_eq_false_iff_not]
    intro hmem
    simpa [h] using hws _ hmem
  have hempty : (String.ofList (c :: rest)).isEmpty = false := by
    rw [← Bool.not_eq_true, String.isEmpty_iff]
    intro heq
    simpa using congrArg String.toList heq
  have hnull : isNull (String.ofList (c :: rest)) = false := hword _ (by decide)
  have hbool : bool? (String.ofList (c :: rest)) = none := by
    rw [bool?, hword ["true", "True", "TRUE"] (by decide),
      hword ["false", "False", "FALSE"] (by decide)]
    rfl
  have hwhole : whole? (String.ofList (c :: rest)).toList = none := by
    rw [String.toList_ofList, whole?_word hc]
  have hreal : real? (String.ofList (c :: rest)).toList = none := by
    rw [String.toList_ofList, real?_word hc]
  rw [plainValue]
  simp only [hempty, hnull, hbool, hwhole, hreal]
  simp

/-! ## Numbers -/

theorem digitsTo?_digits {cs : List Char} (h : ∀ c ∈ cs, c.isDigit = true) (hcs : cs ≠ []) :
    digitsTo? 10 cs = some (Decimal.ofDigits cs) := by
  have hfold (n : Nat) : cs.foldlM (fun n c => (Runs.hexDigit? c).bind fun d =>
      if d < 10 then some (n * 10 + d) else none) n =
        some (cs.foldl (fun n c => n * 10 + Decimal.digitValue c) n) := by
    clear hcs
    induction cs generalizing n with
    | nil => rfl
    | cons c cs ih =>
      obtain ⟨hc, hcs⟩ := List.forall_mem_cons.1 h
      obtain ⟨hdigit, hlt⟩ := hexDigit?_of_isDigit hc
      simp [hdigit, hlt, ih hcs]
  rw [digitsTo?, if_neg (by simpa using hcs), hfold, Decimal.ofDigits]

theorem whole?_toDigits {n : Nat} (h : n < Nat.pow 2 128) :
    whole? (Nat.toDigits 10 n) = some (.unsigned n) := by
  have hdigits : ∀ c ∈ Nat.toDigits 10 n, c.isDigit = true :=
    fun c hc => Decimal.isDigit_of_mem_toDigits hc
  have hten : digitsTo? 10 (Nat.toDigits 10 n) = some n := by
    rw [digitsTo?_digits hdigits Nat.toDigits_ne_nil, Decimal.ofDigits_toDigits]
  -- A zero stands in front of no other digit, so no base and no octal number shows.
  have hzero : ∀ c cs, Nat.toDigits 10 n ≠ '0' :: c :: cs := by
    intro c cs hcs
    obtain hn | ⟨d, ds, hn, hd⟩ := Decimal.toDigits_eq_cons n
    · simp [hn] at hcs
    · rw [hn, List.cons.injEq] at hcs
      exact hd hcs.1
  have hfirst (x : Char) (hx : x.isDigit = false) (rest : List Char) :
      Nat.toDigits 10 n ≠ x :: rest := by
    intro heq
    have hdigit := hdigits x (by rw [heq]; exact List.mem_cons_self)
    simp [hx] at hdigit
  have hsign : (Decimal.splitSign (Nat.toDigits 10 n)).2 = Nat.toDigits 10 n := by
    unfold Decimal.splitSign
    split
    · next heq => exact absurd heq (hfirst _ (by decide) _)
    · next heq => exact absurd heq (hfirst _ (by decide) _)
    · rfl
  have hleading : hasLeadingZero (Nat.toDigits 10 n) = false := by
    unfold hasLeadingZero
    rw [hsign]
    split
    · next heq => exact absurd heq (hzero _ _)
    · rfl
  have hmagnitude : magnitude? (Nat.toDigits 10 n) = some n := by
    unfold magnitude?
    split
    iterate 3 next heq => exact absurd heq (hzero _ _)
    exact hten
  unfold whole?
  rw [hleading, if_neg (by simp)]
  split
  · next heq => exact absurd heq (hfirst _ (by decide) _)
  · next heq => exact absurd heq (hfirst _ (by decide) _)
  · rw [hmagnitude, Option.bind_some, whole?.unsigned?, if_pos h]

/-- The digits of a number mean that number. -/
theorem plainValue_toString {n : Nat} (h : n < Nat.pow 2 128) :
    plainValue (toString n) = .number (.unsigned n) := by
  have htext := Decimal.toList_toString n
  have hword (ws : List String) (hws : ∀ w ∈ ws, w.toList.head?.any Char.isDigit = false) :
      ws.contains (toString n) = false := by
    rw [List.contains_eq_mem, decide_eq_false_iff_not]
    intro hmem
    obtain ⟨c, cs, hcs⟩ := List.exists_cons_of_ne_nil (Nat.toDigits_ne_nil (n := n) (b := 10))
    have hc := Decimal.isDigit_of_mem_toDigits (n := n) (c := c) (by simp [hcs])
    simpa [htext, hcs, hc] using hws _ hmem
  have hempty : (toString n).isEmpty = false := by
    rw [← Bool.not_eq_true, String.isEmpty_iff]
    intro heq
    rw [heq] at htext
    exact Nat.toDigits_ne_nil htext.symm
  have hnull : isNull (toString n) = false := hword _ (by decide)
  have hbool : bool? (toString n) = none := by
    rw [bool?, hword ["true", "True", "TRUE"] (by decide),
      hword ["false", "False", "FALSE"] (by decide)]
    rfl
  have hwhole : whole? (toString n).toList = some (.unsigned n) := by
    rw [htext, whole?_toDigits h]
  rw [plainValue]
  simp only [hempty, hnull, hbool, hwhole]
  simp

end ConstantScan.Yaml
