import ConstantScan.Proofs.YamlLiteral
import ConstantScan.Proofs.YamlPlain
import ConstantScan.Yaml.Token

/-!
# Steps of the YAML scanner

What the scanner does at a key, a dash, a scalar and a line end, in the texts that are written here.
-/

namespace ConstantScan.Yaml

/-- The text ends, or a token starts here. -/
def Solid (cs : List Char) : Prop := ∀ c ∈ cs.head?, isGap c = false ∧ c ≠ '#' ∧ c ≠ '\uFEFF'

theorem solid_nil : Solid [] := nofun

theorem solid_cons {c : Char} {cs : List Char} :
    Solid (c :: cs) ↔ isGap c = false ∧ c ≠ '#' ∧ c ≠ '\uFEFF' := by simp [Solid]

theorem Solid.stops {cs : List Char} (h : Solid cs) : Stops isGap cs := fun c hc => (h c hc).1

/-- Where no key may have begun, nothing is asked of it. -/
theorem noKey {P : KeyStart → Prop} : ∀ k ∈ (none : Option KeyStart), P k := fun k hk =>
  absurd hk (Option.not_mem_none k)

namespace Scanner

/-! ## The next token -/

/-- Moves to the next token and gives up the keys that are too far back. -/
def settle (s : Scanner) : Option Scanner :=
  (s.skipToToken (s.cursor.rest.length + 1)).dropStaleKeys

def advance (s : Scanner) (fuel : Nat) : Option (List Token) :=
  match s.cursor.peek with
  | none => s.leaveAll.map (·.tokens.reverse)
  | some x => (s.token x).bind (·.run fuel)

theorem run_succ (s : Scanner) (fuel : Nat) :
    s.run (fuel + 1) = s.settle.bind fun t => (t.dedentTo t.cursor.column).advance fuel := by
  rw [run, settle]
  cases (s.skipToToken (s.cursor.rest.length + 1)).dropStaleKeys <;> rfl

/-- The scanner reads these tokens in the end. -/
def Runs (s : Scanner) (out : List Token) : Prop :=
  ∀ fuel, s.cursor.rest.length < fuel → s.run fuel = some out

theorem Runs.of_settle_eq {s t : Scanner} {out : List Token} (hsettle : s.settle = t.settle)
    (hlength : t.cursor.rest.length ≤ s.cursor.rest.length) (h : t.Runs out) : s.Runs out := by
  intro fuel hfuel
  obtain ⟨fuel, rfl⟩ := Nat.exists_eq_add_one_of_ne_zero (Nat.ne_zero_of_lt hfuel)
  rw [← h (fuel + 1) (by omega), run_succ, run_succ, hsettle]

theorem skipToToken_spaces {s : Scanner} {n : Nat} {rest : List Char}
    (h : s.cursor.rest = spaces n ++ rest) (hrest : Solid rest) (fuel : Nat) :
    s.skipToToken (fuel + 1) = { s with cursor := s.cursor.skip n } := by
  -- Behind the spaces there is no mark, no comment and no line end to skip.
  have hmark : s.cursor.sees '\uFEFF' = false := by
    cases n with
    | zero =>
      cases rest with
      | nil => simp [Cursor.sees, h, spaces]
      | cons x xs => simpa [Cursor.sees, h, spaces] using (solid_cons.1 hrest).2.2
    | succ n => simp [Cursor.sees, h, spaces_succ]
  have hrest' : (s.cursor.skip n).rest = rest := by
    simpa using Cursor.rest_skip h
  have hspan (tabs : Bool) : (s.cursor.span fun x => x == ' ' || (tabs && x == '\t')).2 =
      s.cursor.skip n := by
    have hstop : Stops (fun x => (x == ' ' || (tabs && x == '\t')) && !isBreak x) rest := by
      refine hrest.stops.mono fun x hx => ?_
      simp only [Bool.and_eq_true, Bool.or_eq_true, beq_iff_eq] at hx
      rcases hx.1 with rfl | ⟨-, rfl⟩ <;> rfl
    have hspaces : ∀ x ∈ spaces n, ((x == ' ' || (tabs && x == '\t')) && !isBreak x) = true := by
      intro x hx
      rw [List.eq_of_mem_replicate hx]
      rfl
    rw [Cursor.span, h, hstop.takeWhile_append hspaces, length_spaces]
  have hcomment : (s.cursor.skip n).skipComment = s.cursor.skip n := by
    cases rest with
    | nil => simp [Cursor.skipComment, Cursor.sees, hrest']
    | cons x xs => simp [Cursor.skipComment, Cursor.sees, hrest', (solid_cons.1 hrest).2.1]
  have hbreak : (s.cursor.skip n).seesBreak = false := by
    cases rest with
    | nil => simp [Cursor.seesBreak, hrest']
    | cons x xs =>
      have hx := (solid_cons.1 hrest).1
      simp only [isGap, Bool.or_eq_false_iff] at hx
      simp [Cursor.seesBreak, hrest', hx.2]
  rw [skipToToken]
  simp only [hmark, Bool.and_false, Bool.false_eq_true, if_false, hspan, hcomment, hbreak]

theorem skipToToken_newline {s : Scanner} {n : Nat} {rest : List Char}
    (hflow : s.inFlow = false) (h : s.cursor.rest = '\n' :: (spaces n ++ rest))
    (hrest : Solid rest) (fuel : Nat) :
    s.skipToToken (fuel + 2) = { s with
      cursor := ⟨rest, s.cursor.line + 1, n, s.cursor.index + 1 + n⟩, keyAllowed := true } := by
  have hmark : s.cursor.sees '\uFEFF' = false := by simp [Cursor.sees, h]
  have hspan (tabs : Bool) : (s.cursor.span fun x => x == ' ' || (tabs && x == '\t')).2 =
      s.cursor := by
    simp [Cursor.span, h, Cursor.skip_zero]
  obtain ⟨-, hbreak, hnext⟩ := Cursor.at_newline h
  have hcomment : s.cursor.skipComment = s.cursor := by simp [Cursor.skipComment, Cursor.sees, h]
  rw [skipToToken]
  simp only [hmark, Bool.and_false, Bool.false_eq_true, if_false, hspan, hcomment, hbreak, hnext,
    hflow, if_true]
  rw [skipToToken_spaces rfl hrest]
  simp [Cursor.skip, spaces]

end Scanner

/-! ## Progress -/

/-- The tokens so far, last one first, and the columns of the block collections that are open. -/
structure Progress where
  tokens : List Token := []
  indent : Int := -1
  indents : List Int := []

namespace Progress

def scanner (p : Progress) (c : Cursor) (keyAllowed : Bool) (key : Option KeyStart) : Scanner :=
  { cursor := c, tokens := p.tokens, count := p.tokens.length, indent := p.indent,
    indents := p.indents, keyAllowed, keys := [key] }

def add (p : Progress) (ts : List Token) : Progress := { p with tokens := ts.reverse ++ p.tokens }

def enter (p : Progress) (column : Nat) : Progress :=
  ⟨.blockMapping :: p.tokens, column, p.indent :: p.indents⟩

@[simp] theorem indent_add (p : Progress) (ts : List Token) : (p.add ts).indent = p.indent := rfl

@[simp] theorem indent_enter (p : Progress) (column : Nat) : (p.enter column).indent = column := rfl

theorem add_add (p : Progress) (ts us : List Token) : (p.add ts).add us = p.add (ts ++ us) := by
  simp [add]

variable {p : Progress} {c : Cursor} {keyAllowed : Bool} {key : Option KeyStart}

theorem inFlow_scanner : (p.scanner c keyAllowed key).inFlow = false := rfl

/-- The place where a key may have begun, if it is not too far back. -/
def freshKey (c : Cursor) (key : Option KeyStart) : Option KeyStart :=
  key.filter fun k => !Scanner.isStale c k

theorem freshKey_eq_none (h : ∀ k ∈ key, k.line < c.line) : freshKey c key = none := by
  cases key with
  | none => rfl
  | some k => simp [freshKey, Scanner.isStale, h k rfl]

theorem freshKey_some {k : KeyStart} (h : Scanner.isStale c k = false) :
    freshKey c (some k) = some k := by
  simp [freshKey, h]

theorem dropStaleKeys_scanner (h : ∀ k ∈ key, k.required = false ∨ Scanner.isStale c k = false) :
    (p.scanner c keyAllowed key).dropStaleKeys =
      some (p.scanner c keyAllowed (freshKey c key)) := by
  cases key with
  | none => rfl
  | some k =>
    have hk : (k.required && Scanner.isStale c k) = false := Bool.and_eq_false_iff.2 (h k rfl)
    simp [Scanner.dropStaleKeys, scanner, freshKey, hk]

/-- Where a token starts, nothing is skipped. -/
theorem settle_scanner (hc : Solid c.rest)
    (h : ∀ k ∈ key, k.required = false ∨ Scanner.isStale c k = false) :
    (p.scanner c keyAllowed key).settle = some (p.scanner c keyAllowed (freshKey c key)) := by
  have hskip : (p.scanner c keyAllowed key).cursor.rest = spaces 0 ++ c.rest := rfl
  rw [Scanner.settle, Scanner.skipToToken_spaces hskip hc]
  exact dropStaleKeys_scanner h

theorem settle_scanner_none (hc : Solid c.rest) :
    (p.scanner c keyAllowed none).settle = some (p.scanner c keyAllowed none) :=
  settle_scanner hc noKey

end Progress

/-- In front of a token at the column, the scanner reads these tokens in the end. -/
def Finishes (rest : List Char) (column : Nat) (p : Progress) (out : List Token) : Prop :=
  ∀ line index, (p.scanner ⟨rest, line, column, index⟩ true none).Runs out

/-- Inside a line and further in than the block, the scanner reads these tokens in the end. -/
def Inside (keyAllowed : Bool) (text : List Char) (p : Progress) (out : List Token) : Prop :=
  ∀ line (column : Nat) index, p.indent < column →
    (p.scanner ⟨text, line, column, index⟩ keyAllowed none).Runs out

section

variable {p : Progress} {c : Cursor} {keyAllowed : Bool} {key : Option KeyStart} {n : Nat}
  {rest : List Char} {out : List Token}

/-! ## Blanks and line ends -/

theorem runs_space {text : List Char} (htext : Solid text) (hc : c.rest = ' ' :: text)
    (h : (p.scanner (c.skip 1) keyAllowed none).Runs out) :
    (p.scanner c keyAllowed none).Runs out := by
  have hspace : (p.scanner c keyAllowed none).cursor.rest = spaces 1 ++ text := hc
  have hskip : (c.skip 1).rest = text := by simp [Cursor.skip, hc]
  refine Scanner.Runs.of_settle_eq ?_ (by simp [Progress.scanner, Cursor.skip]) h
  rw [Scanner.settle, Scanner.skipToToken_spaces hspace htext]
  exact (Progress.settle_scanner_none (hskip ▸ htext)).symm

theorem Inside.space {text : List Char} (htext : Solid text) (h : Inside keyAllowed text p out) :
    Inside keyAllowed (' ' :: text) p out := fun line column index _ =>
  runs_space htext rfl (h line (column + 1) (index + 1) (by omega))

theorem runs_moved (h : Finishes rest n p out) (hrest : Solid rest) (hc : c.rest = rest)
    (hcolumn : c.column = n) (hkey : ∀ k ∈ key, k.required = false ∧ k.line < c.line) :
    (p.scanner c true key).Runs out := by
  obtain ⟨text, line, column, index⟩ := c
  obtain rfl : text = rest := hc
  obtain rfl : column = n := hcolumn
  refine Scanner.Runs.of_settle_eq (t := p.scanner ⟨text, line, column, index⟩ true none) ?_
    (Nat.le_refl _) (h line index)
  rw [Progress.settle_scanner_none hrest, Progress.settle_scanner hrest fun k hk =>
    .inl (hkey k hk).1, Progress.freshKey_eq_none fun k hk => (hkey k hk).2]

theorem runs_newline (h : Finishes rest n p out) (hrest : Solid rest)
    (hc : c.rest = '\n' :: (spaces n ++ rest))
    (hkey : ∀ k ∈ key, k.required = false ∧ k.line ≤ c.line) :
    (p.scanner c keyAllowed key).Runs out := by
  have hmoved := runs_moved (c := ⟨rest, c.line + 1, n, c.index + 1 + n⟩) h hrest rfl rfl
    fun k hk => ⟨(hkey k hk).1, Nat.lt_succ_of_le (hkey k hk).2⟩
  refine Scanner.Runs.of_settle_eq ?_ ?_ hmoved
  · have hlength : (p.scanner c keyAllowed key).cursor.rest.length + 1 = (n + rest.length) + 2 := by
      simp [Progress.scanner, hc]
    have hskip : (p.scanner ⟨rest, c.line + 1, n, c.index + 1 + n⟩ true key).cursor.rest =
        spaces 0 ++ rest := rfl
    rw [Scanner.settle, Scanner.settle, hlength,
      Scanner.skipToToken_newline Progress.inFlow_scanner hc hrest,
      Scanner.skipToToken_spaces hskip hrest]
    rfl
  · simp [Progress.scanner, hc]
    omega

theorem Inside.newline (hrest : Solid rest) (h : Finishes rest n p out) :
    Inside keyAllowed ('\n' :: (spaces n ++ rest)) p out := fun _ _ _ _ =>
  runs_newline h hrest rfl noKey

theorem Inside.finishes {text : List Char} {column : Nat} (h : Inside true text p out)
    (hcolumn : p.indent < column) : Finishes text column p out := fun line index =>
  h line column index hcolumn

/-! ## Ends of blocks -/

namespace Progress

/-- Closes the blocks that are further in than the column. -/
def closeTo (column : Int) (tokens : List Token) (indent : Int) : List Int → Progress
  | [] => ⟨tokens, indent, []⟩
  | outer :: rest =>
    if column < indent then closeTo column (.blockEnd :: tokens) outer rest
    else ⟨tokens, indent, outer :: rest⟩

def close (p : Progress) (column : Int) : Progress := closeTo column p.tokens p.indent p.indents

theorem close_cons {column : Int} {tokens : List Token} {indent outer : Int} {rest : List Int}
    (h : column < indent) : close ⟨tokens, indent, outer :: rest⟩ column =
      close ⟨.blockEnd :: tokens, outer, rest⟩ column := by
  rw [close, closeTo, if_pos h]
  rfl

theorem close_of_le {column : Int} (h : p.indent ≤ column) : p.close column = p := by
  obtain ⟨tokens, indent, indents⟩ := p
  cases indents with
  | nil => rfl
  | cons outer rest =>
    rw [close, closeTo, if_neg (Int.not_lt.2 h)]

theorem closeBlocks_scanner (column : Int) :
    (p.scanner c keyAllowed key).closeBlocks column p.indents =
      (p.close column).scanner c keyAllowed key := by
  obtain ⟨tokens, indent, indents⟩ := p
  induction indents generalizing tokens indent with
  | nil => rfl
  | cons outer rest ih =>
    by_cases h : column < indent
    · rw [close_cons h, ← ih]
      exact if_pos h
    · rw [close_of_le (Int.not_lt.1 h)]
      exact if_neg h

theorem dedentTo_scanner (column : Int) :
    (p.scanner c keyAllowed key).dedentTo column = (p.close column).scanner c keyAllowed key :=
  closeBlocks_scanner column

/-- It makes no difference that some blocks were closed before all are. -/
theorem close_close {column : Int} (h : -1 ≤ column) : (p.close column).close (-1) = p.close (-1) := by
  obtain ⟨tokens, indent, indents⟩ := p
  induction indents generalizing tokens indent with
  | nil => rfl
  | cons outer rest ih =>
    by_cases hlt : column < indent
    · rw [close_cons hlt, close_cons (by omega : -1 < indent), ih]
    · have hle : (⟨tokens, indent, outer :: rest⟩ : Progress).indent ≤ column := Int.not_lt.1 hlt
      rw [close_of_le hle]

/-- At the end of the text all blocks are closed. -/
theorem run_end (hc : c.rest = []) (hkey : ∀ k ∈ key, k.required = false) (fuel : Nat) :
    (p.scanner c keyAllowed key).run (fuel + 1) = some (p.close (-1)).tokens.reverse := by
  have hpeek : c.peek = none := by simp [Cursor.peek, hc]
  have hleave : ((p.close c.column).scanner c keyAllowed (freshKey c key)).leaveAll.map
      (·.tokens.reverse) = some (p.close (-1)).tokens.reverse := by
    rw [Scanner.leaveAll, dedentTo_scanner, close_close (by omega)]
    cases hfresh : freshKey c key with
    | none => rfl
    | some k =>
      have hk : k ∈ key := (Option.filter_eq_some_iff.1 hfresh).1
      simp [Scanner.forgetKey, scanner, hkey k hk]
  rw [Scanner.run_succ, settle_scanner (hc ▸ solid_nil) fun k hk => .inl (hkey k hk),
    Option.bind_some, dedentTo_scanner, Scanner.advance]
  simp only [scanner, hpeek]
  exact hleave

theorem run_end_none (hc : c.rest = []) (fuel : Nat) :
    (p.scanner c keyAllowed none).run (fuel + 1) = some (p.close (-1)).tokens.reverse := by
  have hkey : ∀ k ∈ (none : Option KeyStart), k.required = false := noKey
  exact run_end hc hkey fuel

end Progress

theorem runs_end (h : Finishes [] n p out) (hc : c.rest = [])
    (hkey : ∀ k ∈ key, k.required = false) : (p.scanner c keyAllowed key).Runs out := by
  intro fuel hfuel
  obtain ⟨fuel, rfl⟩ := Nat.exists_eq_add_one_of_ne_zero (Nat.ne_zero_of_lt hfuel)
  rw [Progress.run_end hc hkey, ← h 0 0 1 (by simp [Progress.scanner]), Progress.run_end_none rfl]

/-- A mapping ends in front of a line that is not indented as far, or with the text. -/
theorem Finishes.leave {column : Nat} {ts : List Token}
    (h : Finishes rest n (p.add (.blockMapping :: (ts ++ [.blockEnd]))) out) (hrest : Solid rest)
    (hn : n < column ∨ rest = []) : Finishes rest n ((p.enter column).add ts) out := by
  have hadd : p.add (.blockMapping :: (ts ++ [.blockEnd])) =
      ⟨.blockEnd :: ((p.enter column).add ts).tokens, p.indent, p.indents⟩ := by
    simp [Progress.add, Progress.enter]
  rw [hadd] at h
  intro line index fuel hfuel
  obtain ⟨fuel, rfl⟩ := Nat.exists_eq_add_one_of_ne_zero (Nat.ne_zero_of_lt hfuel)
  rw [← h line index (fuel + 1) hfuel]
  have hclose (stop : Int) (hstop : stop < column) : ((p.enter column).add ts).close stop =
      Progress.close ⟨.blockEnd :: ((p.enter column).add ts).tokens, p.indent, p.indents⟩ stop :=
    Progress.close_cons hstop
  -- The scanner closes the mapping in front of a token further out, and at the end of the text.
  obtain hlt | rfl := hn
  · rw [Scanner.run_succ, Scanner.run_succ, Progress.settle_scanner_none hrest,
      Progress.settle_scanner_none hrest, Option.bind_some, Option.bind_some,
      Progress.dedentTo_scanner, Progress.dedentTo_scanner]
    have hn : (n : Int) < column := by omega
    exact congrArg (fun q : Progress => Scanner.advance (q.scanner _ _ _) fuel) (hclose n hn)
  · rw [Progress.run_end_none rfl, Progress.run_end_none rfl, hclose (-1) (by omega)]

/-! ## Tokens -/

theorem runs_token {x : Char} {s : Scanner} (hc : c.rest = x :: rest) (hsolid : Solid c.rest)
    (hindent : p.indent ≤ c.column) (hkey : ∀ k ∈ key, Scanner.isStale c k = false)
    (htoken : (p.scanner c keyAllowed key).token x = some s)
    (hlength : s.cursor.rest.length ≤ rest.length) (h : s.Runs out) :
    (p.scanner c keyAllowed key).Runs out := by
  have hfresh : Progress.freshKey c key = key := by
    cases key with
    | none => rfl
    | some k => exact Progress.freshKey_some (hkey k rfl)
  have hpeek : c.peek = some x := by simp [Cursor.peek, hc]
  intro fuel hfuel
  obtain ⟨fuel, rfl⟩ := Nat.exists_eq_add_one_of_ne_zero (Nat.ne_zero_of_lt hfuel)
  have hfuel' : s.cursor.rest.length < fuel := by
    simp [Progress.scanner, hc] at hfuel
    omega
  have hclose : p.close (p.scanner c keyAllowed key).cursor.column = p := Progress.close_of_le hindent
  rw [Scanner.run_succ, Progress.settle_scanner hsolid fun k hk => .inr (hkey k hk), hfresh,
    Option.bind_some, Progress.dedentTo_scanner, hclose, Scanner.advance]
  simp only [Progress.scanner, hpeek] at htoken ⊢
  rw [htoken, Option.bind_some, h fuel hfuel']

/-- A text that a scalar without quotes can be. -/
structure PlainWord (x : Char) (cs : List Char) : Prop where
  continues : Continues (x :: cs)
  special : startsSpecially (x :: cs) = false
  minus : x ≠ '-'
  point : x ≠ '.'
  space : x ≠ ' '

theorem PlainWord.signs {x : Char} {cs : List Char} (h : PlainWord x cs) :
    x ∉ "#,[]\x7b\x7d&*!|>'\"%@`".toList ∧
      (x = '?' ∨ x = ':' → ∃ d ds, cs = d :: ds ∧ isGap d = false) := by
  have hspecial := h.special
  unfold startsSpecially at hspecial
  split at hspecial
  · next heq => exact absurd (List.cons.inj heq).1 h.minus
  · next heq => exact absurd (List.cons.inj heq).1 h.point
  · next c rest heq =>
    obtain ⟨rfl, rfl⟩ := List.cons.inj heq
    simp only [Bool.or_eq_false_iff, Bool.and_eq_false_iff] at hspecial
    refine ⟨by simpa using hspecial.1, fun hx => ?_⟩
    obtain hsign | hnext := hspecial.2
    · rcases hx with rfl | rfl <;> simp at hsign
    · cases cs with
      | nil => simp at hnext
      | cons d ds => exact ⟨d, ds, rfl, by simpa [isGap] using hnext⟩
  · next heq => simp at heq

theorem PlainWord.solid {x : Char} {cs more : List Char} (h : PlainWord x cs) :
    Solid (x :: more) := by
  have hprintable := h.continues.printable x List.mem_cons_self
  refine solid_cons.2 ⟨h.continues.isGap h.space, ?_, ?_⟩
  · rintro rfl
    exact h.signs.1 (by decide)
  · rintro rfl
    exact absurd hprintable (by decide)

theorem PlainWord.atDocumentMark {x : Char} {cs more : List Char} (h : PlainWord x cs)
    (hc : c.rest = x :: more) : c.atDocumentMark = false := by
  simp only [Cursor.atDocumentMark, hc]
  split
  · next heq => exact absurd (List.cons.inj heq).1 h.minus
  · next heq => exact absurd (List.cons.inj heq).1 h.point
  · simp

theorem PlainWord.token {x : Char} {cs : List Char} (h : PlainWord x cs)
    (hc : c.rest = x :: (cs ++ rest)) :
    (p.scanner c keyAllowed key).token x = (p.scanner c keyAllowed key).plain := by
  obtain ⟨hsigns, hnext⟩ := h.signs
  have hmark := h.atDocumentMark hc
  have hgap (hx : x = '?' ∨ x = ':') : c.seesGap 1 = false := by
    obtain ⟨d, ds, rfl, hd⟩ := hnext hx
    simpa [Cursor.seesGap, hc, isGap] using hd
  have hblank : isBlank x = false := by
    have hx := h.continues.isGap h.space
    simp only [isGap, Bool.or_eq_false_iff] at hx
    exact hx.1
  have hne (y : Char) (hy : y ∈ "#,[]\x7b\x7d&*!|>'\"%@`".toList) : x ≠ y := by
    rintro rfl
    exact hsigns hy
  -- No other token starts with this character, and a scalar may.
  have hflow : (p.scanner c keyAllowed key).flowToken? x = none := by
    unfold Scanner.flowToken?
    dsimp only
    split
    iterate 5 exact absurd rfl (hne _ (by decide))
    rfl
  have hquestion : (x == '?' && ((p.scanner c keyAllowed key).inFlow || c.seesGap 1)) = false := by
    by_cases hx : x = '?'
    · simp [hx, hgap (.inl hx), Progress.inFlow_scanner]
    · simp [hx]
  have hcolon : (x == ':' && ((p.scanner c keyAllowed key).inFlow || c.seesGap 1)) = false := by
    by_cases hx : x = ':'
    · simp [hx, hgap (.inr hx), Progress.inFlow_scanner]
    · simp [hx]
  have hcursor : (p.scanner c keyAllowed key).cursor = c := rfl
  have hpercent := hne '%' (by decide)
  have hpipe := hne '|' (by decide)
  have hangle := hne '>' (by decide)
  have hminus := h.minus
  have hstarts : (p.scanner c keyAllowed key).startsPlain x = true := by
    by_cases hx : x = '?' ∨ x = ':'
    · have hinFlow : (p.scanner c keyAllowed key).inFlow = false := Progress.inFlow_scanner
      simp [Scanner.startsPlain, hinFlow, hcursor, hgap hx, hx]
    · obtain ⟨hquestion', hcolon'⟩ := not_or.1 hx
      simp only [String.reduceToList, List.mem_cons, List.not_mem_nil, or_false, not_or] at hsigns
      simp [Scanner.startsPlain, hblank, hminus, hquestion', hcolon', hsigns]
  unfold Scanner.token
  simp only [hcursor, hmark, hflow, hquestion, hcolon]
  simp only [beq_iff_eq, hpercent, hminus, Bool.and_eq_true, and_false, false_and, if_false,
    Bool.false_eq_true]
  split
  iterate 5 exact absurd rfl (hne _ (by decide))
  simp [hpipe, hangle, hstarts]

theorem PlainWord.reads {x : Char} {cs : List Char} (h : PlainWord x cs) {indent : Int}
    {c' : Cursor} {broken : Bool} {fuel : Nat} (hc : c.rest = x :: (cs ++ rest))
    (hindent : indent ≤ c.column + 1) (hends : EndsPlain indent (c.skip (cs.length + 1)) c' broken)
    (hfuel : cs.length + 1 < fuel) :
    plainText false indent [] {} true fuel c = some (x :: cs, c', broken) := by
  obtain ⟨fuel, rfl⟩ := Nat.exists_eq_add_one_of_ne_zero (Nat.ne_zero_of_lt hfuel)
  have hnext : c.next.rest = cs ++ rest := by simp [Cursor.next, hc]
  have hsolid : Solid (x :: cs) := h.solid
  have hstart : true = true → c.atDocumentMark = false ∧ x ≠ '#' := fun _ =>
    ⟨h.atDocumentMark hc, (solid_cons.1 hsolid).2.1⟩
  have hcolon : x = ':' → c.seesGap 1 = false := by
    rintro rfl
    exact h.continues.seesGap hc
  rw [← Cursor.next_skip] at hends
  rw [plainText_char indent [] {} true fuel hstart hc (h.continues.isGap h.space) hcolon,
    plainText_continues h.continues.tail hnext hends _ (by simpa [Cursor.next] using hindent)
      (.inl ⟨rfl, rfl⟩) (by omega)]
  simp [Gap.text]

/-! ## Scalars -/

/-- What stands after the last character of a line: its end and the next line at column `n`, or
nothing at all. -/
inductive After : List Char → Nat → List Char → Prop
  | newline (n : Nat) {rest : List Char} (hrest : Solid rest) :
    After ('\n' :: (spaces n ++ rest)) n rest
  | stop (n : Nat) : After [] n []

theorem runs_after {after : List Char} (hafter : After after n rest) (h : Finishes rest n p out)
    (hc : c.rest = after) (hkey : ∀ k ∈ key, k.required = false ∧ k.line ≤ c.line) :
    (p.scanner c keyAllowed key).Runs out := by
  cases hafter with
  | newline n hrest => exact runs_newline h hrest hc hkey
  | stop n => exact runs_end h hc fun k hk => (hkey k hk).1

/-- A plain scalar ends there, on this line or in front of the next token. -/
theorem endsPlain_after {after : List Char} (hafter : After after n rest) {indent : Int}
    (hn : n < indent) (hc : c.rest = after) :
    ∃ c' broken, EndsPlain indent c c' broken ∧ c'.rest.length ≤ after.length ∧
      ∀ {p key out}, Finishes rest n p out →
        (∀ k ∈ key, k.required = false ∧ k.line ≤ c.line) → (p.scanner c' broken key).Runs out := by
  cases hafter with
  | newline n hrest =>
    refine ⟨_, _, endsPlain_newline hc hrest.stops hn, by simp; omega, ?_⟩
    intro p key out h hkey
    exact runs_moved h hrest rfl rfl fun k hk => ⟨(hkey k hk).1, Nat.lt_succ_of_le (hkey k hk).2⟩
  | stop n =>
    refine ⟨_, _, endsPlain_nil indent hc, by simp [hc], ?_⟩
    intro p key out h hkey
    exact runs_end h hc fun k hk => (hkey k hk).1

/-- Inside a block, a key may begin but need not. -/
theorem noteKey_inside (keyAllowed : Bool) (h : p.indent < c.column) :
    ∃ key, (p.scanner c keyAllowed none).noteKey = some (p.scanner c keyAllowed key) ∧
      ∀ k ∈ key, k.required = false ∧ k.line = c.line := by
  cases keyAllowed with
  | false => exact ⟨none, rfl, noKey⟩
  | true =>
    refine ⟨some ⟨false, p.tokens.length, c.line, c.column, c.index⟩, ?_, by simp⟩
    have hrequired : (p.indent == (c.column : Int)) = false := by
      simp only [beq_eq_false_iff_ne, ne_eq]
      omega
    simp [Scanner.noteKey, Scanner.forgetKey, Progress.scanner, Scanner.inFlow, hrequired]

theorem PlainWord.plain {x : Char} {cs : List Char} (h : PlainWord x cs) {c' : Cursor}
    {broken : Bool} {key' : Option KeyStart} (hc : c.rest = x :: (cs ++ rest))
    (hnote : (p.scanner c keyAllowed key).noteKey = some (p.scanner c keyAllowed key'))
    (hindent : p.indent ≤ c.column)
    (hends : EndsPlain (p.indent + 1) (c.skip (cs.length + 1)) c' broken) :
    (p.scanner c keyAllowed key).plain =
      some ((p.add [.scalar (String.ofList (x :: cs)) true]).scanner c' broken key') := by
  have hread : plainText false (p.indent + 1) [] {} true (c.rest.length + 1) c =
      some (x :: cs, c', broken) := h.reads hc (by omega) hends (by simp [hc])
  rw [Scanner.plain, hnote, Option.bind_eq_bind, Option.bind_some]
  exact congrArg (Option.bind · _) hread

theorem Inside.plain {x : Char} {cs after : List Char} (hword : PlainWord x cs)
    (hafter : After after n rest) (hn : n ≤ p.indent)
    (h : Finishes rest n (p.add [.scalar (String.ofList (x :: cs)) true]) out) :
    Inside keyAllowed (x :: (cs ++ after)) p out := by
  intro line column index hcolumn
  obtain ⟨key, hnote, hkey⟩ := noteKey_inside keyAllowed
    (c := ⟨x :: (cs ++ after), line, column, index⟩) hcolumn
  obtain ⟨c', broken, hends, hlength, hruns⟩ := endsPlain_after hafter
    (by omega : (n : Int) < p.indent + 1)
    (c := Cursor.skip ⟨x :: (cs ++ after), line, column, index⟩ (cs.length + 1))
    (by simp [Cursor.skip])
  refine runs_token rfl hword.solid (by simpa using hcolumn.le) noKey
    ((hword.token rfl).trans (hword.plain rfl hnote (by simpa using hcolumn.le) hends)) ?_
    (hruns h ?_)
  · simpa [Progress.scanner] using Nat.le_add_left_of_le hlength
  · intro k hk
    exact ⟨(hkey k hk).1, (hkey k hk).2.le⟩

def quoteChar (single : Bool) : Char := if single then '\'' else '"'

theorem token_quote (single : Bool) (hcolumn : c.column ≠ 0) :
    (p.scanner c keyAllowed key).token (quoteChar single) =
      (p.scanner c keyAllowed key).nodeToken (Scanner.quoted single) := by
  have hmark := Cursor.atDocumentMark_of_column hcolumn
  cases single <;>
    simp [quoteChar, Scanner.token, Progress.scanner, hmark, Scanner.flowToken?]

theorem Inside.quoted {single : Bool} {cs body after : List Char}
    (hread : ∀ c : Cursor, c.column ≠ 0 → c.rest = body ++ quoteChar single :: after →
      ∃ c', quotedText single [] (c.rest.length + 1) c = some (cs, c') ∧ c'.rest = after ∧
        c.line ≤ c'.line)
    (hafter : After after n rest) (hindent : 0 ≤ p.indent)
    (h : Finishes rest n (p.add [.scalar (String.ofList cs) false]) out) :
    Inside keyAllowed (quoteChar single :: (body ++ quoteChar single :: after)) p out := by
  intro line column index hcolumn
  have hsolid : Solid (quoteChar single :: (body ++ quoteChar single :: after)) := by
    cases single <;> exact solid_cons.2 ⟨by decide, by decide, by decide⟩
  obtain ⟨key, hnote, hkey⟩ := noteKey_inside keyAllowed
    (c := ⟨quoteChar single :: (body ++ quoteChar single :: after), line, column, index⟩) hcolumn
  obtain ⟨c', hquoted, hrest, hline⟩ := hread
    ⟨body ++ quoteChar single :: after, line, column + 1, index + 1⟩ (Nat.succ_ne_zero column) rfl
  have hnode : (p.scanner ⟨quoteChar single :: (body ++ quoteChar single :: after), line, column,
      index⟩ keyAllowed none).nodeToken (Scanner.quoted single) =
        some ((p.add [.scalar (String.ofList cs) false]).scanner c' false key) := by
    rw [Scanner.nodeToken, hnote, Option.bind_eq_bind, Option.bind_some]
    have hscalar : Scanner.quoted single (p.scanner ⟨quoteChar single :: (body ++
        quoteChar single :: after), line, column, index⟩ keyAllowed key) =
          some (.scalar (String.ofList cs) false, c') := congrArg (Option.map _) hquoted
    rw [hscalar]
    rfl
  refine runs_token rfl hsolid (by simpa using hcolumn.le) noKey
    ((token_quote single (by simp; omega)).trans hnode) ?_ (runs_after hafter h hrest ?_)
  · simp [Progress.scanner, hrest]
    omega
  · intro k hk
    exact ⟨(hkey k hk).1, (hkey k hk).2.trans_le hline⟩

/-- A literal ends in front of a line that is not indented as far. -/
theorem Inside.literal {indent : Nat} {cs : List Char} (hindent : 2 ≤ indent)
    (hp : p.indent = indent - 2) (hprintable : ∀ c ∈ cs, isPrintable c = true) (hcs : cs ≠ [])
    (hrest : Solid rest) (hn : n < indent)
    (h : Finishes rest n (p.add [.scalar (String.ofList cs) false]) out) :
    Inside keyAllowed ('|' :: (literalSigns cs ++ '\n' :: (literalLines indent cs ++
      (spaces n ++ rest)))) p out := by
  intro line column index hcolumn
  generalize htext : literalSigns cs ++ '\n' :: (literalLines indent cs ++ (spaces n ++ rest)) = text
  obtain ⟨c', hread, hrest', hcolumn', hline⟩ := blockText_literal hindent hn hrest.stops
    hprintable hcs (c := ⟨text, line, column + 1, index + 1⟩) htext.symm
  have hmark : (⟨'|' :: text, line, column, index⟩ : Cursor).atDocumentMark = false := by
    simp [Cursor.atDocumentMark]
  have htoken : (p.scanner ⟨'|' :: text, line, column, index⟩ keyAllowed none).token '|' =
      some ((p.add [.scalar (String.ofList cs) false]).scanner c' true none) := by
    rw [← hp] at hread
    have hscalar : (p.scanner ⟨'|' :: text, line, column, index⟩ keyAllowed none).blockScalar true =
        some ((p.add [.scalar (String.ofList cs) false]).scanner c' true none) :=
      congrArg (Option.bind · _) hread
    rw [← hscalar]
    simp [Scanner.token, hmark, Progress.scanner, Scanner.flowToken?, Scanner.inFlow]
  refine runs_token rfl (solid_cons.2 ⟨by decide, by decide, by decide⟩)
    (by simpa using hcolumn.le) noKey htoken ?_ (runs_moved h hrest hrest' hcolumn' noKey)
  simp [Progress.scanner, hrest', ← htext]
  omega

def Progress.listScanner (p : Progress) (c : Cursor) : Scanner :=
  { p.scanner c true none with keys := [none, none] }

theorem runs_listEnd {after : List Char} (hc : c.rest = ']' :: after)
    (h : ((p.add [.flowSequenceEnd]).scanner (c.skip 1) false none).Runs out) :
    (p.listScanner c).Runs out := by
  have hsolid : Solid c.rest := hc ▸ solid_cons.2 ⟨by decide, by decide, by decide⟩
  have hskip : (p.listScanner c).cursor.rest = spaces 0 ++ c.rest := rfl
  have hsettle : (p.listScanner c).settle = some (p.listScanner c) := by
    rw [Scanner.settle, Scanner.skipToToken_spaces hskip hsolid]
    rfl
  have htoken : (p.listScanner c).token ']' =
      some ((p.add [.flowSequenceEnd]).scanner (c.skip 1) false none) := by
    have hmark : c.atDocumentMark = false := by simp [Cursor.atDocumentMark, hc]
    simp [Scanner.token, Scanner.flowToken?, Scanner.forgetKey, Scanner.take, Scanner.add, hmark,
      Scanner.inFlow, Progress.listScanner, Progress.scanner, Progress.add]
  have hdedent : (p.listScanner c).dedentTo (p.listScanner c).cursor.column = p.listScanner c := rfl
  have hpeek : (p.listScanner c).cursor.peek = some ']' := congrArg List.head? hc
  intro fuel hfuel
  obtain ⟨fuel, rfl⟩ := Nat.exists_eq_add_one_of_ne_zero (Nat.ne_zero_of_lt hfuel)
  have hfuel' : ((p.add [.flowSequenceEnd]).scanner (c.skip 1) false none).cursor.rest.length <
      fuel := by
    simp [Progress.listScanner, Progress.scanner, hc, Cursor.skip] at hfuel ⊢
    omega
  rw [Scanner.run_succ, hsettle, Option.bind_some, hdedent, Scanner.advance, hpeek, ← h fuel hfuel']
  dsimp only
  rw [htoken, Option.bind_some]

theorem Inside.emptyList {after : List Char} (hafter : After after n rest)
    (h : Finishes rest n (p.add [.flowSequence, .flowSequenceEnd]) out) :
    Inside false ('[' :: ']' :: after) p out := by
  intro line column index hcolumn
  have htoken : (p.scanner ⟨'[' :: ']' :: after, line, column, index⟩ false none).token '[' =
      some ((p.add [.flowSequence]).listScanner ⟨']' :: after, line, column + 1, index + 1⟩) := by
    simp [Scanner.token, Scanner.flowToken?, Scanner.noteKey, Scanner.take, Scanner.add,
      Cursor.atDocumentMark, Cursor.skip, Progress.listScanner, Progress.scanner, Progress.add]
  refine runs_token rfl (solid_cons.2 ⟨by decide, by decide, by decide⟩)
    (by simpa using hcolumn.le) noKey htoken (Nat.le_refl _) (runs_listEnd rfl ?_)
  exact runs_after hafter h rfl noKey

/-! ## Keys and dashes -/

/-- Inside the mapping at the column, which is opened if need be. -/
def Progress.opened (p : Progress) (column : Nat) : Progress :=
  if p.indent < column then p.enter column else p

theorem Progress.opened_of_lt {column : Nat} (h : p.indent < column) :
    p.opened column = p.enter column := if_pos h

theorem Progress.opened_of_eq {column : Nat} (h : p.indent = column) : p.opened column = p :=
  if_neg (by omega)

theorem Progress.indent_opened {column : Nat} (h : p.indent ≤ column) :
    (p.opened column).indent = column := by
  obtain hlt | heq := lt_or_eq_of_le h
  · rw [opened_of_lt hlt, indent_enter]
  · rw [opened_of_eq heq, heq]

/-- At the colon after a key, the tokens in front of the key are put in. -/
theorem valueToken_key {column : Nat} (hp : p.indent ≤ column) {t : Token} {k : KeyStart}
    (hnumber : k.number = p.tokens.length) (hcolumn : k.column = column) :
    ((p.add [t]).scanner c false (some k)).valueToken =
      some (((p.opened column).add [.key, t, .value]).scanner (c.skip 1) false none) := by
  obtain hlt | heq := lt_or_eq_of_le hp
  · have hle : ¬ (column : Int) ≤ p.indent := by omega
    have htwo : p.tokens.length + 1 + 1 - p.tokens.length = 2 := by omega
    simp [Scanner.valueToken, Scanner.insert, Scanner.indentTo, Scanner.inFlow, Scanner.take,
      Scanner.add, Progress.scanner, Progress.add, Progress.opened_of_lt hlt, Progress.enter,
      hnumber, hcolumn, hle, htwo]
  · have hle : (column : Int) ≤ p.indent := by omega
    simp [Scanner.valueToken, Scanner.insert, Scanner.indentTo, Scanner.inFlow, Scanner.take,
      Scanner.add, Progress.scanner, Progress.add, Progress.opened_of_eq heq, hnumber, hcolumn, hle]

theorem token_colon (h : c.seesGap 1 = true) (hc : c.rest = ':' :: rest) :
    (p.scanner c keyAllowed key).token ':' = (p.scanner c keyAllowed key).valueToken := by
  have hmark : c.atDocumentMark = false := by simp [Cursor.atDocumentMark, hc]
  simp [Scanner.token, hmark, h, Scanner.flowToken?, Progress.scanner]

/-- A key opens a mapping at its column, unless it is one of a mapping that is open. -/
theorem Finishes.entry {x m : Char} {cs more : List Char} {column : Nat} (hword : PlainWord x cs)
    (hlength : cs.length < maxKeyLength) (hp : p.indent ≤ column) (hm : isGap m = true)
    (h : Inside false (m :: more)
      ((p.opened column).add [.key, .scalar (String.ofList (x :: cs)) true, .value]) out) :
    Finishes (x :: (cs ++ ':' :: m :: more)) column p out := by
  intro line index
  generalize hstart : (⟨x :: (cs ++ ':' :: m :: more), line, column, index⟩ : Cursor) = c
  have hc : c.rest = x :: (cs ++ ':' :: m :: more) := by rw [← hstart]
  have hcolumn : c.column = column := by rw [← hstart]
  have hrest : (c.skip (cs.length + 1)).rest = ':' :: m :: more := by simp [Cursor.skip, hc]
  have hgap : (c.skip (cs.length + 1)).seesGap 1 = true := by
    rw [Cursor.seesGap, hrest]
    exact hm
  have hnote : (p.scanner c true none).noteKey = some (p.scanner c true
      (some ⟨p.indent == column, p.tokens.length, c.line, column, c.index⟩)) := by
    simp [Scanner.noteKey, Scanner.forgetKey, Progress.scanner, Scanner.inFlow, hcolumn]
  have hplain := hword.plain hc hnote (by omega) (endsPlain_colon (p.indent + 1) hrest hgap)
  -- The key is read as a scalar first, and the colon behind it makes it a key.
  refine runs_token hc (hc ▸ hword.solid) (by omega) noKey ((hword.token hc).trans hplain)
    (by simp [Progress.scanner, hrest]) ?_
  have hvalue := valueToken_key (c := c.skip (cs.length + 1)) (k := ⟨p.indent == column,
    p.tokens.length, c.line, column, c.index⟩) (t := .scalar (String.ofList (x :: cs)) true) hp rfl rfl
  refine runs_token hrest (hrest ▸ solid_cons.2 ⟨by decide, by decide, by decide⟩) ?_ ?_
    ((token_colon hgap hrest).trans hvalue) ?_ ?_
  · simp [Cursor.skip]
    omega
  · intro k hk
    obtain rfl := Option.some.inj hk
    simp [Scanner.isStale, Cursor.skip]
    omega
  · simp [Progress.scanner, Cursor.skip, hc]
  · have hskip : (c.skip (cs.length + 1)).skip 1 =
        ⟨m :: more, c.line, column + (cs.length + 1) + 1, c.index + (cs.length + 1) + 1⟩ := by
      simp [Cursor.skip, hc, hcolumn]
    rw [hskip]
    refine h _ _ _ ?_
    rw [Progress.indent_add, Progress.indent_opened hp]
    omega

/-- A dash at the column of the mapping, where lists are not indented further than their key. -/
theorem Finishes.dash {text : List Char} {column : Nat} (hp : p.indent = column)
    (htext : Solid text) (h : Finishes text (column + 2) (p.add [.blockEntry]) out) :
    Finishes ('-' :: ' ' :: text) column p out := by
  intro line index
  have hmark : (⟨'-' :: ' ' :: text, line, column, index⟩ : Cursor).atDocumentMark = false := by
    simp [Cursor.atDocumentMark]
  have hgap : (⟨'-' :: ' ' :: text, line, column, index⟩ : Cursor).seesGap 1 = true := rfl
  have htoken : (p.scanner ⟨'-' :: ' ' :: text, line, column, index⟩ true none).token '-' =
      some ((p.add [.blockEntry]).scanner ⟨' ' :: text, line, column + 1, index + 1⟩ true none) := by
    simp [Scanner.token, Scanner.flowToken?, Scanner.entryToken, Scanner.indentTo,
      Scanner.forgetKey, Scanner.take, Scanner.add, Scanner.inFlow, hmark, hgap, hp, Cursor.skip,
      Progress.scanner, Progress.add]
  exact runs_token rfl (solid_cons.2 ⟨by decide, by decide, by decide⟩) hp.le noKey htoken
    (Nat.le_refl _) (runs_space htext rfl (h line (index + 2)))

end

end ConstantScan.Yaml
