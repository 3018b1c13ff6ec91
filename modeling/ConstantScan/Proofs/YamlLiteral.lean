import ConstantScan.Proofs.YamlQuoted

/-!
# Literal YAML scalars read back

A text with newlines is written in lines that are indented. Read again, the lines lose their
indentation, and the signs of the literal say how many line ends the text has at its end.
-/

namespace ConstantScan.Yaml

/-! ## Paragraphs -/

/-- A line and the line ends after it. -/
structure Paragraph where
  line : List Char
  ends : List Char

namespace Paragraph

structure Proper (p : Paragraph) : Prop where
  line_ne_nil : p.line ≠ []
  printable : ∀ c ∈ p.line, isPrintable c = true
  unbroken : ∀ c ∈ p.line, isBreak c = false
  ends_ne_nil : p.ends ≠ []
  ends : ∀ b ∈ p.ends, IsLineEnd b

def text (p : Paragraph) : List Char := p.line ++ p.ends

/-- The paragraph with the indentation of the line that comes after it. -/
def textBefore (indent : Nat) (p : Paragraph) : List Char := p.line ++ (p.ends ++ spaces indent)

end Paragraph

/-- A text that ends in a line end is a list of paragraphs after some line ends. -/
theorem exists_paragraphs {cs : List Char} (hprintable : ∀ c ∈ cs, isPrintable c = true)
    (hlast : ∀ c ∈ cs.getLast?, isBreak c = true) :
    ∃ (bs : List Char) (ps : List Paragraph), cs = bs ++ ps.flatMap Paragraph.text ∧
      (∀ b ∈ bs, IsLineEnd b) ∧ ∀ p ∈ ps, p.Proper := by
  induction cs with
  | nil => exact ⟨[], [], rfl, by simp, by simp⟩
  | cons c cs ih =>
    obtain ⟨hc, hcs⟩ := List.forall_mem_cons.1 hprintable
    have hlast' : ∀ d ∈ cs.getLast?, isBreak d = true := by
      cases cs with
      | nil => simp
      | cons d cs => rwa [List.getLast?_cons_cons] at hlast
    obtain ⟨bs, ps, rfl, hbs, hps⟩ := ih hcs hlast'
    by_cases hbreak : isBreak c = true
    · exact ⟨c :: bs, ps, rfl, List.forall_mem_cons.2 ⟨⟨hbreak, hc⟩, hbs⟩, hps⟩
    · rw [Bool.not_eq_true] at hbreak
      -- Before line ends the character is a line, before a paragraph it begins the line of that.
      cases bs with
      | cons b bs =>
        refine ⟨[], ⟨[c], b :: bs⟩ :: ps, by simp [Paragraph.text], by simp, ?_⟩
        exact List.forall_mem_cons.2 ⟨⟨by simp, by simpa using hc, by simpa using hbreak, by simp,
          hbs⟩, hps⟩
      | nil =>
        cases ps with
        | nil => simp [hbreak] at hlast
        | cons p ps =>
          obtain ⟨hp, hps⟩ := List.forall_mem_cons.1 hps
          refine ⟨[], ⟨c :: p.line, p.ends⟩ :: ps, by simp [Paragraph.text], by simp, ?_⟩
          exact List.forall_mem_cons.2 ⟨⟨by simp, List.forall_mem_cons.2 ⟨hc, hp.printable⟩,
            List.forall_mem_cons.2 ⟨hbreak, hp.unbroken⟩, hp.ends_ne_nil, hp.ends⟩, hps⟩

theorem indentLines_text (indent : Nat) {p : Paragraph} (hp : p.Proper) (cs : List Char) :
    indentLines indent true (p.text ++ cs) =
      spaces indent ++ (p.text ++ indentLines indent true cs) := by
  obtain ⟨c, line, hline⟩ := List.exists_cons_of_ne_nil hp.line_ne_nil
  obtain ⟨b, bs, hends⟩ := List.exists_cons_of_ne_nil hp.ends_ne_nil
  have hc : isBreak c = false := hp.unbroken c (by rw [hline]; exact List.mem_cons_self)
  have hbreaks : ∀ x ∈ b :: bs, isBreak x = true := fun x hx => (hp.ends x (hends ▸ hx)).1
  rw [Paragraph.text, List.append_assoc, hline, List.cons_append, indentLines_fresh indent hc,
    ← List.cons_append, ← hline, indentLines_append indent hp.unbroken, hends, List.cons_append,
    indentLines_breaks indent false hbreaks]
  simp

theorem indentLines_lineEnds (indent : Nat) {bs : List Char} (h : ∀ b ∈ bs, IsLineEnd b)
    (cs : List Char) : indentLines indent true (bs ++ cs) = bs ++ indentLines indent true cs := by
  cases bs with
  | nil => rfl
  | cons b bs => exact indentLines_breaks indent true (fun x hx => (h x hx).1) cs

/-- The lines of all paragraphs; the last one is followed by no indentation. -/
theorem indentLines_paragraphs (indent : Nat) {ps : List Paragraph} (hps : ∀ p ∈ ps, p.Proper)
    {q : Paragraph} (hq : q.Proper) :
    indentLines indent true (ps.flatMap Paragraph.text ++ q.text) =
      spaces indent ++ (ps.flatMap (Paragraph.textBefore indent) ++ q.text) := by
  induction ps with
  | nil =>
    have hlines := indentLines_text indent hq []
    rw [List.append_nil, indentLines, List.append_nil] at hlines
    exact hlines
  | cons p ps ih =>
    obtain ⟨hp, hps⟩ := List.forall_mem_cons.1 hps
    rw [List.flatMap_cons, List.append_assoc, indentLines_text indent hp, ih hps]
    simp [Paragraph.text, Paragraph.textBefore]

/-! ## Indentation and empty lines -/

theorem stops_of_isGap {rest : List Char} (h : Stops isGap rest) :
    Stops isSpace rest ∧ Stops isBreak rest ∧ rest.head? ≠ some '\t' := by
  refine ⟨h.mono fun x hx => ?_, h.mono fun x hx => by simp [isGap, hx],
    fun hhead => absurd (h _ hhead) (by decide)⟩
  simp only [isSpace, beq_iff_eq] at hx
  rw [hx]
  decide

theorem blockGap_stop {indent : Nat} (breaks : List Char) (deepest : Nat) (fuel : Nat) {c : Cursor}
    {n : Nat} {rest : List Char} (h : c.rest = spaces n ++ rest)
    (hn : (if indent = 0 then (c.rest.takeWhile (· == ' ')).length
      else min (c.rest.takeWhile (· == ' ')).length (indent - c.column)) = n)
    (hbreak : Stops isBreak rest) (htab : rest.head? ≠ some '\t') :
    blockGap indent breaks deepest (fuel + 1) c =
      some (breaks, max deepest (c.column + n), c.skip n) := by
  have hrest : (c.skip n).rest = rest := by simpa using Cursor.rest_skip h
  have hsees : (c.skip n).sees '\t' = false := by
    simpa [Cursor.sees, hrest, List.head?_eq_getElem?] using htab
  have hseesBreak : (c.skip n).seesBreak = false := by
    rw [Cursor.seesBreak, hrest]
    cases rest with
    | nil => rfl
    | cons x xs => exact stops_cons.1 hbreak
  rw [blockGap]
  simp only [hn, hsees, hseesBreak]
  simp [Cursor.skip]

theorem blockGap_lineEnd {indent : Nat} (breaks : List Char) (deepest : Nat) (fuel : Nat) {c : Cursor}
    {b : Char} {rest : List Char} (h : c.rest = b :: rest) (hb : IsLineEnd b) :
    blockGap indent breaks deepest (fuel + 1) c =
      blockGap indent (b :: breaks) (max deepest c.column) fuel
        { rest, line := c.line + 1, index := c.index + 1 } := by
  have hspace : b ≠ ' ' := by rcases isLineEnd_iff.1 hb with rfl | rfl | rfl <;> decide
  have htab : b ≠ '\t' := by rcases isLineEnd_iff.1 hb with rfl | rfl | rfl <;> decide
  have hwidth : (c.rest.takeWhile (· == ' ')) = [] := by simp [h, hspace]
  have hsees : c.sees '\t' = false := by simp [Cursor.sees, h, htab]
  have hseesBreak : c.seesBreak = true := by simp [Cursor.seesBreak, h, hb.1]
  rw [blockGap]
  simp only [hwidth, List.length_nil, Nat.zero_min, ite_self, Cursor.skip_zero, hsees, hseesBreak,
    Cursor.nextLine_cons h hb]
  simp

theorem takeWhile_spaces_append (n : Nat) (rest : List Char) :
    (spaces n ++ rest).takeWhile (· == ' ') = spaces n ++ rest.takeWhile (· == ' ') :=
  List.takeWhile_append_of_pos fun _ hx => beq_iff_eq.2 (List.eq_of_mem_replicate hx)

theorem takeWhile_spaces (n : Nat) {rest : List Char} (h : Stops isSpace rest) :
    (spaces n ++ rest).takeWhile (· == ' ') = spaces n := by
  have hnone : rest.takeWhile (· == ' ') = [] := h.takeWhile
  rw [takeWhile_spaces_append, hnone, List.append_nil]

/-- Empty lines, and the indentation of a line of the literal or of one outside it. -/
theorem blockGap_breaks {indent : Nat} (hindent : indent ≠ 0) {bs : List Char}
    (hbs : ∀ b ∈ bs, IsLineEnd b) (breaks : List Char) (deepest : Nat) {fuel : Nat} {c : Cursor}
    {n : Nat} {rest : List Char} (h : c.rest = bs ++ (spaces n ++ rest)) (hcolumn : c.column = 0)
    (hn : n = indent ∨ n < indent ∧ Stops isSpace rest) (hbreak : Stops isBreak rest)
    (htab : rest.head? ≠ some '\t') (hfuel : bs.length < fuel) :
    ∃ d c', blockGap indent breaks deepest fuel c = some (bs.reverse ++ breaks, d, c') ∧
      c'.rest = rest ∧ c'.column = n ∧ c'.line = c.line + bs.length := by
  induction bs generalizing breaks deepest fuel c with
  | nil =>
    obtain ⟨fuel, rfl⟩ := Nat.exists_eq_add_one_of_ne_zero (Nat.ne_zero_of_lt hfuel)
    -- Spaces count up to the indentation, or up to the first character that is none.
    have hwidth : (if indent = 0 then (c.rest.takeWhile (· == ' ')).length
        else min (c.rest.takeWhile (· == ' ')).length (indent - c.column)) = n := by
      obtain rfl | ⟨hlt, hstop⟩ := hn
      · rw [h, List.nil_append, takeWhile_spaces_append, List.length_append, length_spaces,
          if_neg hindent, hcolumn]
        omega
      · rw [h, List.nil_append, takeWhile_spaces n hstop, length_spaces, if_neg hindent, hcolumn]
        omega
    exact ⟨max deepest (c.column + n), c.skip n,
      blockGap_stop breaks deepest fuel h hwidth hbreak htab,
      by simp [Cursor.skip, h, spaces], by simp [Cursor.skip, hcolumn], rfl⟩
  | cons b bs ih =>
    obtain ⟨hb, hbs⟩ := List.forall_mem_cons.1 hbs
    obtain ⟨fuel, rfl⟩ := Nat.exists_eq_add_one_of_ne_zero (Nat.ne_zero_of_lt hfuel)
    rw [List.length_cons] at hfuel
    rw [List.cons_append] at h
    obtain ⟨d, c', hgap, hrest', hcolumn', hline⟩ := ih hbs (b :: breaks) (max deepest c.column)
      (c := ⟨bs ++ (spaces n ++ rest), c.line + 1, 0, c.index + 1⟩) rfl rfl
      (by omega : bs.length < fuel)
    refine ⟨d, c', ?_, hrest', hcolumn', ?_⟩
    · rw [blockGap_lineEnd breaks deepest fuel h hb, hgap]
      simp
    · rw [hline, List.length_cons]
      simp [Nat.add_assoc, Nat.add_comm 1]

/-! ## Lines -/

/-- A line of the literal and the empty lines after it; further lines are left. -/
theorem blockLines_paragraph {indent : Nat} (hindent : indent ≠ 0) {p : Paragraph} (hp : p.Proper)
    (acc : List Char) (first : Option Char) (more : List Char) (blank : Bool) (fuel : Nat)
    {c : Cursor} {n : Nat} {rest : List Char} (hcolumn : c.column = indent)
    (h : c.rest = p.line ++ (p.ends ++ (spaces n ++ rest)))
    (hn : n = indent ∨ n < indent ∧ Stops isSpace rest) (hbreak : Stops isBreak rest)
    (htab : rest.head? ≠ some '\t') :
    ∃ c' blank', blockLines true indent acc first more blank (fuel + 1) c =
        blockLines true indent (p.line.reverse ++ more ++ first.toList ++ acc) p.ends.head?
          p.ends.tail.reverse blank' fuel c' ∧
      c'.rest = rest ∧ c'.column = n ∧ c.line < c'.line := by
  obtain ⟨b, bs, hends⟩ := List.exists_cons_of_ne_nil hp.ends_ne_nil
  obtain ⟨x, xs, hline⟩ := List.exists_cons_of_ne_nil hp.line_ne_nil
  have hbs : ∀ y ∈ b :: bs, IsLineEnd y := hends ▸ hp.ends
  have hatEnd : c.atEnd = false := by simp [Cursor.atEnd, h, hline]
  have htake : c.rest.takeWhile (fun x => true && !isBreak x) = p.line := by
    have hstop : Stops (fun x => !isBreak x) (p.ends ++ (spaces n ++ rest)) := by
      rw [hends]
      exact stops_cons.2 (by simp [(hbs b List.mem_cons_self).1])
    simp only [Bool.true_and, h]
    exact hstop.takeWhile_append fun y hy => by simp [hp.unbroken y hy]
  have hskip : (c.skip p.line.length).rest = b :: (bs ++ (spaces n ++ rest)) := by
    rw [Cursor.rest_skip h, hends]
    rfl
  -- The first line end belongs to the line, the other ones are the gap behind it.
  obtain ⟨d, c', hgap, hrest, hcolumn', hline⟩ :=
    blockGap_breaks hindent (fun y hy => hbs y (List.mem_cons_of_mem _ hy)) [] 0
      (c := ⟨bs ++ (spaces n ++ rest), c.line + 1, 0, c.index + p.line.length + 1⟩) rfl rfl hn
      hbreak htab (by simp : bs.length < (bs ++ (spaces n ++ rest)).length + 1)
  refine ⟨c', c.seesBlank, ?_, hrest, hcolumn', ?_⟩
  rotate_left
  · rw [hline]
    exact Nat.lt_add_right _ (Nat.lt_succ_self c.line)
  rw [blockLines]
  simp only [hcolumn, hatEnd, Cursor.span, htake,
    Cursor.nextLine_cons hskip (hbs b List.mem_cons_self)]
  simp only [Cursor.skip, hgap]
  simp [hends]

theorem stops_paragraphs (indent : Nat) {ps : List Paragraph} (hps : ∀ p ∈ ps, p.Proper)
    {q : Paragraph} (hq : q.Proper) (rest : List Char) :
    Stops isBreak (ps.flatMap (Paragraph.textBefore indent) ++ (q.text ++ rest)) ∧
      (ps.flatMap (Paragraph.textBefore indent) ++ (q.text ++ rest)).head? ≠ some '\t' := by
  have hline (p : Paragraph) (hp : p.Proper) (more : List Char) :
      Stops isBreak (p.line ++ more) ∧ (p.line ++ more).head? ≠ some '\t' := by
    obtain ⟨x, xs, hxs⟩ := List.exists_cons_of_ne_nil hp.line_ne_nil
    have hx : x ∈ p.line := by rw [hxs]; exact List.mem_cons_self
    rw [hxs]
    refine ⟨stops_cons.2 (hp.unbroken x hx), fun hhead => ?_⟩
    obtain rfl : x = '\t' := Option.some.inj hhead
    exact absurd (hp.printable _ hx) (by decide)
  cases ps with
  | nil => simpa [Paragraph.text] using hline q hq (q.ends ++ rest)
  | cons p ps =>
    rw [List.flatMap_cons, Paragraph.textBefore, List.append_assoc, List.append_assoc]
    exact hline p (hps p List.mem_cons_self) _

theorem blockLines_end {indent : Nat} (acc : List Char) (first : Option Char) (more : List Char)
    (blank : Bool) (fuel : Nat) {c : Cursor} (h : c.column ≠ indent) :
    blockLines true indent acc first more blank (fuel + 1) c = some (acc, first, more, c) := by
  rw [blockLines, if_pos (by simp [h])]

/-- All lines of the literal. What comes after the last one is not indented as far. -/
theorem blockLines_paragraphs {indent : Nat} (hindent : indent ≠ 0) {ps : List Paragraph}
    (hps : ∀ p ∈ ps, p.Proper) {q : Paragraph} (hq : q.Proper) (acc : List Char)
    (first : Option Char) (more : List Char) (blank : Bool) {fuel : Nat} {c : Cursor} {n : Nat}
    {rest : List Char} (hcolumn : c.column = indent)
    (h : c.rest = ps.flatMap (Paragraph.textBefore indent) ++ (q.text ++ (spaces n ++ rest)))
    (hn : n < indent) (hrest : Stops isGap rest) (hfuel : ps.length + 1 < fuel) :
    ∃ c', blockLines true indent acc first more blank fuel c =
        some (q.line.reverse ++ (ps.flatMap Paragraph.text).reverse ++ more ++ first.toList ++ acc,
          q.ends.head?, q.ends.tail.reverse, c') ∧
      c'.rest = rest ∧ c'.column = n ∧ c.line < c'.line := by
  induction ps generalizing acc first more blank fuel c with
  | nil =>
    obtain ⟨fuel, rfl⟩ : ∃ k, fuel = k + 1 + 1 := ⟨fuel - 2, by simp at hfuel; omega⟩
    obtain ⟨hspace, hbreak, htab⟩ := stops_of_isGap hrest
    have hc : c.rest = q.line ++ (q.ends ++ (spaces n ++ rest)) := by
      rw [h, Paragraph.text]
      simp
    obtain ⟨c', blank', hstep, hrest', hcolumn', hline⟩ := blockLines_paragraph hindent hq acc first
      more blank (fuel + 1) hcolumn hc (.inr ⟨hn, hspace⟩) hbreak htab
    refine ⟨c', ?_, hrest', hcolumn', hline⟩
    rw [hstep, blockLines_end _ _ _ _ _ (by omega)]
    simp
  | cons p ps ih =>
    obtain ⟨hp, hps⟩ := List.forall_mem_cons.1 hps
    obtain ⟨fuel, rfl⟩ := Nat.exists_eq_add_one_of_ne_zero (Nat.ne_zero_of_lt hfuel)
    rw [List.length_cons] at hfuel
    rw [List.flatMap_cons, Paragraph.textBefore, List.append_assoc, List.append_assoc,
      List.append_assoc] at h
    obtain ⟨hbreak, htab⟩ := stops_paragraphs indent hps hq (spaces n ++ rest)
    obtain ⟨d, blank', hstep, hrest', hcolumn', hline⟩ :=
      blockLines_paragraph hindent hp acc first more blank fuel hcolumn h (.inl rfl) hbreak htab
    -- The gap stops at the indentation, so the next paragraph starts where this one did.
    obtain ⟨c', hread, hrest'', hcolumn'', hline'⟩ := ih hps
      (p.line.reverse ++ more ++ first.toList ++ acc) p.ends.head? p.ends.tail.reverse blank'
      hcolumn' hrest' (by omega : ps.length + 1 < fuel)
    obtain ⟨b, bs, hends⟩ := List.exists_cons_of_ne_nil hp.ends_ne_nil
    refine ⟨c', ?_, hrest'', hcolumn'', hline.trans hline'⟩
    rw [hstep, hread]
    simp [Paragraph.text, hends]

/-! ## Signs -/

def hintSign (hint : Bool) : List Char := if hint then ['2'] else []

def hides (cs : List Char) : Bool := cs.head?.any fun c => isSpace c || isBreak c

def chompSign : Chomp → List Char
  | .clip => []
  | .strip => ['-']
  | .keep => ['+']

/-- What a sign lets stand of the line ends at the end. -/
def chomped : Chomp → List Char → List Char
  | .clip, ends => ends.take 1
  | .strip, _ => []
  | .keep, ends => ends

theorem blockSigns_signs (hint : Bool) (chomp : Chomp) {c : Cursor} {rest : List Char}
    (h : c.rest = hintSign hint ++ (chompSign chomp ++ '\n' :: rest)) :
    blockSigns c = some (chomp, if hint then 2 else 0,
      c.skip (hintSign hint ++ chompSign chomp).length) := by
  obtain ⟨text, line, column, index⟩ := c
  obtain rfl : text = _ := h
  cases hint <;> cases chomp <;>
    simp [blockSigns, hintSign, chompSign, Cursor.sees, Cursor.peek, Cursor.next, Cursor.skip]

theorem literalSigns_of_reverse {cs : List Char} {chomp : Chomp}
    (h : (match cs.reverse with
      | [] => ['-']
      | [c] => if isBreak c then ['+'] else ['-']
      | c :: d :: _ => if !isBreak c then ['-'] else if isBreak d then ['+'] else []) =
        chompSign chomp) :
    literalSigns cs = hintSign (hides cs) ++ chompSign chomp := by
  rw [← h]
  unfold literalSigns hintSign hides
  dsimp only
  generalize cs.reverse = rs
  obtain _ | ⟨c, _ | ⟨d, rs⟩⟩ := rs
  · rfl
  · rfl
  · dsimp only
    split_ifs <;> simp

/-- How a text ends, whose last line is followed by these line ends, if any. -/
theorem exists_chomp {stem ends cs : List Char} {z : Char} (hz : isBreak z = false)
    (hends : ∀ b ∈ ends, IsLineEnd b)
    (h : cs = stem ++ z :: ends ∧ ends ≠ [] ∨ cs = stem ++ [z] ∧ ends = ['\n']) :
    ∃ chomp, literalSigns cs = hintSign (hides cs) ++ chompSign chomp ∧
      cs = stem ++ z :: chomped chomp ends := by
  obtain ⟨rfl, hne⟩ | ⟨rfl, rfl⟩ := h
  · obtain ⟨init, b, rfl⟩ := List.eq_nil_or_concat ends |>.resolve_left hne
    have hb : isBreak b = true := (hends b (by simp)).1
    cases init using List.reverseRecOn with
    | nil => exact ⟨.clip, literalSigns_of_reverse (by simp [hb, hz, chompSign]), rfl⟩
    | append_singleton init d =>
      have hd : isBreak d = true := (hends d (by simp)).1
      exact ⟨.keep, literalSigns_of_reverse (by simp [hb, hd, chompSign]), rfl⟩
  · refine ⟨.strip, literalSigns_of_reverse ?_, rfl⟩
    cases stem using List.reverseRecOn <;> simp [hz, chompSign]

/-! ## Whole literals -/

def literalLines (indent : Nat) (cs : List Char) : List Char :=
  indentLines indent true cs ++ if cs.getLast?.any isBreak then [] else ['\n']

theorem indentLines_newline (indent : Nat) (fresh : Bool) (cs : List Char) :
    indentLines indent fresh (cs ++ ['\n']) = indentLines indent fresh cs ++ ['\n'] := by
  induction cs generalizing fresh with
  | nil => rfl
  | cons c cs ih =>
    rw [List.cons_append, indentLines, indentLines]
    split_ifs <;> simp [ih]

/-- How the lines of a literal come about. -/
inductive LiteralLines (indent : Nat) : List Char → List Char → List Char → Prop
  | breaks {b : Char} {bs : List Char} (hbs : ∀ x ∈ b :: bs, IsLineEnd x) :
    LiteralLines indent (b :: bs) (hintSign true ++ chompSign .keep) (b :: bs)
  | lines {bs : List Char} {ps : List Paragraph} {q : Paragraph} {chomp : Chomp} {hint : Bool}
    (hbs : ∀ b ∈ bs, IsLineEnd b) (hps : ∀ p ∈ ps, p.Proper) (hq : q.Proper)
    (hhint : hint = hides (bs ++ (ps.flatMap Paragraph.text ++ q.text))) :
    LiteralLines indent (bs ++ (ps.flatMap Paragraph.text ++ (q.line ++ chomped chomp q.ends)))
      (hintSign hint ++ chompSign chomp)
      (bs ++ (spaces indent ++ (ps.flatMap (Paragraph.textBefore indent) ++ q.text)))

/-- The lines are those of the text that ends in a line end, with one put at its end if need be. -/
theorem exists_full (indent : Nat) {cs : List Char} (hprintable : ∀ c ∈ cs, isPrintable c = true) :
    ∃ full, literalLines indent cs = indentLines indent true full ∧
      (∀ c ∈ full, isPrintable c = true) ∧ (∀ c ∈ full.getLast?, isBreak c = true) ∧
      (full = cs ∨ full = cs ++ ['\n'] ∧ ∀ c ∈ cs.getLast?, isBreak c = false) := by
  cases hlast : cs.getLast?.any isBreak with
  | true =>
    refine ⟨cs, by simp [literalLines, hlast], hprintable, fun c hc => ?_, .inl rfl⟩
    simpa [Option.mem_def.1 hc] using hlast
  | false =>
    refine ⟨cs ++ ['\n'], by simp [literalLines, hlast, indentLines_newline], ?_, ?_,
      .inr ⟨rfl, fun c hc => ?_⟩⟩
    · intro c hc
      obtain hc | hc := List.mem_append.1 hc
      · exact hprintable c hc
      · rw [List.mem_singleton.1 hc]
        decide
    · intro c hc
      rw [List.getLast?_concat, Option.mem_some_iff] at hc
      rw [← hc]
      decide
    · simpa [Option.mem_def.1 hc] using hlast

theorem literalSigns_breaks {b : Char} {bs : List Char} (h : ∀ x ∈ b :: bs, isBreak x = true) :
    literalSigns (b :: bs) = hintSign true ++ chompSign .keep := by
  have hhides : hides (b :: bs) = true := by simp [hides, h b List.mem_cons_self]
  rw [← hhides]
  refine literalSigns_of_reverse ?_
  have hreverse : ∀ x ∈ (b :: bs).reverse, isBreak x = true :=
    fun x hx => h x (List.mem_reverse.1 hx)
  have hne : (b :: bs).reverse ≠ [] := by simp
  generalize (b :: bs).reverse = rs at hreverse hne
  obtain _ | ⟨x, _ | ⟨y, rs⟩⟩ := rs
  · exact absurd rfl hne
  · simp [hreverse x, chompSign]
  · simp [hreverse x, hreverse y, chompSign]

/-- A line end that is put after a character ends all that follows this character. -/
theorem eq_of_append_newline {cs stem ends : List Char} {z : Char} (hne : ends ≠ [])
    (hends : ∀ b ∈ ends, isBreak b = true) (hplain : ∀ c ∈ cs.getLast?, isBreak c = false)
    (h : cs ++ ['\n'] = stem ++ z :: ends) : cs = stem ++ [z] ∧ ends = ['\n'] := by
  obtain ⟨init, e, rfl⟩ := (List.eq_nil_or_concat ends).resolve_left hne
  have hinit : cs ++ ['\n'] = (stem ++ z :: init) ++ [e] := by simpa using h
  obtain ⟨rfl, he⟩ := List.append_inj' hinit rfl
  cases init using List.reverseRecOn with
  | nil => exact ⟨rfl, by simpa using he.symm⟩
  | append_singleton init d =>
    have hlast : stem ++ z :: (init ++ [d]) = (stem ++ z :: init) ++ [d] := by simp
    have hd := hplain d (by rw [hlast, List.getLast?_concat, Option.mem_some_iff])
    simp [hends d (by simp)] at hd

theorem literalLines_cases (indent : Nat) {cs : List Char}
    (hprintable : ∀ c ∈ cs, isPrintable c = true) (hcs : cs ≠ []) :
    LiteralLines indent cs (literalSigns cs) (literalLines indent cs) := by
  obtain ⟨full, hlines, hfull, hlast, hform⟩ := exists_full indent hprintable
  have hhides : hides full = hides cs := by
    obtain ⟨c, cs, rfl⟩ := List.exists_cons_of_ne_nil hcs
    obtain rfl | ⟨rfl, -⟩ := hform <;> rfl
  obtain ⟨bs, ps, rfl, hbs, hps⟩ := exists_paragraphs hfull hlast
  rw [hlines]
  cases ps using List.reverseRecOn with
  | nil =>
    -- Line ends only, so none had to be put at the end.
    rw [List.flatMap_nil, List.append_nil] at hform ⊢
    obtain rfl | ⟨rfl, hplain⟩ := hform
    · obtain ⟨b, bs, rfl⟩ := List.exists_cons_of_ne_nil hcs
      have hbreaks : ∀ x ∈ b :: bs, isBreak x = true := fun x hx => (hbs x hx).1
      have htext := indentLines_breaks indent true hbreaks []
      rw [List.append_nil, indentLines, List.append_nil] at htext
      rw [literalSigns_breaks hbreaks, htext]
      exact .breaks hbs
    · have hbreak := (hbs _ (List.mem_append_left _ (List.getLast_mem hcs))).1
      simp [hplain _ (List.getLast?_eq_some_getLast hcs)] at hbreak
  | append_singleton ps q =>
    rw [List.flatMap_append, List.flatMap_singleton] at hform hhides ⊢
    have hq : q.Proper := hps q (by simp)
    have hps' : ∀ p ∈ ps, p.Proper := fun p hp => hps p (by simp [hp])
    -- Behind the last character that ends no line there are line ends only.
    obtain ⟨line, z, hline⟩ := (List.eq_nil_or_concat q.line).resolve_left hq.line_ne_nil
    have hz : isBreak z = false := hq.unbroken z (by simp [hline])
    have hends : cs = (bs ++ (ps.flatMap Paragraph.text ++ line)) ++ z :: q.ends ∧ q.ends ≠ [] ∨
        cs = (bs ++ (ps.flatMap Paragraph.text ++ line)) ++ [z] ∧ q.ends = ['\n'] := by
      obtain rfl | ⟨h, hplain⟩ := hform
      · exact .inl ⟨by simp [Paragraph.text, hline], hq.ends_ne_nil⟩
      · exact .inr (eq_of_append_newline hq.ends_ne_nil (fun b hb => (hq.ends b hb).1) hplain
          (by rw [← h, Paragraph.text, hline]; simp))
    obtain ⟨chomp, hsigns, htext⟩ := exists_chomp hz hq.ends hends
    have hlines := indentLines_lineEnds indent hbs (ps.flatMap Paragraph.text ++ q.text)
    rw [indentLines_paragraphs indent hps' hq] at hlines
    have hcs : cs = bs ++ (ps.flatMap Paragraph.text ++ (q.line ++ chomped chomp q.ends)) := by
      rw [htext, hline]
      simp
    rw [hsigns, hlines, ← hhides, hcs]
    exact .lines hbs hps' hq rfl

/-! ## Reading literals -/

/-- The cursor at the first line of a literal. -/
def Cursor.afterSigns (c : Cursor) (signs lines : List Char) : Cursor :=
  { rest := lines, line := c.line + 1, index := c.index + signs.length + 1 }

/-- Where a line ends, no blank and no comment is left to skip. -/
theorem Cursor.at_newline {c : Cursor} {rest : List Char} (h : c.rest = '\n' :: rest) :
    (c.span isBlank).2.skipComment = c ∧ c.seesBreak = true ∧
      c.nextLine.2 = { rest, line := c.line + 1, index := c.index + 1 } := by
  have hblanks : (c.span isBlank).2 = c := by simp [span, h, isBlank, skip_zero]
  refine ⟨?_, by simp [seesBreak, h, isBreak], ?_⟩
  · rw [hblanks]
    simp [skipComment, sees, h]
  · rw [nextLine_cons h (isLineEnd_iff.2 (.inl rfl))]

theorem blockText_eq_some {parent : Int} {hint : Bool} {chomp : Chomp} {c c₁ c₂ : Cursor}
    {lines breaks acc more : List Char} {deepest indent : Nat} {first : Option Char}
    (h : c.rest = hintSign hint ++ (chompSign chomp ++ '\n' :: lines))
    (hgap : blockGap (if hint then (max parent 0).toNat + 2 else 0) [] 0 (lines.length + 2)
      (c.afterSigns (hintSign hint ++ chompSign chomp) lines) = some (breaks, deepest, c₁))
    (hindent : indent =
      if hint then (max parent 0).toNat + 2 else max deepest (max (parent + 1).toNat 1))
    (hlines : blockLines true indent [] none breaks false (lines.length + 2) c₁ =
      some (acc, first, more, c₂)) :
    blockText true parent c = some (((if chomp = .keep then more else []) ++
      (if chomp = .strip then acc else first.toList ++ acc)).reverse, c₂) := by
  have hrest : (c.skip (hintSign hint ++ chompSign chomp).length).rest = '\n' :: lines :=
    Cursor.rest_skip (by simpa using h)
  obtain ⟨hcomment, hbreak, hnext⟩ := Cursor.at_newline hrest
  have hstart : (c.skip (hintSign hint ++ chompSign chomp).length).nextLine.2 =
      c.afterSigns (hintSign hint ++ chompSign chomp) lines := hnext
  have hlength : (c.afterSigns (hintSign hint ++ chompSign chomp) lines).rest.length =
      lines.length := rfl
  have hgiven : (if (if hint then 2 else 0) = 0 then 0
      else (max parent 0).toNat + (if hint then 2 else 0)) =
        if hint then (max parent 0).toNat + 2 else 0 := by
    cases hint <;> rfl
  have hindent' : (if (if hint then (max parent 0).toNat + 2 else 0) ≠ 0
      then (if hint then (max parent 0).toNat + 2 else 0)
      else max deepest (max (parent + 1).toNat 1)) = indent := by
    rw [hindent]
    cases hint <;> rfl
  rw [blockText, blockSigns_signs hint chomp h]
  simp only [Option.bind_eq_bind, Option.bind_some, hcomment, hbreak, hstart, hlength,
    Bool.or_true, guard_true, hgiven, hgap, hindent', hlines]
  cases chomp <;> simp

theorem head?_paragraphs (indent : Nat) {ps : List Paragraph} (hps : ∀ p ∈ ps, p.Proper)
    {q : Paragraph} (hq : q.Proper) (rest : List Char) :
    (ps.flatMap (Paragraph.textBefore indent) ++ (q.text ++ rest)).head? =
      (ps.flatMap Paragraph.text ++ q.text).head? := by
  cases ps with
  | nil =>
    obtain ⟨x, xs, hline⟩ := List.exists_cons_of_ne_nil hq.line_ne_nil
    simp [Paragraph.text, hline]
  | cons p ps =>
    obtain ⟨x, xs, hline⟩ := List.exists_cons_of_ne_nil (hps p List.mem_cons_self).line_ne_nil
    simp [Paragraph.text, Paragraph.textBefore, hline]

theorem length_le_textBefore (indent : Nat) {ps : List Paragraph} (hps : ∀ p ∈ ps, p.Proper) :
    ps.length ≤ (ps.flatMap (Paragraph.textBefore indent)).length := by
  induction ps with
  | nil => simp
  | cons p ps ih =>
    obtain ⟨hp, hps⟩ := List.forall_mem_cons.1 hps
    have hline := List.length_pos_of_ne_nil hp.line_ne_nil
    have hlength := ih hps
    simp only [List.flatMap_cons, Paragraph.textBefore, List.length_append, List.length_cons] at *
    omega

/-- The first line shows the indentation if no sign does. -/
theorem blockGap_first {indent : Nat} (hindent : indent ≠ 0) {bs : List Char}
    (hbs : ∀ b ∈ bs, IsLineEnd b) {hint : Bool} {ps : List Paragraph} (hps : ∀ p ∈ ps, p.Proper)
    {q : Paragraph} (hq : q.Proper)
    (hhint : hint = hides (bs ++ (ps.flatMap Paragraph.text ++ q.text))) {fuel : Nat} {c : Cursor}
    {rest : List Char} (hcolumn : c.column = 0) (h : c.rest = bs ++ (spaces indent ++
      (ps.flatMap (Paragraph.textBefore indent) ++ (q.text ++ rest)))) (hfuel : bs.length < fuel) :
    ∃ d c', blockGap (if hint then indent else 0) [] 0 fuel c = some (bs.reverse ++ [], d, c') ∧
      (hint = false → d = indent) ∧ c'.column = indent ∧ c.line ≤ c'.line ∧
      c'.rest = ps.flatMap (Paragraph.textBefore indent) ++ (q.text ++ rest) := by
  obtain ⟨hbreak, htab⟩ := stops_paragraphs indent hps hq rest
  cases hint with
  | true =>
    obtain ⟨d, c', hgap, hrest, hcolumn', hline⟩ :=
      blockGap_breaks hindent hbs [] 0 h hcolumn (.inl rfl) hbreak htab hfuel
    exact ⟨d, c', hgap, nofun, hcolumn', by omega, hrest⟩
  | false =>
    obtain ⟨fuel, rfl⟩ := Nat.exists_eq_add_one_of_ne_zero (Nat.ne_zero_of_lt hfuel)
    -- Without a sign the text starts with a line, and this one with no space.
    obtain rfl : bs = [] := by
      cases bs with
      | nil => rfl
      | cons b bs => simp [hides, (hbs b List.mem_cons_self).1] at hhint
    have hspace : Stops isSpace (ps.flatMap (Paragraph.textBefore indent) ++ (q.text ++ rest)) := by
      intro x hx
      rw [head?_paragraphs indent hps hq] at hx
      rw [List.nil_append, hides, Option.mem_def.1 hx] at hhint
      simpa using (Bool.or_eq_false_iff.1 hhint.symm).1
    rw [List.nil_append] at h
    have hwidth : (c.rest.takeWhile (· == ' ')).length = indent := by
      rw [h, takeWhile_spaces indent hspace, length_spaces]
    refine ⟨_, _, blockGap_stop [] 0 fuel h hwidth hbreak htab, fun _ => ?_, ?_, Nat.le_refl _, ?_⟩
    · rw [hcolumn]
      omega
    · simp [Cursor.skip, hcolumn]
    · simp [Cursor.skip, h, spaces]

section

variable {indent : Nat} (hindent : 2 ≤ indent) {c : Cursor} {n : Nat} (hn : n < indent)
  {rest : List Char} (hrest : Stops isGap rest)

include hindent

theorem indent_below : (max ((indent : Int) - 2) 0).toNat + 2 = indent := by omega

include hn hrest

/-- Line ends alone are a gap before no line. -/
theorem blockText_breaks {b : Char} {bs : List Char} (hbs : ∀ x ∈ b :: bs, IsLineEnd x)
    (h : c.rest = hintSign true ++ (chompSign .keep ++ '\n' :: (b :: bs ++ (spaces n ++ rest)))) :
    ∃ c', blockText true ((indent : Int) - 2) c = some (b :: bs, c') ∧ c'.rest = rest ∧
      c'.column = n ∧ c.line < c'.line := by
  obtain ⟨hspace, hbreak, htab⟩ := stops_of_isGap hrest
  have hfuel : (b :: bs).length < (b :: bs ++ (spaces n ++ rest)).length + 2 := by simp; omega
  obtain ⟨d, c', hgap, hrest', hcolumn, hline⟩ := blockGap_breaks (by omega : indent ≠ 0) hbs [] 0
    (c := c.afterSigns (hintSign true ++ chompSign .keep) (b :: bs ++ (spaces n ++ rest)))
    rfl rfl (.inr ⟨hn, hspace⟩) hbreak htab hfuel
  have hlines := blockLines_end [] none ((b :: bs).reverse ++ []) false
    ((b :: bs ++ (spaces n ++ rest)).length + 1) (by omega : c'.column ≠ indent)
  rw [← indent_below hindent] at hgap hlines
  refine ⟨c', (blockText_eq_some h hgap rfl hlines).trans ?_, hrest', hcolumn, ?_⟩
  · simp
  · rw [hline, Cursor.afterSigns, List.length_cons]
    dsimp only
    omega

/-- Paragraphs are read line by line, and of the line ends after the last one the sign takes some. -/
theorem blockText_lines {bs : List Char} {ps : List Paragraph} {q : Paragraph} {chomp : Chomp}
    {hint : Bool} (hbs : ∀ b ∈ bs, IsLineEnd b) (hps : ∀ p ∈ ps, p.Proper) (hq : q.Proper)
    (hhint : hint = hides (bs ++ (ps.flatMap Paragraph.text ++ q.text)))
    (h : c.rest = hintSign hint ++ (chompSign chomp ++ '\n' :: (bs ++ (spaces indent ++
      (ps.flatMap (Paragraph.textBefore indent) ++ (q.text ++ (spaces n ++ rest))))))) :
    ∃ c', blockText true ((indent : Int) - 2) c =
        some (bs ++ (ps.flatMap Paragraph.text ++ (q.line ++ chomped chomp q.ends)), c') ∧
      c'.rest = rest ∧ c'.column = n ∧ c.line < c'.line := by
  generalize hlines : bs ++ (spaces indent ++
    (ps.flatMap (Paragraph.textBefore indent) ++ (q.text ++ (spaces n ++ rest)))) = lines at h
  have hfuel : bs.length < lines.length + 2 ∧ ps.length + 1 < lines.length + 2 := by
    have hlength := length_le_textBefore indent hps
    simp only [← hlines, List.length_append]
    omega
  have hgiven := indent_below hindent
  obtain ⟨d, c₁, hgap, hd, hcolumn, hline, hrest₁⟩ := blockGap_first (by omega : indent ≠ 0) hbs
    hps hq hhint (c := c.afterSigns (hintSign hint ++ chompSign chomp) lines) rfl hlines.symm hfuel.1
  obtain ⟨c₂, hread, hrest₂, hcolumn₂, hline₂⟩ := blockLines_paragraphs (by omega : indent ≠ 0)
    hps hq [] none (bs.reverse ++ []) false hcolumn hrest₁ hn hrest hfuel.2
  rw [← hgiven] at hgap
  refine ⟨c₂, (blockText_eq_some h hgap ?_ hread).trans ?_, hrest₂, hcolumn₂, ?_⟩
  · -- The indentation is what the sign says, or what the first line shows.
    cases hint with
    | true => simp [hgiven]
    | false =>
      rw [hd rfl]
      simp
      omega
  · obtain ⟨b, ends, hends⟩ := List.exists_cons_of_ne_nil hq.ends_ne_nil
    cases chomp <;> simp [chomped, hends]
  · have hstart : (c.afterSigns (hintSign hint ++ chompSign chomp) lines).line = c.line + 1 := rfl
    omega

/-- A literal is read up to the next line that is not indented as far. -/
theorem blockText_literal {cs : List Char} (hprintable : ∀ c ∈ cs, isPrintable c = true)
    (hcs : cs ≠ [])
    (h : c.rest = literalSigns cs ++ '\n' :: (literalLines indent cs ++ (spaces n ++ rest))) :
    ∃ c', blockText true ((indent : Int) - 2) c = some (cs, c') ∧ c'.rest = rest ∧ c'.column = n ∧
      c.line < c'.line := by
  have hform := literalLines_cases indent hprintable hcs
  generalize literalSigns cs = signs at h hform
  generalize literalLines indent cs = lines at h hform
  cases hform with
  | breaks hbs => exact blockText_breaks hindent hn hrest hbs (by simpa using h)
  | lines hbs hps hq hhint => exact blockText_lines hindent hn hrest hbs hps hq hhint (by simp [h])

end

end ConstantScan.Yaml
