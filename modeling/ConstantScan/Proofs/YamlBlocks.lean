import ConstantScan.Proofs.Numerals
import ConstantScan.Proofs.YamlScan
import ConstantScan.Yaml.Printer
import ConstantScan.Value

/-!
# The tokens of written values

The lines that a value is written in have the tokens of that value, whatever lines come after them.
The last newline of a text may be missing.
-/

namespace ConstantScan.Yaml

/-! ## What is written -/

mutual

/-- The last line of the value may lack its newline, as one of a literal may not. -/
def closes : Value → Bool
  | .string s => formOf s.toList != .literal
  | .list vs => closesItems vs
  | .dict es => closesEntries es
  | _ => true

def closesItems : List Value → Bool
  | [] => true
  | [v] => closes v
  | _ :: v :: vs => closesItems (v :: vs)

def closesEntries : List (String × Value) → Bool
  | [] => true
  | [(_, v)] => closes v
  | _ :: e :: es => closesEntries (e :: es)

end

def scalarTokens : Value → List Token
  | .bool b => [.scalar (if b then "true" else "false") true]
  | .number (.unsigned n) => [.scalar (toString n) true]
  | .string s => [.scalar s (formOf s.toList == .plain)]
  | .list _ => [.flowSequence, .flowSequenceEnd]
  | _ => []

mutual

/-- The tokens of a value. Lists are not indented, so no token opens them. -/
def valueTokens : Value → List Token
  | .list (v :: vs) => itemTokens (v :: vs)
  | .dict (e :: es) => .blockMapping :: (entryTokens (e :: es) ++ [.blockEnd])
  | v => scalarTokens v

def itemTokens : List Value → List Token
  | [] => []
  | v :: vs => .blockEntry :: (valueTokens v ++ itemTokens vs)

def entryTokens : List (String × Value) → List Token
  | [] => []
  | (k, v) :: es => .key :: .scalar k true :: .value :: (valueTokens v ++ entryTokens es)

end

/-- A key that needs no quotes and is not too long. -/
structure BareKey (k : String) : Prop where
  plain : formOf k.toList = .plain
  length : k.length ≤ maxKeyLength

/-- A value that blocks are written for. A list has texts and dictionaries for items. -/
inductive Written : (item : Bool) → Value → Prop
  | bool (b : Bool) : Written false (.bool b)
  | natural (n : Nat) : Written false (.number (.unsigned n))
  | string (item : Bool) (s : String) : Written item (.string s)
  | list {vs : List Value} (h : ∀ v ∈ vs, Written true v) : Written false (.list vs)
  | dict (item : Bool) {es : List (String × Value)} (hes : es ≠ [])
    (hkeys : ∀ e ∈ es, BareKey e.1) (h : ∀ e ∈ es, Written false e.2) : Written item (.dict es)

/-! ## Lines before others -/

/-- A text in front of the next line at column `n`. At the end of all, a newline may be missing. -/
inductive Before (closes : Bool) (text : List Char) : List Char → Nat → List Char → Prop
  | line (n : Nat) {rest : List Char} (hrest : Solid rest) :
    Before closes text (text ++ (spaces n ++ rest)) n rest
  | stop (n : Nat) {body : List Char} (hcloses : closes = true) (htext : text = body ++ ['\n']) :
    Before closes text body n []

section

variable {closes : Bool} {text whole rest : List Char} {n : Nat}

theorem Before.solid (h : Before closes text whole n rest) : Solid rest := by
  cases h with
  | line n hrest => exact hrest
  | stop n => exact solid_nil

theorem Before.append (first : List Char) (h : Before closes (first ++ text) whole n rest)
    (htext : text ≠ []) : ∃ whole', whole = first ++ whole' ∧ Before closes text whole' n rest := by
  cases h with
  | line n hrest => exact ⟨text ++ (spaces n ++ rest), by simp, .line n hrest⟩
  | @stop n body hcloses hbody =>
    obtain ⟨init, c, rfl⟩ := (List.eq_nil_or_concat text).resolve_left htext
    have hconcat : (first ++ init) ++ [c] = whole ++ ['\n'] := by simpa using hbody
    obtain ⟨rfl, hc⟩ := List.append_inj' hconcat rfl
    obtain rfl : c = '\n' := by simpa using hc
    exact ⟨init, rfl, .stop n hcloses (by simp)⟩

theorem Before.after (body : List Char) (h : Before closes (body ++ ['\n']) whole n rest) :
    ∃ after, whole = body ++ after ∧ After after n rest := by
  cases h with
  | line n hrest => exact ⟨'\n' :: (spaces n ++ rest), by simp, .newline n hrest⟩
  | stop n _ hbody =>
    obtain ⟨rfl, -⟩ := List.append_inj' hbody rfl
    exact ⟨[], by simp, .stop n⟩

end

/-! ## Plain words -/

theorem plainWord_of_formOf {cs : List Char} (h : formOf cs = .plain) :
    ∃ x xs, cs = x :: xs ∧ PlainWord x xs := by
  have hplain : isAmbiguous cs = false ∧ fitsPlain cs = true := by
    simp only [formOf] at h
    split_ifs at h with hnewline hliteral hquoted hsingle
    simpa using hquoted
  obtain ⟨x, xs, rfl, hx⟩ := startsWord_of_isAmbiguous hplain.1
  have hfits := hplain.2
  simp only [fitsPlain, Bool.and_eq_true, Bool.not_eq_true', bne_iff_ne, List.head?_cons] at hfits
  exact ⟨x, xs, rfl, continues_of_fitsPlain hplain.2, hfits.1.1.1.2, hx.minus, hx.point,
    fun hspace => hfits.1.2 (by rw [hspace])⟩

theorem hasPair_eq_false {p : Char → Bool} (q : Char → Bool) {cs : List Char}
    (h : ∀ c ∈ cs, p c = false) : hasPair p q cs = false := by
  induction cs with
  | nil => rfl
  | cons a cs ih =>
    obtain ⟨ha, hcs⟩ := List.forall_mem_cons.1 h
    cases cs with
    | nil => rfl
    | cons b cs => rw [hasPair_cons_cons, ha, ih hcs, Bool.false_and, Bool.or_false]

theorem isPrintable_of_isDigit {c : Char} (h : c.isDigit = true) : isPrintable c = true := by
  simp only [Char.isDigit, ge_iff_le, Bool.and_eq_true, decide_eq_true_eq] at h
  have hlow : 48 ≤ c.toNat := h.1
  have hhigh : c.toNat ≤ 57 := h.2
  simp only [isPrintable, Bool.or_eq_true, Bool.and_eq_true, decide_eq_true_eq]
  omega

theorem plainWord_digits {x : Char} {xs : List Char} (h : ∀ c ∈ x :: xs, c.isDigit = true) :
    PlainWord x xs := by
  have hne (c y : Char) (hc : c ∈ x :: xs) (hy : y.isDigit = false) : c ≠ y := by
    rintro rfl
    exact absurd (h c hc) (by simp [hy])
  have hlast (y : Char) (hy : y.isDigit = false) : (x :: xs).getLast? ≠ some y := fun hget =>
    hne y y (List.mem_of_getLast? hget) hy rfl
  have hgap : ∀ c ∈ x :: xs, isGap c = false := by
    intro c hc
    simp [isGap, isBlank, isBreak, hne c _ hc]
  have hprintable : ∀ c ∈ x :: xs, isPrintable c = true := fun c hc =>
    isPrintable_of_isDigit (h c hc)
  have hx (y : Char) (hy : y.isDigit = false) : x ≠ y := hne x y List.mem_cons_self hy
  have hspecial : startsSpecially (x :: xs) = false := by
    unfold startsSpecially
    split
    · next heq => exact absurd (List.cons.inj heq).1 (hx '-' rfl)
    · next heq => exact absurd (List.cons.inj heq).1 (hx '.' rfl)
    · next heq =>
      obtain ⟨rfl, rfl⟩ := List.cons.inj heq
      simp [hx]
    · rfl
  refine ⟨⟨hprintable, fun c hc => ?_, ?_, ?_, hlast ':' rfl, hlast ' ' rfl⟩, hspecial,
    hx '-' rfl, hx '.' rfl, hx ' ' rfl⟩
  · have hc' := hgap c hc
    simp only [isGap, Bool.or_eq_false_iff] at hc'
    exact hc'.2
  · exact hasPair_eq_false _ fun c hc => beq_eq_false_iff_ne.2 (hne c ':' hc rfl)
  · exact hasPair_eq_false _ hgap

/-! ## Scalars -/

/-- The lines of a scalar are read inside the block at the column. -/
def ScansScalar (closes : Bool) (indent : Nat) (text : List Char) (ts : List Token) : Prop :=
  ∀ ⦃whole rest : List Char⦄ ⦃n : Nat⦄ ⦃p : Progress⦄ ⦃out : List Token⦄ (keyAllowed : Bool),
    Before closes text whole n rest → n ≤ indent → p.indent = indent →
      Finishes rest n (p.add ts) out → Solid whole ∧ Inside keyAllowed whole p out

theorem scansScalar_word (closes : Bool) (indent : Nat) {x : Char} {cs : List Char}
    (h : PlainWord x cs) :
    ScansScalar closes indent ((x :: cs) ++ ['\n']) [.scalar (String.ofList (x :: cs)) true] := by
  intro whole rest n p out keyAllowed hbefore hn hp hout
  obtain ⟨after, rfl, hafter⟩ := hbefore.after _
  exact ⟨h.solid, Inside.plain h hafter (by omega) hout⟩

theorem length_le_flatMap {f : Char → List Char} (hf : ∀ c, f c ≠ []) (cs : List Char) :
    cs.length ≤ (cs.flatMap f).length := by
  induction cs with
  | nil => simp
  | cons c cs ih =>
    have hc := List.length_pos_of_ne_nil (hf c)
    simp only [List.flatMap_cons, List.length_append, List.length_cons]
    omega

theorem length_le_indentLines (indent : Nat) (fresh : Bool) (cs : List Char) :
    cs.length ≤ (indentLines indent fresh cs).length := by
  induction cs generalizing fresh with
  | nil => simp
  | cons c cs ih =>
    have htrue := ih true
    have hfalse := ih false
    rw [indentLines]
    split_ifs <;> simp only [List.length_append, List.length_cons] <;> omega

theorem scansScalar_quoted (closes : Bool) {indent : Nat} (single : Bool) {cs body : List Char}
    (hread : ∀ (c : Cursor) (after : List Char), c.column ≠ 0 →
      c.rest = body ++ quoteChar single :: after → after.head? ≠ some '\'' →
        ∃ c', quotedText single [] (c.rest.length + 1) c = some (cs, c') ∧ c'.rest = after ∧
          c.line ≤ c'.line) :
    ScansScalar closes indent (quoteChar single :: (body ++ [quoteChar single]) ++ ['\n'])
      [.scalar (String.ofList cs) false] := by
  intro whole rest n p out keyAllowed hbefore hn hp hout
  obtain ⟨after, rfl, hafter⟩ := hbefore.after _
  have htext : quoteChar single :: (body ++ [quoteChar single]) ++ after =
      quoteChar single :: (body ++ quoteChar single :: after) := by simp
  have hhead : after.head? ≠ some '\'' := by cases hafter <;> simp
  rw [htext]
  refine ⟨?_, Inside.quoted (fun c hcolumn hc => hread c after hcolumn hc hhead) hafter
    (by omega) hout⟩
  cases single <;> exact solid_cons.2 ⟨by decide, by decide, by decide⟩

theorem scansScalar_single (closes : Bool) (indent : Nat) {cs : List Char} (h : Folded cs) :
    ScansScalar closes indent (singleText (indent + 2) cs ++ ['\n'])
      [.scalar (String.ofList cs) false] := by
  rw [singleText_eq]
  have hlength : cs.length ≤ (singleBody (indent + 2) cs).length := by
    have hdoubled := length_le_flatMap (f := singleChar) (fun c => by rw [singleChar]; split_ifs <;>
      simp) cs
    have hindented := length_le_indentLines (indent + 2) false (cs.flatMap singleChar)
    rw [singleBody, List.length_append]
    omega
  refine scansScalar_quoted closes true fun c after hcolumn hc hhead => ?_
  have hread := quotedText_single (by omega : indent + 2 ≠ 0) h [] hcolumn hc hhead
    (by rw [hc, List.length_append]; omega : cs.length < c.rest.length + 1)
  exact hread

theorem scansScalar_double (closes : Bool) (indent : Nat) (cs : List Char) :
    ScansScalar closes indent (doubleText cs ++ ['\n']) [.scalar (String.ofList cs) false] := by
  rw [doubleText_eq]
  have hlength : cs.length ≤ (cs.flatMap doubleChar).length := by
    refine length_le_flatMap (fun c => ?_) cs
    rw [doubleChar]
    split_ifs
    · obtain ⟨text, htext, -⟩ := escape_escapeOf c
      rw [htext]
      simp
    · simp
  refine scansScalar_quoted closes false fun c after hcolumn hc _ => ?_
  have hread := quotedText_double [] hcolumn hc
    (by rw [hc, List.length_append]; omega : cs.length < c.rest.length + 1)
  refine ⟨_, hread, ?_, Nat.le_refl _⟩
  have hrest : c.rest = (cs.flatMap doubleChar ++ ['"']) ++ after := by
    rw [hc]
    simp [quoteChar]
  simpa using Cursor.rest_skip hrest

theorem scansScalar_literal (indent : Nat) {cs : List Char}
    (hprintable : ∀ c ∈ cs, isPrintable c = true) (hcs : cs ≠ []) :
    ScansScalar false indent ('|' :: (literalSigns cs ++ '\n' :: literalLines (indent + 2) cs))
      [.scalar (String.ofList cs) false] := by
  intro whole rest n p out keyAllowed hbefore hn hp hout
  cases hbefore with
  | stop n hcloses => exact absurd hcloses (by decide)
  | line n hrest =>
    have htext : '|' :: (literalSigns cs ++ '\n' :: literalLines (indent + 2) cs) ++
        (spaces n ++ rest) =
          '|' :: (literalSigns cs ++ '\n' :: (literalLines (indent + 2) cs ++ (spaces n ++ rest))) := by
      simp
    rw [htext]
    refine ⟨solid_cons.2 ⟨by decide, by decide, by decide⟩, ?_⟩
    exact Inside.literal (by omega : 2 ≤ indent + 2) (by omega) hprintable hcs hrest (by omega) hout

theorem mem_of_formOf {cs : List Char} :
    (formOf cs = .single → fitsSingle cs = true ∧ '\n' ∉ cs) ∧
      (formOf cs = .literal → fitsLiteral cs = true ∧ '\n' ∈ cs) := by
  simp only [formOf, List.contains_iff_mem]
  by_cases hnewline : '\n' ∈ cs
  · by_cases hliteral : fitsLiteral cs = true <;> simp [hnewline, hliteral]
  · by_cases hsingle : fitsSingle cs = true <;>
      by_cases hquoted : isAmbiguous cs = true ∨ fitsPlain cs = false <;>
        simp [hnewline, hsingle, hquoted]

theorem isPrintable_of_fitsSingle {cs : List Char} (h : fitsSingle cs = true) :
    ∀ c ∈ cs, isPrintable c = true := by
  simp only [fitsSingle, fitsDoubleOnly, Bool.and_eq_true, Bool.not_eq_true', Bool.or_eq_false_iff,
    Bool.not_eq_false', List.all_eq_true] at h
  exact h.1.2

theorem isPrintable_of_fitsLiteral {cs : List Char} (h : fitsLiteral cs = true) :
    ∀ c ∈ cs, isPrintable c = true := by
  simp only [fitsLiteral, fitsDoubleOnly, Bool.and_eq_true, Bool.not_eq_true', Bool.or_eq_false_iff,
    Bool.not_eq_false', List.all_eq_true] at h
  exact h.1.2

theorem toList_stringLine (indent : Nat) (s : String) :
    (stringLine indent s).toList =
      match formOf s.toList with
      | .plain => s.toList ++ ['\n']
      | .single => singleText indent s.toList ++ ['\n']
      | .double => doubleText s.toList ++ ['\n']
      | .literal => '|' :: (literalSigns s.toList ++ '\n' :: literalLines indent s.toList) := by
  rw [stringLine, String.toList_ofList]
  cases formOf s.toList with
  | plain | single | double => rfl
  | literal =>
    simp only [literalText, literalLines]
    split_ifs <;> simp_all

theorem scansScalar_string (indent : Nat) (s : String) :
    ScansScalar (closes (.string s)) indent (stringLine (indent + 2) s).toList
      (scalarTokens (.string s)) := by
  rw [toList_stringLine, closes, scalarTokens]
  obtain ⟨hsingle, hliteral⟩ := @mem_of_formOf s.toList
  have hs : String.ofList s.toList = s := String.ofList_toList
  cases hform : formOf s.toList with
  | plain =>
    obtain ⟨x, xs, hxs, hword⟩ := plainWord_of_formOf hform
    have hscans := scansScalar_word true indent hword
    rw [← hxs, hs] at hscans
    exact hscans
  | single =>
    obtain ⟨hfits, hnewline⟩ := hsingle hform
    have hscans := scansScalar_single true indent (folded_of_fitsSingle hfits hnewline)
    rw [hs] at hscans
    exact hscans
  | double =>
    have hscans := scansScalar_double true indent s.toList
    rw [hs] at hscans
    exact hscans
  | literal =>
    obtain ⟨hfits, hnewline⟩ := hliteral hform
    have hscans := scansScalar_literal indent (isPrintable_of_fitsLiteral hfits)
      (List.ne_nil_of_mem hnewline)
    rw [hs] at hscans
    exact hscans

theorem scansScalar_bool (indent : Nat) (b : Bool) :
    ScansScalar true indent (scalarLine (indent + 2) (.bool b)).toList (scalarTokens (.bool b)) := by
  cases b with
  | true =>
    have hword : PlainWord 't' ['r', 'u', 'e'] :=
      ⟨⟨by simp [isPrintable], by simp [isBreak], by decide, by decide, by decide, by decide⟩,
        by decide, by decide, by decide, by decide⟩
    have hscans := scansScalar_word true indent hword
    simpa [scalarLine, scalarTokens] using hscans
  | false =>
    have hword : PlainWord 'f' ['a', 'l', 's', 'e'] :=
      ⟨⟨by simp [isPrintable], by simp [isBreak], by decide, by decide, by decide, by decide⟩,
        by decide, by decide, by decide, by decide⟩
    have hscans := scansScalar_word true indent hword
    simpa [scalarLine, scalarTokens] using hscans

theorem scansScalar_natural (indent n : Nat) :
    ScansScalar true indent (scalarLine (indent + 2) (.number (.unsigned n))).toList
      (scalarTokens (.number (.unsigned n))) := by
  obtain ⟨x, xs, hxs⟩ := List.exists_cons_of_ne_nil (Nat.toDigits_ne_nil (n := n) (b := 10))
  have hword : PlainWord x xs := plainWord_digits (hxs ▸ fun c hc =>
    Decimal.isDigit_of_mem_toDigits hc)
  have htext : (toString n).toList = x :: xs := (Decimal.toList_toString n).trans hxs
  have hscans := scansScalar_word true indent hword
  rw [← htext, String.ofList_toList] at hscans
  rw [scalarLine, String.toList_append]
  exact hscans

/-! ## Values after keys and dashes -/

/-- The text after the colon of a key at the column. -/
structure ScansAfterKey (closes : Bool) (indent : Nat) (text : List Char) (ts : List Token) :
    Prop where
  starts : ∃ m more, text = m :: more ∧ more ≠ [] ∧ isGap m = true
  scans : ∀ ⦃whole rest : List Char⦄ ⦃n : Nat⦄ ⦃p : Progress⦄ ⦃out : List Token⦄,
    Before closes text whole n rest → n ≤ indent → p.indent = indent →
      Finishes rest n (p.add ts) out → Inside false whole p out

/-- The text after a dash at the column and its blank. -/
structure ScansItem (closes : Bool) (indent : Nat) (text : List Char) (ts : List Token) : Prop where
  ne_nil : text ≠ []
  scans : ∀ ⦃whole rest : List Char⦄ ⦃n : Nat⦄ ⦃p : Progress⦄ ⦃out : List Token⦄,
    Before closes text whole n rest → n ≤ indent → p.indent = indent →
      Finishes rest n (p.add ts) out → Solid whole ∧ Finishes whole (indent + 2) p out

/-- The text from the dash of the first item on. -/
structure ScansItems (closes : Bool) (indent : Nat) (text : List Char) (ts : List Token) : Prop where
  ne_nil : text ≠ []
  scans : ∀ ⦃whole rest : List Char⦄ ⦃n : Nat⦄ ⦃p : Progress⦄ ⦃out : List Token⦄,
    Before closes text whole n rest → n ≤ indent → p.indent = indent →
      Finishes rest n (p.add ts) out → Solid whole ∧ Finishes whole indent p out

/-- The text from the first key on, whose mapping may not be open yet. -/
structure ScansEntries (closes : Bool) (indent : Nat) (text : List Char) (ts : List Token) : Prop where
  ne_nil : text ≠ []
  scans : ∀ ⦃whole rest : List Char⦄ ⦃n : Nat⦄ ⦃p : Progress⦄ ⦃out : List Token⦄,
    Before closes text whole n rest → n ≤ indent → p.indent ≤ indent →
      Finishes rest n ((p.opened indent).add ts) out → Solid whole ∧ Finishes whole indent p out

variable {closes : Bool} {indent : Nat} {text : List Char} {ts : List Token}

theorem ScansScalar.afterKey (h : ScansScalar closes indent text ts) (htext : text ≠ []) :
    ScansAfterKey closes indent (' ' :: text) ts := by
  refine ⟨⟨' ', text, rfl, htext, by decide⟩, ?_⟩
  intro whole rest n p out hbefore hn hp hout
  obtain ⟨whole', rfl, hbefore'⟩ := Before.append [' '] hbefore htext
  obtain ⟨hsolid, hinside⟩ := h false hbefore' hn hp hout
  exact Inside.space hsolid hinside

theorem ScansScalar.item (h : ScansScalar closes indent text ts) (htext : text ≠ []) :
    ScansItem closes indent text ts := by
  refine ⟨htext, ?_⟩
  intro whole rest n p out hbefore hn hp hout
  obtain ⟨hsolid, hinside⟩ := h true hbefore hn hp hout
  exact ⟨hsolid, hinside.finishes (by omega)⟩

theorem scansAfterKey_emptyList (indent : Nat) :
    ScansAfterKey true indent [' ', '[', ']', '\n'] [.flowSequence, .flowSequenceEnd] := by
  refine ⟨⟨' ', _, rfl, by decide, by decide⟩, ?_⟩
  intro whole rest n p out hbefore hn hp hout
  obtain ⟨after, rfl, hafter⟩ := Before.after [' ', '[', ']'] hbefore
  exact Inside.space (solid_cons.2 ⟨by decide, by decide, by decide⟩)
    (Inside.emptyList hafter hout)

theorem ScansItems.afterKey (h : ScansItems closes indent text ts) :
    ScansAfterKey closes indent ('\n' :: (spaces indent ++ text)) ts := by
  refine ⟨⟨'\n', _, rfl, by simp [h.ne_nil], by decide⟩, ?_⟩
  intro whole rest n p out hbefore hn hp hout
  obtain ⟨whole', rfl, hbefore'⟩ := Before.append ('\n' :: spaces indent) hbefore h.ne_nil
  obtain ⟨hsolid, hfinishes⟩ := h.scans hbefore' hn hp hout
  exact Inside.newline hsolid hfinishes

/-- The mapping of a dictionary is left in front of what comes after it. -/
theorem ScansEntries.leave (h : ScansEntries closes (indent + 2) text ts) {whole rest : List Char}
    {n : Nat} {p : Progress} {out : List Token} (hbefore : Before closes text whole n rest)
    (hn : n ≤ indent) (hp : p.indent = indent)
    (hout : Finishes rest n (p.add (.blockMapping :: (ts ++ [.blockEnd]))) out) :
    Solid whole ∧ Finishes whole (indent + 2) p out := by
  refine h.scans hbefore (by omega) (by omega) ?_
  rw [Progress.opened_of_lt (by omega)]
  exact hout.leave hbefore.solid (.inl (by omega))

theorem ScansEntries.item (h : ScansEntries closes (indent + 2) text ts) :
    ScansItem closes indent text (.blockMapping :: (ts ++ [.blockEnd])) :=
  ⟨h.ne_nil, fun _ _ _ _ _ hbefore hn hp hout => h.leave hbefore hn hp hout⟩

theorem ScansEntries.afterKey (h : ScansEntries closes (indent + 2) text ts) :
    ScansAfterKey closes indent ('\n' :: (spaces (indent + 2) ++ text))
      (.blockMapping :: (ts ++ [.blockEnd])) := by
  refine ⟨⟨'\n', _, rfl, by simp [h.ne_nil], by decide⟩, ?_⟩
  intro whole rest n p out hbefore hn hp hout
  obtain ⟨whole', rfl, hbefore'⟩ :=
    Before.append ('\n' :: spaces (indent + 2)) hbefore h.ne_nil
  obtain ⟨hsolid, hfinishes⟩ := h.leave hbefore' hn hp hout
  exact Inside.newline hsolid hfinishes

/-! ## Lists and dictionaries -/

def itemsText (indent : Nat) : List Value → List Char
  | [] => []
  | v :: vs => '-' :: ' ' :: ((itemText indent v).toList ++ (itemLines indent vs).toList)

theorem toList_itemLines (indent : Nat) {vs : List Value} (h : vs ≠ []) :
    (itemLines indent vs).toList = spaces indent ++ itemsText indent vs := by
  obtain ⟨v, vs, rfl⟩ := List.exists_cons_of_ne_nil h
  simp [itemLines, itemsText, blanks, indentation, spaces]

theorem ScansItem.dash (h : ScansItem closes indent text ts) :
    ScansItems closes indent ('-' :: ' ' :: text) (.blockEntry :: ts) := by
  refine ⟨by simp, ?_⟩
  intro whole rest n p out hbefore hn hp hout
  obtain ⟨whole', rfl, hbefore'⟩ := Before.append ['-', ' '] hbefore h.ne_nil
  have hp' : (p.add [.blockEntry]).indent = indent := hp
  have hout' : Finishes rest n ((p.add [.blockEntry]).add ts) out := by
    rw [Progress.add_add]
    exact hout
  obtain ⟨hsolid, hfinishes⟩ := h.scans hbefore' hn hp' hout'
  exact ⟨solid_cons.2 ⟨by decide, by decide, by decide⟩, Finishes.dash hp hsolid hfinishes⟩

theorem scansItems {vs : List Value} (hvs : vs ≠ [])
    (h : ∀ v ∈ vs, ScansItem (Yaml.closes v) indent (itemText indent v).toList (valueTokens v)) :
    ScansItems (closesItems vs) indent (itemsText indent vs) (itemTokens vs) := by
  induction vs with
  | nil => exact absurd rfl hvs
  | cons v vs ih =>
    obtain ⟨hv, hrest⟩ := List.forall_mem_cons.1 h
    -- What finishes a last item is what comes behind the list, else it is the next item.
    cases vs with
    | nil => simpa [itemsText, itemLines, itemTokens, closesItems] using hv.dash
    | cons w vs =>
      have hitems := ih (by simp) hrest
      refine ⟨by simp [itemsText], ?_⟩
      intro whole rest n p out hbefore hn hp hout
      have htext : itemsText indent (v :: w :: vs) =
          ('-' :: ' ' :: ((itemText indent v).toList ++ spaces indent)) ++
            itemsText indent (w :: vs) := by
        rw [itemsText, toList_itemLines indent (by simp)]
        simp
      rw [htext] at hbefore
      obtain ⟨whole', rfl, hbefore'⟩ := hbefore.append _ hitems.ne_nil
      rw [itemTokens, ← List.cons_append, ← Progress.add_add] at hout
      have hp' : (p.add (.blockEntry :: valueTokens v)).indent = indent := hp
      obtain ⟨hsolid, hfinishes⟩ := hitems.scans hbefore' hn hp' hout
      have hline : Before (Yaml.closes v) ('-' :: ' ' :: (itemText indent v).toList) _ indent whole' :=
        .line indent hsolid
      simpa using hv.dash.scans hline (Nat.le_refl _) hp hfinishes

def entryText (indent : Nat) (e : String × Value) : List Char :=
  e.1.toList ++ ':' :: (afterKey indent e.2).toList

def entriesText (indent : Nat) : List (String × Value) → List Char
  | [] => []
  | e :: es => entryText indent e ++ (entryLines indent true es).toList

theorem toList_entryLines (indent : Nat) (fresh : Bool) {es : List (String × Value)} (h : es ≠ [])
    (hkeys : ∀ e ∈ es, BareKey e.1) :
    (entryLines indent fresh es).toList =
      (if fresh then spaces indent else []) ++ entriesText indent es := by
  obtain ⟨⟨k, v⟩, es, rfl⟩ := List.exists_cons_of_ne_nil h
  have hkey : (stringLine indent k).toList.dropLast = k.toList := by
    rw [toList_stringLine, (hkeys (k, v) List.mem_cons_self).plain]
    simp
  have hblanks : (if fresh then blanks indent else "").toList =
      if fresh then spaces indent else [] := by
    cases fresh <;> simp [blanks, indentation, spaces]
  rw [entryLines]
  simp [hkey, hblanks, entriesText, entryText]

theorem ScansAfterKey.entry {k : String} (hkey : BareKey k)
    (h : ScansAfterKey closes indent text ts) :
    ScansEntries closes indent (k.toList ++ ':' :: text) (.key :: .scalar k true :: .value :: ts) := by
  refine ⟨by simp, ?_⟩
  intro whole rest n p out hbefore hn hp hout
  obtain ⟨m, more, rfl, hmore, hm⟩ := h.starts
  obtain ⟨x, xs, hxs, hword⟩ := plainWord_of_formOf hkey.plain
  have hk : String.ofList (x :: xs) = k := by rw [← hxs, String.ofList_toList]
  have hlength : xs.length < maxKeyLength := by
    have hle := hkey.length
    rw [← String.length_toList, hxs, List.length_cons] at hle
    exact hle
  have hsplit : k.toList ++ ':' :: m :: more = (k.toList ++ [':']) ++ (m :: more) := by simp
  rw [hsplit] at hbefore
  obtain ⟨whole', rfl, hbefore'⟩ := hbefore.append _ (List.cons_ne_nil m more)
  obtain ⟨more', rfl, -⟩ := Before.append [m] hbefore' hmore
  have hindent : ((p.opened indent).add [.key, .scalar k true, .value]).indent = indent :=
    Progress.indent_opened hp
  have hinside := h.scans hbefore' hn hindent (by rw [Progress.add_add]; exact hout)
  rw [hxs]
  refine ⟨hword.solid, ?_⟩
  have hentry := Finishes.entry hword hlength hp hm (by rw [hk]; exact hinside)
  simpa using hentry

theorem scansEntries {es : List (String × Value)} (hes : es ≠ []) (hkeys : ∀ e ∈ es, BareKey e.1)
    (h : ∀ e ∈ es, ScansAfterKey (Yaml.closes e.2) indent (afterKey indent e.2).toList
      (valueTokens e.2)) :
    ScansEntries (closesEntries es) indent (entriesText indent es) (entryTokens es) := by
  induction es with
  | nil => exact absurd rfl hes
  | cons e es ih =>
    obtain ⟨k, v⟩ := e
    obtain ⟨hkey, hkeys'⟩ := List.forall_mem_cons.1 hkeys
    obtain ⟨hv, hrest⟩ := List.forall_mem_cons.1 h
    have hentry := hv.entry hkey
    cases es with
    | nil => simpa [entriesText, entryText, entryLines, entryTokens, closesEntries] using hentry
    | cons e es =>
      have hentries := ih (by simp) hkeys' hrest
      refine ⟨by simp [entriesText, entryText], ?_⟩
      intro whole rest n p out hbefore hn hp hout
      have htext : entriesText indent ((k, v) :: e :: es) =
          (entryText indent (k, v) ++ spaces indent) ++ entriesText indent (e :: es) := by
        rw [entriesText, toList_entryLines indent true (by simp) hkeys']
        simp
      rw [htext] at hbefore
      obtain ⟨whole', rfl, hbefore'⟩ := hbefore.append _ hentries.ne_nil
      have htokens : entryTokens ((k, v) :: e :: es) =
          (.key :: .scalar k true :: .value :: valueTokens v) ++ entryTokens (e :: es) := by
        rw [entryTokens]
        simp
      rw [htokens, ← Progress.add_add] at hout
      -- The first entry opens the mapping; the others find it open.
      generalize hq : (p.opened indent).add (.key :: .scalar k true :: .value :: valueTokens v) = q
        at hout
      have hindent : q.indent = indent := by
        rw [← hq]
        exact Progress.indent_opened hp
      obtain ⟨hsolid, hfinishes⟩ := hentries.scans hbefore' hn hindent.le
        (by rw [Progress.opened_of_eq hindent]; exact hout)
      have hline : Before (Yaml.closes v) (entryText indent (k, v)) _ indent whole' :=
        .line indent hsolid
      rw [List.append_assoc]
      exact hentry.scans hline (Nat.le_refl _) hp (hq ▸ hfinishes)

theorem scans_written {item : Bool} {v : Value} (h : Written item v) (indent : Nat) :
    ScansAfterKey (Yaml.closes v) indent (afterKey indent v).toList (valueTokens v) ∧
      (item = true →
        ScansItem (Yaml.closes v) indent (itemText indent v).toList (valueTokens v)) := by
  -- An entry of a dictionary is two columns further in than the dictionary.
  induction h generalizing indent with
  | bool b =>
    have hscans := (scansScalar_bool indent b).afterKey (by cases b <;> simp [scalarLine])
    exact ⟨by simpa [afterKey, valueTokens, Yaml.closes] using hscans, nofun⟩
  | natural n =>
    have hscans := (scansScalar_natural indent n).afterKey (by simp [scalarLine])
    exact ⟨by simpa [afterKey, valueTokens, Yaml.closes] using hscans, nofun⟩
  | string item s =>
    have hne : (stringLine (indent + 2) s).toList ≠ [] := by
      rw [toList_stringLine]
      split <;> simp
    have hscans := scansScalar_string indent s
    refine ⟨?_, fun _ => ?_⟩
    · simpa [afterKey, valueTokens, scalarLine] using hscans.afterKey hne
    · simpa [itemText, valueTokens, scalarLine] using hscans.item hne
  | @list vs h ih =>
    refine ⟨?_, nofun⟩
    cases vs with
    | nil =>
      simpa [afterKey, valueTokens, scalarLine, scalarTokens, Yaml.closes, closesItems] using
        scansAfterKey_emptyList indent
    | cons v vs =>
      have hitems := scansItems (by simp) fun w hw => (ih w hw indent).2 rfl
      simpa [afterKey, valueTokens, Yaml.closes, toList_itemLines] using hitems.afterKey
  | @dict item es hes hkeys h ih =>
    have hentries := scansEntries hes hkeys fun e he => (ih e he (indent + 2)).1
    obtain ⟨e, es, rfl⟩ := List.exists_cons_of_ne_nil hes
    have hlines (fresh : Bool) := toList_entryLines (indent + 2) fresh hes hkeys
    refine ⟨?_, fun _ => ?_⟩
    · simpa [afterKey, valueTokens, Yaml.closes, hlines] using hentries.afterKey
    · simpa [itemText, valueTokens, Yaml.closes, hlines] using hentries.item

/-! ## Characters -/

def Allowed (cs : List Char) : Prop := ∀ c ∈ cs, isAllowed c = true

theorem allowed_nil : Allowed [] := nofun

theorem allowed_append {cs ds : List Char} : Allowed (cs ++ ds) ↔ Allowed cs ∧ Allowed ds :=
  List.forall_mem_append

theorem allowed_cons {c : Char} {cs : List Char} :
    Allowed (c :: cs) ↔ isAllowed c = true ∧ Allowed cs := List.forall_mem_cons

theorem isAllowed_of_isPrintable {c : Char} (h : isPrintable c = true) : isAllowed c = true := by
  simp only [isPrintable, isAllowed, Bool.or_eq_true, Bool.and_eq_true, beq_iff_eq,
    decide_eq_true_eq] at h ⊢
  tauto

theorem allowed_spaces (n : Nat) : Allowed (spaces n) := by
  intro c hc
  rw [List.eq_of_mem_replicate hc]
  rfl

theorem allowed_indentLines {indent : Nat} {fresh : Bool} {cs : List Char} (h : Allowed cs) :
    Allowed (indentLines indent fresh cs) := by
  induction cs generalizing fresh with
  | nil => exact allowed_nil
  | cons c cs ih =>
    obtain ⟨hc, hcs⟩ := allowed_cons.1 h
    rw [indentLines]
    split_ifs
    · exact allowed_cons.2 ⟨hc, ih hcs⟩
    · exact allowed_append.2 ⟨allowed_spaces indent, allowed_cons.2 ⟨hc, ih hcs⟩⟩
    · exact allowed_cons.2 ⟨hc, ih hcs⟩

theorem isAllowed_upperHex : ∀ n < 16, isAllowed (upperHex n) = true := by decide

theorem allowed_hexDigits (n : Nat) {acc : List Char} (h : Allowed acc) (count : Nat) :
    Allowed (hexDigits n acc count) := by
  induction count generalizing n acc with
  | zero => exact h
  | succ count ih =>
    exact ih (n / 16) (allowed_cons.2 ⟨isAllowed_upperHex (n % 16) (Nat.mod_lt _ (by decide)), h⟩)

theorem allowed_escapeOf (c : Char) : Allowed (escapeOf c) := by
  have hdigits {x : Char} (hx : isAllowed x = true) (count : Nat) :
      Allowed ('\\' :: x :: hexDigits c.toNat [] count) :=
    allowed_cons.2 ⟨rfl, allowed_cons.2 ⟨hx, allowed_hexDigits c.toNat allowed_nil count⟩⟩
  unfold escapeOf
  dsimp only
  split
  · next s hs =>
    have hsign : isAllowed s = true := by
      split at hs <;> cases hs
      all_goals rfl
    exact allowed_cons.2 ⟨rfl, allowed_cons.2 ⟨hsign, allowed_nil⟩⟩
  · split_ifs
    · exact hdigits rfl 2
    · exact hdigits rfl 4
    · exact hdigits rfl 8

theorem allowed_doubleChar (c : Char) : Allowed (doubleChar c) := by
  rw [doubleChar]
  split_ifs with hspecial
  · exact allowed_escapeOf c
  · simp only [Bool.not_eq_true, Bool.or_eq_false_iff, Bool.not_eq_false'] at hspecial
    exact allowed_cons.2 ⟨isAllowed_of_isPrintable hspecial.1.1.1, allowed_nil⟩

theorem allowed_flatMap {f : Char → List Char} {cs : List Char} (h : ∀ c ∈ cs, Allowed (f c)) :
    Allowed (cs.flatMap f) := by
  intro c hc
  obtain ⟨d, hd, hc⟩ := List.mem_flatMap.1 hc
  exact h d hd c hc

theorem allowed_singleBody (indent : Nat) {cs : List Char} (h : Allowed cs) :
    Allowed (singleBody indent cs) := by
  have hdoubled : Allowed (cs.flatMap singleChar) := allowed_flatMap fun c hc => by
    rw [singleChar]
    split_ifs
    · exact allowed_cons.2 ⟨h c hc, allowed_cons.2 ⟨h c hc, allowed_nil⟩⟩
    · exact allowed_cons.2 ⟨h c hc, allowed_nil⟩
  refine allowed_append.2 ⟨allowed_indentLines hdoubled, ?_⟩
  split_ifs
  · exact allowed_spaces indent
  · exact allowed_nil

theorem allowed_literalSigns {cs : List Char} (h : ∀ c ∈ cs, isPrintable c = true) (hcs : cs ≠ []) :
    Allowed (literalSigns cs) := by
  have hsigns (hint : Bool) (chomp : Chomp) : Allowed (hintSign hint ++ chompSign chomp) := by
    cases hint <;> cases chomp <;> simp [Allowed, hintSign, chompSign, isAllowed]
  have hform := literalLines_cases 0 h hcs
  generalize literalSigns cs = signs at hform ⊢
  generalize literalLines 0 cs = lines at hform
  cases hform with
  | breaks => exact hsigns _ _
  | lines => exact hsigns _ _

theorem allowed_literalLines (indent : Nat) {cs : List Char} (h : Allowed cs) :
    Allowed (literalLines indent cs) := by
  refine allowed_append.2 ⟨allowed_indentLines h, ?_⟩
  split_ifs
  · exact allowed_nil
  · exact allowed_cons.2 ⟨rfl, allowed_nil⟩

theorem allowed_stringLine (indent : Nat) (s : String) : Allowed (stringLine indent s).toList := by
  rw [toList_stringLine]
  have hone {c : Char} (hc : isAllowed c = true) : Allowed [c] := allowed_cons.2 ⟨hc, allowed_nil⟩
  obtain ⟨hsingle, hliteral⟩ := @mem_of_formOf s.toList
  have hprintable {cs : List Char} (h : ∀ c ∈ cs, isPrintable c = true) : Allowed cs :=
    fun c hc => isAllowed_of_isPrintable (h c hc)
  cases hform : formOf s.toList with
  | plain =>
    obtain ⟨x, xs, hxs, hword⟩ := plainWord_of_formOf hform
    exact allowed_append.2 ⟨hprintable (hxs ▸ hword.continues.printable), hone rfl⟩
  | single =>
    have hcs := hprintable (isPrintable_of_fitsSingle (hsingle hform).1)
    dsimp only
    rw [singleText_eq]
    exact allowed_append.2 ⟨allowed_cons.2 ⟨rfl, allowed_append.2 ⟨allowed_singleBody indent hcs,
      hone rfl⟩⟩, hone rfl⟩
  | double =>
    dsimp only
    rw [doubleText_eq]
    exact allowed_append.2 ⟨allowed_cons.2 ⟨rfl, allowed_append.2
      ⟨allowed_flatMap fun c _ => allowed_doubleChar c, hone rfl⟩⟩, hone rfl⟩
  | literal =>
    obtain ⟨hfits, hnewline⟩ := hliteral hform
    have hcs := isPrintable_of_fitsLiteral hfits
    exact allowed_cons.2 ⟨rfl, allowed_append.2 ⟨allowed_literalSigns hcs
      (List.ne_nil_of_mem hnewline), allowed_cons.2 ⟨rfl, allowed_literalLines indent
        (hprintable hcs)⟩⟩⟩

theorem allowed_itemsText {indent : Nat} {vs : List Value}
    (h : ∀ v ∈ vs, Allowed (itemText indent v).toList) : Allowed (itemsText indent vs) := by
  induction vs with
  | nil => exact allowed_nil
  | cons v vs ih =>
    obtain ⟨hv, hvs⟩ := List.forall_mem_cons.1 h
    have hlines : Allowed (itemLines indent vs).toList := by
      cases vs with
      | nil => exact allowed_nil
      | cons w vs =>
        rw [toList_itemLines indent (by simp)]
        exact allowed_append.2 ⟨allowed_spaces indent, ih hvs⟩
    exact allowed_cons.2 ⟨rfl, allowed_cons.2 ⟨rfl, allowed_append.2 ⟨hv, hlines⟩⟩⟩

theorem allowed_entriesText {indent : Nat} {es : List (String × Value)}
    (hkeys : ∀ e ∈ es, BareKey e.1) (h : ∀ e ∈ es, Allowed (afterKey indent e.2).toList) :
    Allowed (entriesText indent es) := by
  induction es with
  | nil => exact allowed_nil
  | cons e es ih =>
    obtain ⟨hkey, hkeys⟩ := List.forall_mem_cons.1 hkeys
    obtain ⟨he, hes⟩ := List.forall_mem_cons.1 h
    have hlines : Allowed (entryLines indent true es).toList := by
      cases es with
      | nil => exact allowed_nil
      | cons f es =>
        rw [toList_entryLines indent true (by simp) hkeys]
        exact allowed_append.2 ⟨allowed_spaces indent, ih hkeys hes⟩
    have hname : Allowed e.1.toList := by
      have hline := allowed_stringLine indent e.1
      rw [toList_stringLine, hkey.plain] at hline
      exact (allowed_append.1 hline).1
    exact allowed_append.2 ⟨allowed_append.2 ⟨hname, allowed_cons.2 ⟨rfl, he⟩⟩, hlines⟩

theorem allowed_written {item : Bool} {v : Value} (h : Written item v) (indent : Nat) :
    Allowed (afterKey indent v).toList ∧ (item = true → Allowed (itemText indent v).toList) := by
  induction h generalizing indent with
  | bool b => cases b <;> simp [afterKey, scalarLine, Allowed, isAllowed]
  | natural n =>
    have hdigits : Allowed (toString n).toList := by
      intro c hc
      rw [Decimal.toList_toString] at hc
      exact isAllowed_of_isPrintable (isPrintable_of_isDigit (Decimal.isDigit_of_mem_toDigits hc))
    refine ⟨?_, nofun⟩
    rw [afterKey, scalarLine, String.toList_append, String.toList_append]
    · exact allowed_append.2 ⟨allowed_cons.2 ⟨rfl, allowed_nil⟩,
        allowed_append.2 ⟨hdigits, allowed_cons.2 ⟨rfl, allowed_nil⟩⟩⟩
    all_goals simp
  | string item s =>
    have hline := allowed_stringLine (indent + 2) s
    refine ⟨?_, fun _ => by simpa [itemText, scalarLine] using hline⟩
    simpa [afterKey, scalarLine, allowed_cons, isAllowed] using hline
  | @list vs h ih =>
    refine ⟨?_, nofun⟩
    cases vs with
    | nil => simp [afterKey, scalarLine, Allowed, isAllowed]
    | cons v vs =>
      have hitems := allowed_itemsText fun w hw => (ih w hw indent).2 rfl
      simpa [afterKey, toList_itemLines, allowed_cons, isAllowed] using
        allowed_append.2 ⟨allowed_spaces indent, hitems⟩
  | @dict item es hes hkeys h ih =>
    have hentries := allowed_entriesText hkeys fun e he => (ih e he (indent + 2)).1
    obtain ⟨e, es, rfl⟩ := List.exists_cons_of_ne_nil hes
    have hlines (fresh : Bool) := toList_entryLines (indent + 2) fresh hes hkeys
    refine ⟨?_, fun _ => by simpa [itemText, hlines] using hentries⟩
    simpa [afterKey, hlines, allowed_cons, isAllowed] using
      allowed_append.2 ⟨allowed_spaces (indent + 2), hentries⟩

/-! ## Documents -/

theorem tokens?_of_before {es : List (String × Value)} (hes : es ≠ [])
    (hkeys : ∀ e ∈ es, BareKey e.1) (h : ∀ e ∈ es, Written false e.2) {whole : List Char}
    (hbefore : Before (closesEntries es) (print es).toList whole 0 []) :
    tokens? (String.ofList whole) = some (.blockMapping :: (entryTokens es ++ [.blockEnd])) := by
  have hprint : (print es).toList = entriesText 0 es := by
    rw [print, if_neg (by simpa using hes), toList_entryLines 0 true hes hkeys]
    rfl
  rw [hprint] at hbefore
  -- The line end that the text may lack is the only difference between the two texts.
  have hallowed : Allowed whole := by
    have htext := allowed_entriesText hkeys fun e he => (allowed_written (h e he) 0).1
    cases hbefore with
    | line n hrest => exact allowed_append.2 ⟨htext, allowed_nil⟩
    | stop n _ hbody => exact (allowed_append.1 (hbody ▸ htext)).1
  have hentries := scansEntries hes hkeys fun e he => (scans_written (h e he) 0).1
  have hend : Finishes [] 0 (Progress.add {} (.blockMapping :: (entryTokens es ++ [.blockEnd])))
      (.blockMapping :: (entryTokens es ++ [.blockEnd])) := by
    intro line index fuel hfuel
    obtain ⟨fuel, rfl⟩ := Nat.exists_eq_add_one_of_ne_zero (Nat.ne_zero_of_lt hfuel)
    rw [Progress.run_end_none rfl]
    simp [Progress.close, Progress.closeTo, Progress.add]
  have hstart : ({} : Progress).indent < (0 : Nat) := by decide
  have hmapping : Finishes [] 0 ((Progress.opened {} 0).add (entryTokens es))
      (.blockMapping :: (entryTokens es ++ [.blockEnd])) := by
    rw [Progress.opened_of_lt hstart]
    exact hend.leave solid_nil (.inr rfl)
  obtain ⟨-, hfinishes⟩ := hentries.scans hbefore (Nat.le_refl 0) hstart.le hmapping
  have hrun := hfinishes 0 0 (whole.length + 1) (Nat.lt_succ_self _)
  rw [tokens?]
  simp only [String.toList_ofList]
  rw [if_pos (List.all_eq_true.2 hallowed)]
  exact hrun

end ConstantScan.Yaml
