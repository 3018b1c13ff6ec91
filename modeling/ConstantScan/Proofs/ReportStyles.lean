import ConstantScan.Cli.Run
import ConstantScan.Proofs.ReportText

/-!
# Reports with colours

A terminal takes the sequences out of a text and switches its style by them. What it shows of a report
with colours is the report without them, and each style is switched off before its line ends, whatever
the texts of the findings look like.
-/

namespace ConstantScan

/-! ## What a terminal makes of a text -/

namespace Terminal

def escape : Char := '\x1b'

inductive Token
  | char (c : Char)
  | code (n : Nat)
  deriving DecidableEq, Repr

def Token.char? : Token → Option Char
  | .char c => some c
  | .code _ => none

/-- The code of the sequence in front, and what stands behind the sequence. -/
def sequence? : List Char → Option (Nat × List Char)
  | '\x1b' :: '[' :: cs =>
    match Decimal.spanDigits cs with
    | (d :: ds, 'm' :: rest) => some (Decimal.ofDigits (d :: ds), rest)
    | _ => none
  | _ => none

theorem length_of_sequence? {cs rest : List Char} {n : Nat} (h : sequence? cs = some (n, rest)) :
    rest.length < cs.length := by
  unfold sequence? at h
  split at h
  · next cs =>
    split at h
    · next digits rest hspan =>
      obtain ⟨-, rfl⟩ := Prod.mk.inj (Option.some.inj h)
      rw [← Decimal.spanDigits_append cs, hspan]
      simp only [List.length_cons, List.length_append]
      omega
    · cases h
  · cases h

def tokens : List Char → List Token
  | [] => []
  | c :: cs =>
    match _ : sequence? (c :: cs) with
    | some (n, rest) => .code n :: tokens rest
    | none => .char c :: tokens cs
termination_by cs => cs.length
decreasing_by
  · exact length_of_sequence? ‹_›
  · exact Nat.lt_succ_self _

/-- The text without its sequences. -/
def shown (text : String) : String := .ofList ((tokens text.toList).filterMap Token.char?)

/-- A reset comes before the line ends. -/
def resetAhead : List Token → Bool
  | [] => false
  | .char c :: ts => c != '\n' && resetAhead ts
  | .code n :: ts => n == 0 || resetAhead ts

/-- Each style that is switched on is reset before its line ends. -/
def closesLines : List Token → Bool
  | [] => true
  | .char _ :: ts => closesLines ts
  | .code n :: ts => (n == 0 || resetAhead ts) && closesLines ts

/-! ## Tokens -/

theorem sequence?_of_ne {c : Char} (h : c ≠ escape) (cs : List Char) : sequence? (c :: cs) = none := by
  unfold sequence?
  split
  · next heq => exact absurd (List.cons.inj heq).1 h
  · rfl

theorem tokens_cons_of_ne {c : Char} (h : c ≠ escape) (cs : List Char) :
    tokens (c :: cs) = .char c :: tokens cs := by
  rw [tokens]
  split
  · next hsome => rw [sequence?_of_ne h] at hsome; cases hsome
  · rfl

theorem tokens_append_of_not_mem {cs : List Char} (h : escape ∉ cs) (rest : List Char) :
    tokens (cs ++ rest) = cs.map Token.char ++ tokens rest := by
  induction cs with
  | nil => rfl
  | cons c cs ih =>
    rw [List.mem_cons, not_or] at h
    rw [List.cons_append, tokens_cons_of_ne (Ne.symm h.1), ih h.2]
    rfl

theorem tokens_eq_of_append {cs : List Char} {ts : List Token}
    (h : ∀ rest, tokens (cs ++ rest) = ts ++ tokens rest) : tokens cs = ts := by
  have hnone := h []
  rwa [List.append_nil, tokens, List.append_nil] at hnone

theorem toList_switch_append (n : Nat) (rest : List Char) : (Style.switch n).toList ++ rest =
    '\x1b' :: '[' :: (Nat.toDigits 10 n ++ 'm' :: rest) := by
  simp [Style.switch]

theorem sequence?_switch (n : Nat) (rest : List Char) :
    sequence? ((Style.switch n).toList ++ rest) = some (n, rest) := by
  obtain ⟨d, ds, hdigits⟩ := List.exists_cons_of_ne_nil (Nat.toDigits_ne_nil (b := 10) (n := n))
  have hvalue := Decimal.ofDigits_toDigits n
  rw [toList_switch_append, sequence?, Decimal.spanDigits_toDigits n (stops_cons.2 (by decide))]
  rw [hdigits] at hvalue ⊢
  simp only [hvalue]

theorem tokens_switch (n : Nat) (rest : List Char) :
    tokens ((Style.switch n).toList ++ rest) = .code n :: tokens rest := by
  have hsequence := sequence?_switch n rest
  rw [toList_switch_append] at hsequence ⊢
  rw [tokens]
  split
  · next hsome =>
    obtain ⟨rfl, rfl⟩ := Prod.mk.inj (Option.some.inj (hsequence.symm.trans hsome))
    rfl
  · next hnone => rw [hsequence] at hnone; cases hnone

theorem tokens_switches (codes : List Nat) (rest : List Char) :
    tokens ((String.join (codes.map Style.switch)).toList ++ rest) =
      codes.map Token.code ++ tokens rest := by
  induction codes with
  | nil => rfl
  | cons n codes ih =>
    rw [List.map_cons, String.join_cons, String.toList_append, List.append_assoc, tokens_switch, ih]
    rfl

/-- What a text in a style is read as. -/
def painted (s : Style) (text : String) : List Token :=
  if s.codes = [] then text.toList.map Token.char
  else s.codes.map Token.code ++ (text.toList.map Token.char ++ [.code 0])

theorem tokens_paint {text : String} (h : escape ∉ text.toList) (s : Style) (rest : List Char) :
    tokens ((s.paint true text).toList ++ rest) = painted s text ++ tokens rest := by
  unfold Style.paint painted
  by_cases hcodes : s.codes = []
  · simp only [hcodes, if_true]
    exact tokens_append_of_not_mem h rest
  · have hpaint : (true && !s.codes.isEmpty) = true := by simpa using hcodes
    rw [if_pos hpaint, if_neg hcodes]
    simp only [String.toList_append, List.append_assoc, tokens_switches, Style.reset,
      tokens_append_of_not_mem h, tokens_switch]
    rfl

example : tokens ((Style.boldColored .red).paint true "[0m").toList =
    [.code 31, .code 1, .char '[', .char '0', .char 'm', .code 0] := by cbv

theorem filterMap_char? (cs : List Char) : (cs.map Token.char).filterMap Token.char? = cs := by
  rw [List.filterMap_map]
  exact List.filterMap_some

theorem filterMap_painted (s : Style) (text : String) :
    (painted s text).filterMap Token.char? = text.toList := by
  have hcodes : (s.codes.map Token.code).filterMap Token.char? = [] := by
    simp [Token.char?]
  unfold painted
  split
  · exact filterMap_char? _
  · rw [List.filterMap_append, List.filterMap_append, hcodes, filterMap_char?]
    simp [Token.char?]

/-! ## Styles that are switched off -/

theorem resetAhead_append {ts : List Token} (h : resetAhead ts = true) (ts' : List Token) :
    resetAhead (ts ++ ts') = true := by
  induction ts with
  | nil => cases h
  | cons t ts ih =>
    cases t with
    | char c =>
      rw [resetAhead, Bool.and_eq_true] at h
      rw [List.cons_append, resetAhead, h.1, ih h.2]
      rfl
    | code n =>
      rw [resetAhead, Bool.or_eq_true] at h
      rw [List.cons_append, resetAhead, Bool.or_eq_true]
      exact h.imp_right ih

theorem closesLines_append {ts ts' : List Token} (h : closesLines ts = true)
    (h' : closesLines ts' = true) : closesLines (ts ++ ts') = true := by
  induction ts with
  | nil => exact h'
  | cons t ts ih =>
    cases t with
    | char c => exact ih h
    | code n =>
      rw [closesLines, Bool.and_eq_true, Bool.or_eq_true] at h
      rw [List.cons_append, closesLines, Bool.and_eq_true, Bool.or_eq_true]
      exact ⟨h.1.imp_right fun hreset => resetAhead_append hreset ts', ih h.2⟩

theorem closesLines_map_char (cs : List Char) : closesLines (cs.map Token.char) = true := by
  induction cs with
  | nil => rfl
  | cons c cs ih => exact ih

theorem resetAhead_map_char {cs : List Char} (h : '\n' ∉ cs) :
    resetAhead (cs.map Token.char ++ [.code 0]) = true := by
  induction cs with
  | nil => rfl
  | cons c cs ih =>
    rw [List.mem_cons, not_or] at h
    rw [List.map_cons, List.cons_append, resetAhead, ih h.2, Bool.and_true, bne_iff_ne]
    exact Ne.symm h.1

/-- Codes are switched off by what switches the last of them off. -/
theorem closesLines_map_code (codes : List Nat) {ts : List Token} (hreset : resetAhead ts = true)
    (h : closesLines ts = true) : closesLines (codes.map Token.code ++ ts) = true := by
  suffices resetAhead (codes.map Token.code ++ ts) = true ∧
      closesLines (codes.map Token.code ++ ts) = true from this.2
  induction codes with
  | nil => exact ⟨hreset, h⟩
  | cons n codes ih =>
    rw [List.map_cons, List.cons_append, resetAhead, closesLines, ih.1, ih.2, Bool.or_true]
    exact ⟨rfl, rfl⟩

theorem closesLines_painted {text : String} (h : '\n' ∉ text.toList) (s : Style) :
    closesLines (painted s text) = true := by
  unfold painted
  split
  · exact closesLines_map_char _
  · exact closesLines_map_code s.codes (resetAhead_map_char h)
      (closesLines_append (closesLines_map_char _) (by rfl))

-- a text of two lines keeps its style over the line break
example : closesLines (painted .bold "a\nb") = false := by decide

end Terminal

/-! ## Texts with and without styles -/

open Terminal

/-- It has no escape character and, if all is to be kept on its line, no line break. -/
def Fits (oneLine : Prop) (text : String) : Prop :=
  escape ∉ text.toList ∧ (oneLine → '\n' ∉ text.toList)

/-- A text and the same text with parts of it in styles. -/
inductive Restyled (oneLine : Prop) : String → String → Prop
  | plain {t : String} (h : escape ∉ t.toList) : Restyled oneLine t t
  | paint (s : Style) {t : String} (h : Fits oneLine t) :
    Restyled oneLine (s.paint false t) (s.paint true t)
  | append {t t' u u' : String} (h : Restyled oneLine t u) (h' : Restyled oneLine t' u') :
    Restyled oneLine (t ++ t') (u ++ u')

namespace Restyled

variable {oneLine : Prop} {t u : String}

theorem escape_not_mem (h : Restyled oneLine t u) : escape ∉ t.toList := by
  induction h with
  | plain h => exact h
  | paint s h => exact h.1
  | append _ _ ih ih' =>
    rw [String.toList_append, List.mem_append, not_or]
    exact ⟨ih, ih'⟩

/-- The text in styles is read on its own, whatever comes behind it. -/
theorem exists_tokens (h : Restyled oneLine t u) : ∃ ts : List Token,
    (∀ rest, tokens (u.toList ++ rest) = ts ++ tokens rest) ∧
      ts.filterMap Token.char? = t.toList ∧ (oneLine → closesLines ts = true) := by
  induction h with
  | plain h =>
    exact ⟨_, tokens_append_of_not_mem h, filterMap_char? _, fun _ => closesLines_map_char _⟩
  | paint s h =>
    exact ⟨_, tokens_paint h.1 s, filterMap_painted s _, fun hline => closesLines_painted (h.2 hline) s⟩
  | append _ _ ih ih' =>
    obtain ⟨ts, htokens, hchars, hcloses⟩ := ih
    obtain ⟨ts', htokens', hchars', hcloses'⟩ := ih'
    refine ⟨ts ++ ts', fun rest => ?_, ?_, fun hline => ?_⟩
    · rw [String.toList_append, List.append_assoc, htokens, htokens', List.append_assoc]
    · rw [List.filterMap_append, hchars, hchars', String.toList_append]
    · exact closesLines_append (hcloses hline) (hcloses' hline)

theorem shown_eq (h : Restyled oneLine t u) : shown u = t := by
  obtain ⟨ts, htokens, hchars, -⟩ := h.exists_tokens
  rw [shown, tokens_eq_of_append htokens, hchars, String.ofList_toList]

theorem closes (h : Restyled oneLine t u) (hline : oneLine) : closesLines (tokens u.toList) = true := by
  obtain ⟨ts, htokens, -, hcloses⟩ := h.exists_tokens
  rw [tokens_eq_of_append htokens]
  exact hcloses hline

end Restyled

/-! ## Texts that fit -/

section

variable {oneLine : Prop} {t u : String}

theorem Fits.append (ht : Fits oneLine t) (hu : Fits oneLine u) : Fits oneLine (t ++ u) := by
  simp only [Fits, String.toList_append, List.mem_append, not_or]
  exact ⟨⟨ht.1, hu.1⟩, fun hline => ⟨ht.2 hline, hu.2 hline⟩⟩

theorem Fits.of_literal (h : escape ∉ t.toList ∧ '\n' ∉ t.toList) : Fits oneLine t :=
  ⟨h.1, fun _ => h.2⟩

theorem fits_toString (n : Nat) : Fits oneLine (toString n) :=
  .of_literal ⟨Decimal.not_mem_toString (by decide) n, Decimal.not_mem_toString (by decide) n⟩

theorem fits_plural (ht : Fits oneLine t) (hu : Fits oneLine u) (n : Nat) :
    Fits oneLine (Report.plural n t u) :=
  ⟨Report.not_mem_plural ht.1 hu.1 n, fun hline => Report.not_mem_plural (ht.2 hline) (hu.2 hline) n⟩

theorem Fits.counted {front gap one many back : String} (hfront : Fits oneLine front)
    (hgap : Fits oneLine gap) (hone : Fits oneLine one) (hmany : Fits oneLine many)
    (hback : Fits oneLine back) (n : Nat) :
    Fits oneLine (front ++ toString n ++ gap ++ Report.plural n one many ++ back) :=
  (((hfront.append (fits_toString n)).append hgap).append (fits_plural hone hmany n)).append hback

theorem Fits.restyled (h : Fits oneLine t) : Restyled oneLine t t := .plain h.1

end

/-- The character is in none of its texts. -/
structure Finding.Lacks (c : Char) (f : Finding) : Prop where
  target : c ∉ f.target.toList
  file : c ∉ f.file.toList
  text : c ∉ f.text.toList
  rule : c ∉ f.rule.toList

instance (c : Char) (f : Finding) : Decidable (f.Lacks c) :=
  decidable_of_iff (c ∉ f.target.toList ∧ c ∉ f.file.toList ∧ c ∉ f.text.toList ∧
      c ∉ f.rule.toList)
    ⟨fun ⟨target, file, text, rule⟩ => ⟨target, file, text, rule⟩,
      fun h => ⟨h.target, h.file, h.text, h.rule⟩⟩

/-- Its texts may be painted. -/
structure Finding.Paintable (oneLine : Prop) (f : Finding) : Prop where
  target : Fits oneLine f.target
  file : Fits oneLine f.file
  text : Fits oneLine f.text
  rule : Fits oneLine f.rule

theorem Finding.Lacks.paintable {oneLine : Prop} {f : Finding} (h : f.Lacks escape)
    (hline : oneLine → f.Lacks '\n') : f.Paintable oneLine where
  target := ⟨h.target, fun hone => (hline hone).target⟩
  file := ⟨h.file, fun hone => (hline hone).file⟩
  text := ⟨h.text, fun hone => (hline hone).text⟩
  rule := ⟨h.rule, fun hone => (hline hone).rule⟩

/-! ## Reports -/

namespace Report

variable {oneLine : Prop}

abbrev RestyledLines (oneLine : Prop) : List String → List String → Prop :=
  List.Forall₂ (Restyled oneLine)

theorem restyled_flatMap {α : Type} {xs : List α} {f g : α → List String}
    (h : ∀ x ∈ xs, RestyledLines oneLine (f x) (g x)) :
    RestyledLines oneLine (xs.flatMap f) (xs.flatMap g) := by
  apply List.rel_flatten
  rw [List.forall₂_map_left_iff, List.forall₂_map_right_iff, List.forall₂_same]
  exact h

theorem fits_rule {c : Char} (h : c ≠ escape ∧ c ≠ '\n') (n : Nat) :
    Fits oneLine (String.ofList (List.replicate n c)) := by
  apply Fits.of_literal
  rw [String.toList_ofList]
  exact ⟨fun hmem => h.1 (List.eq_of_mem_replicate hmem).symm,
    fun hmem => h.2 (List.eq_of_mem_replicate hmem).symm⟩

theorem restyled_titleLines {mark title : String} (hmark : Fits oneLine mark)
    (htitle : Fits oneLine title) :
    RestyledLines oneLine (titleLines false mark title) (titleLines true mark title) := by
  have hrule : Restyled oneLine heavyRule heavyRule := (fits_rule (by decide) _).restyled
  have hspace : Restyled oneLine " " " " := .plain (by decide)
  exact .cons hrule (.cons ((hmark.restyled.append hspace).append (.paint _ htitle))
    (.cons hrule .nil))

theorem restyled_findingLines {f : Finding} (h : f.Paintable oneLine) :
    RestyledLines oneLine (findingLines false f) (findingLines true f) := by
  have hplace : Fits oneLine (f.file ++ ":" ++ toString f.line) :=
    (h.file.append (.of_literal (by decide))).append (fits_toString _)
  have hname : Fits oneLine ("[" ++ f.rule ++ "]") :=
    (Fits.append (.of_literal (by decide)) h.rule).append (.of_literal (by decide))
  have hmargin : Restyled oneLine "  " "  " := .plain (by decide)
  have hspace : Restyled oneLine " " " " := .plain (by decide)
  have hindent : Restyled oneLine "      " "      " := .plain (by decide)
  exact .cons (((hmargin.append (.paint _ hplace)).append hspace).append (.paint _ hname))
    (.cons (hindent.append (.paint _ h.text)) .nil)

theorem restyled_groupLines {g : TargetGroup} (hlabel : Fits oneLine g.label)
    (h : ∀ f ∈ g.findings, f.Paintable oneLine) :
    RestyledLines oneLine (groupLines false g) (groupLines true g) := by
  have hcounted : Fits oneLine ("(" ++ toString g.findings.length ++ " " ++
      plural g.findings.length "issue" "issues" ++ ")") :=
    .counted (.of_literal (by decide)) (.of_literal (by decide)) (.of_literal (by decide))
      (.of_literal (by decide)) (.of_literal (by decide)) _
  have hrule : Fits oneLine lightRule := fits_rule (by decide) _
  have hempty : Restyled oneLine "" "" := .plain (by decide)
  have hmark : Restyled oneLine "📂 " "📂 " := .plain (by decide)
  have hspace : Restyled oneLine " " " " := .plain (by decide)
  have hheading : RestyledLines oneLine _ _ := .cons hempty
    (.cons (((hmark.append (.paint (.boldColored .cyan) hlabel)).append hspace).append
      (.paint .dim hcounted)) (.cons (.paint .dim hrule) .nil))
  exact List.rel_append hheading (restyled_flatMap fun f hf => restyled_findingLines (h f hf))

theorem restyled_adviceLines {rules : RuleSet}
    (h : ∀ rule ∈ rules.rules, escape ∉ rule.remediation.toList) (r : Report) :
    RestyledLines oneLine (adviceLines false rules r) (adviceLines true rules r) := by
  have htitle : Fits oneLine "RECOMMENDED ACTIONS:" := .of_literal (by decide)
  have hempty : Restyled oneLine "" "" := .plain (by decide)
  have hmark : Restyled oneLine "🎯 " "🎯 " := .plain (by decide)
  have hreview : Restyled oneLine "1. Review each finding to confirm it's a precision issue"
    "1. Review each finding to confirm it's a precision issue" := .plain (by decide)
  have hopening : RestyledLines oneLine _ _ := .cons hempty
    (.cons (hmark.append (.paint .bold htitle)) (.cons hreview .nil))
  refine List.rel_append hopening (List.forall₂_same.2 ?_)
  rw [List.forall_mem_map]
  rintro ⟨hint, i⟩ hmem
  obtain ⟨rule, hrule, rfl⟩ := List.mem_map.1 (List.fst_mem_of_mem_zipIdx hmem)
  have hnumber : Restyled oneLine (toString i) (toString i) := (fits_toString i).restyled
  have hdot : Restyled oneLine ". " ". " := .plain (by decide)
  exact (hnumber.append hdot).append (.plain (h rule (List.mem_of_mem_filter hrule)))

theorem restyled_summaryLines (r : Report) :
    RestyledLines oneLine (summaryLines false r) (summaryLines true r) := by
  have hcount : ∀ title n, escape ∉ title.toList →
      Restyled oneLine (title ++ toString n) (title ++ toString (n : Nat)) := fun title n htitle =>
    Restyled.append (.plain htitle) (fits_toString n).restyled
  have hempty : Restyled oneLine "" "" := .plain (by decide)
  have htotal : Restyled oneLine "Total issues found: " "Total issues found: " := .plain (by decide)
  have htitle : RestyledLines oneLine (titleLines false "📊" "SUMMARY")
    (titleLines true "📊" "SUMMARY") :=
    restyled_titleLines (.of_literal (by decide)) (.of_literal (by decide))
  refine List.rel_append (List.Forall₂.cons hempty htitle) ?_
  exact .cons (hcount _ _ (by decide)) (.cons (hcount _ _ (by decide))
    (.cons (htotal.append (.paint .bold (fits_toString _))) .nil))

theorem restyled_bodyLines {rules : RuleSet} {r : Report} (h : ∀ f ∈ r.findings, f.Paintable oneLine)
    (hrules : ∀ rule ∈ rules.rules, escape ∉ rule.remediation.toList) :
    RestyledLines oneLine (bodyLines false rules r) (bodyLines true rules r) := by
  have hempty : Restyled oneLine "" "" := .plain (by decide)
  have hspace : Restyled oneLine " " " " := .plain (by decide)
  unfold bodyLines
  split
  · have hmark : Fits oneLine "✅" := .of_literal (by decide)
    have hmessage : Fits oneLine noIssuesMessage := .of_literal (by decide)
    exact .cons hempty (.cons (((Restyled.paint _ hmark).append hspace).append (.paint _ hmessage))
      .nil)
  · have hmark : Fits oneLine "❌" := .of_literal (by decide)
    have hfound : Fits oneLine ("FOUND " ++ toString r.total ++ " POTENTIAL PRECISION " ++
        plural r.total "ISSUE" "ISSUES" ++ ":") :=
      .counted (.of_literal (by decide)) (.of_literal (by decide)) (.of_literal (by decide))
        (.of_literal (by decide)) (.of_literal (by decide)) _
    have hnotice : RestyledLines oneLine _ _ := .cons hempty
      (.cons (((Restyled.paint (.colored .red) hmark).append hspace).append
        (.paint (.boldColored .red) hfound)) .nil)
    have hgroups : ∀ g ∈ r.findings.sortedGroups,
        RestyledLines oneLine (groupLines false g) (groupLines true g) := by
      intro g hg
      refine restyled_groupLines ?_ fun f hf => h f (Findings.mem_of_mem_sortedGroup hg hf).1
      obtain ⟨f, hf, hlabel⟩ := Findings.mem_labels.1 (Findings.of_mem_sortedGroups hg).2
      rw [← hlabel]
      exact (h f hf).target
    exact List.rel_append (List.rel_append (List.rel_append hnotice (restyled_flatMap hgroups))
      (restyled_summaryLines r)) (restyled_adviceLines hrules r)

theorem restyled_join {ls ls' : List String} (h : RestyledLines oneLine ls ls') :
    Restyled oneLine (String.join (ls.map (· ++ "\n"))) (String.join (ls'.map (· ++ "\n"))) := by
  induction h with
  | nil => exact .plain (by decide)
  | cons hl _ ih =>
    rw [List.map_cons, List.map_cons, String.join_cons, String.join_cons]
    exact (hl.append (.plain (by decide))).append ih

theorem restyled_text {rules : RuleSet} {r : Report} (h : ∀ f ∈ r.findings, f.Paintable oneLine)
    (hrules : ∀ rule ∈ rules.rules, escape ∉ rule.remediation.toList) :
    Restyled oneLine (r.text false rules) (r.text true rules) :=
  restyled_join (List.rel_append
    (restyled_titleLines (.of_literal (by decide)) (.of_literal (by decide)))
    (restyled_bodyLines h hrules))

end Report

namespace Cli.Context

/-- Colours change nothing but styles, and they do not go beyond the ends of lines. -/
theorem color_only_styles {x y : Context} (hx : x.console.color = true) (hy : y.console.color = false)
    (s : Scanner) {r : Report} (hfindings : ∀ f ∈ r.findings, f.Lacks escape)
    (hrules : ∀ rule ∈ s.rules.rules, escape ∉ rule.remediation.toList) :
    let styled := x.report s .text r
    let plain := y.report s .text r
    shown styled.printed.out = plain.printed.out ∧ escape ∉ plain.printed.out.toList ∧
      ((∀ f ∈ r.findings, f.Lacks '\n') →
        closesLines (tokens styled.printed.out.toList) = true) ∧
      styled.ending = .finished r.exitStatus ∧ plain.ending = .finished r.exitStatus := by
  have hstyled : (x.report s .text r).printed.out = r.text true s.rules := by rw [← hx]; rfl
  have hplain : (y.report s .text r).printed.out = r.text false s.rules := by rw [← hy]; rfl
  have hrestyled : Restyled (∀ f ∈ r.findings, f.Lacks '\n') (r.text false s.rules)
      (r.text true s.rules) :=
    Report.restyled_text (fun f hf => (hfindings f hf).paintable fun hline => hline f hf) hrules
  simp only [hstyled, hplain]
  exact ⟨hrestyled.shown_eq, hrestyled.escape_not_mem, hrestyled.closes, rfl, rfl⟩

/-- Texts that look like parts of sequences. -/
def sequenceParts : Report where
  targets := [⟨"[1m", ⟨[]⟩, .scanned 1 0 2⟩]
  findings := [⟨"[1m", "36m", 7, "[0m", "31"⟩, ⟨"[1m", "m", 8, "0m[", "[31m"⟩]

def sequenceScanner : Scanner :=
  { Scanner.letterScanner with
    rules :=
      { rules := [⟨"31", "x", .one [⟨0x78, 0x78⟩], "", "[0m"⟩]
        ne_nil := by simp
        nodup := by simp } }

def colored (color : Bool) : Context :=
  ⟨Scanner.letterSources [], .orderly 1, ⟨false, color⟩, none, fun _ => true⟩

theorem color_only_styles_sequences :
    (∀ f ∈ sequenceParts.findings, f.Lacks escape ∧ f.Lacks '\n') ∧
      (∀ rule ∈ sequenceScanner.rules.rules, escape ∉ rule.remediation.toList) ∧
      let styled := (colored true).report sequenceScanner .text sequenceParts
      let plain := (colored false).report sequenceScanner .text sequenceParts
      shown styled.printed.out = plain.printed.out ∧
        closesLines (tokens styled.printed.out.toList) = true := by
  have hfindings : ∀ f ∈ sequenceParts.findings, f.Lacks escape ∧ f.Lacks '\n' := by decide
  have hrules : ∀ rule ∈ sequenceScanner.rules.rules, escape ∉ rule.remediation.toList := by decide
  obtain ⟨hshown, -, hcloses, -⟩ := color_only_styles (x := colored true) (y := colored false) rfl rfl
    sequenceScanner (fun f hf => (hfindings f hf).1) hrules
  exact ⟨hfindings, hrules, hshown, hcloses fun f hf => (hfindings f hf).2⟩

end Cli.Context

end ConstantScan
