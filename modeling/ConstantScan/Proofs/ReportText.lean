import ConstantScan.Proofs.Grouping
import ConstantScan.Proofs.Numerals

/-!
# Reports for people read back

A report without colours marks nothing as quoted. Still the findings can be told from its text, target
by target: the lines of a finding come in pairs, an empty line ends those of a target, and where a field
of a line ends is told from the end of the line.
-/

namespace ConstantScan

/-! ## Cutting lines -/

/-- What stands before the last `sep` and what after it. -/
def cutLast (sep : List Char) : List Char → Option (List Char × List Char)
  | [] => none
  | c :: cs =>
    match cutLast sep cs with
    | some (front, back) => some (c :: front, back)
    | none => if sep.isPrefixOf (c :: cs) then some ([], (c :: cs).drop sep.length) else none

theorem cutLast_eq_none {sep cs : List Char} (h : ¬ sep <:+: cs) : cutLast sep cs = none := by
  induction cs with
  | nil => rfl
  | cons c cs ih =>
    rw [List.infix_cons_iff, not_or] at h
    rw [cutLast, ih h.2]
    simp [h.1]

/-- The last separator is the one behind which none begins. -/
theorem cutLast_append {c : Char} {sep back : List Char} (h : ¬ c :: sep <:+: sep ++ back)
    (front : List Char) : cutLast (c :: sep) (front ++ (c :: sep ++ back)) = some (front, back) := by
  induction front with
  | nil =>
    rw [List.nil_append, List.cons_append, cutLast, cutLast_eq_none h]
    simp
  | cons d front ih => rw [List.cons_append, cutLast, ih]

def leadingNumber (cs : List Char) : Nat := Decimal.ofDigits (Decimal.spanDigits cs).1

theorem leadingNumber_toString (n : Nat) {rest : List Char} (h : Stops Char.isDigit rest) :
    leadingNumber ((toString n).toList ++ rest) = n := by
  rw [leadingNumber, Decimal.toList_toString, Decimal.spanDigits_toDigits n h,
    Decimal.ofDigits_toDigits]

def numberAfter (title : String) (line : List Char) : Nat := leadingNumber (line.drop title.length)

theorem numberAfter_toString (title : String) (n : Nat) {rest : List Char}
    (h : Stops Char.isDigit rest) :
    numberAfter title (title.toList ++ ((toString n).toList ++ rest)) = n := by
  rw [numberAfter, ← String.length_toList, List.drop_left, leadingNumber_toString n h]

/-- Lines that are closed are told from what comes behind them. -/
theorem splitOn_closed {ls : List (List Char)} (h : ∀ l ∈ ls, '\n' ∉ l) (rest : List Char) :
    (ls.flatMap (· ++ ['\n']) ++ rest).splitOn '\n' = ls ++ rest.splitOn '\n' := by
  induction ls with
  | nil => rfl
  | cons l ls ih =>
    obtain ⟨hl, hls⟩ := List.forall_mem_cons.1 h
    have hother : ∀ c ∈ l, (c == '\n') = false := by
      intro c hc
      rw [beq_eq_false_iff_ne]
      rintro rfl
      exact hl hc
    rw [List.flatMap_cons, List.append_assoc, List.append_assoc, List.singleton_append,
      List.splitOn_eq_splitOnP, List.splitOnP_append_cons_of_forall_mem hother '\n' (by rfl),
      ← List.splitOn_eq_splitOnP, ih hls, List.cons_append]

/-! ## Reading -/

structure PrintedGroup where
  label : String
  /-- The number in the heading. -/
  count : Nat
  findings : List Finding
  deriving DecidableEq, Repr

inductive TextReading
  | clean
  | issues (found : Nat) (groups : List PrintedGroup) (configured withIssues total : Nat)
  deriving DecidableEq, Repr

namespace TextReading

/-- Every heading counts the findings under it, and the counts make up both totals. -/
def AddsUp : TextReading → Prop
  | clean => True
  | issues found groups _ withIssues total =>
    (∀ g ∈ groups, g.count = g.findings.length) ∧ groups.length = withIssues ∧
      (groups.map PrintedGroup.count).sum = found ∧ (groups.map PrintedGroup.count).sum = total

def finding? (label : String) (place text : List Char) : Option Finding := do
  let (front, rule) ← cutLast " [".toList (place.drop 2)
  let (file, line) ← cutLast ":".toList front
  return {
    target := label
    file := .ofList file
    line := Decimal.ofDigits line
    text := .ofList (text.drop 6)
    rule := .ofList rule.dropLast }

/-- The findings up to an empty line. -/
def findings? (label : String) : List (List Char) → Option (List Finding × List (List Char))
  | [] :: rest => some ([], [] :: rest)
  | place :: text :: rest => do
    let f ← finding? label place text
    let (fs, rest) ← findings? label rest
    return (f :: fs, rest)
  | _ => none

/-- The groups up to the title of the summary. -/
def groups? : (fuel : Nat) → List (List Char) → Option (List PrintedGroup × List (List Char))
  | fuel + 1, _ :: heading :: _ :: rest =>
    if heading = Report.heavyRule.toList then some ([], rest)
    else do
      let (label, counted) ← cutLast " (".toList (heading.drop 2)
      let (findings, rest) ← findings? (.ofList label) rest
      let (groups, rest) ← groups? fuel rest
      return (⟨.ofList label, leadingNumber counted, findings⟩ :: groups, rest)
  | _, _ => none

/-- The groups and the numbers of the summary. -/
def issues? (notice : List Char) (lines : List (List Char)) : Option TextReading := do
  match ← groups? lines.length lines with
  | (groups, _ :: configured :: withIssues :: total :: _) =>
    return .issues (numberAfter " FOUND " notice) groups
      (numberAfter "Targets scanned: " configured)
      (numberAfter "Targets with issues: " withIssues)
      (numberAfter "Total issues found: " total)
  | _ => none

def ofLines? : List (List Char) → Option TextReading
  | _ :: _ :: _ :: _ :: ('❌' :: notice) :: lines => issues? notice lines
  | _ :: _ :: _ :: _ :: ('✅' :: _) :: _ => some .clean
  | _ => none

def ofText? (text : String) : Option TextReading := ofLines? (text.toList.splitOn '\n')

end TextReading

/-! ## Lines -/

/-- Nothing of the finding breaks its lines, and no name of a rule looks as if one began in it. -/
structure Finding.OneLine (f : Finding) : Prop where
  target : '\n' ∉ f.target.toList
  file : '\n' ∉ f.file.toList
  text : '\n' ∉ f.text.toList
  rule : '\n' ∉ f.rule.toList
  bracket : ¬ " [".toList <:+: f.rule.toList

instance (f : Finding) : Decidable f.OneLine :=
  decidable_of_iff ('\n' ∉ f.target.toList ∧ '\n' ∉ f.file.toList ∧ '\n' ∉ f.text.toList ∧
      '\n' ∉ f.rule.toList ∧ ¬ " [".toList <:+: f.rule.toList)
    ⟨fun ⟨target, file, text, rule, bracket⟩ => ⟨target, file, text, rule, bracket⟩,
      fun h => ⟨h.target, h.file, h.text, h.rule, h.bracket⟩⟩

namespace Report

def placeLine (f : Finding) : List Char :=
  ' ' :: ' ' :: (f.file.toList ++ (':' :: ((toString f.line).toList ++
    (' ' :: '[' :: (f.rule.toList ++ [']'])))))

def textLine (f : Finding) : List Char := "      ".toList ++ f.text.toList

def headingLine (g : TargetGroup) : List Char :=
  '📂' :: ' ' :: (g.label.toList ++ (' ' :: '(' :: ((toString g.findings.length).toList ++
    (' ' :: ((plural g.findings.length "issue" "issues").toList ++ [')'])))))

theorem toList_findingLines (f : Finding) :
    (findingLines false f).map String.toList = [placeLine f, textLine f] := by
  simp [findingLines, Style.paint_off, placeLine, textLine]

theorem toList_groupLines (g : TargetGroup) :
    (groupLines false g).map String.toList = [] :: headingLine g :: lightRule.toList ::
      g.findings.flatMap fun f => [placeLine f, textLine f] := by
  simp only [groupLines, Style.paint_off, List.map_append, List.map_flatMap, toList_findingLines]
  simp [headingLine]

end Report

/-! ## What is read of the lines -/

namespace TextReading

open Report

theorem finding?_lines {f : Finding} (h : f.OneLine) :
    finding? f.target (placeLine f) (textLine f) = some f := by
  have hname : ¬ ' ' :: ['['] <:+: ['['] ++ (f.rule.toList ++ [']']) := by
    rw [List.singleton_append, List.infix_cons_iff, not_or]
    refine ⟨by simp, fun hinfix => ?_⟩
    rcases List.infix_concat_iff.1 hinfix with hsuffix | hrule
    · have hlast := hsuffix.getLast (by simp)
      simp at hlast
    · exact h.bracket hrule
  have hline : ¬ ':' :: [] <:+: [] ++ (toString f.line).toList := by
    intro hinfix
    have hmem := hinfix.subset List.mem_cons_self
    exact absurd (Decimal.isDigit_of_mem_toString hmem) (by decide)
  have hplace : (placeLine f).drop 2 = (f.file.toList ++ (':' :: [] ++ (toString f.line).toList)) ++
      (' ' :: ['['] ++ (f.rule.toList ++ [']'])) := by
    simp [placeLine]
  have hnumber : Decimal.ofDigits (toString f.line).toList = f.line := by
    rw [Decimal.toList_toString, Decimal.ofDigits_toDigits]
  rw [finding?, hplace]
  simp only [show " [".toList = ' ' :: ['['] from rfl, show ":".toList = ':' :: [] from rfl,
    cutLast_append hname, cutLast_append hline, Option.bind_eq_bind, Option.bind_some, hnumber]
  simp [textLine]

theorem findings?_lines {label : String} {fs : List Finding}
    (h : ∀ f ∈ fs, f.OneLine ∧ f.target = label) (rest : List (List Char)) :
    findings? label ((fs.flatMap fun f => [placeLine f, textLine f]) ++ [] :: rest) =
      some (fs, [] :: rest) := by
  induction fs with
  | nil => rfl
  | cons f fs ih =>
    obtain ⟨⟨hline, rfl⟩, hfs⟩ := List.forall_mem_cons.1 h
    have hplace : placeLine f ≠ [] := List.cons_ne_nil _ _
    rw [List.flatMap_cons, List.append_assoc, List.cons_append, List.singleton_append,
      findings?, finding?_lines hline]
    · simp [ih hfs]
    · exact hplace

def printed (g : TargetGroup) : PrintedGroup := ⟨g.label, g.findings.length, g.findings⟩

theorem cutLast_heading (g : TargetGroup) : ∃ counted,
    cutLast " (".toList ((headingLine g).drop 2) = some (g.label.toList, counted) ∧
      leadingNumber counted = g.findings.length := by
  refine ⟨(toString g.findings.length).toList ++
    (' ' :: ((plural g.findings.length "issue" "issues").toList ++ [')'])), ?_,
    leadingNumber_toString _ (stops_cons.2 (by decide))⟩
  have hcounted : ¬ ' ' :: ['('] <:+: ['('] ++ ((toString g.findings.length).toList ++
      (' ' :: ((plural g.findings.length "issue" "issues").toList ++ [')']))) := by
    rw [List.singleton_append, List.infix_cons_iff, not_or]
    refine ⟨by simp, fun hinfix => ?_⟩
    have hmem := hinfix.subset (List.mem_cons_of_mem ' ' List.mem_cons_self)
    rw [List.mem_append, List.mem_cons, List.mem_append] at hmem
    rcases hmem with hdigits | hspace | hnoun | hclosed
    · exact absurd (Decimal.isDigit_of_mem_toString hdigits) (by decide)
    · exact absurd hspace (by decide)
    · unfold plural at hnoun
      split at hnoun <;> exact absurd hnoun (by decide)
    · exact absurd hclosed (by decide)
  exact cutLast_append hcounted g.label.toList

theorem groups?_lines {gs : List TargetGroup} {fuel : Nat}
    (h : ∀ g ∈ gs, ∀ f ∈ g.findings, f.OneLine ∧ f.target = g.label) (hfuel : gs.length < fuel)
    (title : List Char) (rest : List (List Char)) :
    groups? fuel ((gs.flatMap fun g => (groupLines false g).map String.toList) ++
      [] :: heavyRule.toList :: title :: rest) = some (gs.map printed, rest) := by
  induction gs generalizing fuel with
  | nil =>
    obtain ⟨fuel, rfl⟩ := Nat.exists_eq_add_one.2 hfuel
    rw [List.flatMap_nil, List.nil_append, groups?, if_pos rfl]
    rfl
  | cons g gs ih =>
    obtain ⟨hg, hgs⟩ := List.forall_mem_cons.1 h
    obtain ⟨fuel, rfl⟩ := Nat.exists_eq_add_one.2 (Nat.zero_lt_of_lt hfuel)
    have ih := ih hgs (Nat.lt_of_succ_lt_succ hfuel)
    -- what comes behind a group begins with an empty line, be it a group or the summary
    obtain ⟨more, hmore⟩ : ∃ more, ((gs.flatMap fun g => (groupLines false g).map String.toList) ++
        [] :: heavyRule.toList :: title :: rest) = [] :: more := by
      cases gs with
      | nil => exact ⟨_, rfl⟩
      | cons g' gs => exact ⟨_, by rw [List.flatMap_cons, toList_groupLines]; rfl⟩
    obtain ⟨counted, hcut, hcount⟩ := cutLast_heading g
    have hheading : headingLine g ≠ heavyRule.toList := by
      intro heq
      have hhead : some '📂' = heavyRule.toList.head? := congrArg List.head? heq
      exact absurd hhead (by decide)
    rw [hmore] at ih
    rw [List.flatMap_cons, List.append_assoc, hmore, toList_groupLines, List.cons_append,
      List.cons_append, List.cons_append, groups?, if_neg hheading, hcut]
    simp only [Option.bind_eq_bind, Option.bind_some, String.ofList_toList, findings?_lines hg, ih,
      hcount]
    rfl

end TextReading

/-! ## Whole reports -/

namespace Report

open TextReading

/-- What there is to be read in the text of a report. -/
def reading (r : Report) : TextReading :=
  if r.isClean then .clean
  else .issues r.total (r.findings.sortedGroups.map printed) r.targets.length r.targetsWithIssues
    r.total

theorem reading_addsUp (r : Report) : r.reading.AddsUp := by
  unfold reading
  split
  · trivial
  have hsum : ((r.findings.sortedGroups.map printed).map PrintedGroup.count).sum = r.total := by
    rw [List.map_map]
    exact Findings.sum_length_sortedGroups r.findings
  refine ⟨?_, ?_, hsum, hsum⟩
  · intro g hg
    obtain ⟨_, -, rfl⟩ := List.mem_map.1 hg
    rfl
  · rw [List.length_map]
    exact (Findings.sortedGroups_perm r.findings).length_eq

theorem printed_injective : Function.Injective printed := by
  rintro ⟨label, findings⟩ ⟨label', findings'⟩ h
  obtain ⟨rfl, -, rfl⟩ := PrintedGroup.mk.inj h
  rfl

theorem reading_inj {r r' : Report} (h : r.reading = r'.reading) :
    r.isClean = r'.isClean ∧ r.findings.sortedGroups = r'.findings.sortedGroups ∧
      (r.isClean = false → r.targets.length = r'.targets.length) := by
  unfold reading at h
  split at h <;> split at h
  · next hr hr' =>
    have hnone : r.findings = [] := List.isEmpty_iff.1 hr
    have hnone' : r'.findings = [] := List.isEmpty_iff.1 hr'
    rw [isClean, isClean, hnone, hnone']
    exact ⟨rfl, rfl, fun hne => absurd hne (by decide)⟩
  · exact absurd h (by simp)
  · exact absurd h (by simp)
  · next hr hr' =>
    obtain ⟨-, hgroups, htargets, -⟩ := TextReading.issues.inj h
    rw [Bool.not_eq_true] at hr hr'
    exact ⟨by rw [hr, hr'], List.map_injective_iff.2 printed_injective hgroups, fun _ => htargets⟩

def noticeLine (r : Report) : List Char :=
  '❌' :: (" FOUND ".toList ++ ((toString r.total).toList ++
    (" POTENTIAL PRECISION ".toList ++ ((plural r.total "ISSUE" "ISSUES").toList ++ [':']))))

def countLine (title : String) (n : Nat) : List Char := title.toList ++ ((toString n).toList ++ [])

def titleChars (mark title : String) : List (List Char) :=
  (titleLines false mark title).map String.toList

def openingLines (r : Report) : List (List Char) :=
  titleChars "🔍" "HARDCODED CONSTANT SCAN RESULTS" ++ [[], r.noticeLine]

def groupsLines (r : Report) : List (List Char) :=
  r.findings.sortedGroups.flatMap fun g => (groupLines false g).map String.toList

def closingLines (r : Report) : List (List Char) :=
  [] :: (titleChars "📊" "SUMMARY" ++ [countLine "Targets scanned: " r.targets.length,
    countLine "Targets with issues: " r.targetsWithIssues,
    countLine "Total issues found: " r.total])

theorem toList_join_closed (ls : List String) :
    (String.join (ls.map (· ++ "\n"))).toList = (ls.map String.toList).flatMap (· ++ ['\n']) := by
  simp [List.flatMap, List.map_map, Function.comp_def]

theorem toList_text {r : Report} (h : r.isClean = false) (rules : RuleSet) :
    ∃ advice, (r.text false rules).toList =
      (r.openingLines ++ (r.groupsLines ++ r.closingLines)).flatMap (· ++ ['\n']) ++ advice := by
  refine ⟨((adviceLines false rules r).map String.toList).flatMap (· ++ ['\n']), ?_⟩
  rw [text, toList_join_closed, ← List.flatMap_append]
  congr 1
  simp [bodyLines, h, openingLines, groupsLines, closingLines, titleChars, summaryLines, noticeLine,
    countLine, Style.paint_off, List.map_flatMap]

theorem not_mem_plural {c : Char} {one many : String} (hone : c ∉ one.toList)
    (hmany : c ∉ many.toList) (n : Nat) : c ∉ (plural n one many).toList := by
  unfold plural
  split
  · exact hone
  · exact hmany

theorem newline_not_mem_countLine {title : String} (h : '\n' ∉ title.toList) (n : Nat) :
    '\n' ∉ countLine title n := by
  rw [countLine, List.append_nil, List.mem_append, not_or]
  exact ⟨h, Decimal.not_mem_toString (by decide) n⟩

theorem newline_not_mem_openingLines (r : Report) : ∀ l ∈ r.openingLines, '\n' ∉ l := by
  rw [openingLines, List.forall_mem_append, List.forall_mem_cons, List.forall_mem_singleton]
  refine ⟨by decide, List.not_mem_nil, ?_⟩
  have hnoun : '\n' ∉ (plural r.total "ISSUE" "ISSUES").toList :=
    not_mem_plural (by decide) (by decide) _
  simp only [noticeLine, List.mem_cons, List.mem_append, not_or]
  exact ⟨by decide, by decide, Decimal.not_mem_toString (by decide) _, by decide, hnoun, by decide,
    List.not_mem_nil⟩

theorem newline_not_mem_groupLines {g : TargetGroup} (hlabel : '\n' ∉ g.label.toList)
    (h : ∀ f ∈ g.findings, f.OneLine) :
    ∀ l ∈ (groupLines false g).map String.toList, '\n' ∉ l := by
  rw [toList_groupLines, List.forall_mem_cons, List.forall_mem_cons, List.forall_mem_cons]
  refine ⟨List.not_mem_nil, ?_, ?_, ?_⟩
  · have hnoun : '\n' ∉ (plural g.findings.length "issue" "issues").toList :=
      not_mem_plural (by decide) (by decide) _
    simp only [headingLine, List.mem_cons, List.mem_append, not_or]
    exact ⟨by decide, by decide, hlabel, by decide, by decide,
      Decimal.not_mem_toString (by decide) _, by decide, hnoun, by decide, List.not_mem_nil⟩
  · rw [lightRule, String.toList_ofList]
    intro hmem
    exact absurd (List.eq_of_mem_replicate hmem) (by decide)
  · intro l hl
    obtain ⟨f, hf, hl⟩ := List.mem_flatMap.1 hl
    rw [List.mem_pair] at hl
    rcases hl with rfl | rfl
    · simp only [placeLine, List.mem_cons, List.mem_append, not_or]
      exact ⟨by decide, by decide, (h f hf).file, by decide,
        Decimal.not_mem_toString (by decide) _, by decide, by decide, (h f hf).rule, by decide,
        List.not_mem_nil⟩
    · rw [textLine, List.mem_append, not_or]
      exact ⟨by decide, (h f hf).text⟩

theorem newline_not_mem_closingLines (r : Report) : ∀ l ∈ r.closingLines, '\n' ∉ l := by
  rw [closingLines, List.forall_mem_cons, List.forall_mem_append]
  refine ⟨List.not_mem_nil, by decide, ?_⟩
  rw [List.forall_mem_cons, List.forall_mem_cons, List.forall_mem_singleton]
  exact ⟨newline_not_mem_countLine (by decide) _, newline_not_mem_countLine (by decide) _,
    newline_not_mem_countLine (by decide) _⟩

/-- The lines of the groups alone are fuel enough to read as many groups. -/
theorem length_sortedGroups_le (r : Report) :
    r.findings.sortedGroups.length ≤ r.groupsLines.length := by
  rw [groupsLines, List.length_flatMap]
  refine le_of_eq_of_le (by rw [List.length_map]) (List.length_le_sum_of_one_le _ ?_)
  intro n hn
  obtain ⟨g, -, rfl⟩ := List.mem_map.1 hn
  rw [toList_groupLines]
  exact Nat.le_add_left 1 _

theorem ofLines?_lines {r : Report} (h : ∀ f ∈ r.findings, f.OneLine) (hclean : r.isClean = false)
    (more : List (List Char)) :
    ofLines? (r.openingLines ++ (r.groupsLines ++ r.closingLines) ++ more) = some r.reading := by
  have hfuel :
      r.findings.sortedGroups.length < (r.groupsLines ++ r.closingLines ++ more).length := by
    have hgroups := r.length_sortedGroups_le
    rw [List.length_append, List.length_append, closingLines, List.length_cons]
    omega
  have hfindings : ∀ g ∈ r.findings.sortedGroups, ∀ f ∈ g.findings, f.OneLine ∧ f.target = g.label :=
    fun g hg f hf => (Findings.mem_of_mem_sortedGroup hg hf).imp_left (h f)
  have hread := groups?_lines hfindings hfuel "📊 SUMMARY".toList
    (heavyRule.toList :: countLine "Targets scanned: " r.targets.length ::
      countLine "Targets with issues: " r.targetsWithIssues ::
      countLine "Total issues found: " r.total :: more)
  have hlines : r.groupsLines ++ r.closingLines ++ more =
      (r.findings.sortedGroups.flatMap fun g => (groupLines false g).map String.toList) ++
        [] :: heavyRule.toList :: "📊 SUMMARY".toList :: heavyRule.toList ::
          countLine "Targets scanned: " r.targets.length ::
          countLine "Targets with issues: " r.targetsWithIssues ::
          countLine "Total issues found: " r.total :: more := by
    rw [List.append_assoc]
    rfl
  have hfound : numberAfter " FOUND " r.noticeLine.tail = r.total :=
    numberAfter_toString _ _ (stops_cons.2 (by decide))
  have hcount : ∀ title n, numberAfter title (countLine title n) = n := fun title n =>
    numberAfter_toString title n (stops_nil _)
  rw [← hlines] at hread
  change issues? r.noticeLine.tail (r.groupsLines ++ r.closingLines ++ more) = _
  rw [issues?, hread]
  simp only [Option.bind_eq_bind, Option.bind_some, hfound, hcount, reading, hclean]
  rfl

theorem newline_not_mem_groupsLines {r : Report} (h : ∀ f ∈ r.findings, f.OneLine) :
    ∀ l ∈ r.groupsLines, '\n' ∉ l := by
  intro l hl
  obtain ⟨g, hg, hl⟩ := List.mem_flatMap.1 hl
  obtain ⟨f, hf, hlabel⟩ := Findings.mem_labels.1 (Findings.of_mem_sortedGroups hg).2
  refine newline_not_mem_groupLines ?_ ?_ l hl
  · rw [← hlabel]
    exact (h f hf).target
  · intro f hf
    exact h f (Findings.mem_of_mem_sortedGroup hg hf).1

theorem ofText?_text {r : Report} (h : ∀ f ∈ r.findings, f.OneLine) (rules : RuleSet) :
    ofText? (r.text false rules) = some r.reading := by
  cases hclean : r.isClean with
  | true =>
    have htext : (r.text false rules).toList =
        (titleChars "🔍" "HARDCODED CONSTANT SCAN RESULTS" ++
          [[], ("✅ " ++ noIssuesMessage).toList]).flatMap (· ++ ['\n']) ++ [] := by
      rw [text, toList_join_closed, List.append_nil]
      simp [bodyLines, hclean, titleChars, Style.paint_off]
    rw [ofText?, htext, splitOn_closed (by decide)]
    simp only [reading, hclean]
    rfl
  | false =>
    obtain ⟨advice, htext⟩ := toList_text hclean rules
    rw [ofText?, htext, splitOn_closed ?_, ofLines?_lines h hclean]
    rw [List.forall_mem_append, List.forall_mem_append]
    exact ⟨newline_not_mem_openingLines r, newline_not_mem_groupsLines h,
      newline_not_mem_closingLines r⟩

/-- Names, labels and lines may look like any part of a report: its text is read in one way only. -/
theorem text_lossless {r : Report} (h : ∀ f ∈ r.findings, f.OneLine) (rules : RuleSet) :
    ofText? (r.text false rules) = some r.reading ∧ r.reading.AddsUp ∧
      (r.findings.sortedGroups.Pairwise fun a b => a.label < b.label) ∧
      (∀ g ∈ r.findings.sortedGroups, g.findings = r.findings.ofTarget g.label) ∧
      ∀ (r' : Report) (rules' : RuleSet), (∀ f ∈ r'.findings, f.OneLine) →
        r.text false rules = r'.text false rules' →
          r.isClean = r'.isClean ∧ r.findings.sortedGroups = r'.findings.sortedGroups ∧
            (r.isClean = false → r.targets.length = r'.targets.length) := by
  have hread := ofText?_text h rules
  refine ⟨hread, r.reading_addsUp, Findings.sortedGroups_strict _,
    fun g hg => (Findings.of_mem_sortedGroups hg).1, ?_⟩
  intro r' rules' h' htext
  rw [htext, ofText?_text h' rules', Option.some_inj] at hread
  exact reading_inj hread.symm

/-- Fields that look like a place, a heading, a separator and a summary. -/
def imitating : Report where
  targets := [⟨"b (2 issues)", ⟨[]⟩, .scanned 1 0 1⟩, ⟨"a", ⟨[]⟩, .scanned 1 0 2⟩]
  findings := [
    ⟨"b (2 issues)", "x.py:1 [y", 10, "📂 a (1 issue)", "]"⟩,
    ⟨"a", "", 2, "======", "e:3 (["⟩,
    ⟨"a", "Total issues found: 7", 1, "  x.py:1 [y]", ""⟩]

theorem text_lossless_imitating : (∀ f ∈ imitating.findings, f.OneLine) ∧
    ofText? (imitating.text false Scanner.letterScanner.rules) = some (.issues 3 [
      ⟨"a", 2, imitating.findings.drop 1⟩, ⟨"b (2 issues)", 1, imitating.findings.take 1⟩] 2 2 3) := by
  have hlines : ∀ f ∈ imitating.findings, f.OneLine := by decide
  obtain ⟨hread, -⟩ := text_lossless hlines Scanner.letterScanner.rules
  have hgroups : imitating.findings.groups = [⟨"b (2 issues)", imitating.findings.take 1⟩,
      ⟨"a", imitating.findings.drop 1⟩] := by decide +kernel
  have hsorted : imitating.findings.sortedGroups = [⟨"a", imitating.findings.drop 1⟩,
      ⟨"b (2 issues)", imitating.findings.take 1⟩] := by
    rw [Findings.sortedGroups, hgroups]
    simp [List.mergeSort, show ¬ "b (2 issues)" ≤ "a" by decide]
  refine ⟨hlines, ?_⟩
  rw [hread, reading, hsorted]
  decide +kernel

end Report

end ConstantScan
