import ConstantScan.Proofs.Lines
import ConstantScan.Proofs.Utf8
import ConstantScan.Scan.LineMatch
import Mathlib

/-!
# A content is scanned line by line

A content is decoded as a whole and then cut into lines. Cutting its bytes at line ends and decoding
each line alone gives the same lines, whatever is not text in them. So what is found in a line is
found in its bytes.
-/

namespace ConstantScan

abbrev ByteLines : Bytes → List Bytes → Prop := Lines.Cut 0x0D 0x0A

open Lines Utf8

/-! ## Decoding and cutting -/

theorem plain_decode {line : Bytes} (h : Plain 0x0D 0x0A line) : Plain '\r' '\n' (decode line) := by
  intro c hc
  constructor
  · rintro rfl
    exact (h _ (mem_of_mem_decode (by decide) (by decide) hc)).1 rfl
  · rintro rfl
    exact (h _ (mem_of_mem_decode (by decide) (by decide) hc)).2 rfl

theorem decode_append_stop (line : Bytes) {stop rest : Bytes} (h : Stop 0x0D 0x0A stop rest) :
    decode (line ++ stop ++ rest) =
      decode line ++ stop.map (fun b => Char.ofNat b.toNat) ++ decode rest := by
  have hreturn (line rest : Bytes) :
      decode (line ++ 0x0D :: rest) = decode line ++ '\r' :: decode rest :=
    decode_append_cons line (by decide) rest
  have hnewline (line rest : Bytes) :
      decode (line ++ 0x0A :: rest) = decode line ++ '\n' :: decode rest :=
    decode_append_cons line (by decide) rest
  cases h with
  | returnNewline =>
    have hrest := hnewline [] rest
    rw [decode_nil, List.nil_append, List.nil_append] at hrest
    simp [hreturn, hrest]
  | newline => simp [hnewline]
  | «return» => simp [hreturn]

theorem head?_decode_ne {rest : Bytes} {lines : List Bytes} (h : ByteLines rest lines)
    (hnext : rest.head? ≠ some 0x0A) : (decode rest).head? ≠ some '\n' := by
  have hplain {line : Bytes} (hline : Plain 0x0D 0x0A line) : (decode line).head? ≠ some '\n' :=
    fun hhead => (plain_decode hline '\n' (List.mem_of_mem_head? hhead)).2 rfl
  cases h with
  | nil => simp [decode_nil]
  | last _ plain => exact hplain plain
  | @cons line stop rest lines plain ends _ =>
    rw [decode_append_stop line ends, List.append_assoc]
    rcases eq_or_ne line [] with rfl | hline
    · cases ends with
      | returnNewline => simp [decode_nil]
      | newline => simp at hnext
      | «return» => simp [decode_nil]
    · rw [List.head?_append_of_ne_nil _ (mt decode_eq_nil_iff.1 hline)]
      exact hplain plain

/-- The lines of a decoded content are the lines of its bytes, decoded. -/
theorem cut_decode {content : Bytes} {lines : List Bytes} (h : ByteLines content lines) :
    Cut '\r' '\n' (decode content) (lines.map decode) := by
  induction h with
  | nil => exact .nil
  | last ne_nil plain => exact .last (mt decode_eq_nil_iff.1 ne_nil) (plain_decode plain)
  | @cons line stop rest lines plain ends tail ih =>
    rw [decode_append_stop line ends, List.map_cons]
    refine .cons (plain_decode plain) ?_ ih
    cases ends with
    | returnNewline => exact .returnNewline _
    | newline => exact .newline _
    | «return» next => exact .return (head?_decode_ne tail next)

theorem textLines_decode {content : Bytes} {lines : List Bytes} (h : ByteLines content lines) :
    textLines (decode content) = lines.map decode :=
  split_eq_of_cut (by decide) (cut_decode h)

namespace RuleSet

variable (rules : RuleSet)

/-- What the rules find in the line of that number. -/
def lineFindings (line : Bytes) (number : Nat) : List LineMatch :=
  (rules.rules.filter (·.matchesLine (decode line))).map fun rule =>
    { line := number, text := String.ofList (decode line), rule := rule.name }

theorem scan_eq_flatMap {content : Bytes} {lines : List Bytes} (h : ByteLines content lines) :
    rules.scan content =
      (lines.zipIdx 1).flatMap fun (line, number) => rules.lineFindings line number := by
  rw [scan, scanLines, textLines_decode h, List.zipIdx_map, List.flatMap_map]
  rfl

theorem line_of_mem_lineFindings {line : Bytes} {number : Nat} {m : LineMatch}
    (h : m ∈ rules.lineFindings line number) : m.line = number := by
  obtain ⟨rule, -, rfl⟩ := List.mem_map.1 h
  rfl

/-- What is found outside of one line does not depend on that line. -/
theorem filter_flatMap_lineFindings (front back : List Bytes) (line line' : Bytes) :
    (((front ++ line :: back).zipIdx 1).flatMap fun (line, number) =>
        rules.lineFindings line number).filter (·.line ≠ front.length + 1) =
      (((front ++ line' :: back).zipIdx 1).flatMap fun (line, number) =>
        rules.lineFindings line number).filter (·.line ≠ front.length + 1) := by
  have hnone (line : Bytes) : (rules.lineFindings line (1 + front.length)).filter
      (·.line ≠ front.length + 1) = [] := by
    rw [List.filter_eq_nil_iff]
    intro m hm
    simp [rules.line_of_mem_lineFindings hm, Nat.add_comm]
  simp only [List.zipIdx_append, List.zipIdx_cons, List.flatMap_append, List.flatMap_cons,
    List.filter_append, hnone]

/-- A content has lines, it is scanned line by line, each of them decoded alone, and how a line ends
does not matter, nor what stands in the other lines. -/
theorem scan_by_byteLines (content : Bytes) :
    ∃ lines, ByteLines content lines ∧
      (∀ lines', ByteLines content lines' → lines' = lines) ∧
      rules.scan content =
        (lines.zipIdx 1).flatMap (fun (line, number) => rules.lineFindings line number) ∧
      (∀ content', ByteLines content' lines → rules.scan content' = rules.scan content) ∧
      ∀ front line back line' content', lines = front ++ line :: back →
        ByteLines content' (front ++ line' :: back) →
          (rules.scan content').filter (·.line ≠ front.length + 1) =
            (rules.scan content).filter (·.line ≠ front.length + 1) := by
  obtain ⟨lines, hlines⟩ := exists_cut 0x0D 0x0A content
  refine ⟨lines, hlines, ?_, rules.scan_eq_flatMap hlines, ?_, ?_⟩
  · intro lines' hlines'
    rw [← split_eq_of_cut (by decide) hlines', split_eq_of_cut (by decide) hlines]
  · intro content' hcontent'
    rw [rules.scan_eq_flatMap hcontent', rules.scan_eq_flatMap hlines]
  · rintro front line back line' content' rfl hcontent'
    rw [rules.scan_eq_flatMap hcontent', rules.scan_eq_flatMap hlines]
    exact rules.filter_flatMap_lineFindings front back line' line

def crosses : RuleSet where
  rules := [⟨"cross", "x", .one [⟨0x78, 0x78⟩], "", ""⟩]
  ne_nil := by simp
  nodup := by simp

/-- The first line ends in a character that was begun. -/
def brokenContent : Bytes := [0x78, 0xE2, 0x82, 0x0D, 0x0A, 0x78]

theorem scan_by_byteLines_broken :
    crosses.scan [0x78, 0xE2, 0x82, 0x0D, 0x78] = crosses.scan brokenContent ∧
      (crosses.scan [0x79, 0x0A, 0x78]).filter (·.line ≠ 1) =
        (crosses.scan brokenContent).filter (·.line ≠ 1) := by
  obtain ⟨lines, -, hunique, -, hends, hothers⟩ := crosses.scan_by_byteLines brokenContent
  have hlines : lines = [[0x78, 0xE2, 0x82], [0x78]] :=
    (hunique _ ((cut_iff (by decide)).2 (by decide))).symm
  subst hlines
  constructor
  · exact hends _ ((cut_iff (by decide)).2 (by decide))
  · exact hothers [] _ _ [0x79] _ rfl ((cut_iff (by decide)).2 (by decide))

example : (crosses.scan brokenContent).map (fun m => (m.line, m.text)) =
    [(1, "x\uFFFD"), (2, "x")] := by cbv

end RuleSet

end ConstantScan
