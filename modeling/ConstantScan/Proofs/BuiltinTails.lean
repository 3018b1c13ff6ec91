import ConstantScan.Proofs.BuiltinShapes

/-!
# Tails of longer names and numbers

Two of the built-in rules take the character before a constant, so that the tail of a longer name or
number is not reported. The digits are not among the characters that they refuse there: a tail that
stands behind a digit is reported all the same.
-/

namespace ConstantScan

/-- A letter or digit of ASCII, or an underscore. -/
def isIdentifierChar (c : Char) : Bool := c.isAlphanum || c == '_'

theorem isIdentifierChar_eq (c : Char) : isIdentifierChar c = (isNameChar c || c.isDigit) := by
  rw [isIdentifierChar, isNameChar, Char.isAlphanum, Bool.or_right_comm]

theorem isNameChar_eq_false_of_isDigit {c : Char} (h : c.isDigit = true) : isNameChar c = false := by
  have halpha : c.isAlpha = false := by
    grind [Char.isDigit, Char.isAlpha, Char.isUpper, Char.isLower]
  have hunderscore : (c == '_') = false := by
    rw [beq_eq_false_iff_ne]
    rintro rfl
    exact absurd h (by decide)
  rw [isNameChar, halpha, hunderscore, Bool.or_false]

/-! ## Occurrences -/

/-- The parts stand in the line, and `before` holds of the character in front of them, if any. -/
def OccursAfter (before : Option Char → Bool) (ps : List Part) (line : List Char) : Prop :=
  ∃ pre mid post, line = pre ++ mid ++ post ∧ Spells ps mid ∧ before pre.getLast? = true

/-- They are not the tail of anything. -/
def OccursApart : List Part → List Char → Prop := OccursAfter fun left => !left.any isIdentifierChar

def OccursBehindDigit : List Part → List Char → Prop := OccursAfter fun left => left.any Char.isDigit

/-- An occurrence that the expression accepts is no tail, or a tail behind a digit. -/
theorem isIn_iff_occurs {ps : List Part} {line : List Char} :
    Shape.IsIn ⟨ps, true⟩ line ↔ OccursApart ps line ∨ OccursBehindDigit ps line := by
  have hname (left : Option Char) : (∀ c ∈ left, isNameChar c = false) ↔
      (!left.any isIdentifierChar) = true ∨ left.any Char.isDigit = true := by
    cases left with
    | none => simp
    | some c =>
      have hdigit : c.isDigit = true → isNameChar c = false := isNameChar_eq_false_of_isDigit
      cases hc : c.isDigit <;> simp_all [isIdentifierChar_eq]
  simp only [Shape.IsIn, forall_const, hname, and_or_left, exists_or]
  rfl

/-! ## Looking for occurrences -/

instance : (p : Part) → (cs : List Char) → Decidable (p.Fits cs)
  | .text s, cs => inferInstanceAs (Decidable (cs = s.toList))
  | .blanks, cs => decidable_of_iff (cs.all Unicode.isBlank = true) List.all_eq_true
  | .digits, cs => decidable_of_iff (cs.all Char.isDigit = true) List.all_eq_true

theorem spells_cons_iff {p : Part} {ps : List Part} {cs : List Char} :
    Spells (p :: ps) cs ↔
      ∃ n < cs.length + 1, p.Fits (cs.take n) ∧ Spells ps (cs.drop n) := by
  constructor
  · rintro ⟨front, back, rfl, hfront, hback⟩
    refine ⟨front.length, by simp, ?_, ?_⟩
    · rwa [List.take_left]
    · rwa [List.drop_left]
  · rintro ⟨n, -, hfront, hback⟩
    exact ⟨cs.take n, cs.drop n, (List.take_append_drop n cs).symm, hfront, hback⟩

instance decidableSpells : (ps : List Part) → (cs : List Char) → Decidable (Spells ps cs)
  | [], cs => inferInstanceAs (Decidable (cs = []))
  | _ :: ps, _ =>
    have := decidableSpells ps
    decidable_of_iff' _ spells_cons_iff

theorem occursAfter_iff {before : Option Char → Bool} {ps : List Part} {line : List Char} :
    OccursAfter before ps line ↔ ∃ i < line.length + 1, before (line.take i).getLast? = true ∧
      ∃ n < line.length + 1, Spells ps ((line.drop i).take n) := by
  constructor
  · rintro ⟨pre, mid, post, rfl, hmid, hbefore⟩
    refine ⟨pre.length, by simp, ?_, mid.length, by simp; omega, ?_⟩
    · rwa [List.append_assoc, List.take_left]
    · rwa [List.append_assoc, List.drop_left, List.take_left]
  · rintro ⟨i, -, hbefore, n, -, hmid⟩
    refine ⟨line.take i, (line.drop i).take n, (line.drop i).drop n, ?_, hmid, hbefore⟩
    rw [List.append_assoc, List.take_append_drop, List.take_append_drop]

instance (ps : List Part) (line : List Char) : Decidable (OccursApart ps line) :=
  decidable_of_iff' _ occursAfter_iff

instance (ps : List Part) (line : List Char) : Decidable (OccursBehindDigit ps line) :=
  decidable_of_iff' _ occursAfter_iff

/-! ## The rules -/

def powerParts : List Part := [.text "2.71", .digits, .blanks, .text "**"]

def assignmentParts : List Part := [.text "e", .blanks, .text "=", .blanks, .text "2.71"]

namespace RuleSet

theorem find?_builtin {set : RuleSet} (h : builtin = .ok set) {name : String} {shape : Shape}
    (hshape : (name, shape) ∈ builtinShapes) :
    ∃ rule, set.find? name = some rule ∧
      ∀ line, rule.matchesLine line = true ↔ shape.IsIn line := by
  obtain ⟨source, hsource, hname, written, hregex, hwritten⟩ :=
    exists_mem_of_forall₂ regex_builtin hshape
  obtain ⟨rule, hrule, hread⟩ := exists_mem_of_forall₂ (rules_of_builtin h).flip hsource
  obtain ⟨regex, hregex', rfl⟩ := RuleSource.read_eq_ok_iff.1 hread
  obtain rfl := Option.some.inj (hregex.symm.trans (Regex.read_eq_ok_iff.1 hregex'))
  refine ⟨_, hname ▸ find?_of_mem hrule, fun line => ?_⟩
  exact (written.isFoundIn_regex line).trans (hwritten line)

/-- The two rules report a line just where the constant stands apart or behind a digit. So a line
without a constant that stands apart is reported if, and only if, it has a tail behind a digit. -/
theorem tails_behind_digits (line : List Char) : ∃ set, builtin = .ok set ∧
    ∀ e ∈ [("python_exp", powerParts), ("direct_const", assignmentParts)],
      ∃ rule, set.find? e.1 = some rule ∧
        (rule.matchesLine line = true ↔ OccursApart e.2 line ∨ OccursBehindDigit e.2 line) ∧
        ((rule.matchesLine line = true → OccursApart e.2 line) ↔
          (OccursBehindDigit e.2 line → OccursApart e.2 line)) := by
  obtain ⟨set, hset⟩ := exists_builtin Regex.readsBuiltin_read
  have hshapes : ∀ e ∈ [("python_exp", powerParts), ("direct_const", assignmentParts)],
      (e.1, Shape.mk e.2 true) ∈ builtinShapes := by
    simp [builtinShapes, powerParts, assignmentParts]
  refine ⟨set, hset, fun e he => ?_⟩
  obtain ⟨rule, hrule, hmatches⟩ := find?_builtin hset (hshapes e he)
  have hiff := (hmatches line).trans isIn_iff_occurs
  exact ⟨rule, hrule, hiff, by rw [hiff, or_imp, and_iff_right id]⟩

/-- The tails of the name `x1e` and of the name `v12` with a fraction. -/
theorem not_tails_unreported : ∃ set, builtin = .ok set ∧
    (∃ rule, set.find? "direct_const" = some rule ∧
      rule.matchesLine "x1e = 2.718".toList = true ∧
        ¬ OccursApart assignmentParts "x1e = 2.718".toList) ∧
    ∃ rule, set.find? "python_exp" = some rule ∧
      rule.matchesLine "y = v12.718 ** x".toList = true ∧
        ¬ OccursApart powerParts "y = v12.718 ** x".toList := by
  obtain ⟨set, hset⟩ := exists_builtin Regex.readsBuiltin_read
  have hassignment : ("direct_const", Shape.mk assignmentParts true) ∈ builtinShapes := by
    simp [builtinShapes, assignmentParts]
  have hpower : ("python_exp", Shape.mk powerParts true) ∈ builtinShapes := by
    simp [builtinShapes, powerParts]
  obtain ⟨assignment, hassignment, hmatches⟩ := find?_builtin hset hassignment
  obtain ⟨power, hpower, hmatches'⟩ := find?_builtin hset hpower
  refine ⟨set, hset, ⟨assignment, hassignment, ?_, by decide +kernel⟩,
    ⟨power, hpower, ?_, by decide +kernel⟩⟩
  · rw [hmatches, isIn_iff_occurs]
    exact .inr (by decide +kernel)
  · rw [hmatches', isIn_iff_occurs]
    exact .inr (by decide +kernel)

end RuleSet

end ConstantScan
