import ConstantScan.Proofs.RegexMatch
import ConstantScan.Proofs.RuleSets

/-!
# What the built-in rules look for

A built-in rule looks for texts with runs of blanks and digits between them. That nothing which could
be part of a name stands before them is told by the character that the expression takes with them.
-/

namespace ConstantScan

/-! ## Shapes -/

inductive Part
  | text (s : String)
  | blanks
  | digits

/-- The characters are such a part; a run may be empty. -/
def Part.Fits : Part → List Char → Prop
  | text s, cs => cs = s.toList
  | blanks, cs => ∀ c ∈ cs, Unicode.isBlank c = true
  | digits, cs => ∀ c ∈ cs, c.isDigit = true

def Spells : List Part → List Char → Prop
  | [], cs => cs = []
  | p :: ps, cs => ∃ front back, cs = front ++ back ∧ p.Fits front ∧ Spells ps back

/-- A letter of ASCII or an underscore. -/
def isNameChar (c : Char) : Bool := c.isAlpha || c == '_'

structure Shape where
  parts : List Part
  /-- Nothing that could be part of a name may stand before it. -/
  apart : Bool

def Shape.IsIn (s : Shape) (line : List Char) : Prop :=
  ∃ pre mid post, line = pre ++ mid ++ post ∧ Spells s.parts mid ∧
    (s.apart = true → ∀ c ∈ pre.getLast?, isNameChar c = false)

def builtinShapes : List (String × Shape) := [
  ("python_pow",
    ⟨[.text "pow", .blanks, .text "(", .blanks, .text "2.71", .digits, .blanks, .text ","], false⟩),
  ("python_exp", ⟨[.text "2.71", .digits, .blanks, .text "**"], true⟩),
  ("js_java_pow", ⟨[.text "Math.pow", .blanks, .text "(", .blanks, .text "2.71"], false⟩),
  ("direct_const", ⟨[.text "e", .blanks, .text "=", .blanks, .text "2.71"], true⟩)]

/-! ## The expressions of parts -/

namespace Regex

open Unicode (Runs)

def chain : List Regex → Regex
  | [] => .empty
  | [r] => r
  | r :: rs => .cat r (chain rs)

section

variable {left right : Option Char} {s : List Char}

theorem matches_chain_nil : Matches (chain []) left s right ↔ s = [] := by
  constructor
  · rintro (_ | _)
    rfl
  · rintro rfl
    exact .empty left right

theorem matches_chain_cons {r : Regex} {rs : List Regex} :
    Matches (chain (r :: rs)) left s right ↔ ∃ xs ys, s = xs ++ ys ∧
      Matches r left xs (charAfter right ys) ∧ Matches (chain rs) (charBefore left xs) ys right := by
  cases rs with
  | nil =>
    simp only [matches_chain_nil]
    constructor
    · exact fun h => ⟨s, [], (List.append_nil s).symm, h, rfl⟩
    · rintro ⟨xs, _, rfl, h, rfl⟩
      rwa [List.append_nil]
  | cons t rs => exact matches_cat

theorem matches_single {c : Char} :
    Matches (.one (Runs.single c.toNat)) left s right ↔ s = [c] := by
  rw [matches_one]
  constructor
  · rintro ⟨d, rfl, hd⟩
    rw [Char.toNat_inj.1 ((Runs.contains_single _ _).1 hd)]
  · rintro rfl
    exact ⟨c, rfl, (Runs.contains_single _ _).2 rfl⟩

theorem matches_star_one {set : List Unicode.Run} :
    Matches (.star (.one set)) left s right ↔ ∀ c ∈ s, Runs.contains c.toNat set = true := by
  induction s generalizing left with
  | nil => exact iff_of_true (.starNil _ left right) (by simp)
  | cons c s ih =>
    rw [matches_star_cons, List.forall_mem_cons]
    simp only [matches_one]
    constructor
    · rintro ⟨xs, ys, rfl, ⟨d, hd, hset⟩, hrest⟩
      obtain ⟨rfl, rfl⟩ := List.cons.inj hd
      exact ⟨hset, ih.1 hrest⟩
    · rintro ⟨hset, hrest⟩
      exact ⟨[], s, rfl, ⟨c, rfl, hset⟩, ih.2 hrest⟩

theorem contains_asciiDigits (c : Char) :
    Runs.contains c.toNat asciiDigits = true ↔ c.isDigit = true := by
  simp only [asciiDigits, Runs.contains, Char.isDigit, Bool.and_eq_true, decide_eq_true_eq,
    UInt32.le_iff_toNat_le, ge_iff_le]
  split
  · simp
    omega
  · simp
    omega

theorem matches_chain_text {cs : List Char} {rs : List Regex} :
    Matches (chain (cs.map (fun c => .one (Runs.single c.toNat)) ++ rs)) left s right ↔
      ∃ back, s = cs ++ back ∧ Matches (chain rs) (charBefore left cs) back right := by
  induction cs generalizing left s with
  | nil => simp
  | cons c cs ih =>
    rw [List.map_cons, List.cons_append, matches_chain_cons]
    simp only [matches_single, ih]
    constructor
    · rintro ⟨_, _, rfl, rfl, back, rfl, h⟩
      exact ⟨back, rfl, h⟩
    · rintro ⟨back, rfl, h⟩
      exact ⟨[c], cs ++ back, rfl, rfl, back, rfl, h⟩

/-! ## What stands before -/

/-- A letter of ASCII or an underscore is not among them. -/
def otherChars : List Unicode.Run := [⟨0, 64⟩, ⟨91, 94⟩, ⟨96, 96⟩, ⟨123, Unicode.maxCodePoint⟩]

theorem contains_otherChars (c : Char) :
    Runs.contains c.toNat otherChars = true ↔ isNameChar c = false := by
  have htop : c.toNat ≤ Unicode.maxCodePoint := by
    have hvalid : c.toNat.isValidChar := c.valid
    rcases hvalid with h | ⟨-, h⟩
    · exact Nat.le_of_lt (Nat.lt_trans h (by decide))
    · exact Nat.le_of_lt_succ h
  have hunderscore : c = '_' ↔ c.toNat = 95 := Char.toNat_inj.symm
  have hname : isNameChar c = true ↔ (65 ≤ c.toNat ∧ c.toNat ≤ 90) ∨
      (97 ≤ c.toNat ∧ c.toNat ≤ 122) ∨ c.toNat = 95 := by
    simp only [isNameChar, Char.isAlpha, Char.isUpper, Char.isLower, Bool.or_eq_true,
      Bool.and_eq_true, decide_eq_true_eq, beq_iff_eq, hunderscore, UInt32.le_iff_toNat_le,
      ge_iff_le, or_assoc]
    rfl
  have hset : Runs.contains c.toNat otherChars = true ↔ c.toNat ≤ 64 ∨
      (91 ≤ c.toNat ∧ c.toNat ≤ 94) ∨ c.toNat = 96 ∨ 123 ≤ c.toNat := by
    simp only [otherChars, Runs.contains]
    split_ifs <;> simp <;> omega
  rw [← Bool.not_eq_true, hname, hset]
  omega

/-- The start of the text, or a character that could not be part of a name. -/
def apart : Regex := .alt (.look .textStart) (.one otherChars)

/-- Taking a character that could not be part of a name, or being at the start, is the same as
having nothing before it that could be part of a name. -/
theorem isFoundIn_apart (r : Regex) (line : List Char) :
    (Regex.cat apart r).isFoundIn line = true ↔ ∃ pre mid post, line = pre ++ mid ++ post ∧
      Matches r pre.getLast? mid post.head? ∧ ∀ c ∈ pre.getLast?, isNameChar c = false := by
  rw [isFoundIn_iff]
  simp only [matches_cat, apart, matches_alt, matches_one, contains_otherChars]
  constructor
  · rintro ⟨pre, _, post, rfl, xs, ys, rfl, hstart | ⟨c, rfl, hc⟩, h⟩
    · obtain ⟨rfl, hnone⟩ := matches_look.1 hstart
      have hpre : pre = [] := by simpa [Look.holds] using hnone
      subst hpre
      exact ⟨[], ys, post, rfl, h, by simp⟩
    · refine ⟨pre ++ [c], ys, post, by simp, ?_, ?_⟩
      · simpa using h
      · simpa using hc
  · rintro ⟨pre, mid, post, rfl, h, hapart⟩
    cases pre using List.reverseRecOn with
    | nil => exact ⟨[], mid, post, rfl, [], mid, rfl, .inl (.look rfl), h⟩
    | append_singleton pre c =>
      refine ⟨pre, c :: mid, post, by simp, [c], mid, rfl, .inr ⟨c, rfl, ?_⟩, ?_⟩
      · simpa using hapart
      · simpa using h

end

end Regex

def Part.pieces : Part → List Regex
  | text s => s.toList.map fun c => .one (Unicode.Runs.single c.toNat)
  | blanks => [.star (.one Unicode.blankRuns)]
  | digits => [.star (.one Regex.asciiDigits)]

open Regex in
theorem matches_pieces {p : Part} {rs : List Regex} {left right : Option Char} {s : List Char} :
    Matches (chain (p.pieces ++ rs)) left s right ↔
      ∃ front back, s = front ++ back ∧ p.Fits front ∧
        Matches (chain rs) (charBefore left front) back right := by
  cases p with
  | text t =>
    simp only [Part.pieces, Part.Fits, matches_chain_text, ↓existsAndEq, true_and]
  | blanks =>
    simp only [Part.pieces, Part.Fits, List.singleton_append, matches_chain_cons, matches_star_one]
    rfl
  | digits =>
    simp only [Part.pieces, Part.Fits, List.singleton_append, matches_chain_cons, matches_star_one,
      contains_asciiDigits]

open Regex in
theorem matches_parts {ps : List Part} {left right : Option Char} {s : List Char} :
    Matches (chain (ps.flatMap Part.pieces)) left s right ↔ Spells ps s := by
  induction ps generalizing left s with
  | nil => exact matches_chain_nil
  | cons p ps ih =>
    rw [List.flatMap_cons, matches_pieces]
    simp only [ih]
    rfl

/-! ## The expressions of shapes -/

theorem spells_append {ps qs : List Part} {s : List Char} :
    Spells (ps ++ qs) s ↔ ∃ xs ys, s = xs ++ ys ∧ Spells ps xs ∧ Spells qs ys := by
  induction ps generalizing s with
  | nil => simp [Spells]
  | cons p ps ih =>
    rw [List.cons_append, Spells]
    simp only [ih, Spells]
    constructor
    · rintro ⟨front, _, rfl, hfront, xs, ys, rfl, hxs, hys⟩
      exact ⟨front ++ xs, ys, (List.append_assoc ..).symm, ⟨front, xs, rfl, hfront, hxs⟩, hys⟩
    · rintro ⟨_, ys, rfl, ⟨front, xs, rfl, hfront, hxs⟩, hys⟩
      exact ⟨front, xs ++ ys, List.append_assoc .., hfront, xs, ys, rfl, hxs, hys⟩

namespace Shape

def regex (s : Shape) : Regex :=
  let r := Regex.chain (s.parts.flatMap Part.pieces)
  if s.apart then .cat Regex.apart r else r

theorem isFoundIn_regex (s : Shape) (line : List Char) :
    s.regex.isFoundIn line = true ↔ s.IsIn line := by
  obtain ⟨parts, _ | _⟩ := s
  · rw [regex, if_neg Bool.false_ne_true, Regex.isFoundIn_iff]
    simp [IsIn, matches_parts]
  · rw [regex, if_pos rfl, Regex.isFoundIn_apart]
    simp [IsIn, matches_parts]

/-- Digits at the end need not be looked for: there may be none. -/
theorem isIn_append_digits {ps : List Part} {apart : Bool} {line : List Char} :
    IsIn ⟨ps ++ [.digits], apart⟩ line ↔ IsIn ⟨ps, apart⟩ line := by
  simp only [IsIn, spells_append]
  constructor
  · rintro ⟨pre, _, post, rfl, ⟨xs, ys, rfl, hxs, -⟩, hapart⟩
    exact ⟨pre, xs, ys ++ post, by simp, hxs, hapart⟩
  · rintro ⟨pre, mid, post, rfl, hmid, hapart⟩
    exact ⟨pre, mid, post, rfl, ⟨mid, [], by simp, hmid, [], [], rfl, by simp [Part.Fits], rfl⟩, hapart⟩

end Shape

namespace RuleSet

theorem regex_builtin : List.Forall₂ (fun (s : RuleSource) (e : String × Shape) => s.name = e.1 ∧
    ∃ shape : Shape, Regex.ofString? s.regex = some shape.regex ∧
      ∀ line, shape.IsIn line ↔ e.2.IsIn line) builtinSources builtinShapes := by
  refine .cons ⟨rfl, _, ?_, fun _ => Iff.rfl⟩ (.cons ⟨rfl, _, ?_, fun _ => Iff.rfl⟩
    (.cons ⟨rfl, _, ?_, fun _ => Shape.isIn_append_digits⟩
      (.cons ⟨rfl, _, ?_, fun _ => Shape.isIn_append_digits⟩ .nil)))
  all_goals decide

theorem forall₂_comp {α β γ : Type} {p : α → β → Prop} {q : β → γ → Prop} {xs : List α}
    {ys : List β} {zs : List γ} (hp : List.Forall₂ p xs ys) (hq : List.Forall₂ q ys zs) :
    List.Forall₂ (fun x z => ∃ y, p x y ∧ q y z) xs zs := by
  induction hp generalizing zs with
  | nil =>
    cases hq
    exact .nil
  | cons hxy _ ih =>
    cases hq with
    | cons hyz hq => exact .cons ⟨_, hxy, hyz⟩ (ih hq)

/-- Each built-in rule matches just the lines with the shape that it is for. -/
theorem builtin_matches : ∃ set, builtin = .ok set ∧
    List.Forall₂ (fun (rule : Rule) (e : String × Shape) => rule.name = e.1 ∧
      ∀ line, rule.matchesLine line = true ↔ e.2.IsIn line) set.rules builtinShapes := by
  obtain ⟨set, hset⟩ := exists_builtin Regex.readsBuiltin_read
  refine ⟨set, hset, (forall₂_comp (rules_of_builtin hset).flip regex_builtin).imp ?_⟩
  rintro rule e ⟨source, hread, hname, shape, hregex, hshape⟩
  obtain ⟨regex, hregex', rfl⟩ := RuleSource.read_eq_ok_iff.1 hread
  obtain rfl := Option.some.inj (hregex.symm.trans (Regex.read_eq_ok_iff.1 hregex'))
  exact ⟨hname, fun line => (shape.isFoundIn_regex line).trans (hshape line)⟩

end RuleSet

end ConstantScan
