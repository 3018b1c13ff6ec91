import ConstantScan.Regex.Matcher
import Mathlib

/-!
# What the search finds

What an expression matches is said here without marks: which characters it takes, and what may stand
on both sides of them. The search finds just the texts with a part that the expression matches.
-/

namespace ConstantScan.Regex

open Unicode (Run Runs)

/-! ## Matches -/

/-- The character before the position behind `cs`, where `left` stands before `cs`. -/
def charBefore (left : Option Char) : List Char → Option Char
  | [] => left
  | c :: cs => charBefore (some c) cs

/-- The character after the position in front of `cs`, where `right` stands after `cs`. -/
def charAfter (right : Option Char) : List Char → Option Char
  | [] => right
  | c :: _ => some c

@[simp] theorem charBefore_nil (left : Option Char) : charBefore left [] = left := rfl

@[simp] theorem charBefore_cons (left : Option Char) (c : Char) (cs : List Char) :
    charBefore left (c :: cs) = charBefore (some c) cs := rfl

@[simp] theorem charAfter_cons (right : Option Char) (c : Char) (cs : List Char) :
    charAfter right (c :: cs) = some c := rfl

/-- The expression takes just these characters, `left` standing before and `right` after them. -/
inductive Matches : Regex → Option Char → List Char → Option Char → Prop
  | empty (left right : Option Char) : Matches .empty left [] right
  | look {l : Look} {left right : Option Char} (h : l.holds ⟨left, right⟩ = true) :
    Matches (.look l) left [] right
  | one {set : List Run} {c : Char} (left right : Option Char)
    (h : Runs.contains c.toNat set = true) : Matches (.one set) left [c] right
  | cat {r t : Regex} {left right : Option Char} {xs ys : List Char}
    (hr : Matches r left xs (charAfter right ys)) (ht : Matches t (charBefore left xs) ys right) :
    Matches (.cat r t) left (xs ++ ys) right
  | altLeft {r : Regex} {left right : Option Char} {s : List Char} (t : Regex)
    (h : Matches r left s right) : Matches (.alt r t) left s right
  | altRight {t : Regex} {left right : Option Char} {s : List Char} (r : Regex)
    (h : Matches t left s right) : Matches (.alt r t) left s right
  | starNil (r : Regex) (left right : Option Char) : Matches (.star r) left [] right
  | starCons {r : Regex} {left right : Option Char} {xs ys : List Char}
    (hr : Matches r left xs (charAfter right ys))
    (hs : Matches (.star r) (charBefore left xs) ys right) : Matches (.star r) left (xs ++ ys) right

section

variable {r t : Regex} {left right : Option Char} {c : Char} {s : List Char}

theorem matches_look {l : Look} :
    Matches (.look l) left s right ↔ s = [] ∧ l.holds ⟨left, right⟩ = true := by
  constructor
  · rintro (_ | h)
    exact ⟨rfl, h⟩
  · rintro ⟨rfl, h⟩
    exact .look h

theorem matches_one {set : List Run} :
    Matches (.one set) left s right ↔ ∃ c, s = [c] ∧ Runs.contains c.toNat set = true := by
  constructor
  · rintro (_ | _)
    exact ⟨_, rfl, ‹_›⟩
  · rintro ⟨c, rfl, h⟩
    exact .one left right h

theorem matches_cat : Matches (.cat r t) left s right ↔
    ∃ xs ys, s = xs ++ ys ∧ Matches r left xs (charAfter right ys) ∧
      Matches t (charBefore left xs) ys right := by
  constructor
  · intro h
    cases h with
    | cat hr ht => exact ⟨_, _, rfl, hr, ht⟩
  · rintro ⟨xs, ys, rfl, hr, ht⟩
    exact .cat hr ht

theorem matches_alt : Matches (.alt r t) left s right ↔
    Matches r left s right ∨ Matches t left s right := by
  constructor
  · intro h
    cases h with
    | altLeft _ h => exact .inl h
    | altRight _ h => exact .inr h
  · rintro (h | h)
    · exact .altLeft t h
    · exact .altRight r h

/-- Of the rounds that take characters the first one takes the first character. -/
theorem matches_star_cons : Matches (.star r) left (c :: s) right ↔
    ∃ xs ys, s = xs ++ ys ∧ Matches r left (c :: xs) (charAfter right ys) ∧
      Matches (.star r) (charBefore (some c) xs) ys right := by
  constructor
  · intro h
    generalize hstar : Regex.star r = star at h
    generalize hs : c :: s = cs at h
    induction h with
    | starNil => cases hs
    | @starCons r' left right xs ys hr hrest _ ih =>
      obtain rfl := Regex.star.inj hstar
      rcases xs with _ | ⟨d, xs⟩
      · exact ih rfl hs
      · obtain ⟨rfl, rfl⟩ := List.cons.inj hs
        exact ⟨xs, ys, rfl, hr, hrest⟩
    | empty | look | one | cat | altLeft | altRight => cases hstar
  · rintro ⟨xs, ys, rfl, hr, hs⟩
    exact .starCons hr hs

theorem exists_split_nil {p : List Char → List Char → Prop} :
    (∃ xs ys, [] = xs ++ ys ∧ p xs ys) ↔ p [] [] := by
  constructor
  · rintro ⟨xs, ys, hs, h⟩
    obtain ⟨rfl, rfl⟩ := List.append_eq_nil_iff.1 hs.symm
    exact h
  · exact fun h => ⟨[], [], rfl, h⟩

theorem exists_split_cons {p : List Char → List Char → Prop} :
    (∃ xs ys, c :: s = xs ++ ys ∧ p xs ys) ↔
      p [] (c :: s) ∨ ∃ xs ys, s = xs ++ ys ∧ p (c :: xs) ys := by
  constructor
  · rintro ⟨xs, ys, hs, h⟩
    rcases xs with _ | ⟨d, xs⟩
    · exact .inl (hs ▸ h)
    · obtain ⟨rfl, rfl⟩ := List.cons.inj hs
      exact .inr ⟨xs, ys, rfl, h⟩
  · rintro (h | ⟨xs, ys, rfl, h⟩)
    · exact ⟨[], c :: s, rfl, h⟩
    · exact ⟨c :: xs, ys, rfl, h⟩

theorem matchesEmpty_iff : matchesEmpty ⟨left, right⟩ r = true ↔ Matches r left [] right := by
  induction r with
  | empty => exact iff_of_true rfl (.empty left right)
  | look l => rw [matches_look, matchesEmpty, and_iff_right rfl]
  | one set =>
    rw [matches_one]
    simp [matchesEmpty]
  | cat r t ihr iht =>
    rw [matchesEmpty, Bool.and_eq_true, ihr, iht, matches_cat, exists_split_nil]
    rfl
  | alt r t ihr iht => rw [matchesEmpty, Bool.or_eq_true, ihr, iht, matches_alt]
  | star r => exact iff_of_true rfl (.starNil r left right)

end

/-! ## Marks -/

section

variable (p : Around) (c : Char) (r t : Regex) (m : Marks) (enter : Bool)

theorem atEnd_idle : atEnd p r .idle = false := by cases r <;> rfl

theorem atEnd_one (set : List Run) : atEnd p (.one set) m = (m == .here) := by cases m <;> rfl

theorem atEnd_cat : atEnd p (.cat r t) m =
    (atEnd p t m.right || (atEnd p r m.left && matchesEmpty p t)) := by
  cases m with
  | idle => simp [atEnd_idle, Marks.left, Marks.right]
  | here | both => rfl

theorem atEnd_alt : atEnd p (.alt r t) m = (atEnd p r m.left || atEnd p t m.right) := by
  cases m with
  | idle => simp [atEnd_idle, Marks.left, Marks.right]
  | here | both => rfl

theorem atEnd_star : atEnd p (.star r) m = atEnd p r m := by
  cases m with
  | idle => simp [atEnd_idle]
  | here | both => rfl

theorem advance_idle : advance p c r .idle false = .idle := by cases r <;> rfl

theorem advance_one (set : List Run) : advance p c (.one set) m enter =
    if enter && Runs.contains c.toNat set then .here else .idle := by
  cases m <;> cases enter <;> rfl

theorem advance_cat : advance p c (.cat r t) m enter =
    .join (advance p c r m.left enter)
      (advance p c t m.right ((enter && matchesEmpty p r) || atEnd p r m.left)) := by
  cases m <;> cases enter <;>
    simp [advance, advance_idle, atEnd_idle, Marks.left, Marks.right, Marks.join]

theorem advance_alt : advance p c (.alt r t) m enter =
    .join (advance p c r m.left enter) (advance p c t m.right enter) := by
  cases m <;> cases enter <;> simp [advance, advance_idle, Marks.left, Marks.right, Marks.join]

theorem advance_star : advance p c (.star r) m enter =
    advance p c r m (enter || atEnd p r m) := by
  cases m <;> cases enter <;> simp [advance, advance_idle, atEnd_idle]

end

/-- With the marked sets just passed, a match that began earlier goes on with these characters and
ends. -/
def Continues : Regex → Marks → Option Char → List Char → Option Char → Prop
  | .one _, m, _, s, _ => m = .here ∧ s = []
  | .cat r t, m, left, s, right =>
    (∃ xs ys, s = xs ++ ys ∧ Continues r m.left left xs (charAfter right ys) ∧
      Matches t (charBefore left xs) ys right) ∨ Continues t m.right left s right
  | .alt r t, m, left, s, right => Continues r m.left left s right ∨ Continues t m.right left s right
  | .star r, m, left, s, right =>
    ∃ xs ys, s = xs ++ ys ∧ Continues r m left xs (charAfter right ys) ∧
      Matches (.star r) (charBefore left xs) ys right
  | _, _, _, _, _ => False

section

variable {r : Regex} {m : Marks} {left right : Option Char} {c : Char} {s : List Char}

theorem not_continues_idle : ¬ Continues r .idle left s right := by
  induction r generalizing left right s with
  | empty | look => exact id
  | one set => simp [Continues]
  | cat r t ihr iht =>
    rintro (⟨xs, ys, -, hr, -⟩ | ht)
    · exact ihr hr
    · exact iht ht
  | alt r t ihr iht =>
    rintro (hr | ht)
    · exact ihr hr
    · exact iht ht
  | star r ih =>
    rintro ⟨xs, ys, -, hr, -⟩
    exact ih hr

theorem atEnd_iff : atEnd ⟨left, right⟩ r m = true ↔ Continues r m left [] right := by
  induction r generalizing m with
  | empty | look => cases m <;> simp [atEnd, Continues]
  | one set => simp [atEnd_one, Continues]
  | cat r t ihr iht =>
    rw [atEnd_cat, Bool.or_eq_true, Bool.and_eq_true, ihr, iht, matchesEmpty_iff, Continues,
      exists_split_nil, or_comm]
    rfl
  | alt r t ihr iht => rw [atEnd_alt, Bool.or_eq_true, ihr, iht, Continues]
  | star r ih =>
    rw [atEnd_star, ih, Continues, exists_split_nil]
    exact (and_iff_left (.starNil r left right)).symm

/-- One step over a character: what may follow it is what could follow with it in front. -/
theorem continues_advance {enter : Bool} :
    Continues r (advance ⟨left, some c⟩ c r m enter) (some c) s right ↔
      Continues r m left (c :: s) right ∨ (enter = true ∧ Matches r left (c :: s) right) := by
  induction r generalizing m s right enter with
  | empty | look =>
    have hstep : ∀ q : Regex, (q = .empty ∨ ∃ l, q = .look l) → ¬ Matches q left (c :: s) right := by
      rintro q (rfl | ⟨l, rfl⟩) h <;> cases h
    simp [Continues, hstep]
  | one set =>
    rw [advance_one, Continues, Continues, matches_one]
    cases enter <;> cases hset : Runs.contains c.toNat set <;> simp [hset]
  | cat r t ihr iht =>
    -- The part of `r` ends before `c`, or it takes `c`.
    rw [advance_cat, Continues, Marks.left_join, Marks.right_join, iht, Continues, matches_cat,
      exists_split_cons, exists_split_cons]
    simp only [ihr, Bool.or_eq_true, Bool.and_eq_true, matchesEmpty_iff, atEnd_iff, charBefore_nil,
      charBefore_cons, charAfter_cons]
    constructor
    · rintro (⟨xs, ys, hs, hr | ⟨henter, hr⟩, ht⟩ | ht | ⟨⟨henter, hr⟩ | hr, ht⟩)
      · exact .inl (.inl (.inr ⟨xs, ys, hs, hr, ht⟩))
      · exact .inr ⟨henter, .inr ⟨xs, ys, hs, hr, ht⟩⟩
      · exact .inl (.inr ht)
      · exact .inr ⟨henter, .inl ⟨hr, ht⟩⟩
      · exact .inl (.inl (.inl ⟨hr, ht⟩))
    · rintro (((⟨hr, ht⟩ | ⟨xs, ys, hs, hr, ht⟩) | ht) |
        ⟨henter, ⟨hr, ht⟩ | ⟨xs, ys, hs, hr, ht⟩⟩)
      · exact .inr (.inr ⟨.inr hr, ht⟩)
      · exact .inl ⟨xs, ys, hs, .inl hr, ht⟩
      · exact .inr (.inl ht)
      · exact .inr (.inr ⟨.inl ⟨henter, hr⟩, ht⟩)
      · exact .inl ⟨xs, ys, hs, .inr ⟨henter, hr⟩, ht⟩
  | alt r t ihr iht =>
    rw [advance_alt, Continues, Marks.left_join, Marks.right_join, ihr, iht, Continues, matches_alt]
    tauto
  | star r ih =>
    -- A turn goes on with `c`, or one has just ended and the next begins with it.
    rw [advance_star, Continues, Continues, exists_split_cons]
    simp only [ih, Bool.or_eq_true, atEnd_iff, charBefore_nil, charBefore_cons, charAfter_cons,
      matches_star_cons]
    constructor
    · rintro ⟨xs, ys, hs, hr | ⟨henter | hend, hr⟩, hrest⟩
      · exact .inl (.inr ⟨xs, ys, hs, hr, hrest⟩)
      · exact .inr ⟨henter, xs, ys, hs, hr, hrest⟩
      · exact .inl (.inl ⟨hend, xs, ys, hs, hr, hrest⟩)
    · rintro ((⟨hend, xs, ys, hs, hr, hrest⟩ | ⟨xs, ys, hs, hr, hrest⟩) |
        ⟨henter, xs, ys, hs, hr, hrest⟩)
      · exact ⟨xs, ys, hs, .inr ⟨.inr hend, hr⟩, hrest⟩
      · exact ⟨xs, ys, hs, .inl hr, hrest⟩
      · exact ⟨xs, ys, hs, .inr ⟨.inl henter, hr⟩, hrest⟩

end

/-! ## The search -/

/-- A match begins here and ends somewhere in `cs`. -/
def Begins (r : Regex) (left : Option Char) (cs : List Char) : Prop :=
  ∃ xs ys, cs = xs ++ ys ∧ Matches r left xs (charAfter none ys)

/-- A match that began earlier ends somewhere in `cs`. -/
def Ends (r : Regex) (m : Marks) (left : Option Char) (cs : List Char) : Prop :=
  ∃ xs ys, cs = xs ++ ys ∧ Continues r m left xs (charAfter none ys)

theorem ends_advance {r : Regex} {m : Marks} {left : Option Char} {c : Char} {cs : List Char} :
    (Matches r left [] (some c) ∨ Continues r m left [] (some c)) ∨
        Ends r (advance ⟨left, some c⟩ c r m true) (some c) cs ↔
      Ends r m left (c :: cs) ∨ Begins r left (c :: cs) := by
  rw [Ends, Ends, Begins, exists_split_cons, exists_split_cons]
  simp only [continues_advance, true_and, and_or_left, exists_or, charAfter_cons, or_comm,
    or_left_comm, or_assoc]

theorem findsFrom_iff (r : Regex) (m : Marks) (left : Option Char) (cs : List Char) :
    findsFrom r m left cs = true ↔
      Ends r m left cs ∨ ∃ pre rest, cs = pre ++ rest ∧ Begins r (charBefore left pre) rest := by
  induction cs generalizing m left with
  | nil =>
    rw [findsFrom, Bool.or_eq_true, matchesEmpty_iff, atEnd_iff, exists_split_nil, Ends, Begins,
      exists_split_nil, exists_split_nil, or_comm]
    rfl
  | cons c cs ih =>
    rw [findsFrom, Bool.or_eq_true, Bool.or_eq_true, matchesEmpty_iff, atEnd_iff, ih,
      exists_split_cons, charBefore_nil, ← or_assoc, ends_advance, or_assoc]
    rfl

theorem charBefore_eq (left : Option Char) (cs : List Char) :
    charBefore left cs = cs.getLast?.or left := by
  induction cs generalizing left with
  | nil => rfl
  | cons c cs ih =>
    rw [charBefore, ih, List.getLast?_cons]
    cases cs.getLast? <;> rfl

/-- An expression is found in a text just where it matches a part of it. -/
theorem isFoundIn_iff (r : Regex) (text : List Char) : r.isFoundIn text = true ↔
    ∃ pre mid post, text = pre ++ mid ++ post ∧ Matches r pre.getLast? mid post.head? := by
  have hidle : ¬ Ends r .idle none text := by
    rintro ⟨xs, ys, -, h⟩
    exact not_continues_idle h
  have hafter (ys : List Char) : charAfter none ys = ys.head? := by cases ys <;> rfl
  have hbefore (pre : List Char) : charBefore none pre = pre.getLast? := by
    rw [charBefore_eq, Option.or_none]
  rw [isFoundIn, findsFrom_iff, or_iff_right hidle]
  simp only [Begins, hafter, hbefore]
  constructor
  · rintro ⟨pre, rest, rfl, mid, post, rfl, h⟩
    exact ⟨pre, mid, post, (List.append_assoc ..).symm, h⟩
  · rintro ⟨pre, mid, post, rfl, h⟩
    exact ⟨pre, mid ++ post, List.append_assoc .., mid, post, rfl, h⟩

end ConstantScan.Regex
