import ConstantScan.Regex.Basic

/-!
# Searching a text for a match

The search reads the text once. Its state marks the sets of the expression that matched the
character just read; one step moves the marks over the next character.
-/

namespace ConstantScan.Regex

open Unicode (Runs)

/-- Marks on the sets of an expression, laid out as the expression is. -/
inductive Marks
  | idle
  | here
  | both (m n : Marks)
  deriving DecidableEq, Repr

namespace Marks

def left : Marks → Marks
  | both m _ => m
  | _ => idle

def right : Marks → Marks
  | both _ n => n
  | _ => idle

def join : Marks → Marks → Marks
  | idle, idle => idle
  | m, n => both m n

@[simp] theorem left_join (m n : Marks) : (join m n).left = m := by
  cases m <;> cases n <;> rfl

@[simp] theorem right_join (m n : Marks) : (join m n).right = n := by
  cases m <;> cases n <;> rfl

end Marks

/-- Whether the expression matches no characters at the position. -/
def matchesEmpty (p : Around) : Regex → Bool
  | empty => true
  | look l => l.holds p
  | one _ => false
  | cat r s => matchesEmpty p r && matchesEmpty p s
  | alt r s => matchesEmpty p r || matchesEmpty p s
  | star _ => true

/-- Whether a match that began earlier can end at the position. -/
def atEnd (p : Around) : Regex → Marks → Bool
  | _, .idle => false
  | one _, m => m == .here
  | cat r s, m => atEnd p s m.right || (atEnd p r m.left && matchesEmpty p s)
  | alt r s, m => atEnd p r m.left || atEnd p s m.right
  | star r, m => atEnd p r m
  | _, _ => false

/-- Moves the marks over `c`; with `enter` a match may also begin before `c`. -/
def advance (p : Around) (c : Char) : Regex → Marks → Bool → Marks
  | _, .idle, false => .idle
  | one set, _, enter => if enter && Runs.contains c.toNat set then .here else .idle
  | cat r s, m, enter =>
    .join (advance p c r m.left enter)
      (advance p c s m.right ((enter && matchesEmpty p r) || atEnd p r m.left))
  | alt r s, m, enter => .join (advance p c r m.left enter) (advance p c s m.right enter)
  | star r, m, enter => advance p c r m (enter || atEnd p r m)
  | _, _, _ => .idle

/-- Whether a match ends here or further on; `before` is the character just read. -/
def findsFrom (r : Regex) (m : Marks) (before : Option Char) : List Char → Bool
  | [] =>
    let p : Around := ⟨before, none⟩
    matchesEmpty p r || atEnd p r m
  | c :: cs =>
    let p : Around := ⟨before, some c⟩
    matchesEmpty p r || atEnd p r m || findsFrom r (advance p c r m true) (some c) cs

def isFoundIn (r : Regex) (text : List Char) : Bool := findsFrom r .idle none text

end ConstantScan.Regex
