import ConstantScan.Glob.Basic

/-! # Reading globs -/

namespace ConstantScan.Glob

/-- A group that is open: what stands before it and its branches so far, all last one first. -/
structure OpenChoice where
  before : List GlobPart
  branches : List (List GlobPart)

/-- A reader in the middle of a glob; it holds the parts of the current branch last one first. -/
structure State where
  current : List GlobPart := []
  outer : List OpenChoice := []
  /-- The character just read. -/
  before : Option Char := none
  /-- No set closes further on, so an opening bracket stands for itself. -/
  literalBrackets : Bool := false

namespace State

def push (s : State) (p : GlobPart) : State := { s with current := p :: s.current }

def pushManyTwice (s : State) : State := (s.push .many).push .many

def openChoice (s : State) : State :=
  { s with current := [], outer := ⟨s.current, []⟩ :: s.outer }

def closeChoice (s : State) : Except GlobError State :=
  match s.outer with
  | [] => .error .unopenedChoice
  | c :: outer =>
    .ok { s with
      current := .choice (c.branches.reverse ++ [s.current.reverse]) :: c.before
      outer }

/-- A comma ends a branch inside a group. -/
def comma (s : State) : State :=
  match s.outer with
  | [] => s.push (.literal ',')
  | c :: outer =>
    { s with
      current := []
      outer := { c with branches := s.current.reverse :: c.branches } :: outer }

end State

/-! ## Sets -/

/-- A reader in the middle of a set; it holds the ranges last one first. -/
structure SetState where
  ranges : List (Char × Char) := []
  /-- A dash was read that may start the end of a range. -/
  inRange : Bool := false

def SetState.read (s : SetState) (c : Char) : Except GlobError SetState :=
  match s.inRange, s.ranges with
  | true, (first, _) :: rest =>
    if c < first then .error (.invalidRange first c)
    else .ok { ranges := (first, c) :: rest }
  | _, ranges => .ok { ranges := (c, c) :: ranges }

def SetState.finish (s : SetState) : List (Char × Char) :=
  (if s.inRange then ('-', '-') :: s.ranges else s.ranges).reverse

/-- The ranges up to the closing bracket; `first` says that nothing has been read yet. -/
def readRanges (s : SetState) (first : Bool) :
    List Char → Except GlobError (List (Char × Char) × List Char)
  | [] => .error .unclosedSet
  | c :: cs =>
    if c = ']' && !first then .ok (s.finish, cs)
    else if c = '-' && !first && !s.inRange then readRanges { s with inRange := true } false cs
    else
      match s.read c with
      | .ok s => readRanges s false cs
      | .error e => .error e

def readSet (cs : List Char) : Except GlobError (GlobPart × List Char) :=
  let negated := cs.head? == some '!' || cs.head? == some '^'
  (readRanges {} true (if negated then cs.tail else cs)).map fun (ranges, rest) =>
    (.set negated ranges, rest)

/-! ## Stars -/

/-- Reads what follows two stars; `before` is the character in front of them. -/
def readTwoStars (s : State) (before : Option Char) (cs : List Char) : State × List Char :=
  match s.current with
  | [] =>
    match cs with
    | [] => (s.push .outerDirs, [])
    | '/' :: rest => ({ s.push .outerDirs with before := some '/' }, rest)
    | _ => (s.pushManyTwice, cs)
  | last :: earlier =>
    let inGroup := !s.outer.isEmpty
    let afterSlash := before == some '/'
    if !afterSlash && !(inGroup && (before == some ',' || before == some '\x7b')) then
      (s.pushManyTwice, cs)
    else
      let replace (p : GlobPart) : State :=
        match last with
        | .outerDirs | .allBelow => s
        | _ => { s with current := p :: earlier }
      match cs with
      | [] => (replace .allBelow, [])
      | '/' :: rest => ({ replace .innerDirs with before := some '/' }, rest)
      | c :: _ =>
        if inGroup && (c == ',' || c == '\x7d') then (replace .allBelow, cs)
        else (s.pushManyTwice, cs)

/-! ## The whole glob -/

/-- Reads from one character on. With `bracketsMayStayOpen` a set without an end is no error. -/
def readStep (bracketsMayStayOpen : Bool) (s : State) (c : Char) (cs : List Char) :
    Except GlobError (State × List Char) :=
  let next := { s with before := some c }
  match c with
  | '?' => .ok (next.push .any, cs)
  | '*' =>
    match cs with
    | '*' :: rest => .ok (readTwoStars { s with before := some '*' } s.before rest)
    | _ => .ok (next.push .many, cs)
  | '[' =>
    if s.literalBrackets then .ok (next.push (.literal '['), cs)
    else
      match readSet cs with
      | .ok (p, rest) => .ok ({ next.push p with before := some ']' }, rest)
      | .error .unclosedSet =>
        if bracketsMayStayOpen then
          .ok ({ next.push (.literal '[') with literalBrackets := true }, cs)
        else .error .unclosedSet
      | .error e => .error e
  | '\x7b' => .ok (next.openChoice, cs)
  | '\x7d' => next.closeChoice.map (·, cs)
  | ',' => .ok (next.comma, cs)
  | '\\' =>
    match cs with
    | [] => .error .danglingEscape
    | d :: rest => .ok ({ next.push (.literal d) with before := some d }, rest)
  | c => .ok (next.push (.literal c), cs)

def readAll (bracketsMayStayOpen : Bool) (s : State) : (fuel : Nat) → List Char →
    Except GlobError State
  | _, [] => .ok s
  | 0, _ => .ok s
  | fuel + 1, c :: cs =>
    match readStep bracketsMayStayOpen s c cs with
    | .ok (s, rest) => readAll bracketsMayStayOpen s fuel rest
    | .error e => .error e

def ofString (text : String) (keepsSlash bracketsMayStayOpen : Bool := false) :
    Except GlobError Glob :=
  let cs := text.toList
  match readAll bracketsMayStayOpen {} cs.length cs with
  | .error e => .error e
  | .ok s =>
    if s.outer.isEmpty then .ok { parts := s.current.reverse, keepsSlash }
    else .error .unclosedChoice

end ConstantScan.Glob
