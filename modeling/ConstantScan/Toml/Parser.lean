import ConstantScan.Number.Decimal
import ConstantScan.Toml.Document
import ConstantScan.Unicode.Runs

/-! # Reading TOML -/

namespace ConstantScan.Toml

open Unicode (Runs)

/-! ## Characters -/

def isSpace (c : Char) : Bool := c == ' ' || c == '\t'

def skipSpaces (cs : List Char) : List Char := cs.dropWhile isSpace

/-- Controls other than the tab stand nowhere. -/
def isControl (c : Char) : Bool := (c.toNat < 0x20 && c != '\t') || c.toNat == 0x7F

/-- What follows a line end, if one is next. -/
def afterNewline? : List Char → Option (List Char)
  | '\n' :: cs => some cs
  | '\r' :: '\n' :: cs => some cs
  | _ => none

def skipComment : List Char → List Char
  | '#' :: cs => cs.dropWhile fun c => !isControl c
  | cs => cs

def skipLines : (fuel : Nat) → List Char → List Char
  | 0, cs => cs
  | fuel + 1, cs =>
    let cs := skipComment (skipSpaces cs)
    match afterNewline? cs with
    | some rest => skipLines fuel rest
    | none => cs

def isBareKey (c : Char) : Bool := c.isAlphanum || c == '_' || c == '-'

/-! ## Strings -/

def numbered : (count value : Nat) → List Char → Option (Char × List Char)
  | 0, value, cs => if h : value.isValidChar then some (Char.ofNatAux value h, cs) else none
  | _ + 1, _, [] => none
  | n + 1, value, c :: cs => (Runs.hexDigit? c).bind fun d => numbered n (value * 16 + d) cs

def escape : List Char → Option (Char × List Char)
  | 'b' :: cs => some ('\x08', cs)
  | 't' :: cs => some ('\t', cs)
  | 'n' :: cs => some ('\n', cs)
  | 'f' :: cs => some ('\x0c', cs)
  | 'r' :: cs => some ('\r', cs)
  | '"' :: cs => some ('"', cs)
  | '\\' :: cs => some ('\\', cs)
  | 'u' :: cs => numbered 4 0 cs
  | 'U' :: cs => numbered 8 0 cs
  | _ => none

/-- The inside of a string in double quotes; `acc` holds what is read, last character first. -/
def basic (acc : List Char) : (fuel : Nat) → List Char → Option (List Char × List Char)
  | 0, _ => none
  | fuel + 1, cs =>
    match cs with
    | [] => none
    | '"' :: rest => some (acc.reverse, rest)
    | '\\' :: rest => (escape rest).bind fun (c, rest) => basic (c :: acc) fuel rest
    | c :: rest => if isControl c then none else basic (c :: acc) fuel rest

def literal (cs : List Char) : Option (List Char × List Char) :=
  let text := cs.takeWhile fun c => c != '\'' && !isControl c
  match cs.drop text.length with
  | '\'' :: rest => some (text, rest)
  | _ => none

/-- A string ends in three quotes; one or two more in front of them belong to it. -/
def closing (quote : Char) (cs : List Char) : Option (List Char × List Char) :=
  let quotes := (cs.take 5).takeWhile (· == quote)
  if quotes.length < 3 then none else some (quotes.drop 3, cs.drop quotes.length)

def skipBlankLines : (fuel : Nat) → List Char → List Char
  | 0, cs => cs
  | fuel + 1, cs =>
    let cs := skipSpaces cs
    match afterNewline? cs with
    | some rest => skipBlankLines fuel rest
    | none => cs

/-- The inside of a string of several lines; `escapes` says whether a backslash is special. -/
def multiLine (quote : Char) (escapes : Bool) (acc : List Char) :
    (fuel : Nat) → List Char → Option (List Char × List Char)
  | 0, _ => none
  | fuel + 1, cs =>
    match closing quote cs, afterNewline? cs, cs with
    | some (extra, rest), _, _ => some ((extra ++ acc).reverse, rest)
    | none, some rest, _ => multiLine quote escapes ('\n' :: acc) fuel rest
    | none, none, [] => none
    | none, none, c :: rest =>
      if c = '\\' && escapes then
        match afterNewline? (skipSpaces rest) with
        | some _ => multiLine quote escapes acc fuel (skipBlankLines (fuel + 1) rest)
        | none =>
          (escape rest).bind fun (c, rest) => multiLine quote escapes (c :: acc) fuel rest
      else if isControl c then none
      else multiLine quote escapes (c :: acc) fuel rest

/-- A line end right after the opening quotes does not count. -/
def dropFirstNewline (cs : List Char) : List Char := (afterNewline? cs).getD cs

def string? (cs : List Char) : Option (String × List Char) :=
  let read : Option (List Char × List Char) :=
    match cs with
    | '"' :: '"' :: '"' :: rest => multiLine '"' true [] (cs.length + 1) (dropFirstNewline rest)
    | '\'' :: '\'' :: '\'' :: rest =>
      multiLine '\'' false [] (cs.length + 1) (dropFirstNewline rest)
    | '"' :: rest => basic [] (cs.length + 1) rest
    | '\'' :: rest => literal rest
    | _ => none
  read.map fun (text, rest) => (String.ofList text, rest)

/-! ## Keys -/

def simpleKey? (cs : List Char) : Option (String × List Char) :=
  match cs with
  | '"' :: rest => (basic [] (cs.length + 1) rest).map fun (k, rest) => (String.ofList k, rest)
  | '\'' :: rest => (literal rest).map fun (k, rest) => (String.ofList k, rest)
  | _ =>
    let key := cs.takeWhile isBareKey
    if key.isEmpty then none else some (String.ofList key, cs.drop key.length)

def maxDepth : Nat := 80

/-- Keys with dots and spaces between them, and what follows the spaces after the last. -/
def key? : (fuel : Nat) → List Char → Option (List String × List Char)
  | 0, _ => none
  | fuel + 1, cs => do
    let (k, rest) ← simpleKey? (skipSpaces cs)
    match skipSpaces rest with
    | '.' :: rest =>
      let (ks, rest) ← key? fuel rest
      return (k :: ks, rest)
    | rest => return ([k], rest)

/-! ## Numbers -/

/-- Digits with single underscores between them: the digits and the rest. -/
def digits (isDigit : Char → Bool) (cs : List Char) : Option (List Char × List Char) :=
  let run := cs.takeWhile fun c => isDigit c || c == '_'
  let rec kept : List Char → Option (List Char)
    | [] => some []
    | '_' :: c :: cs => if isDigit c then (kept (c :: cs)) else none
    | ['_'] => none
    | c :: cs => (kept cs).map (c :: ·)
  if run.head?.any isDigit then (kept run).map fun ds => (ds, cs.drop run.length) else none

def maxInteger : Nat := Nat.pow 2 63 - 1

def based (base : Nat) (cs : List Char) : Option (Value × List Char) := do
  let isDigit (c : Char) : Bool := (Runs.hexDigit? c).any (· < base)
  let (ds, rest) ← digits isDigit cs
  let n := ds.foldl (fun n c => n * base + (Runs.hexDigit? c).getD 0) 0
  guard (n ≤ maxInteger)
  return (.number (.signed n), rest)

def exponent? (cs : List Char) : Option (Option Int × List Char) :=
  match cs with
  | c :: rest =>
    if c = 'e' || c = 'E' then do
      let (negative, rest) := Decimal.splitSign rest
      let (ds, rest) ← digits Char.isDigit rest
      let n : Int := Decimal.ofDigits ds
      return (some (if negative then -n else n), rest)
    else some (none, cs)
  | [] => some (none, [])

def decimal (negative : Bool) (cs : List Char) : Option (Value × List Char) := do
  let (whole, rest) ← digits Char.isDigit cs
  guard (whole.length = 1 || whole.head? ≠ some '0')
  let (places, rest) ← match rest with
    | '.' :: rest => (digits Char.isDigit rest).map fun (ds, rest) => (some ds, rest)
    | rest => some (none, rest)
  let (e, rest) ← exponent? rest
  if places.isNone && e.isNone then
    let n := Decimal.ofDigits whole
    guard (n ≤ maxInteger || (negative && n = maxInteger + 1))
    return (.number (.signed (if negative then -(n : Int) else n)), rest)
  else
    let ds := places.getD []
    let x := Double.ofDecimal negative (Decimal.ofDigits (whole ++ ds)) (e.getD 0 - ds.length)
    guard (x ≠ .infinity)
    return (.number (.float x), rest)

def number? (cs : List Char) : Option (Value × List Char) :=
  match cs with
  | '0' :: 'x' :: rest => based 16 rest
  | '0' :: 'o' :: rest => based 8 rest
  | '0' :: 'b' :: rest => based 2 rest
  | _ =>
    let (negative, rest) := Decimal.splitSign cs
    match rest with
    | 'i' :: 'n' :: 'f' :: rest =>
      let x := Double.infinity
      some (.number (.float (if negative then x.negate else x)), rest)
    | 'n' :: 'a' :: 'n' :: rest =>
      let x := Double.nan
      some (.number (.float (if negative then x.negate else x)), rest)
    | rest => decimal negative rest

/-! ## Dates and times -/

/-- Just so many digits. -/
def fixed (count : Nat) (cs : List Char) : Option (Nat × List Char) :=
  let ds := cs.take count
  if ds.length = count && ds.all Char.isDigit then some (Decimal.ofDigits ds, cs.drop count)
  else none

def expect (c : Char) : List Char → Option (List Char)
  | d :: cs => if c = d then some cs else none
  | [] => none

def daysIn (year month : Nat) : Nat :=
  if month = 2 then
    if year % 4 = 0 && (year % 100 ≠ 0 || year % 400 = 0) then 29 else 28
  else if month = 4 || month = 6 || month = 9 || month = 11 then 30
  else 31

def date? (cs : List Char) : Option (List Char) := do
  let (year, cs) ← fixed 4 cs
  let (month, cs) ← fixed 2 (← expect '-' cs)
  let (day, cs) ← fixed 2 (← expect '-' cs)
  guard (1 ≤ month && month ≤ 12 && 1 ≤ day && day ≤ daysIn year month)
  return cs

def time? (cs : List Char) : Option (List Char) := do
  let (hour, cs) ← fixed 2 cs
  let (minute, cs) ← fixed 2 (← expect ':' cs)
  let (second, cs) ← fixed 2 (← expect ':' cs)
  guard (hour ≤ 23 && minute ≤ 59 && second ≤ 60)
  match cs with
  | '.' :: rest =>
    let (ds, rest) := Decimal.spanDigits rest
    if ds.isEmpty then return cs else return rest
  | _ => return cs

def offset? (cs : List Char) : Option (List Char) :=
  match cs with
  | c :: rest =>
    if c = 'Z' || c = 'z' then some rest
    else if c = '+' || c = '-' then do
      let (hour, rest) ← fixed 2 rest
      let (minute, rest) ← fixed 2 (← expect ':' rest)
      guard (hour ≤ 23 && minute ≤ 59)
      return rest
    else none
  | [] => none

/-- What follows a date, a time or both. -/
def afterDateTime? (cs : List Char) : Option (List Char) :=
  match date? cs with
  | some rest =>
    match rest with
    | c :: more =>
      if c = 'T' || c = 't' || c = ' ' then
        match time? more with
        | some rest => some ((offset? rest).getD rest)
        | none => some rest
      else some rest
    | [] => some rest
  | none => time? cs

/-- A date or time is a dictionary of one entry. -/
def dateTime? (cs : List Char) : Option (Value × List Char) :=
  (afterDateTime? cs).map fun rest =>
    let text := String.ofList (cs.take (cs.length - rest.length))
    (.dict [("$__toml_private_datetime", .string text)], rest)

/-! ## Values -/

mutual

/-- A value; `room` is how deep values may still be nested. -/
def value? (room : Nat) : (fuel : Nat) → List Char → Option (Value × List Char)
  | 0, _ => none
  | fuel + 1, cs =>
    match cs with
    | 't' :: 'r' :: 'u' :: 'e' :: rest => some (.bool true, rest)
    | 'f' :: 'a' :: 'l' :: 's' :: 'e' :: rest => some (.bool false, rest)
    | '[' :: rest =>
      match room with
      | 0 => none
      | room + 1 => (items? room [] fuel rest).map fun (vs, rest) => (.list vs, rest)
    | '\x7b' :: rest =>
      match room with
      | 0 => none
      | room + 1 =>
        match skipSpaces rest with
        | '\x7d' :: rest => some (.dict [], rest)
        | rest =>
          (members? room [] fuel rest).map fun (es, rest) =>
            (.dict (Dict.ofList (entryValues es)), rest)
    | cs => (string? cs).map (fun (s, rest) => (Value.string s, rest)) |>.or (dateTime? cs)
        |>.or (number? cs)

/-- The items of an array up to its end; `acc` holds those before, last one first. -/
def items? (room : Nat) (acc : List Value) : (fuel : Nat) → List Char →
    Option (List Value × List Char)
  | 0, _ => none
  | fuel + 1, cs =>
    match skipLines cs.length cs with
    | ']' :: rest => some (acc.reverse, rest)
    | cs =>
      match value? room fuel cs with
      | none => none
      | some (v, rest) =>
        match skipLines rest.length rest with
        | ',' :: rest => items? room (v :: acc) fuel rest
        | ']' :: rest => some ((v :: acc).reverse, rest)
        | _ => none

def members? (room : Nat) (acc : Entries) : (fuel : Nat) → List Char →
    Option (Entries × List Char)
  | 0, _ => none
  | fuel + 1, cs =>
    match key? (cs.length + 1) cs with
    | some (keys, '=' :: rest) =>
      match value? room fuel (skipSpaces rest), Document.splitLast keys with
      | some (v, rest), some (front, last) =>
        match acc.setDotted front last (.value v) with
        | none => none
        | some acc =>
          match skipSpaces rest with
          | ',' :: rest => members? room acc fuel rest
          | '\x7d' :: rest => some (acc, rest)
          | _ => none
      | _, _ => none
    | _ => none

end

/-! ## Documents -/

/-- What follows the end of a line, spaces and a comment in front of it. -/
def endLine? (cs : List Char) : Option (List Char) :=
  match skipComment (skipSpaces cs) with
  | [] => some []
  | cs => afterNewline? cs

def line? (d : Document) (cs : List Char) : Option (Document × List Char) := do
  match cs with
  | '[' :: '[' :: rest =>
    let (keys, rest) ← key? (rest.length + 1) rest
    guard (keys.length < maxDepth)
    match rest with
    | ']' :: ']' :: rest => return (← d.arrayHeader? keys, ← endLine? rest)
    | _ => none
  | '[' :: rest =>
    let (keys, rest) ← key? (rest.length + 1) rest
    guard (keys.length < maxDepth)
    match rest with
    | ']' :: rest => return (← d.tableHeader? keys, ← endLine? rest)
    | _ => none
  | cs =>
    let (keys, rest) ← key? (cs.length + 1) cs
    guard (keys.length < maxDepth)
    let (v, rest) ← value? (maxDepth - 1) (2 * cs.length + 2) (skipSpaces (← expect '=' rest))
    return (← d.set? keys v, ← endLine? rest)

def document? (d : Document) : (fuel : Nat) → List Char → Option Document
  | 0, _ => none
  | fuel + 1, cs =>
    match skipLines cs.length cs with
    | [] => some d
    | cs => (line? d cs).bind fun (d, rest) => document? d fuel rest

def parse (text : String) : Option Dict :=
  let cs := text.toList
  let cs := match cs with
    | '\uFEFF' :: rest => rest
    | cs => cs
  (document? {} (cs.length + 1) cs).map Document.toDict

end ConstantScan.Toml
