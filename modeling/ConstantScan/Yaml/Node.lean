import ConstantScan.Yaml.Token

/-! # Nodes of a YAML document -/

namespace ConstantScan.Yaml

inductive Node
  | scalar (tag : Option String) (text : String) (plain : Bool)
  | sequence (tag : Option String) (items : List Node)
  | mapping (tag : Option String) (entries : List (Node × Node))
  deriving Repr, Inhabited

namespace Node

/-- What stands where nothing is written. -/
def nothing : Node := .scalar none "" true

/-- The anchors met so far, latest first; one whose node is not complete has none. -/
abbrev Anchors := List (String × Option Node)

structure Reader where
  rest : List Token
  anchors : Anchors := []
  handles : List (String × String)

namespace Reader

def peek (r : Reader) : Option Token := r.rest.head?

def next (r : Reader) : Reader := { r with rest := r.rest.tail }

def sees (r : Reader) (t : Token) : Bool := r.rest.head? == some t

def seesAny (r : Reader) (ts : List Token) : Bool :=
  match r.rest with
  | t :: _ => ts.contains t
  | [] => true

end Reader

structure Properties where
  anchor : Option String := none
  tag : Option (String × String) := none

def properties (p : Properties) : (fuel : Nat) → Reader → Properties × Reader
  | 0, r => (p, r)
  | fuel + 1, r =>
    match r.peek with
    | some (.anchor n) =>
      if p.anchor.isNone then properties { p with anchor := some n } fuel r.next else (p, r)
    | some (.tag h t) =>
      if p.tag.isNone then properties { p with tag := some (h, t) } fuel r.next else (p, r)
    | _ => (p, r)

/-- The full tag; a handle that was not declared is an error. -/
def fullTag? (r : Reader) (p : Properties) : Option (Option String) :=
  match p.tag with
  | none => some none
  | some ("", t) => some (some t)
  | some (h, t) => (r.handles.lookup h).map fun start => some (start ++ t)

/-- A node in block style may be a list that is not indented more than its key. -/
inductive Style
  | flow
  | block
  | blockOrUnindented
  deriving DecidableEq

mutual

def node (style : Style) : (fuel : Nat) → Reader → Option (Node × Reader)
  | 0, _ => none
  | fuel + 1, r =>
    match r.peek with
    | some (.alias n) =>
      match r.anchors.lookup n with
      | some (some node) => some (node, r.next)
      | _ => none
    | _ =>
      let (p, r) := properties {} 2 r
      match fullTag? r p with
      | none => none
      | some tag =>
        let r := match p.anchor with
          | some n => { r with anchors := (n, none) :: r.anchors }
          | none => r
        match content style tag (p.anchor.isSome || tag.isSome) fuel r with
        | none => none
        | some (node, r) =>
          match p.anchor with
          | some n => some (node, { r with anchors := (n, some node) :: r.anchors })
          | none => some (node, r)

/-- A node after its properties; one that has some may be empty. -/
def content (style : Style) (tag : Option String) (mayBeEmpty : Bool) : (fuel : Nat) → Reader →
    Option (Node × Reader)
  | 0, _ => none
  | fuel + 1, r =>
    let inBlock := style != .flow
    match r.peek with
    | some .blockEntry =>
      if style = .blockOrUnindented then unindented tag [] fuel r
      else if mayBeEmpty then some (.scalar tag "" true, r)
      else none
    | some (.scalar text plain) =>
      let tag := if tag = some "!" then none else tag
      some (.scalar tag text plain, r.next)
    | some .flowSequence => flowItems tag [] true fuel r.next
    | some .flowMapping => flowEntries tag [] true fuel r.next
    | some .blockSequence =>
      if inBlock then blockItems tag [] fuel r.next
      else if mayBeEmpty then some (.scalar tag "" true, r)
      else none
    | some .blockMapping =>
      if inBlock then blockEntries tag [] fuel r.next
      else if mayBeEmpty then some (.scalar tag "" true, r)
      else none
    | _ => if mayBeEmpty then some (.scalar tag "" true, r) else none

def blockItems (tag : Option String) (acc : List Node) : (fuel : Nat) → Reader →
    Option (Node × Reader)
  | 0, _ => none
  | fuel + 1, r =>
    match r.peek with
    | some .blockEntry =>
      let r := r.next
      if r.seesAny [.blockEntry, .blockEnd] then blockItems tag (nothing :: acc) fuel r
      else
        match node .block fuel r with
        | some (n, r) => blockItems tag (n :: acc) fuel r
        | none => none
    | some .blockEnd => some (.sequence tag acc.reverse, r.next)
    | _ => none

def unindented (tag : Option String) (acc : List Node) : (fuel : Nat) → Reader →
    Option (Node × Reader)
  | 0, _ => none
  | fuel + 1, r =>
    if r.sees .blockEntry then
      let r := r.next
      if r.seesAny [.blockEntry, .key, .value, .blockEnd] then
        unindented tag (nothing :: acc) fuel r
      else
        match node .block fuel r with
        | some (n, r) => unindented tag (n :: acc) fuel r
        | none => none
    else some (.sequence tag acc.reverse, r)

/-- A node in front of one of the tokens, or nothing if one of them is next. -/
def optionalNode (style : Style) (stops : List Token) : (fuel : Nat) → Reader →
    Option (Node × Reader)
  | 0, _ => none
  | fuel + 1, r => if r.seesAny stops then some (nothing, r) else node style fuel r

def blockEntries (tag : Option String) (acc : List (Node × Node)) : (fuel : Nat) → Reader →
    Option (Node × Reader)
  | 0, _ => none
  | fuel + 1, r =>
    let stops : List Token := [.key, .value, .blockEnd]
    match r.peek with
    | some .blockEnd => some (.mapping tag acc.reverse, r.next)
    | some .key =>
      match optionalNode .blockOrUnindented stops fuel r.next with
      | none => none
      | some (k, r) =>
        if r.sees .value then
          match optionalNode .blockOrUnindented stops fuel r.next with
          | some (v, r) => blockEntries tag ((k, v) :: acc) fuel r
          | none => none
        else blockEntries tag ((k, nothing) :: acc) fuel r
    | some .value =>
      match optionalNode .blockOrUnindented stops fuel r.next with
      | some (v, r) => blockEntries tag ((nothing, v) :: acc) fuel r
      | none => none
    | _ => none

def flowValue (close : Token) : (fuel : Nat) → Reader → Option (Node × Reader)
  | 0, _ => none
  | fuel + 1, r =>
    if r.sees .value then optionalNode .flow [.flowEntry, close] fuel r.next
    else some (nothing, r)

def flowItems (tag : Option String) (acc : List Node) (first : Bool) : (fuel : Nat) → Reader →
    Option (Node × Reader)
  | 0, _ => none
  | fuel + 1, r =>
    let close := Token.flowSequenceEnd
    if r.sees close then some (.sequence tag acc.reverse, r.next)
    else if !first && !r.sees .flowEntry then none
    else
      let r := if first then r else r.next
      if r.sees close then some (.sequence tag acc.reverse, r.next)
      else if r.sees .key then
        match optionalNode .flow [.value, .flowEntry, close] fuel r.next with
        | none => none
        | some (k, r) =>
          match flowValue close fuel r with
          | some (v, r) => flowItems tag (.mapping none [(k, v)] :: acc) false fuel r
          | none => none
      else
        match node .flow fuel r with
        | some (n, r) => flowItems tag (n :: acc) false fuel r
        | none => none

def flowEntries (tag : Option String) (acc : List (Node × Node)) (first : Bool) :
    (fuel : Nat) → Reader → Option (Node × Reader)
  | 0, _ => none
  | fuel + 1, r =>
    let close := Token.flowMappingEnd
    if r.sees close then some (.mapping tag acc.reverse, r.next)
    else if !first && !r.sees .flowEntry then none
    else
      let r := if first then r else r.next
      if r.sees close then some (.mapping tag acc.reverse, r.next)
      else if r.sees .key then
        match optionalNode .flow [.value, .flowEntry, close] fuel r.next with
        | none => none
        | some (k, r) =>
          match flowValue close fuel r with
          | some (v, r) => flowEntries tag ((k, v) :: acc) false fuel r
          | none => none
      else
        match node .flow fuel r with
        | some (k, r) => flowEntries tag ((k, nothing) :: acc) false fuel r
        | none => none

end

/-! ## Documents -/

def defaultHandles : List (String × String) := [("!", "!"), ("!!", "tag:yaml.org,2002:")]

/-- Reads the directives of a document: whether there are any, their handles and the rest. -/
def directives (version : Bool) (own : List (String × String)) :
    List Token → Option (Bool × List (String × String) × List Token)
  | .version supported :: rest => if supported && !version then directives true own rest else none
  | .tagHandle h start :: rest =>
    if (own.lookup h).isSome then none else directives version ((h, start) :: own) rest
  | rest => some (version || !own.isEmpty, own, rest)

/-- The only document of a text; nothing at all if the text is empty. -/
def ofTokens? (tokens : List Token) : Option (Option Node) := do
  if tokens.isEmpty then return none
  let (declared, own, rest) ← directives false [] tokens
  let explicit := rest.head? == some .documentStart
  guard (!declared || explicit)
  let rest := if explicit then rest.tail else rest
  let r : Reader := { rest, handles := own ++ defaultHandles }
  let isEmpty := match r.peek with
    | none => true
    | some .documentStart => true
    | some .documentEnd => true
    | some (.version _) => true
    | some (.tagHandle _ _) => true
    | _ => false
  let (n, r) ←
    if explicit && isEmpty then some (nothing, r) else node .block (4 * tokens.length + 4) r
  guard (r.rest.dropWhile (· == .documentEnd)).isEmpty
  return some n

end Node

end ConstantScan.Yaml
