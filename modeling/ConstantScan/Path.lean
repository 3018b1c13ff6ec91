import ConstantScan.Text.Utf8

/-!
# Paths

A path is its bytes. What it means is its components; a slash more or less makes no difference to
them.
-/

namespace ConstantScan

structure Path where
  bytes : Bytes
  deriving DecidableEq, Repr, Inhabited

namespace Path

def slash : UInt8 := 0x2F

def dot : Bytes := [0x2E]

def dotDot : Bytes := [0x2E, 0x2E]

def ofString (s : String) : Path := ⟨Utf8.ofString s⟩

/-- The text of the path, with a replacement for what is no character. -/
def toString (p : Path) : String := Utf8.toString p.bytes

def isAbsolute (p : Path) : Bool := p.bytes.head? == some slash

/-- The parts between slashes; `current` is the part being read, last byte first. -/
def segmentsFrom (current : Bytes) : Bytes → List Bytes
  | [] => [current.reverse]
  | b :: bs =>
    if b = slash then current.reverse :: segmentsFrom [] bs
    else segmentsFrom (b :: current) bs

def segments (p : Path) : List Bytes := segmentsFrom [] p.bytes

/-! ## Components -/

inductive Component
  | root
  | here
  | parent
  | name (bytes : Bytes)
  deriving DecidableEq, Repr

def Component.bytes : Component → Bytes
  | root => [slash]
  | here => dot
  | parent => dotDot
  | name bs => bs

/-- The component that a segment stands for further in; empty ones and `.` stand for none. -/
def Component.ofSegment? (s : Bytes) : Option Component :=
  if s = [] || s = dot then none else if s = dotDot then some .parent else some (.name s)

def components (p : Path) : List Component :=
  let inner := p.segments.filterMap Component.ofSegment?
  if p.isAbsolute then .root :: inner
  else if p.segments.head? = some dot then .here :: inner
  else inner

/-- The last component, if it is a name. -/
def fileName? (p : Path) : Option Bytes :=
  match p.components.getLast? with
  | some (.name n) => some n
  | _ => none

/-- The byte that comes after the last dot starts the extension; a leading dot starts none. -/
def extension? (p : Path) : Option Bytes :=
  p.fileName?.bind fun n =>
    let tail := n.reverse.takeWhile (· != 0x2E)
    if n = dotDot || tail.length + 1 ≥ n.length then none else some tail.reverse

/-- Goes on from `p` along `q`; an absolute `q` starts anew. -/
def join (p q : Path) : Path :=
  if q.isAbsolute then q
  else if p.bytes = [] || p.bytes.getLast? = some slash then ⟨p.bytes ++ q.bytes⟩
  else ⟨p.bytes ++ slash :: q.bytes⟩

def joinName (p : Path) (name : Bytes) : Path := p.join ⟨name⟩

theorem join_of_isAbsolute {p q : Path} (h : q.isAbsolute = true) : p.join q = q := by
  simp [join, h]

def dropFront : (front cs : List Component) → Option (List Component)
  | [], cs => some cs
  | f :: fs, c :: cs => if f = c then dropFront fs cs else none
  | _ :: _, [] => none

theorem dropFront_append (front cs : List Component) : dropFront front (front ++ cs) = some cs := by
  induction front with
  | nil => rfl
  | cons f fs ih => simp [dropFront, ih]

/-- The components of `p` below `base`; all of them if it is not below. -/
def relativeTo (p base : Path) : List Component :=
  (dropFront base.components p.components).getD p.components

def ofComponents (cs : List Component) : Path :=
  ⟨[slash].intercalate (cs.map Component.bytes)⟩

/-- The place of `p` under `base` as a text with slashes. -/
def relativeText (p base : Path) : String :=
  String.intercalate "/" ((p.relativeTo base).map (Utf8.toString ·.bytes))

end Path

end ConstantScan
