import ConstantScan.Config.Basic
import ConstantScan.Value
import ConstantScan.Text.Quoted

/-!
# From values to configurations

Fields that a value does not set keep their defaults, and unknown fields are ignored. A dictionary
sets fields by name, a list by position. The first mismatch in the order of the value is reported.
-/

namespace ConstantScan

/-! ## What can be wrong with a value -/

inductive Mismatch
  | invalidType (found : Value) (expected : String)
  | invalidValue (found : Value) (expected : String)
  | invalidLength (length : Nat) (expected : String)
  | unknownVariant (found : String) (known : List String)
  | missingField (name : String)
  deriving Repr

/-- A mismatch and the keys and indexes that lead to it. -/
structure Problem where
  path : List String := []
  mismatch : Mismatch
  deriving Repr

def Problem.under (key : String) (p : Problem) : Problem := { p with path := key :: p.path }

structure Strictness where
  /-- A list may not hold more than the fields that it sets. -/
  wholeLists : Bool
  /-- A variant that is written as a dictionary is its only key. -/
  loneVariant : Bool
  deriving DecidableEq, Repr

def Strictness.layered : Strictness := { wholeLists := false, loneVariant := false }

def Strictness.document : Strictness := { wholeLists := true, loneVariant := true }

abbrev Read (α : Type) := Value → Except Problem α

namespace Read

def fail {α : Type} (m : Mismatch) : Except Problem α := .error { mismatch := m }

def string : Read String
  | .string s => .ok s
  | .char c => .ok (String.singleton c)
  | v => fail (.invalidType v "a string")

def bool : Read Bool
  | .bool b => .ok b
  | v => fail (.invalidType v "a boolean")

/-- A whole number up to `top`; `kind` names the type in messages. One of more than 64 bits is of
another type. -/
def whole (kind : String) (top : Nat) : Read Nat
  | .number n =>
    match n.toInt? with
    | some i =>
      if 0 ≤ i && i ≤ top then .ok i.toNat
      else if n.isWide then fail (.invalidType (.number n) kind)
      else fail (.invalidValue (.number n) kind)
    | none => fail (.invalidType (.number n) kind)
  | v => fail (.invalidType v kind)

def size : Read Nat := whole "usize" (UInt64.size - 1)

def percentage : Read Nat := whole "u8" 255

def optional {α : Type} (read : Read α) : Read (Option α)
  | .null => .ok none
  | v => (read v).map some

/-- Reads the items; `index` is the place of the first and `acc` holds those before, reversed. -/
def items {α : Type} (read : Read α) (index : Nat) (acc : List α) :
    List Value → Except Problem (List α)
  | [] => .ok acc.reverse
  | v :: vs =>
    match read v with
    | .ok a => items read (index + 1) (a :: acc) vs
    | .error p => .error (p.under (toString index))

def list {α : Type} (read : Read α) : Read (List α)
  | .list vs => items read 0 [] vs
  | v => fail (.invalidType v "a sequence")

def variantName (known : List String) (name : String) : Except Problem Unit :=
  if known.contains name then .ok () else fail (.unknownVariant name known)

def unit : Read Unit
  | .null => .ok ()
  | v => fail (.invalidType v "unit")

/-- The name of a variant, alone or as a key whose value is null. -/
def variant (s : Strictness) (type : String) (known : List String) : Read String
  | .string name => (variantName known name).map fun _ => name
  | .dict ((name, v) :: rest) =>
    if s.loneVariant && !rest.isEmpty then
      fail (.invalidValue (.dict ((name, v) :: rest)) "map with a single key")
    else
      match variantName known name, unit v with
      | .ok _, .ok _ => .ok name
      | .error p, _ => .error (p.under name)
      | _, .error p => .error (p.under name)
  | .dict [] =>
    if s.loneVariant then fail (.invalidValue (.dict []) "map with a single key")
    else fail (.invalidType (.dict []) "enum")
  | v => fail (.invalidType v (if s.loneVariant then "string or map" else "enum " ++ type))

/-! ## Records -/

/-- A field: its name and what its value does to the record. -/
abbrev Slot (σ : Type) := String × (σ → Value → Except Problem σ)

def slot {α σ : Type} (name : String) (read : Read α) (set : σ → α → σ) : Slot σ :=
  (name, fun s v => (read v).map (set s))

def fieldsByName {σ : Type} (fields : List (Slot σ)) (s : σ) : Dict → Except Problem σ
  | [] => .ok s
  | (key, v) :: rest =>
    match fields.lookup key with
    | none => fieldsByName fields s rest
    | some set =>
      match set s v with
      | .ok s => fieldsByName fields s rest
      | .error p => .error (p.under key)

/-- Sets fields in their order; what the list holds beyond them comes back uncounted. -/
def fieldsByPosition {σ : Type} (index : Nat) (s : σ) :
    List (Slot σ) → List Value → Except Problem (σ × List Value)
  | [], vs => .ok (s, vs)
  | _, [] => .ok (s, [])
  | (_, set) :: fields, v :: vs =>
    match set s v with
    | .ok s => fieldsByPosition (index + 1) s fields vs
    | .error p => .error (p.under (toString index))

/-- What is missing once all fields are read: the field's name and place. -/
abbrev Missing (σ : Type) := σ → Option (String × Nat)

/-- Reads a record; `missing` finds a field that has no default and was not set. -/
def record {σ : Type} (s : Strictness) (type : String) (fields : List (Slot σ)) (start : σ)
    (missing : Missing σ) : Read σ
  | .dict es =>
    match fieldsByName fields start es with
    | .error p => .error p
    | .ok r =>
      match missing r with
      | some (name, _) => fail (.missingField name)
      | none => .ok r
  | .list vs =>
    match fieldsByPosition 0 start fields vs with
    | .error p => .error p
    | .ok (r, rest) =>
      match missing r with
      | some (_, place) =>
        fail (.invalidLength place
          ("struct " ++ type ++ " with " ++ toString fields.length ++ " elements"))
      | none =>
        if s.wholeLists && !rest.isEmpty then
          fail (.invalidLength vs.length "fewer elements in array")
        else .ok r
  | v => fail (.invalidType v ("struct " ++ type))

def nothingMissing {σ : Type} : Missing σ := fun _ => none

end Read

open Read

/-! ## The parts of a configuration -/

def ScanMode.read (s : Strictness) : Read ScanMode := fun v =>
  (variant s "ScanMode" (ScanMode.all.map ScanMode.name) v).map fun name =>
    (ScanMode.ofName? name).getD .auto

def ScanSettings.fields (s : Strictness) : List (Slot ScanSettings) := [
  slot "extensions" (list string) fun c x => { c with extensions := x },
  slot "exclude_dirs" (list string) fun c x => { c with excludeDirs := x },
  slot "ignore_paths" (list string) fun c x => { c with ignorePaths := x },
  slot "follow_symlinks" bool fun c x => { c with followSymlinks := x },
  slot "respect_gitignore" bool fun c x => { c with respectGitignore := x },
  slot "skip_binary_files" bool fun c x => { c with skipBinaryFiles := x },
  slot "max_file_size_mb" size fun c x => { c with maxFileSizeMb := x },
  slot "mode" (ScanMode.read s) fun c x => { c with mode := x },
  slot "max_threads" size fun c x => { c with maxThreads := x },
  slot "thread_percentage" percentage fun c x => { c with threadPercentage := x },
  slot "min_files_for_parallel" size fun c x => { c with minFilesForParallel := x }]

def ScanSettings.read (s : Strictness) : Read ScanSettings :=
  record s "ScannerConfig" (fields s) {} nothingMissing

structure CustomRule.Draft where
  name : Option String := none
  regex : Option String := none
  description : String := ""
  remediation : String := ""
  enabled : Bool := true

def CustomRule.Draft.fields : List (Slot CustomRule.Draft) := [
  slot "name" string fun c x => { c with name := some x },
  slot "regex" string fun c x => { c with regex := some x },
  slot "description" string fun c x => { c with description := x },
  slot "remediation" string fun c x => { c with remediation := x },
  slot "enabled" bool fun c x => { c with enabled := x }]

def CustomRule.Draft.missing (d : CustomRule.Draft) : Option (String × Nat) :=
  if d.name.isNone then some ("name", 0) else if d.regex.isNone then some ("regex", 1) else none

def CustomRule.read (s : Strictness) : Read CustomRule := fun v =>
  (record s "CustomPatternConfig" Draft.fields {} Draft.missing v).map fun d =>
    { name := d.name.getD "", regex := d.regex.getD "", description := d.description
      remediation := d.remediation, enabled := d.enabled }

def RuleSettings.fields (s : Strictness) : List (Slot RuleSettings) := [
  slot "disabled" (list string) fun c x => { c with disabled := x },
  slot "custom" (list (CustomRule.read s)) fun c x => { c with custom := x }]

def RuleSettings.read (s : Strictness) : Read RuleSettings :=
  record s "PatternsConfig" (fields s) {} nothingMissing

structure TargetEntry.Draft where
  label : Option String := none
  path : Option String := none

def TargetEntry.Draft.fields : List (Slot TargetEntry.Draft) := [
  slot "label" (optional string) fun c x => { c with label := x },
  slot "path" string fun c x => { c with path := some x }]

def TargetEntry.Draft.missing (d : TargetEntry.Draft) : Option (String × Nat) :=
  if d.path.isNone then some ("path", 1) else none

def TargetEntry.read (s : Strictness) : Read TargetEntry := fun v =>
  (record s "TargetConfig" Draft.fields {} Draft.missing v).map fun d =>
    { label := d.label, path := d.path.getD "" }

def Config.fields (s : Strictness) : List (Slot Config) := [
  slot "base_dir" (optional string) fun c x => { c with baseDir := x },
  slot "targets" (list (TargetEntry.read s)) fun c x => { c with targets := x },
  slot "scanner" (ScanSettings.read s) fun c x => { c with scanner := x },
  slot "patterns" (RuleSettings.read s) fun c x => { c with patterns := x }]

def Config.read (s : Strictness) : Read Config :=
  record s "ScanConfig" (fields s) {} nothingMissing

/-! ## Wordings -/

def backquoted (s : String) : String := "`" ++ s ++ "`"

def backquotedList (names : List String) : String :=
  String.intercalate ", " (names.map backquoted)

def Value.layeredName : Value → String
  | null => "unit"
  | bool b => "bool " ++ toString b
  | number n =>
    match n with
    | .signed i =>
      if n.isWide then "integer " ++ backquoted (toString i) ++ " as i128"
      else "signed int " ++ backquoted (toString i)
    | .unsigned m =>
      if n.isWide then "integer " ++ backquoted (toString m) ++ " as u128"
      else "unsigned int " ++ backquoted (toString m)
    | .float x => "float " ++ backquoted x.plain
  | string s => "string " ++ Text.quoted s
  | char c => "string " ++ Text.quoted (String.singleton c)
  | list _ => "sequence"
  | dict _ => "map"

def Value.documentName : Value → String
  | null => "null"
  | bool b => "boolean " ++ backquoted (toString b)
  | number (.signed i) => "integer " ++ backquoted (toString i)
  | number (.unsigned n) => "integer " ++ backquoted (toString n)
  | number (.float x) => "floating point " ++ backquoted x.marked
  | string s => "string " ++ Text.quoted s
  | char c => "string " ++ Text.quoted (String.singleton c)
  | list _ => "sequence"
  | dict _ => "map"

def Mismatch.layeredMessage : Mismatch → String
  | invalidType v e => "invalid type: found " ++ v.layeredName ++ ", expected " ++ e
  | invalidValue v e => "invalid value " ++ v.layeredName ++ ", expected " ++ e
  | invalidLength n e => "invalid length " ++ toString n ++ ", expected " ++ e
  | unknownVariant name known =>
    "unknown variant: found " ++ backquoted name ++ ", expected " ++
      backquoted ("one of " ++ backquotedList known)
  | missingField name => "missing field " ++ backquoted name

def Mismatch.documentMessage : Mismatch → String
  | invalidType v e => "invalid type: " ++ v.documentName ++ ", expected " ++ e
  | invalidValue v e => "invalid value: " ++ v.documentName ++ ", expected " ++ e
  | invalidLength n e => "invalid length " ++ toString n ++ ", expected " ++ e
  | unknownVariant name known =>
    "unknown variant " ++ backquoted name ++ ", expected one of " ++ backquotedList known
  | missingField name => "missing field " ++ backquoted name

end ConstantScan
