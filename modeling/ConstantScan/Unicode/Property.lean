import ConstantScan.Unicode.Runs
import ConstantScan.Unicode.Blank
import ConstantScan.Unicode.CategoryTable
import ConstantScan.Unicode.ScriptTable
import ConstantScan.Unicode.PropertyTable
import ConstantScan.Unicode.WordTable

/-! # Character properties by name -/

namespace ConstantScan.Unicode

/-- A name as the tables write it: small letters, no blanks, dashes, underscores or leading `is`. -/
def simplify (name : String) : String :=
  let cs := name.toList
  let short := cs.length ≥ 2 && (cs.take 2).map Char.toLower == ['i', 's']
  let kept := (if short then cs.drop 2 else cs).filter fun c =>
    c ≠ ' ' && c ≠ '_' && c ≠ '-' && c.toNat < 0x80
  let lower := String.ofList (kept.map Char.toLower)
  if short && lower == "c" then "isc" else lower

def row? (table : List (List String × String)) (name : String) : Option (List Run) :=
  (table.find? (·.1.contains name)).map (Runs.decode ·.2)

/-- The categories that a one-letter category gathers. -/
def majorCategories : List (List String × List String) := [
  (["c", "other"], ["cc", "cf", "cn", "co"]),
  (["l", "letter"], ["lu", "ll", "lt", "lm", "lo"]),
  (["lc", "casedletter"], ["lu", "ll", "lt"]),
  (["m", "mark", "combiningmark"], ["mn", "mc", "me"]),
  (["n", "number"], ["nd", "nl", "no"]),
  (["p", "punctuation", "punct"], ["pc", "pd", "ps", "pe", "pi", "pf", "po"]),
  (["s", "symbol"], ["sm", "sc", "sk", "so"]),
  (["z", "separator"], ["zs", "zl", "zp"])]

def category? (name : String) : Option (List Run) :=
  match majorCategories.find? (·.1.contains name) with
  | some (_, parts) =>
    some (parts.foldl (fun s n => Runs.union ((row? categoryTable n).getD []) s) [])
  | none =>
    match name with
    | "any" => some [⟨0, maxCodePoint⟩]
    | "ascii" => some [⟨0, 0x7F⟩]
    | "assigned" =>
      some (Runs.complement maxCodePoint ((row? categoryTable "cn").getD []))
    | _ => row? categoryTable name

def script? (name : String) : Option (List Run) := row? scriptTable name

def scriptExtensions? (name : String) : Option (List Run) :=
  (row? scriptExtensionTable name).or (row? scriptTable name)

def binary? (name : String) : Option (List Run) := row? propertyTable name

/-- The set named alone, as in `\p{Greek}`: a binary property, a category or a script. -/
def named? (name : String) : Option (List Run) :=
  let n := simplify name
  let category := (category? n).or (script? n)
  if n == "cf" || n == "sc" || n == "lc" then category else (binary? n).or category

/-- The set of a property and a value, as in `\p{sc=Greek}`. -/
def valued? (property value : String) : Option (List Run) :=
  match simplify property with
  | "gc" | "generalcategory" => category? (simplify value)
  | "sc" | "script" => script? (simplify value)
  | "scx" | "scriptextensions" => scriptExtensions? (simplify value)
  | _ => none

def wordRuns : List Run := Runs.decode wordTable

def isWord (c : Char) : Bool := Runs.contains c.toNat wordRuns

def digitRuns : List Run := (row? categoryTable "nd").getD []

def alphabeticRuns : List Run := (row? propertyTable "alphabetic").getD []

def isAlphabetic (c : Char) : Bool := Runs.contains c.toNat alphabeticRuns

def isNumeric (c : Char) : Bool := Runs.contains c.toNat ((category? "n").getD [])

end ConstantScan.Unicode
