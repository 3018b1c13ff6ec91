import ConstantScan.Unicode.Property

/-! # Quoted texts in messages -/

namespace ConstantScan.Text

open Unicode (Run Runs row? categoryTable propertyTable)

/-- Characters with a shape of their own; of the blanks only the space has one. -/
def isVisible (c : Char) : Bool :=
  c == ' ' ||
    !(["cc", "cf", "cn", "co", "zs", "zl", "zp"].any fun n =>
      Runs.contains c.toNat ((row? categoryTable n).getD []))

def extendsCluster (c : Char) : Bool :=
  Runs.contains c.toNat ((row? propertyTable "graphemeextend").getD [])

def hexDigits (n : Nat) : String := String.ofList (Nat.toDigits 16 n)

/-- A character inside double quotes: visible ones as they are, others by name or number. -/
def quoteChar (c : Char) : String :=
  match c with
  | '\x00' => "\\0"
  | '\t' => "\\t"
  | '\r' => "\\r"
  | '\n' => "\\n"
  | '\\' => "\\\\"
  | '"' => "\\\""
  | c =>
    if c.toNat < 0x7F && c.toNat ≥ 0x20 then String.singleton c
    else if !extendsCluster c && isVisible c then String.singleton c
    else "\\u\x7b" ++ hexDigits c.toNat ++ "\x7d"

def quoted (s : String) : String := "\"" ++ String.join (s.toList.map quoteChar) ++ "\""

end ConstantScan.Text
