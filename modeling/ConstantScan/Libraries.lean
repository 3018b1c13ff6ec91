import ConstantScan.Config.Extract
import ConstantScan.Config.Format
import ConstantScan.FileFilter
import ConstantScan.Path
import ConstantScan.Rule.Basic

/-!
# What is left to libraries

Some expressions and globs are refused for reasons of size, and what is told of faults in documents
is in words of their own. Where such things matter they are parameters; each has a standard value.
-/

namespace ConstantScan

structure Libraries where
  readRegex : RegexReader := Regex.read
  joinGlobs : GlobJoiner := FileFilter.joinAny
  documentFault : ConfigFormat → Path → Bytes → String :=
    fun format file _ => "no " ++ format.name ++ " document: " ++ file.toString
  /-- Where a value with a problem comes from, told behind it. The file that the caller names and
  what the caller asks for are given. -/
  origin : Option Path → Option Value → Problem → String :=
    fun _ _ p =>
      if p.path.isEmpty then "" else " for key \"default." ++ String.intercalate "." p.path ++ "\""
  writeFault : ConfigFormat → Config → String := fun format _ => "no " ++ format.name ++ " value"

end ConstantScan
