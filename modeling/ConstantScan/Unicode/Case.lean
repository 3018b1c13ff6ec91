import ConstantScan.Unicode.Runs
import ConstantScan.Unicode.CaseTable

/-! # Sets closed under a change of case -/

namespace ConstantScan.Unicode

/-- The classes of case variants that `caseTable` lists. -/
def caseClasses : List (List Nat) :=
  (caseTable.splitOn " ").map fun item =>
    (item.splitOn "-").map fun n =>
      n.foldl (fun v c => v * 16 + (Runs.hexDigit? c).getD 0) 0

/-- Adds every case variant of every member. -/
def Runs.closeCase (s : List Run) : List Run :=
  caseClasses.foldl
    (fun acc cls =>
      if cls.any (Runs.contains · s) then cls.foldl (fun a n => Runs.insert ⟨n, n⟩ a) acc else acc)
    s

/-- Adds the other case of the letters `A` to `Z` and `a` to `z`. -/
def Runs.closeAsciiCase (s : List Run) : List Run :=
  (List.range 26).foldl
    (fun acc i =>
      if Runs.contains (0x41 + i) s || Runs.contains (0x61 + i) s then
        Runs.insert ⟨0x41 + i, 0x41 + i⟩ (Runs.insert ⟨0x61 + i, 0x61 + i⟩ acc)
      else acc)
    s

end ConstantScan.Unicode
