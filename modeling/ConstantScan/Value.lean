import ConstantScan.Number.Double

/-! # Values of configuration files -/

namespace ConstantScan

inductive Number
  | signed (i : Int)
  | unsigned (n : Nat)
  | float (x : Double)
  deriving DecidableEq, Repr

namespace Number

def toInt? : Number → Option Int
  | signed i => some i
  | unsigned n => some n
  | float _ => none

/-- A whole number that does not fit into 64 bits. -/
def isWide : Number → Bool
  | signed i => i < Int64.minValue.toInt || Int64.maxValue.toInt < i
  | unsigned n => UInt64.size ≤ n
  | float _ => false

end Number

inductive Value
  | null
  | bool (b : Bool)
  | number (n : Number)
  | string (s : String)
  | char (c : Char)
  | list (items : List Value)
  | dict (entries : List (String × Value))
  deriving Repr, Inhabited

abbrev Dict := List (String × Value)

namespace Dict

def get? (key : String) : Dict → Option Value
  | [] => none
  | (k, v) :: rest => if k = key then some v else get? key rest

/-- Sets a key; the keys stay in ascending order. -/
def insert (key : String) (value : Value) : Dict → Dict
  | [] => [(key, value)]
  | (k, v) :: rest =>
    if key = k then (key, value) :: rest
    else if key < k then (key, value) :: (k, v) :: rest
    else (k, v) :: insert key value rest

/-- The entries in ascending order; of two with one key the later one stays. -/
def ofList (entries : Dict) : Dict := entries.foldl (fun d e => insert e.1 e.2 d) []

theorem get?_insert_self (key : String) (value : Value) (d : Dict) :
    get? key (insert key value d) = some value := by
  induction d with
  | nil => simp [insert, get?]
  | cons e rest ih =>
    obtain ⟨k, v⟩ := e
    simp only [insert]
    split
    · simp [get?]
    · split
      · simp [get?]
      · next h _ => simp [get?, ih, Ne.symm h]

theorem get?_insert_of_ne {key other : String} (h : other ≠ key) (value : Value) (d : Dict) :
    get? other (insert key value d) = get? other d := by
  induction d with
  | nil => simp [insert, get?, Ne.symm h]
  | cons e rest ih =>
    obtain ⟨k, v⟩ := e
    simp only [insert]
    split
    · next hk => subst hk; simp [get?, Ne.symm h]
    · split
      · simp [get?, Ne.symm h]
      · simp [get?, ih]

end Dict

end ConstantScan
