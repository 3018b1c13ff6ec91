import ConstantScan.Cli.Run

/-!
# Status lines written out

What status lines are as texts, with the sequences that switch styles on and off.
-/

namespace ConstantScan

namespace Printed

theorem append_out (p q : Printed) : (p ++ q).out = p.out ++ q.out := rfl

theorem append_empty (p : Printed) : p ++ ({} : Printed) = p :=
  Printed.ext String.append_empty String.append_empty

theorem empty_append (p : Printed) : ({} : Printed) ++ p = p :=
  Printed.ext String.empty_append String.empty_append

theorem out_foldl_append (ps : List Printed) (p : Printed) :
    (ps.foldl append p).out = p.out ++ String.join (ps.map Printed.out) := by
  induction ps generalizing p with
  | nil => exact String.append_empty.symm
  | cons q ps ih =>
    rw [List.foldl_cons, ih, List.map_cons, String.join_cons, ← String.append_assoc]
    rfl

theorem out_join (ps : List Printed) : (join ps).out = String.join (ps.map Printed.out) :=
  (out_foldl_append ps {}).trans String.empty_append

theorem join_out {ps : List Printed} (h : ∀ p ∈ ps, p.out = "") : (join ps).out = "" := by
  rw [out_join]
  induction ps with
  | nil => rfl
  | cons p ps ih =>
    rw [List.forall_mem_cons] at h
    rw [List.map_cons, String.join_cons, h.1, ih h.2]
    rfl

end Printed

/-- A text between the sequence that switches a style on and the one that switches it off. -/
def marked (color : Bool) (start text : String) : String :=
  if color then start ++ text ++ "\x1b[0m" else text

/-- The line of a key, filled up with blanks, and its value. -/
def keyText (color : Bool) (key value : String) : String :=
  "  " ++ marked color "\x1b[2m" key ++ " " ++ value ++ "\n"

namespace Console

variable (c : Console)

end Console

end ConstantScan
