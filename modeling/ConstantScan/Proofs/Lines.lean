import ConstantScan.Text.Lines
import Mathlib.Data.List.Basic
import Mathlib.Data.List.Induction

/-!
# Cutting at line ends

What the lines of a text are, said on the text alone: it is cut behind each return, each newline and
each return with a newline after it. The reader that goes through a text item by item finds these
lines and no others.
-/

namespace ConstantScan.Lines

variable {α : Type} {cr lf : α}

/-! ## The lines of a text -/

/-- The items end no line. -/
def Plain (cr lf : α) (line : List α) : Prop := ∀ x ∈ line, x ≠ cr ∧ x ≠ lf

/-- `stop` ends a line in front of `rest`. A return with a newline after it does not end a line
alone. -/
inductive Stop (cr lf : α) : (stop rest : List α) → Prop
  | returnNewline (rest : List α) : Stop cr lf [cr, lf] rest
  | newline (rest : List α) : Stop cr lf [lf] rest
  | return {rest : List α} (next : rest.head? ≠ some lf) : Stop cr lf [cr] rest

/-- A text and its lines. Only the last line may have no end, and then it is not empty. -/
inductive Cut (cr lf : α) : List α → List (List α) → Prop
  | nil : Cut cr lf [] []
  | last {line : List α} (ne_nil : line ≠ []) (plain : Plain cr lf line) : Cut cr lf line [line]
  | cons {line stop rest : List α} {lines : List (List α)} (plain : Plain cr lf line)
      (ends : Stop cr lf stop rest) (tail : Cut cr lf rest lines) :
      Cut cr lf (line ++ stop ++ rest) (line :: lines)

theorem Plain.nil (cr lf : α) : Plain cr lf [] := fun _ h => absurd h List.not_mem_nil

theorem Cut.cons_plain {x : α} (hx : x ≠ cr ∧ x ≠ lf) {xs : List α} {lines : List (List α)}
    (h : Cut cr lf xs lines) : ∃ lines', Cut cr lf (x :: xs) lines' := by
  cases h with
  | nil => exact ⟨_, .last (by simp) (by simpa [Plain] using hx)⟩
  | last ne_nil plain =>
    exact ⟨_, .last (List.cons_ne_nil _ _) (List.forall_mem_cons.2 ⟨hx, plain⟩)⟩
  | cons plain ends tail => exact ⟨_, .cons (List.forall_mem_cons.2 ⟨hx, plain⟩) ends tail⟩

/-- Every text has lines. A return is read together with the item after it. -/
theorem exists_cut (cr lf : α) (xs : List α) : ∃ lines, Cut cr lf xs lines := by
  have empty := Plain.nil cr lf
  induction xs using List.twoStepInduction with
  | nil => exact ⟨_, .nil⟩
  | singleton x =>
    rcases eq_or_ne x lf with rfl | hlf
    · exact ⟨_, .cons empty (.newline []) .nil⟩
    rcases eq_or_ne x cr with rfl | hcr
    · exact ⟨_, .cons empty (.return (by simp)) .nil⟩
    exact Cut.nil.cons_plain ⟨hcr, hlf⟩
  | cons_cons x y xs ihxs ihy =>
    obtain ⟨_, hxs⟩ := ihxs
    obtain ⟨_, hy⟩ := ihy y
    rcases eq_or_ne x lf with rfl | hlf
    · exact ⟨_, .cons empty (.newline _) hy⟩
    rcases eq_or_ne x cr with rfl | hcr
    · rcases eq_or_ne y lf with rfl | hylf
      · exact ⟨_, .cons empty (.returnNewline _) hxs⟩
      · exact ⟨_, .cons empty (.return (by simpa using hylf)) hy⟩
    exact hy.cons_plain ⟨hcr, hlf⟩

/-! ## The reader -/

variable [DecidableEq α]

theorem foldl_read_of_plain (s : Reader α) {line : List α} (h : Plain cr lf line) :
    line.foldl (Reader.read cr lf) s =
      { s with
        current := line.reverse ++ s.current
        afterReturn := line.isEmpty && s.afterReturn } := by
  induction line generalizing s with
  | nil => rfl
  | cons x line ih =>
    obtain ⟨⟨hcr, hlf⟩, hline⟩ := List.forall_mem_cons.1 h
    rw [List.foldl_cons, Reader.read, if_neg hlf, if_neg hcr, ih _ hline]
    simp

/-- That a return came before only counts if a newline is next. -/
theorem finish_foldl_afterReturn (s : Reader α) {xs : List α} (h : xs.head? ≠ some lf)
    (b : Bool) :
    (xs.foldl (Reader.read cr lf) { s with afterReturn := b }).finish =
      (xs.foldl (Reader.read cr lf) { s with afterReturn := false }).finish := by
  cases xs with
  | nil => rfl
  | cons x xs =>
    have hx : x ≠ lf := fun e => h (by simp [e])
    simp only [List.foldl_cons, Reader.read, if_neg hx, Reader.endLine]

/-- From the start of a line on, the reader adds the lines of what follows. -/
theorem finish_foldl_read (hne : cr ≠ lf) {xs : List α} {lines : List (List α)}
    (h : Cut cr lf xs lines) (before : List (List α)) :
    (xs.foldl (Reader.read cr lf) { lines := before }).finish = before.reverse ++ lines := by
  induction h generalizing before with
  | nil => simp [Reader.finish]
  | @last line ne_nil plain =>
    rw [foldl_read_of_plain _ plain, Reader.finish]
    split
    · next hnil => simp_all
    · simp [Reader.endLine]
  | @cons line stop rest lines plain ends tail ih =>
    rw [List.foldl_append, List.foldl_append, foldl_read_of_plain _ plain]
    have hline : before.reverse ++ line :: lines = (line :: before).reverse ++ lines := by simp
    rw [hline, ← ih (line :: before)]
    cases ends with
    | returnNewline => simp [Reader.read, Reader.endLine, hne]
    | newline => simp [Reader.read, Reader.endLine]
    | «return» next =>
      rw [← finish_foldl_afterReturn { lines := line :: before } next true]
      simp [Reader.read, Reader.endLine, hne]

theorem split_eq_of_cut (hne : cr ≠ lf) {xs : List α} {lines : List (List α)}
    (h : Cut cr lf xs lines) : split cr lf xs = lines := by
  rw [split, finish_foldl_read hne h, List.reverse_nil, List.nil_append]

/-- A text has just the lines that the reader finds. -/
theorem cut_iff (hne : cr ≠ lf) {xs : List α} {lines : List (List α)} :
    Cut cr lf xs lines ↔ split cr lf xs = lines := by
  refine ⟨split_eq_of_cut hne, ?_⟩
  rintro rfl
  obtain ⟨lines, h⟩ := exists_cut cr lf xs
  exact split_eq_of_cut hne h ▸ h

end ConstantScan.Lines
