import ConstantScan.Proofs.Lines
import ConstantScan.Scan.LineMatch
import Mathlib.Data.List.TakeWhile

/-!
# Lines and their ends

There is one way to divide a text into lines with their ends, and no item of the text is lost in it.
Its lines come off the front of the text one after the other, until nothing is left.
-/

namespace ConstantScan.Lines

variable {α : Type} {cr lf : α}

/-! ## Divisions -/

/-- A line with what ends it. -/
@[ext]
structure Piece (α : Type) where
  line : List α
  stop : List α
  deriving DecidableEq, Repr

def joined (ps : List (Piece α)) : List α := ps.flatMap fun p => p.line ++ p.stop

/-- A text in pieces. Only the last line may have no end, and then it is not empty. -/
structure IsDivision (cr lf : α) (text : List α) (ps : List (Piece α)) : Prop where
  joined_eq : joined ps = text
  plain : ∀ p ∈ ps, Plain cr lf p.line
  ends : ∀ front p back, ps = front ++ p :: back →
    Stop cr lf p.stop (joined back) ∨ p.stop = [] ∧ back = [] ∧ p.line ≠ []

theorem Stop.ne_nil {stop rest : List α} (h : Stop cr lf stop rest) : stop ≠ [] := by
  cases h <;> exact List.cons_ne_nil _ _

theorem Stop.getLast? {stop rest : List α} (h : Stop cr lf stop rest) :
    stop.getLast? = some cr ∨ stop.getLast? = some lf := by
  cases h with
  | returnNewline => exact .inr rfl
  | newline => exact .inr rfl
  | «return» => exact .inl rfl

theorem Stop.unique (hne : cr ≠ lf) {stop stop' rest rest' : List α} (h : Stop cr lf stop rest)
    (h' : Stop cr lf stop' rest') (heq : stop ++ rest = stop' ++ rest') : stop = stop' := by
  cases h with
  | returnNewline =>
    cases h' with
    | returnNewline => rfl
    | newline => simp [hne] at heq
    | «return» next =>
      -- What comes behind the return would begin with the newline.
      obtain rfl := (List.cons.inj heq).2
      simp at next
  | newline => cases h' <;> simp [hne.symm] at heq ⊢
  | «return» next =>
    cases h' with
    | returnNewline =>
      obtain rfl := (List.cons.inj heq).2
      simp at next
    | newline => simp [hne] at heq
    | «return» => rfl

/-- What comes behind a line settles how it ends. -/
theorem stop_eq_of_append_eq (hne : cr ≠ lf) {stop stop' rest rest' : List α}
    (h : Stop cr lf stop rest ∨ stop = [] ∧ rest = [])
    (h' : Stop cr lf stop' rest' ∨ stop' = [] ∧ rest' = []) (heq : stop ++ rest = stop' ++ rest') :
    stop = stop' := by
  rcases h with h | ⟨rfl, rfl⟩
  · rcases h' with h' | ⟨rfl, rfl⟩
    · exact h.unique hne h' heq
    · exact absurd (List.append_eq_nil_iff.1 heq).1 h.ne_nil
  · rcases h' with h' | ⟨rfl, rfl⟩
    · exact absurd (List.append_eq_nil_iff.1 heq.symm).1 h'.ne_nil
    · rfl

theorem isDivision_nil (cr lf : α) : IsDivision cr lf [] [] where
  joined_eq := rfl
  plain := by simp
  ends := by simp

theorem IsDivision.eq_nil {text : List α} (h : IsDivision cr lf text []) : text = [] :=
  h.joined_eq.symm

theorem isDivision_cons_iff {text : List α} {p : Piece α} {ps : List (Piece α)} :
    IsDivision cr lf text (p :: ps) ↔
      Plain cr lf p.line ∧ ∃ rest, text = p.line ++ p.stop ++ rest ∧ IsDivision cr lf rest ps ∧
        (Stop cr lf p.stop rest ∨ p.stop = [] ∧ ps = [] ∧ p.line ≠ []) := by
  constructor
  · intro h
    obtain ⟨hp, hps⟩ := List.forall_mem_cons.1 h.plain
    refine ⟨hp, joined ps, h.joined_eq.symm, ⟨rfl, hps, ?_⟩, h.ends [] p ps rfl⟩
    rintro front q back rfl
    exact h.ends (p :: front) q back rfl
  · rintro ⟨hp, rest, rfl, h, hend⟩
    refine ⟨?_, List.forall_mem_cons.2 ⟨hp, h.plain⟩, ?_⟩
    · rw [joined, List.flatMap_cons, ← joined, h.joined_eq]
    · intro front q back heq
      cases front with
      | nil =>
        obtain ⟨rfl, rfl⟩ := List.cons.inj heq
        rwa [h.joined_eq]
      | cons f front => exact h.ends front q back (List.cons.inj heq).2

/-! ## Existence and uniqueness -/

theorem Cut.exists_division {text : List α} {lines : List (List α)} (h : Cut cr lf text lines) :
    ∃ ps, IsDivision cr lf text ps ∧ ps.map Piece.line = lines := by
  induction h with
  | nil => exact ⟨[], isDivision_nil cr lf, rfl⟩
  | @last line ne_nil plain =>
    refine ⟨[⟨line, []⟩], isDivision_cons_iff.2 ⟨plain, [], ?_, isDivision_nil cr lf, ?_⟩, rfl⟩
    · simp
    · exact .inr ⟨rfl, rfl, ne_nil⟩
  | @cons line stop rest lines plain ends tail ih =>
    obtain ⟨ps, hps, hlines⟩ := ih
    refine ⟨⟨line, stop⟩ :: ps, isDivision_cons_iff.2 ⟨plain, rest, rfl, hps, .inl ends⟩, ?_⟩
    rw [List.map_cons, hlines]

theorem IsDivision.cut {text : List α} {ps : List (Piece α)} (h : IsDivision cr lf text ps) :
    Cut cr lf text (ps.map Piece.line) := by
  induction ps generalizing text with
  | nil => exact h.eq_nil ▸ .nil
  | cons p ps ih =>
    obtain ⟨hp, rest, rfl, hrest, hstop | ⟨hstop, rfl, hline⟩⟩ := isDivision_cons_iff.1 h
    · exact .cons hp hstop (ih hrest)
    · rw [hstop, hrest.eq_nil, List.append_nil, List.append_nil]
      exact .last hline hp

theorem IsDivision.unique (hne : cr ≠ lf) [DecidableEq α] {text : List α} {ps qs : List (Piece α)}
    (hps : IsDivision cr lf text ps) (hqs : IsDivision cr lf text qs) : ps = qs := by
  have hlines : ps.map Piece.line = qs.map Piece.line :=
    (split_eq_of_cut hne hps.cut).symm.trans (split_eq_of_cut hne hqs.cut)
  induction ps generalizing text qs with
  | nil => exact (List.map_eq_nil_iff.1 hlines.symm).symm
  | cons p ps ih =>
    cases qs with
    | nil => cases hlines
    | cons q qs =>
      obtain ⟨hline, hlines⟩ := List.cons.inj hlines
      obtain ⟨-, rest, rfl, hrest, hp⟩ := isDivision_cons_iff.1 hps
      obtain ⟨-, rest', htext, hrest', hq⟩ := isDivision_cons_iff.1 hqs
      rw [hline, List.append_assoc, List.append_assoc, List.append_cancel_left_eq] at htext
      have hp : Stop cr lf p.stop rest ∨ p.stop = [] ∧ rest = [] :=
        hp.imp_right fun ⟨hnil, hlast, _⟩ => ⟨hnil, (hlast ▸ hrest).eq_nil⟩
      have hq : Stop cr lf q.stop rest' ∨ q.stop = [] ∧ rest' = [] :=
        hq.imp_right fun ⟨hnil, hlast, _⟩ => ⟨hnil, (hlast ▸ hrest').eq_nil⟩
      have hstop : p.stop = q.stop := stop_eq_of_append_eq hne hp hq htext
      rw [hstop, List.append_cancel_left_eq] at htext
      rw [Piece.ext hline hstop, ih hrest (htext ▸ hrest') hlines]

/-! ## The number of lines -/

/-- The last line of the text has an end. -/
def EndsLine (cr lf : α) (text : List α) : Prop := ∃ stop, Stop cr lf stop [] ∧ stop <:+ text

def endCount (ps : List (Piece α)) : Nat := ps.countP (!·.stop.isEmpty)

theorem endCount_append (ps qs : List (Piece α)) :
    endCount (ps ++ qs) = endCount ps + endCount qs :=
  List.countP_append

theorem not_endsLine_of_plain {front line : List α} (hline : line ≠ []) (h : Plain cr lf line) :
    ¬ EndsLine cr lf (front ++ line) := by
  rintro ⟨stop, hstop, before, htext⟩
  have hlast : stop.getLast? = line.getLast? := by
    rw [← List.getLast?_append_of_ne_nil before hstop.ne_nil, htext,
      List.getLast?_append_of_ne_nil front hline]
  rcases hstop.getLast? with hcr | hlf
  · exact (h cr (List.mem_of_getLast? (hlast ▸ hcr))).1 rfl
  · exact (h lf (List.mem_of_getLast? (hlast ▸ hlf))).2 rfl

/-- All pieces but the last have an end. The last one has none just where the text is open. -/
theorem IsDivision.length_eq {text : List α} {ps : List (Piece α)} (h : IsDivision cr lf text ps) :
    (text = [] ∨ EndsLine cr lf text) ∧ ps.length = endCount ps ∨
      ¬ (text = [] ∨ EndsLine cr lf text) ∧ ps.length = endCount ps + 1 := by
  rcases List.eq_nil_or_concat' ps with rfl | ⟨front, p, rfl⟩
  · exact .inl ⟨.inl h.eq_nil, rfl⟩
  · -- A piece without an end is the last one, so those in front have ends.
    have hfront : endCount front = front.length := by
      rw [endCount, List.countP_eq_length]
      intro q hq
      obtain ⟨before, behind, rfl⟩ := List.append_of_mem hq
      rcases h.ends before q (behind ++ [p]) (by simp) with hstop | ⟨-, hnil, -⟩
      · simpa using hstop.ne_nil
      · simp at hnil
    have htext : joined front ++ p.line ++ p.stop = text := by
      rw [← h.joined_eq]
      simp [joined]
    rcases h.ends front p [] rfl with hstop | ⟨hstop, -, hline⟩
    · refine .inl ⟨.inr ⟨p.stop, hstop, ⟨_, htext⟩⟩, ?_⟩
      rw [endCount_append, hfront]
      simp [endCount, hstop.ne_nil]
    · rw [hstop, List.append_nil] at htext
      refine .inr ⟨?_, ?_⟩
      · rw [← htext]
        rintro (hnil | hends)
        · exact hline (List.append_eq_nil_iff.1 hnil).2
        · exact not_endsLine_of_plain hline (h.plain p (by simp)) hends
      · rw [endCount_append, hfront]
        simp [endCount, hstop]

/-! ## Taking lines off the front -/

variable [DecidableEq α]

def inLine (cr lf x : α) : Bool := x ≠ cr && x ≠ lf

/-- The first line and what comes behind its end. -/
def next? (cr lf : α) (text : List α) : Option (List α × List α) :=
  if text = [] then none
  else
    let behind := text.dropWhile (inLine cr lf)
    some (text.takeWhile (inLine cr lf), behind.drop (if [cr, lf].isPrefixOf behind then 2 else 1))

/-- Lines are taken off the front of a text until nothing is left. -/
inductive Draws (cr lf : α) : List α → List (List α) → Prop
  | done {text : List α} (h : next? cr lf text = none) : Draws cr lf text []
  | more {text line rest : List α} {lines : List (List α)}
      (h : next? cr lf text = some (line, rest)) (tail : Draws cr lf rest lines) :
      Draws cr lf text (line :: lines)

theorem Plain.inLine {line : List α} (h : Plain cr lf line) :
    ∀ x ∈ line, inLine cr lf x = true := by
  intro x hx
  simp [Lines.inLine, h x hx]

theorem next?_of_plain {line : List α} (hline : line ≠ []) (h : Plain cr lf line) :
    next? cr lf line = some (line, []) := by
  have htake := List.takeWhile_eq_self_iff.2 h.inLine
  have hdrop := List.dropWhile_eq_nil_iff.2 h.inLine
  simp [next?, hline, htake, hdrop]

theorem next?_of_stop (hne : cr ≠ lf) {line stop rest : List α} (h : Plain cr lf line)
    (hstop : Stop cr lf stop rest) : next? cr lf (line ++ stop ++ rest) = some (line, rest) := by
  have htext : line ++ stop ++ rest ≠ [] := by simp [hstop.ne_nil]
  rw [next?, if_neg htext, List.append_assoc]
  simp only [List.takeWhile_append_of_pos h.inLine, List.dropWhile_append_of_pos h.inLine]
  cases hstop with
  | returnNewline => simp [inLine]
  | newline => simp [inLine, hne]
  | «return» next =>
    cases rest with
    | nil => simp [inLine]
    | cons x rest =>
      have hx : lf ≠ x := fun e => next (by simp [e])
      simp [inLine, hx]

theorem Cut.draws (hne : cr ≠ lf) {text : List α} {lines : List (List α)}
    (h : Cut cr lf text lines) : Draws cr lf text lines := by
  induction h with
  | nil => exact .done rfl
  | last ne_nil plain => exact .more (next?_of_plain ne_nil plain) (.done rfl)
  | cons plain ends _ ih => exact .more (next?_of_stop hne plain ends) ih

end ConstantScan.Lines

namespace ConstantScan

open Lines

/-- The lines of a text are those of its only division, and they come off its front one after the
other. There is a line for each end, and one more if the text does not end with one. -/
theorem textLines_by_division (text : List Char) :
    ∃ ps, IsDivision '\r' '\n' text ps ∧ (∀ qs, IsDivision '\r' '\n' text qs → qs = ps) ∧
      textLines text = ps.map Piece.line ∧ Draws '\r' '\n' text (textLines text) ∧
      ((textLines text).length = endCount ps + 1 ↔ text ≠ [] ∧ ¬ EndsLine '\r' '\n' text) ∧
      ((textLines text).length = endCount ps ↔ text = [] ∨ EndsLine '\r' '\n' text) := by
  have hne : '\r' ≠ '\n' := by decide
  have hcut : Cut '\r' '\n' text (textLines text) := (cut_iff hne).2 rfl
  obtain ⟨ps, hps, hlines⟩ := hcut.exists_division
  refine ⟨ps, hps, fun qs hqs => hqs.unique hne hps, hlines.symm, hcut.draws hne, ?_⟩
  rw [← hlines, List.length_map, ← not_or]
  rcases hps.length_eq with ⟨hends, hlength⟩ | ⟨hopen, hlength⟩
  · exact ⟨iff_of_false (by omega) (not_not_intro hends), iff_of_true hlength hends⟩
  · exact ⟨iff_of_true hlength hopen, iff_of_false (by omega) hopen⟩

example : textLines "a\r\r\nb\n\r".toList = [['a'], [], ['b'], []] := by decide

end ConstantScan
