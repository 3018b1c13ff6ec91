import ConstantScan.Proofs.Numerals
import ConstantScan.Toml.Printer
import Mathlib

/-!
# TOML strings read back

Whichever of its forms a string is written in, it reads as that string.
-/

namespace ConstantScan.Toml

open Unicode (Runs)

/-! ## Escapes -/

theorem hexDigit?_hexDigit : ∀ n < 16, Runs.hexDigit? (hexDigit n) = some n := by decide

theorem numbered_zero_toNat (c : Char) (cs : List Char) :
    numbered 0 c.toNat cs = some (c, cs) := by
  have hvalid : c.toNat.isValidChar := c.valid
  rw [numbered, dif_pos hvalid]
  rfl

/-- A text that stands for a character by a backslash and what follows it. -/
def IsEscape (text : List Char) (c : Char) : Prop :=
  ∀ cs, ∃ rest, text ++ cs = '\\' :: rest ∧ escape rest = some (c, cs)

theorem isEscape_numberEscape {c : Char} (h : c.toNat < 65536) :
    IsEscape (numberEscape c.toNat) c := by
  intro cs
  refine ⟨'u' :: hexDigit (c.toNat / 4096 % 16) :: hexDigit (c.toNat / 256 % 16) ::
    hexDigit (c.toNat / 16 % 16) :: hexDigit (c.toNat % 16) :: cs, rfl, ?_⟩
  have hvalue : (((0 * 16 + c.toNat / 4096 % 16) * 16 + c.toNat / 256 % 16) * 16 +
      c.toNat / 16 % 16) * 16 + c.toNat % 16 = c.toNat := by omega
  have hdigit (n : Nat) : Runs.hexDigit? (hexDigit (n % 16)) = some (n % 16) :=
    hexDigit?_hexDigit _ (Nat.mod_lt _ (by decide))
  simp only [escape, numbered, hdigit, Option.bind_some, hvalue]
  exact numbered_zero_toNat c cs

theorem toNat_lt_of_isControl {c : Char} (h : isControl c = true) : c.toNat < 65536 := by
  simp only [isControl, Bool.or_eq_true, Bool.and_eq_true, decide_eq_true_eq, beq_iff_eq] at h
  omega

/-- How a character may be written, and how many quotes in a row there are then. -/
inductive Written (lines : Bool) (quotes : Nat) : Char → List Char → Nat → Prop
  | quote (hlines : lines = true) (h : quotes < 2) : Written lines quotes '"' ['"'] (quotes + 1)
  | newline (hlines : lines = true) : Written lines quotes '\n' ['\n'] 0
  | same {c : Char} (hcontrol : isControl c = false) (hquote : c ≠ '"') (hbackslash : c ≠ '\\') :
    Written lines quotes c [c] 0
  | escape {c : Char} {text : List Char} (h : IsEscape text c) : Written lines quotes c text 0

theorem escapeChars_cons (lines : Bool) (quotes : Nat) (c : Char) (cs : List Char) :
    ∃ text next, escapeChars lines quotes (c :: cs) = text ++ escapeChars lines next cs ∧
      Written lines quotes c text next := by
  have hsign (sign : Char) (h : ∀ cs, escape (sign :: cs) = some (c, cs)) :
      Written lines quotes c ['\\', sign] 0 := .escape fun cs => ⟨_, rfl, h cs⟩
  rw [escapeChars.eq_def]
  dsimp only
  split
  · split
    · next h =>
      obtain ⟨hlines, hquotes⟩ : lines = true ∧ quotes < 2 := by simpa using h
      exact ⟨['"'], _, rfl, .quote hlines hquotes⟩
    · exact ⟨_, _, rfl, hsign '"' fun _ => rfl⟩
  · exact ⟨_, _, rfl, hsign '\\' fun _ => rfl⟩
  · exact ⟨_, _, rfl, hsign 'b' fun _ => rfl⟩
  · exact ⟨_, _, rfl, hsign 't' fun _ => rfl⟩
  · split
    · next hlines => exact ⟨['\n'], _, rfl, .newline hlines⟩
    · exact ⟨_, _, rfl, hsign 'n' fun _ => rfl⟩
  · exact ⟨_, _, rfl, hsign 'f' fun _ => rfl⟩
  · exact ⟨_, _, rfl, hsign 'r' fun _ => rfl⟩
  · next hquote hbackslash _ _ _ _ _ =>
    split
    · next hcontrol =>
      exact ⟨_, _, rfl, .escape (isEscape_numberEscape (toNat_lt_of_isControl hcontrol))⟩
    · next hcontrol =>
      exact ⟨[c], _, rfl, .same (by simpa using hcontrol) hquote hbackslash⟩

theorem IsEscape.cons {text : List Char} {c : Char} (h : IsEscape text c) :
    ∃ more, text = '\\' :: more := by
  cases text with
  | nil =>
    obtain ⟨rest, hrest, -⟩ := h []
    simp at hrest
  | cons d more =>
    obtain ⟨rest, hrest, -⟩ := h []
    rw [List.cons_append, List.cons.injEq] at hrest
    exact ⟨more, by rw [hrest.1]⟩

/-! ## Strings on one line -/

theorem basic_escapeChars (acc : List Char) (quotes : Nat) (cs rest : List Char) {fuel : Nat}
    (h : (escapeChars false quotes cs).length < fuel) :
    basic acc fuel (escapeChars false quotes cs ++ '"' :: rest) =
      some (acc.reverse ++ cs, rest) := by
  induction cs generalizing acc quotes fuel with
  | nil =>
    cases fuel with
    | zero => simp at h
    | succ fuel => simp [escapeChars, basic]
  | cons c cs ih =>
    -- One step reads what stands for `c`: itself or its escape.
    obtain ⟨text, next, htext, hwritten⟩ := escapeChars_cons false quotes c cs
    rw [htext, List.length_append] at h
    rw [htext, List.append_assoc]
    cases fuel with
    | zero => omega
    | succ fuel =>
      cases hwritten with
      | quote hlines => exact absurd hlines Bool.false_ne_true
      | newline hlines => exact absurd hlines Bool.false_ne_true
      | same hcontrol hquote hbackslash =>
        rw [List.singleton_append, basic]
        · rw [hcontrol, if_neg Bool.false_ne_true, ih _ _ (by
            rw [List.length_singleton] at h
            omega)]
          simp
        · exact hquote
        · exact hbackslash
      | escape hescape =>
        obtain ⟨more, rfl⟩ := hescape.cons
        obtain ⟨rest', hrest', hread⟩ := hescape (escapeChars false 0 cs ++ '"' :: rest)
        rw [List.length_cons] at h
        rw [hrest', basic, hread, Option.bind_some]
        dsimp only
        rw [ih _ _ (by omega)]
        simp

/-! ## Strings on several lines

Up to two quotes in a row belong to the text, so a reader knows what a quote is only once it sees what
comes after it. -/

theorem closing_replicate (quote : Char) {n : Nat} (hn : n ≤ 5) {rest : List Char}
    (hrest : Stops (· == quote) rest) :
    closing quote (List.replicate n quote ++ rest) =
      if n < 3 then none else some (List.replicate (n - 3) quote, rest) := by
  have htake : ((List.replicate n quote ++ rest).take 5).takeWhile (· == quote) =
      List.replicate n quote := by
    rw [List.take_append, List.take_of_length_le (by simpa using hn)]
    refine Stops.takeWhile_append ?_ (by simp)
    exact hrest.take _
  have hdrop : (List.replicate n quote ++ rest).drop n = rest := by
    rw [List.drop_append_of_le_length (by simp), List.drop_eq_nil_of_le (by simp),
      List.nil_append]
  simp [closing, htake, hdrop]

/-- The text stands for the character, in front of anything. -/
def Stands (quote : Char) (escapes : Bool) (text : List Char) (c : Char) : Prop :=
  (∃ d more, text = d :: more ∧ d ≠ quote) ∧ ∀ acc fuel rest,
    multiLine quote escapes acc (fuel + 1) (text ++ rest) =
      multiLine quote escapes (c :: acc) fuel rest

theorem closing_cons_of_ne {quote c : Char} (h : c ≠ quote) (cs : List Char) :
    closing quote (c :: cs) = none := by
  have hstops : Stops (· == quote) (c :: cs) := stops_cons.2 (by simpa using h)
  have hclosing := closing_replicate quote (n := 0) (by decide) hstops
  simpa using hclosing

theorem afterNewline?_cons {c : Char} (h : c ≠ '\n') (h' : c ≠ '\r') (cs : List Char) :
    afterNewline? (c :: cs) = none := by
  rw [afterNewline?.eq_def]
  split
  · next heq => exact absurd (List.cons.inj heq).1 h
  · next heq => exact absurd (List.cons.inj heq).1 h'
  · rfl

theorem ne_newline_of_not_isControl {c : Char} (h : isControl c = false) : c ≠ '\n' ∧ c ≠ '\r' := by
  constructor <;> rintro rfl <;> exact absurd h (by decide)

theorem stands_same {quote : Char} {escapes : Bool} {c : Char} (hcontrol : isControl c = false)
    (hquote : c ≠ quote) (hbackslash : c = '\\' → escapes = false) :
    Stands quote escapes [c] c := by
  refine ⟨⟨c, [], rfl, hquote⟩, fun acc fuel rest => ?_⟩
  obtain ⟨hn, hr⟩ := ne_newline_of_not_isControl hcontrol
  have hspecial : ¬ (c = '\\' && escapes) = true := by
    intro h
    simp only [Bool.and_eq_true, decide_eq_true_eq] at h
    exact Bool.noConfusion ((hbackslash h.1).symm.trans h.2)
  rw [List.singleton_append, multiLine.eq_def]
  simp only [closing_cons_of_ne hquote, afterNewline?_cons hn hr, hspecial, hcontrol]
  rfl

theorem stands_newline {quote : Char} (escapes : Bool) (hquote : '\n' ≠ quote) :
    Stands quote escapes ['\n'] '\n' := by
  refine ⟨⟨'\n', [], rfl, hquote⟩, fun acc fuel rest => ?_⟩
  rw [List.singleton_append, multiLine.eq_def]
  simp only [closing_cons_of_ne hquote]
  rfl

/-- After a backslash an escape is not taken for blanks that end a line. -/
theorem afterNewline?_of_escape {rest cs : List Char} {c : Char}
    (h : escape rest = some (c, cs)) : afterNewline? (skipSpaces rest) = none := by
  unfold escape at h
  split at h
  case h_10 => exact absurd h (Option.some_ne_none _).symm
  all_goals rfl

theorem stands_escape {text : List Char} {c : Char} (h : IsEscape text c) :
    Stands '"' true text c := by
  obtain ⟨more, rfl⟩ := h.cons
  refine ⟨⟨'\\', more, rfl, by decide⟩, fun acc fuel rest => ?_⟩
  obtain ⟨rest', hrest', hread⟩ := h rest
  have hquote : '\\' ≠ '"' := by decide
  rw [hrest', multiLine.eq_def]
  simp only [closing_cons_of_ne hquote, afterNewline?_cons (c := '\\') (by decide) (by decide),
    decide_true, Bool.and_self, if_true, afterNewline?_of_escape hread, hread, Option.bind_some]

/-- A text between two runs of three quotes and the string it stands for; so many quotes stand in
front of both. -/
inductive Spells (quote : Char) (escapes : Bool) : Nat → List Char → List Char → Prop
  | nil {quotes : Nat} (h : quotes ≤ 2) : Spells quote escapes quotes [] []
  | quote {quotes : Nat} {text cs : List Char} (h : quotes < 2)
    (hnext : Spells quote escapes (quotes + 1) text cs) :
    Spells quote escapes quotes (quote :: text) (quote :: cs)
  | char {quotes : Nat} {c : Char} {piece text cs : List Char} (h : quotes ≤ 2)
    (hpiece : Stands quote escapes piece c) (hnext : Spells quote escapes 0 text cs) :
    Spells quote escapes quotes (piece ++ text) (c :: cs)

section

variable {quote : Char} (hcontrol : isControl quote = false) (hbackslash : quote ≠ '\\')
include hcontrol hbackslash

/-- One or two quotes in a row are characters like others. -/
theorem multiLine_quotes (escapes : Bool) {n : Nat} (hn : n ≤ 2) (acc : List Char) (fuel : Nat)
    {rest : List Char} (hrest : Stops (· == quote) rest) :
    multiLine quote escapes acc (fuel + n) (List.replicate n quote ++ rest) =
      multiLine quote escapes (List.replicate n quote ++ acc) fuel rest := by
  induction n generalizing acc with
  | zero => rfl
  | succ n ih =>
    have hclosing : closing quote (quote :: (List.replicate n quote ++ rest)) = none := by
      have h := closing_replicate quote (n := n + 1) (by omega) hrest
      rwa [if_pos (by omega), List.replicate_succ, List.cons_append] at h
    obtain ⟨hn', hr⟩ := ne_newline_of_not_isControl hcontrol
    have hspecial : ¬ (quote = '\\' && escapes) = true := by simp [hbackslash]
    rw [List.replicate_succ, List.cons_append, ← Nat.add_assoc, multiLine.eq_def]
    simp only [hclosing, afterNewline?_cons hn' hr, hspecial, hcontrol]
    rw [if_neg (by simp), if_neg (by simp), ih (by omega)]
    rw [List.append_cons, ← List.replicate_succ', List.replicate_succ]

theorem multiLine_spells {escapes : Bool} {quotes : Nat} {text cs : List Char}
    (h : Spells quote escapes quotes text cs) (acc : List Char) {rest : List Char} {fuel : Nat}
    (hrest : Stops (· == quote) rest) (hfuel : quotes + text.length < fuel) :
    multiLine quote escapes acc fuel
        (List.replicate quotes quote ++ (text ++ (List.replicate 3 quote ++ rest))) =
      some (acc.reverse ++ (List.replicate quotes quote ++ cs), rest) := by
  induction h generalizing acc fuel with
  | @nil quotes h =>
    have hclosing := closing_replicate quote (n := quotes + 3) (by omega) hrest
    rw [if_neg (by omega), List.replicate_add, List.append_assoc] at hclosing
    cases fuel with
    | zero => omega
    | succ fuel =>
      rw [List.nil_append, multiLine.eq_def]
      simp only [hclosing]
      simp
  | @quote quotes text cs h hnext ih =>
    -- A quote joins those in front of it: they are read only when their run is at its end.
    have hshift (l : List Char) : List.replicate quotes quote ++ quote :: l =
        List.replicate (quotes + 1) quote ++ l := by
      rw [List.replicate_succ', List.append_assoc, List.singleton_append]
    rw [List.cons_append, hshift, hshift]
    exact ih acc (by
      rw [List.length_cons] at hfuel
      omega)
  | @char quotes c piece text cs h hpiece hnext ih =>
    obtain ⟨⟨d, more, rfl, hd⟩, hread⟩ := hpiece
    rw [List.length_append, List.length_cons] at hfuel
    obtain ⟨fuel, rfl⟩ : ∃ k, fuel = k + 1 + quotes := ⟨fuel - 1 - quotes, by omega⟩
    rw [multiLine_quotes hcontrol hbackslash escapes h acc _ (by
      rw [List.append_assoc, List.cons_append]
      exact stops_cons.2 (by simpa using hd)), List.append_assoc, hread]
    have hfuel' : 0 + text.length < fuel := by omega
    have hrec := ih (c :: (List.replicate quotes quote ++ acc)) hfuel'
    rw [List.replicate_zero, List.nil_append, List.nil_append] at hrec
    rw [hrec]
    simp

end

theorem spells_escapeChars {quotes : Nat} (h : quotes ≤ 2) (cs : List Char) :
    Spells '"' true quotes (escapeChars true quotes cs) cs := by
  induction cs generalizing quotes with
  | nil => exact .nil h
  | cons c cs ih =>
    obtain ⟨text, next, htext, hwritten⟩ := escapeChars_cons true quotes c cs
    rw [htext]
    cases hwritten with
    | quote _ hquotes => exact .quote hquotes (ih (by omega))
    | newline => exact .char h (stands_newline true (by decide)) (ih (by omega))
    | same hcontrol hquote hbackslash =>
      exact .char h (stands_same hcontrol hquote fun hc => absurd hc hbackslash) (ih (by omega))
    | escape hescape => exact .char h (stands_escape hescape) (ih (by omega))

/-- The longest run after one of `run` is at its end; no run before was longer than `most`. -/
def longestFrom (quote : Char) (run most : Nat) : List Char → Nat
  | [] => most
  | c :: cs =>
    if c = quote then longestFrom quote (run + 1) (max most (run + 1)) cs
    else longestFrom quote 0 most cs

theorem longestRun_eq (quote : Char) (cs : List Char) :
    longestRun quote cs = longestFrom quote 0 0 cs := by
  have hfoldl (s : Nat × Nat) : (cs.foldl (fun s d =>
      if d = quote then (s.1 + 1, max s.2 (s.1 + 1)) else (0, s.2)) s).2 =
      longestFrom quote s.1 s.2 cs := by
    induction cs generalizing s with
    | nil => rfl
    | cons c cs ih =>
      rw [List.foldl_cons, longestFrom, ih]
      split <;> rfl
  exact hfoldl (0, 0)

theorem le_longestFrom (quote : Char) (run most : Nat) (cs : List Char) :
    most ≤ longestFrom quote run most cs := by
  induction cs generalizing run most with
  | nil => exact Nat.le_refl _
  | cons c cs ih =>
    rw [longestFrom]
    split
    · exact (Nat.le_max_left _ _).trans (ih _ _)
    · exact ih _ _

/-- A text without controls and without three quotes in a row stands for itself. -/
theorem spells_self {quote : Char} (hquote : '\n' ≠ quote) {cs : List Char}
    (hclean : needsEscapes cs = false) {quotes most : Nat} (h : quotes ≤ 2)
    (hrun : longestFrom quote quotes most cs ≤ 2) : Spells quote false quotes cs cs := by
  induction cs generalizing quotes most with
  | nil => exact .nil h
  | cons c cs ih =>
    simp only [needsEscapes, List.any_cons, Bool.or_eq_false_iff] at hclean
    rw [longestFrom] at hrun
    split at hrun
    · next hc =>
      subst hc
      have hlimit := (Nat.le_max_right _ _).trans ((le_longestFrom _ _ _ _).trans hrun)
      exact .quote (by omega) (ih hclean.2 hlimit hrun)
    · next hc =>
      have hnext := ih hclean.2 (Nat.zero_le 2) hrun
      by_cases hnewline : c = '\n'
      · subst hnewline
        exact .char h (stands_newline false hquote) hnext
      · have hcontrol : isControl c = false := by simpa [hnewline] using hclean.1
        exact .char h (stands_same hcontrol hc fun _ => rfl) hnext

/-! ## Every form -/

/-- What comes after a string does not start with a quote. -/
def AfterString (rest : List Char) : Prop := Stops (fun c => c == '"' || c == '\'') rest

theorem AfterString.stops {rest : List Char} (h : AfterString rest) {quote : Char}
    (hquote : quote = '"' ∨ quote = '\'') : Stops (· == quote) rest := by
  refine h.mono fun c hc => ?_
  rcases hquote with rfl | rfl <;> simp_all

/-- Text in one pair of double quotes is not taken for the start of three quotes. -/
theorem escapeChars_false_head (quotes : Nat) (cs : List Char) {rest : List Char}
    (h : AfterString rest) (more : List Char) :
    escapeChars false quotes cs ++ '"' :: rest ≠ '"' :: '"' :: more := by
  cases cs with
  | nil =>
    rintro ⟨⟩
    simp [AfterString, Stops] at h
  | cons c cs =>
    obtain ⟨text, next, htext, hwritten⟩ := escapeChars_cons false quotes c cs
    rw [htext, List.append_assoc]
    intro heq
    cases hwritten with
    | quote hlines => exact Bool.noConfusion hlines
    | newline hlines => exact Bool.noConfusion hlines
    | same _ hquote => exact hquote (List.cons.inj heq).1
    | escape hescape =>
      obtain ⟨more', rfl⟩ := hescape.cons
      exact absurd (List.cons.inj heq).1 (by decide)

theorem string?_basicText (cs : List Char) {rest : List Char} (h : AfterString rest) :
    string? ((basicText cs).toList ++ rest) = some (String.ofList cs, rest) := by
  have htext : (basicText cs).toList ++ rest =
      '"' :: (escapeChars false 0 cs ++ '"' :: rest) := by simp [basicText]
  have hfuel : (escapeChars false 0 cs).length <
      ('"' :: (escapeChars false 0 cs ++ '"' :: rest)).length + 1 := by
    simp only [List.length_cons, List.length_append]
    omega
  have hread := basic_escapeChars [] 0 cs rest hfuel
  rw [htext]
  unfold string?
  split
  · next heq => exact absurd (List.cons.inj heq).2 (escapeChars_false_head 0 cs h _)
  · next heq => exact absurd (List.cons.inj heq).1 (by decide)
  · next heq =>
    obtain rfl := (List.cons.inj heq).2
    rw [hread]
    rfl
  · next heq => exact absurd (List.cons.inj heq).1 (by decide)
  · next _ _ hno _ => exact (hno _ rfl).elim

theorem dropFirstNewline_of_stops {cs : List Char}
    (h : Stops (fun c => c == '\n' || c == '\r') cs) : dropFirstNewline cs = cs := by
  cases cs with
  | nil => rfl
  | cons c cs =>
    have hc := stops_cons.1 h
    simp only [Bool.or_eq_false_iff, beq_eq_false_iff_ne] at hc
    rw [dropFirstNewline, afterNewline?_cons hc.1 hc.2]
    rfl

/-- The newline after the opening quotes does not count, and none is missed where there is none. -/
theorem dropFirstNewline_opening {cs body : List Char}
    (h : '\n' ∉ cs → Stops (fun c => c == '\n' || c == '\r') body) :
    dropFirstNewline ((if cs.contains '\n' then ['\n'] else []) ++ body) = body := by
  split
  · rfl
  · next hnone => exact dropFirstNewline_of_stops (h (by simpa using hnone))

/-- Only a newline of the text itself is written as one. -/
theorem stops_escapeChars {cs : List Char} (hnone : '\n' ∉ cs) (rest : List Char) :
    Stops (fun c => c == '\n' || c == '\r')
      (escapeChars true 0 cs ++ (List.replicate 3 '"' ++ rest)) := by
  cases cs with
  | nil => simp [escapeChars, Stops]
  | cons c cs =>
    obtain ⟨text, next, htext, hwritten⟩ := escapeChars_cons true 0 c cs
    rw [htext, List.append_assoc]
    cases hwritten with
    | quote => simp [Stops]
    | newline => simp at hnone
    | same hcontrol =>
      obtain ⟨hn, hr⟩ := ne_newline_of_not_isControl hcontrol
      simp [Stops, hn, hr]
    | escape hescape =>
      obtain ⟨more, rfl⟩ := hescape.cons
      simp [Stops]

theorem string?_basicLines (cs : List Char) {rest : List Char} (h : AfterString rest) :
    string? ((basicLines cs).toList ++ rest) = some (String.ofList cs, rest) := by
  have htext : (basicLines cs).toList ++ rest = '"' :: '"' :: '"' ::
      ((if cs.contains '\n' then ['\n'] else []) ++
        (escapeChars true 0 cs ++ (List.replicate 3 '"' ++ rest))) := by
    simp only [basicLines, opening]
    split <;> simp
  have hhead (hnone : '\n' ∉ cs) := stops_escapeChars hnone rest
  have hfuel : 0 + (escapeChars true 0 cs).length < ((basicLines cs).toList ++ rest).length + 1 := by
    rw [htext]
    simp only [List.length_cons, List.length_append]
    omega
  have hread := multiLine_spells (by decide) (by decide) (spells_escapeChars (Nat.zero_le 2) cs) []
    (h.stops (.inl rfl)) hfuel
  rw [htext] at hread ⊢
  simp only [string?, dropFirstNewline_opening hhead]
  rw [List.replicate_zero, List.nil_append] at hread
  rw [hread]
  rfl

/-- Without controls that need an escape nothing but a newline is a control. -/
theorem not_isControl_of_clean {cs : List Char} (hclean : needsEscapes cs = false) {c : Char}
    (hc : c ∈ cs) (hnewline : c ≠ '\n') : isControl c = false := by
  have hall := List.any_eq_false.1 hclean c hc
  simpa [hnewline] using hall

theorem string?_literal {s : String} (hclean : needsEscapes s.toList = false)
    (hquote : '\'' ∉ s.toList) (hnewline : '\n' ∉ s.toList) {rest : List Char}
    (h : AfterString rest) :
    string? (("'" ++ s ++ "'").toList ++ rest) = some (s, rest) := by
  have htext : ("'" ++ s ++ "'").toList ++ rest = '\'' :: (s.toList ++ '\'' :: rest) := by simp
  have hchars : ∀ c ∈ s.toList, (c != '\'' && !isControl c) = true := by
    intro c hc
    have hne : c ≠ '\'' := fun heq => hquote (heq ▸ hc)
    have hcontrol := not_isControl_of_clean hclean hc fun heq => hnewline (heq ▸ hc)
    simp [hne, hcontrol]
  have hread : literal (s.toList ++ '\'' :: rest) = some (s.toList, rest) := by
    have hstop : Stops (fun c => c != '\'' && !isControl c) ('\'' :: rest) := by simp [Stops]
    simp only [literal, hstop.takeWhile_append hchars, List.drop_left]
  have hthree : ∀ more, s.toList ++ '\'' :: rest ≠ '\'' :: '\'' :: more := by
    cases hs : s.toList with
    | nil =>
      rintro more ⟨⟩
      simp [AfterString, Stops] at h
    | cons c cs =>
      intro more heq
      exact hquote (by simp [hs, (List.cons.inj heq).1])
  rw [htext]
  unfold string?
  split
  · next heq => exact absurd (List.cons.inj heq).1 (by decide)
  · next heq => exact absurd (List.cons.inj heq).2 (hthree _)
  · next heq => exact absurd (List.cons.inj heq).1 (by decide)
  · next heq =>
    obtain rfl := (List.cons.inj heq).2
    rw [hread, Option.map_some]
    simp only [String.ofList_toList]
  · next _ _ _ hno => exact (hno _ rfl).elim

theorem string?_literalLines {s : String} (hclean : needsEscapes s.toList = false)
    (hruns : longestRun '\'' s.toList ≤ 2) {rest : List Char} (h : AfterString rest) :
    string? ((opening "'''" s.toList ++ s ++ "'''").toList ++ rest) = some (s, rest) := by
  have htext : (opening "'''" s.toList ++ s ++ "'''").toList ++ rest = '\'' :: '\'' :: '\'' ::
      ((if s.toList.contains '\n' then ['\n'] else []) ++
        (s.toList ++ (List.replicate 3 '\'' ++ rest))) := by
    simp only [opening]
    split <;> simp
  have hhead : '\n' ∉ s.toList → Stops (fun c => c == '\n' || c == '\r')
      (s.toList ++ (List.replicate 3 '\'' ++ rest)) := by
    intro hnone
    cases hs : s.toList with
    | nil => simp [Stops]
    | cons c cs =>
      have hc : c ∈ s.toList := by simp [hs]
      have hcontrol := not_isControl_of_clean hclean hc fun heq => hnone (heq ▸ hc)
      obtain ⟨hn, hr⟩ := ne_newline_of_not_isControl hcontrol
      simp [Stops, hn, hr]
  have hspells : Spells '\'' false 0 s.toList s.toList :=
    spells_self (by decide) hclean (Nat.zero_le 2) (by rwa [← longestRun_eq])
  have hfuel : 0 + s.toList.length <
      ((opening "'''" s.toList ++ s ++ "'''").toList ++ rest).length + 1 := by
    rw [htext]
    simp only [List.length_cons, List.length_append]
    omega
  have hread := multiLine_spells (by decide) (by decide) hspells [] (h.stops (.inr rfl)) hfuel
  rw [htext] at hread ⊢
  simp only [string?, dropFirstNewline_opening hhead]
  rw [List.replicate_zero, List.nil_append] at hread
  rw [hread]
  simp

theorem string?_quote (s : String) {rest : List Char} (h : AfterString rest) :
    string? ((quote s).toList ++ rest) = some (s, rest) := by
  have hbasic := string?_basicText s.toList h
  have hlines := string?_basicLines s.toList h
  rw [String.ofList_toList] at hbasic hlines
  simp only [quote]
  split
  · exact hbasic
  · split
    · next hliteral =>
      simp only [Bool.and_eq_true, Bool.not_eq_true', List.contains_eq_mem,
        decide_eq_false_iff_not] at hliteral
      exact string?_literal hliteral.1.1 hliteral.1.2 hliteral.2 h
    · split
      · exact hlines
      · split
        · next hliteral =>
          simp only [Bool.and_eq_true, Bool.not_eq_true', decide_eq_true_eq] at hliteral
          exact string?_literalLines hliteral.1 hliteral.2 h
        · split
          · exact hlines
          · exact hbasic

theorem toList_quote_head (s : String) :
    ∃ c cs, (quote s).toList = c :: cs ∧ (c = '"' ∨ c = '\'') := by
  simp only [quote, basicText, basicLines, opening]
  split_ifs <;> simp

end ConstantScan.Toml
