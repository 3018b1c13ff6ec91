import ConstantScan.Proofs.TomlLines

/-!
# Tables of a TOML document read back

The part of a document that a path of keys leads to can be changed by itself. So the lines of a table
add its entries, wherever in the document the table stands.
-/

namespace ConstantScan.Toml

/-! ## Entries with keys of their own -/

namespace Entries

theorem get?_of_not_mem {k : String} {es : Entries} (h : k ∉ es.map Prod.fst) :
    get? k es = none := by
  induction es with
  | nil => rfl
  | cons e es ih =>
    rw [List.map_cons, List.mem_cons, not_or] at h
    rw [get?, if_neg (Ne.symm h.1), ih h.2]

theorem set_of_not_mem {k : String} {es : Entries} (h : k ∉ es.map Prod.fst) (i : Item) :
    set k i es = es ++ [(k, i)] := by
  induction es with
  | nil => rfl
  | cons e es ih =>
    rw [List.map_cons, List.mem_cons, not_or] at h
    rw [set, if_neg (Ne.symm h.1), ih h.2]
    rfl

theorem get?_last {k : String} {es : Entries} (h : k ∉ es.map Prod.fst) (i : Item) :
    get? k (es ++ [(k, i)]) = some i := by
  induction es with
  | nil => simp [get?]
  | cons e es ih =>
    rw [List.map_cons, List.mem_cons, not_or] at h
    rw [List.cons_append, get?, if_neg (Ne.symm h.1), ih h.2]

theorem set_last {k : String} {es : Entries} (h : k ∉ es.map Prod.fst) (i j : Item) :
    set k j (es ++ [(k, i)]) = es ++ [(k, j)] := by
  induction es with
  | nil => simp [set]
  | cons e es ih =>
    rw [List.map_cons, List.mem_cons, not_or] at h
    rw [List.cons_append, set, if_neg (Ne.symm h.1), ih h.2]
    rfl

theorem change_append (es : Entries) (path path' : List String) (f : Entries → Option Entries) :
    es.change (path ++ path') f = es.change path fun inner => inner.change path' f := by
  induction path generalizing es with
  | nil => rfl
  | cons k path ih =>
    rw [List.cons_append, change, change]
    cases hget : get? k es with
    | none => simp only [ih]
    | some i => cases i <;> simp only [ih]

end Entries

/-! ## A part of a document -/

/-- The function puts the entries that the path leads to into those of the document. -/
def Focused (g : Entries → Entries) (path : List String) : Prop :=
  ∀ inner f, (g inner).change path f = (f inner).map g

theorem focused_id : Focused id [] := by
  intro inner f
  rw [id, Entries.change, Option.map_id]
  rfl

theorem Focused.comp {g g' : Entries → Entries} {path path' : List String} (h : Focused g path)
    (h' : Focused g' path') : Focused (g ∘ g') (path ++ path') := by
  intro inner f
  rw [Function.comp_apply, Entries.change_append, h, h', Option.map_map]

theorem focused_table {k : String} {front : Entries} (h : k ∉ front.map Prod.fst) (form : Form) :
    Focused (fun inner => front ++ [(k, .table form inner)]) [k] := by
  intro inner f
  simp only [Entries.change, Entries.get?_last h, Entries.set_last h]

theorem focused_tables {k : String} {front : Entries} (h : k ∉ front.map Prod.fst)
    (earlier : List Entries) : Focused (fun last => front ++ [(k, .tables last earlier)]) [k] := by
  intro inner f
  simp only [Entries.change, Entries.get?_last h, Entries.set_last h]

theorem splitLast_append (path : List String) (k : String) :
    Document.splitLast (path ++ [k]) = some (path, k) := by
  induction path with
  | nil => rfl
  | cons k' path ih =>
    cases path with
    | nil => rfl
    | cons k'' path =>
      rw [List.cons_append, List.cons_append, Document.splitLast, ← List.cons_append, ih]
      · rfl
      · simp

section

variable {g : Entries → Entries} {path : List String} (hg : Focused g path) {k : String}
  {inner : Entries} (hk : k ∉ inner.map Prod.fst)
include hg hk

theorem set?_fresh (v : Value) :
    Document.set? ⟨g inner, path⟩ [k] v = some ⟨g (inner ++ [(k, .value v)]), path⟩ := by
  have hset : inner.setDotted [] k (.value v) = some (inner ++ [(k, .value v)]) := by
    simp [Entries.setDotted, Entries.get?_of_not_mem hk, Entries.set_of_not_mem hk]
  simp [Document.set?, Document.splitLast, hg inner, hset]

theorem tableHeader?_fresh (current : List String) :
    Document.tableHeader? ⟨g inner, current⟩ (path ++ [k]) =
      some ⟨g (inner ++ [(k, .table .headed [])]), path ++ [k]⟩ := by
  have hopen : inner.openTable k = some (inner ++ [(k, .table .headed [])]) := by
    simp [Entries.openTable, Entries.get?_of_not_mem hk, Entries.set_of_not_mem hk]
  simp [Document.tableHeader?, Document.header?, splitLast_append, hg inner, hopen]

theorem arrayHeader?_fresh (current : List String) :
    Document.arrayHeader? ⟨g inner, current⟩ (path ++ [k]) =
      some ⟨g (inner ++ [(k, .tables [] [])]), path ++ [k]⟩ := by
  have hpush : inner.pushTable k = some (inner ++ [(k, .tables [] [])]) := by
    simp [Entries.pushTable, Entries.get?_of_not_mem hk, Entries.set_of_not_mem hk]
  simp [Document.arrayHeader?, Document.header?, splitLast_append, hg inner, hpush]

theorem arrayHeader?_next (current : List String) (last : Entries) (earlier : List Entries) :
    Document.arrayHeader? ⟨g (inner ++ [(k, .tables last earlier)]), current⟩ (path ++ [k]) =
      some ⟨g (inner ++ [(k, .tables [] (last :: earlier))]), path ++ [k]⟩ := by
  have hpush : Entries.pushTable k (inner ++ [(k, .tables last earlier)]) =
      some (inner ++ [(k, .tables [] (last :: earlier))]) := by
    simp [Entries.pushTable, Entries.get?_last hk, Entries.set_last hk]
  simp [Document.arrayHeader?, Document.header?, splitLast_append,
    hg (inner ++ [(k, .tables last earlier)]), hpush]

end

/-! ## Entries on a line of their own -/

/-- Whole numbers are read as signed ones. -/
def signed (n : Nat) : Number := .signed n

/-- A value that is written on the line of its key, numbers up to `top` among them. -/
inductive Flat (top : Nat) : Value → Prop
  | bool (b : Bool) : Flat top (.bool b)
  | natural {n : Nat} (h : n ≤ top) : Flat top (.natural n)
  | string (s : String) : Flat top (.string s)
  | strings (ss : List String) : Flat top (.strings ss)

def flatText? : Value → Option String
  | .list vs => array? vs
  | v => leaf? v

theorem Flat.exists_text {top : Nat} {v : Value} (h : Flat top v) : ∃ t, flatText? v = some t := by
  cases h with
  | bool | natural | string => exact ⟨_, rfl⟩
  | strings ss => exact ⟨_, array?_strings ss⟩

theorem Flat.text {v : Value} (h : Flat maxInteger v) :
    ∃ t, flatText? v = some t ∧ Reads 1 t.toList (v.readBack signed) := by
  cases h with
  | bool b =>
    rw [Value.readBack]
    · exact ⟨_, rfl, (reads_bool b).succ⟩
    all_goals simp
  | natural h =>
    rw [Value.natural, Value.readBack]
    refine ⟨_, rfl, ?_⟩
    rw [Decimal.toList_toString]
    exact (reads_toDigits h).succ
  | string s =>
    rw [Value.readBack]
    · exact ⟨_, rfl, (reads_quote s).succ⟩
    all_goals simp
  | strings ss =>
    refine ⟨_, array?_strings ss, ?_⟩
    have hback : (Value.strings ss).readBack signed = .strings ss := by
      rw [Value.strings, Value.readBack, Value.readBackItems_eq_map, List.map_map]
      refine congrArg Value.list (List.map_congr_left fun s _ => ?_)
      rw [Function.comp_apply, Value.readBack]
      all_goals simp
    rw [hback]
    exact reads_arrayText ss

theorem Flat.hasHeader {top : Nat} {v : Value} (h : Flat top v) : hasHeader v = false := by
  cases h with
  | bool | natural | string => rfl
  | strings ss => cases ss <;> rfl

/-- Entries that are written on lines of their own. -/
structure FlatEntries (top : Nat) (es : List (String × Value)) : Prop where
  bare : ∀ e ∈ es, Bare e.1
  flat : ∀ e ∈ es, Flat top e.2
  nodup : (es.map Prod.fst).Nodup

/-- The items that the lines of the entries add. -/
def itemsOf (es : List (String × Value)) : Entries :=
  es.map fun e => (e.1, .value (e.2.readBack signed))

theorem map_fst_itemsOf (es : List (String × Value)) :
    (itemsOf es).map Prod.fst = es.map Prod.fst := by
  rw [itemsOf, List.map_map]
  rfl

def entryLine (e : String × Value) : String := e.1 ++ " = " ++ (flatText? e.2).getD ""

theorem toList_entryLine {e : String × Value} {t : String} (ht : flatText? e.2 = some t) :
    (entryLine e).toList = keyLine e.1 t.toList := by
  simp [entryLine, ht, keyLine]

theorem lineOf?_flat {top : Nat} {e : String × Value} (hk : Bare e.1) (h : Flat top e.2) :
    lineOf? e = some (entryLine e ++ "\n") := by
  obtain ⟨t, ht⟩ := h.exists_text
  have hline : lineOf? e = (flatText? e.2).map fun t => keyText e.1 ++ " = " ++ t ++ "\n" := by
    rewrite [lineOf?, flatText?.eq_def]
    cases e.2 <;> rfl
  rw [hline, ht, hk.keyText, Option.map_some, entryLine, ht, Option.getD_some]

theorem linesRead_entries {g : Entries → Entries} {path : List String} (hg : Focused g path)
    {es : List (String × Value)} (h : FlatEntries maxInteger es) {inner : Entries}
    (hdisjoint : ∀ e ∈ es, e.1 ∉ inner.map Prod.fst) :
    LinesRead ⟨g inner, path⟩ (es.map fun e => (entryLine e).toList)
      ⟨g (inner ++ itemsOf es), path⟩ := by
  induction es generalizing inner with
  | nil =>
    rw [show itemsOf [] = [] from rfl, List.append_nil]
    exact .nil _
  | cons e es ih =>
    obtain ⟨he, hes⟩ := List.nodup_cons.1 h.nodup
    obtain ⟨t, ht, hreads⟩ := (h.flat e List.mem_cons_self).text
    have hset := set?_fresh hg (hdisjoint e List.mem_cons_self) (e.2.readBack signed)
    have hdisjoint' : ∀ f ∈ es,
        f.1 ∉ (inner ++ [(e.1, Item.value (e.2.readBack signed))]).map Prod.fst := by
      intro f hf
      have hne : f.1 ≠ e.1 := fun heq => he (heq ▸ List.mem_map_of_mem hf)
      simpa [hne] using hdisjoint f (List.mem_cons_of_mem _ hf)
    have hrest := ih ⟨fun f hf => h.bare f (List.mem_cons_of_mem _ hf),
      fun f hf => h.flat f (List.mem_cons_of_mem _ hf), hes⟩ hdisjoint'
    rw [List.append_assoc] at hrest
    rw [List.map_cons, toList_entryLine ht]
    exact .line (lineReads_entry (h.bare e List.mem_cons_self) hreads hset) hrest

theorem linesRead_entries_nil {g : Entries → Entries} {path : List String} (hg : Focused g path)
    {es : List (String × Value)} (h : FlatEntries maxInteger es) :
    LinesRead ⟨g [], path⟩ (es.map fun e => (entryLine e).toList) ⟨g (itemsOf es), path⟩ :=
  linesRead_entries hg h (by simp)

/-! ## Blocks of lines -/

/-- Blocks with empty lines between them. -/
inductive BlocksRead : Document → List (List String) → Document → Prop
  | nil (d : Document) : BlocksRead d [] d
  | cons {d d' d'' : Document} {b : List String} {bs : List (List String)}
    (hblock : LinesRead d (b.map String.toList) d') (h : BlocksRead d' bs d'') :
    BlocksRead d (b :: bs) d''

theorem BlocksRead.append {d d' d'' : Document} {bs bs' : List (List String)}
    (h : BlocksRead d bs d') (h' : BlocksRead d' bs' d'') : BlocksRead d (bs ++ bs') d'' := by
  induction h with
  | nil => exact h'
  | cons hblock _ ih => exact .cons hblock (ih h')

theorem BlocksRead.lines {d d' : Document} {bs : List (List String)} (h : BlocksRead d bs d') :
    LinesRead d ([[]].intercalate (bs.map (·.map String.toList))) d' := by
  induction h with
  | nil d => exact .nil d
  | @cons d d' d'' b bs hblock h ih =>
    cases bs with
    | nil =>
      cases h
      rwa [List.map_singleton, List.intercalate_singleton]
    | cons b' bs =>
      rw [List.map_cons, List.map_cons, List.intercalate_cons_cons, List.append_assoc]
      exact hblock.append (.empty ih)

def tableTitle (path : String) : String := "[" ++ path ++ "]"

def arrayTitle (path : String) : String := "[[" ++ path ++ "]]"

def tableBlock (title : String) (es : List (String × Value)) : List String :=
  title :: es.map entryLine

section

variable {g : Entries → Entries} {path : List String} (hg : Focused g path) {k : String}
  {inner : Entries} (hk : k ∉ inner.map Prod.fst) (hbare : ∀ k' ∈ path ++ [k], Bare k')
  (hdepth : (path ++ [k]).length < maxDepth) {name : String}
  (hname : name.toList = dotted (path ++ [k]))
include hg hk hbare hdepth hname

theorem linesRead_table (current : List String) {es : List (String × Value)}
    (h : FlatEntries maxInteger es) :
    LinesRead ⟨g inner, current⟩ ((tableBlock (tableTitle name) es).map String.toList)
      ⟨g (inner ++ [(k, .table .headed (itemsOf es))]), path ++ [k]⟩ := by
  have htitle : (tableTitle name).toList = '[' :: (dotted (path ++ [k]) ++ [']']) := by
    simp [tableTitle, hname]
  have hlines := linesRead_entries_nil (hg.comp (focused_table hk .headed)) h
  rw [tableBlock, List.map_cons, List.map_map, htitle]
  exact .line (lineReads_tableHeader hbare (by simp) hdepth (tableHeader?_fresh hg hk current)) hlines

theorem linesRead_firstItem (current : List String) {es : List (String × Value)}
    (h : FlatEntries maxInteger es) :
    LinesRead ⟨g inner, current⟩ ((tableBlock (arrayTitle name) es).map String.toList)
      ⟨g (inner ++ [(k, .tables (itemsOf es) [])]), path ++ [k]⟩ := by
  have htitle : (arrayTitle name).toList = '[' :: '[' :: (dotted (path ++ [k]) ++ [']', ']']) := by
    simp [arrayTitle, hname]
  have hlines := linesRead_entries_nil (hg.comp (focused_tables hk [])) h
  rw [tableBlock, List.map_cons, List.map_map, htitle]
  exact .line (lineReads_arrayHeader hbare (by simp) hdepth (arrayHeader?_fresh hg hk current)) hlines

theorem linesRead_nextItem (current : List String) (last : Entries) (earlier : List Entries)
    {es : List (String × Value)} (h : FlatEntries maxInteger es) :
    LinesRead ⟨g (inner ++ [(k, .tables last earlier)]), current⟩
      ((tableBlock (arrayTitle name) es).map String.toList)
      ⟨g (inner ++ [(k, .tables (itemsOf es) (last :: earlier))]), path ++ [k]⟩ := by
  have htitle : (arrayTitle name).toList = '[' :: '[' :: (dotted (path ++ [k]) ++ [']', ']']) := by
    simp [arrayTitle, hname]
  have hlines := linesRead_entries_nil (hg.comp (focused_tables hk (last :: earlier))) h
  rw [tableBlock, List.map_cons, List.map_map, htitle]
  exact .line (lineReads_arrayHeader hbare (by simp) hdepth
    (arrayHeader?_next hg hk current last earlier)) hlines

theorem blocksRead_nextItems (current : List String) (last : Entries) (earlier : List Entries)
    {rows : List (List (String × Value))} (h : ∀ es ∈ rows, FlatEntries maxInteger es) :
    ∃ last' earlier' current', last' :: earlier' = (rows.map itemsOf).reverse ++ last :: earlier ∧
      BlocksRead ⟨g (inner ++ [(k, .tables last earlier)]), current⟩
        (rows.map (tableBlock (arrayTitle name)))
        ⟨g (inner ++ [(k, .tables last' earlier')]), current'⟩ := by
  induction rows generalizing current last earlier with
  | nil => exact ⟨last, earlier, current, rfl, .nil _⟩
  | cons es rows ih =>
    have hfirst := linesRead_nextItem hg hk hbare hdepth hname current last earlier
      (h es List.mem_cons_self)
    obtain ⟨last', earlier', current', heq, hrest⟩ := ih (path ++ [k]) (itemsOf es) (last :: earlier)
      fun es hes => h es (List.mem_cons_of_mem _ hes)
    exact ⟨last', earlier', current', by simp [heq], .cons hfirst hrest⟩

theorem blocksRead_array (current : List String) {rows : List (List (String × Value))}
    (h : ∀ es ∈ rows, FlatEntries maxInteger es) (hrows : rows ≠ []) :
    ∃ last earlier current', last :: earlier = (rows.map itemsOf).reverse ∧
      BlocksRead ⟨g inner, current⟩ (rows.map (tableBlock (arrayTitle name)))
        ⟨g (inner ++ [(k, .tables last earlier)]), current'⟩ := by
  obtain ⟨es, rows, rfl⟩ := List.exists_cons_of_ne_nil hrows
  have hfirst := linesRead_firstItem hg hk hbare hdepth hname current (h es List.mem_cons_self)
  obtain ⟨last, earlier, current', heq, hrest⟩ := blocksRead_nextItems hg hk hbare hdepth hname
    (path ++ [k]) (itemsOf es) [] fun es hes => h es (List.mem_cons_of_mem _ hes)
  exact ⟨last, earlier, current', by simp [heq], .cons hfirst hrest⟩

end

end ConstantScan.Toml
