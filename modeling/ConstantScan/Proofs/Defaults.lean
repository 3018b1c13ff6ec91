import ConstantScan.Config.Load
import ConstantScan.Proofs.TomlText
import ConstantScan.Proofs.Utf8

/-!
# The standard configuration

The document of the standard configuration is read as the entries that stand in it, and those make
up the standard configuration.
-/

namespace ConstantScan

namespace Toml

/-! ## Lines that are skipped -/

/-- An empty line or one with nothing but a comment. -/
inductive IsComment : List Char → Prop
  | empty : IsComment []
  | comment {cs : List Char} (h : ∀ c ∈ cs, isControl c = false) : IsComment ('#' :: cs)

instance (l : List Char) : Decidable (IsComment l) :=
  match l with
  | [] => .isTrue .empty
  | c :: cs =>
    decidable_of_iff (c = '#' ∧ cs.all (isControl · = false) = true)
      ⟨fun ⟨hc, hcs⟩ => hc ▸ .comment (by simpa using hcs),
        fun h => by cases h with | comment h => simpa using h⟩

theorem IsComment.skipLines {l : List Char} (h : IsComment l) (fuel : Nat) (rest : List Char) :
    skipLines (fuel + 1) (l ++ '\n' :: rest) = skipLines fuel rest := by
  cases h with
  | empty => rfl
  | @comment cs h =>
    have hspaces : skipSpaces ('#' :: (cs ++ '\n' :: rest)) = '#' :: (cs ++ '\n' :: rest) := rfl
    have hcomment : (cs ++ '\n' :: rest).dropWhile (fun c => !isControl c) = '\n' :: rest := by
      rw [List.dropWhile_append_of_pos (by simpa using h)]
      rfl
    rw [List.cons_append, Toml.skipLines, hspaces, skipComment, hcomment]
    rfl

theorem skipLines_comments {ls : List (List Char)} (h : ∀ l ∈ ls, IsComment l) {rest : List Char}
    (hrest : StartsSolid rest) {fuel : Nat} (hfuel : ls.length ≤ fuel) :
    skipLines fuel (joined ls ++ rest) = rest := by
  induction ls generalizing fuel with
  | nil => exact hrest.skipLines fuel
  | cons l ls ih =>
    obtain ⟨fuel, rfl⟩ := Nat.exists_eq_add_one_of_ne_zero (Nat.ne_zero_of_lt hfuel)
    have hjoined : joined (l :: ls) ++ rest = l ++ '\n' :: (joined ls ++ rest) := by simp [joined]
    rw [hjoined, (h l List.mem_cons_self).skipLines]
    exact ih (fun l' hl' => h l' (List.mem_cons_of_mem _ hl')) (Nat.le_of_succ_le_succ hfuel)

theorem length_le_length_joined (ls : List (List Char)) : ls.length ≤ (joined ls).length := by
  induction ls with
  | nil => exact Nat.zero_le _
  | cons l ls ih =>
    rw [joined, List.flatMap_cons, List.length_append, ← joined, List.length_append]
    simp only [List.length_cons]
    omega

theorem document?_comments {ls : List (List Char)} (h : ∀ l ∈ ls, IsComment l) {rest : List Char}
    (hrest : StartsSolid rest) (d : Document) (fuel : Nat) :
    document? d (fuel + 1) (joined ls ++ rest) = document? d (fuel + 1) rest := by
  have hlength := length_le_length_joined ls
  rw [document?, document?, hrest.skipLines,
    skipLines_comments h hrest (by rw [List.length_append]; omega)]

theorem parse_commented {before after ls : List (List Char)} {d : Document}
    (hbefore : ∀ l ∈ before, IsComment l) (hafter : ∀ l ∈ after, IsComment l)
    (h : LinesRead {} ls d) (hsolid : StartsSolid (joined ls ++ joined after)) :
    parse (String.ofList (joined before ++ (joined ls ++ joined after))) = some d.toDict := by
  have hmark (cs : List Char) :
      joined before ++ (joined ls ++ joined after) ≠ '\uFEFF' :: cs := by
    cases before with
    | nil =>
      intro heq
      rw [joined, List.flatMap_nil, List.nil_append] at heq
      rw [heq] at hsolid
      exact absurd (stops_cons.1 hsolid) (by decide)
    | cons l before =>
      cases hbefore l List.mem_cons_self with
      | empty | comment => exact fun heq => absurd (List.cons.inj heq).1 (by decide)
  rw [parse, String.toList_ofList]
  split
  · next heq => exact absurd heq (hmark _)
  · obtain ⟨left, hleft, hread⟩ := document?_joined_append h (joined after)
      (Nat.lt_succ_of_le (List.sublist_append_right (joined before) _).length_le)
    obtain ⟨left, rfl⟩ := Nat.exists_eq_add_one_of_ne_zero (Nat.ne_zero_of_lt hleft)
    have hend := document?_comments hafter (stops_nil _) d left
    rw [List.append_nil] at hend
    rw [document?_comments hbefore hsolid, hread, hend]
    rfl

/-! ## Arrays on one line -/

def inlineItems : List String → List Char
  | [] => []
  | [s] => (quote s).toList
  | s :: s' :: ss => (quote s).toList ++ ',' :: ' ' :: inlineItems (s' :: ss)

theorem startsSolid_inlineItems {ss : List String} (hss : ss ≠ []) (rest : List Char) :
    StartsSolid (inlineItems ss ++ rest) := by
  match ss with
  | [s] => exact (reads_quote s).solid rest
  | s :: s' :: ss =>
    rw [inlineItems, List.append_assoc]
    exact (reads_quote s).solid _

theorem items?_inline {room : Nat} {ss : List String} (hss : ss ≠ []) (acc : List Value)
    {cs rest : List Char} (hskip : skipLines cs.length cs = inlineItems ss ++ ']' :: rest)
    {fuel : Nat} (hfuel : (inlineItems ss).length + 1 < fuel) :
    items? room acc fuel cs = some (acc.reverse ++ ss.map Value.string, rest) := by
  induction ss generalizing acc cs fuel with
  | nil => exact absurd rfl hss
  | cons s ss ih =>
    obtain ⟨fuel, rfl⟩ := Nat.exists_eq_add_one_of_ne_zero (Nat.ne_zero_of_lt hfuel)
    cases ss with
    | nil =>
      rw [items?_item acc s (by rw [inlineItems] at hfuel; omega) (.inr rfl) hskip]
      simp
    | cons s' ss =>
      rw [inlineItems, List.length_append, List.length_cons, List.length_cons] at hfuel
      rw [inlineItems, List.append_assoc, List.cons_append] at hskip
      have hsolid := startsSolid_inlineItems (List.cons_ne_nil s' ss) (']' :: rest)
      have hspace : ∀ c ∈ [' '], isSpace c = true := by simp [isSpace]
      have hnext : skipLines (' ' :: (inlineItems (s' :: ss) ++ ']' :: rest)).length
          (' ' :: (inlineItems (s' :: ss) ++ ']' :: rest)) =
            inlineItems (s' :: ss) ++ ']' :: rest :=
        (skipLines_spaces hspace _ _).trans (hsolid.skipLines _)
      rw [items?_item acc s (by omega) (.inl rfl) hskip, if_pos rfl, List.cons_append,
        ih (by simp) _ hnext (by omega)]
      simp

theorem reads_inline {ss : List String} (hss : ss ≠ []) :
    Reads 1 ('[' :: (inlineItems ss ++ [']'])) (.strings ss) := by
  refine reads_array fun room rest fuel hfuel => ?_
  rw [List.append_assoc, List.singleton_append]
  refine items?_inline hss [] ((startsSolid_inlineItems hss _).skipLines _) ?_
  simpa using hfuel

theorem lineReads_inline {g : Entries → Entries} {path : List String} (hg : Focused g path)
    {inner : Entries} {k : String} (hbare : Bare k) (hk : k ∉ inner.map Prod.fst)
    {ss : List String} (hss : ss ≠ []) :
    LineReads ⟨g inner, path⟩ (keyLine k ('[' :: (inlineItems ss ++ [']'])))
      ⟨g (inner ++ [(k, .value (.strings ss))]), path⟩ :=
  lineReads_entry hbare (reads_inline hss) (set?_fresh hg hk _)

end Toml

namespace Config

open Toml

/-! ## What the document says -/

/-- The entries of the document, the keys in ascending order. -/
def defaults : Dict := [
  ("patterns", .dict [("disabled", .strings [])]),
  ("scanner", .dict [
    ("exclude_dirs", .strings [".git", "node_modules", "target", "build", "__pycache__"]),
    ("extensions", .strings ["py", "js", "java", "ts", "jsx", "tsx", "c", "cpp", "go", "rs"]),
    ("follow_symlinks", .bool false),
    ("ignore_paths", .strings []),
    ("max_file_size_mb", .number (.signed 10)),
    ("max_threads", .number (.signed 0)),
    ("min_files_for_parallel", .number (.signed 50)),
    ("mode", .string "auto"),
    ("respect_gitignore", .bool false),
    ("skip_binary_files", .bool true),
    ("thread_percentage", .number (.signed 75))]),
  ("targets", .list (standard.targets.map fun t =>
    .dict [("label", .string (t.label.getD "")), ("path", .string t.path)]))]

def scannerLines : List String :=
  (standardLines.drop 29).take 12

def standardBlocks : List (List String) :=
  frontBlocks standard ++ [scannerLines, ["[patterns]", "disabled = []"]]

theorem standardLines_eq : standardLines = standardLines.take 9 ++
    ([""].intercalate standardBlocks ++ standardLines.drop 44) := by
  decide +kernel

theorem isComment_before : ∀ l ∈ (standardLines.take 9).map String.toList, IsComment l := by
  decide +kernel

theorem isComment_after : ∀ l ∈ (standardLines.drop 44).map String.toList, IsComment l := by
  decide +kernel

/-- The entries about the scanner whose arrays are not written on several lines. -/
def scannerRest : List (String × Value) := standard.scanner.value.entries.drop 2

theorem flatEntries_scannerRest : FlatEntries maxInteger scannerRest := by
  obtain ⟨hbare, hflat, hnodup⟩ : FlatEntries maxInteger standard.scanner.value.entries :=
    flatEntries_scanner ⟨by decide, by decide, by decide, by decide⟩
  have hsublist := List.drop_sublist 2 standard.scanner.value.entries
  exact ⟨fun e he => hbare e (hsublist.mem he), fun e he => hflat e (hsublist.mem he),
    (hsublist.map Prod.fst).nodup hnodup⟩

theorem toList_scannerLines : scannerLines.map String.toList =
    ('[' :: (dotted ["scanner"] ++ [']'])) ::
      keyLine "extensions" ('[' :: (inlineItems standard.scanner.extensions ++ [']'])) ::
      keyLine "exclude_dirs" ('[' :: (inlineItems standard.scanner.excludeDirs ++ [']'])) ::
      scannerRest.map fun e => (entryLine e).toList := by
  decide +kernel

theorem linesRead_scanner {inner : Entries} (hk : "scanner" ∉ inner.map Prod.fst)
    (current : List String) : LinesRead ⟨inner, current⟩ (scannerLines.map String.toList)
      ⟨inner ++ [("scanner", .table .headed (itemsOf standard.scanner.value.entries))],
        ["scanner"]⟩ := by
  have hg := focused_table hk .headed
  have hheader : LineReads ⟨inner, current⟩ ('[' :: (dotted ["scanner"] ++ [']'])) _ :=
    lineReads_tableHeader (by decide) (by simp) (by simp [maxDepth])
      (tableHeader?_fresh focused_id hk current)
  rw [toList_scannerLines]
  exact .line hheader (.line (lineReads_inline hg (by decide) (by simp) (by decide))
    (.line (lineReads_inline hg (by decide) (by simp) (by decide))
      (linesRead_entries hg flatEntries_scannerRest (by decide))))

theorem blocksRead_standard : ∃ d, BlocksRead {} standardBlocks d ∧ d.toDict = defaults := by
  obtain ⟨front, current, hfront, hkeys, hblocks⟩ := blocksRead_front (c := standard) (by decide)
  have hscanner := linesRead_scanner (hkeys "scanner" (by decide) (by decide)) current
  have hpatterns : "patterns" ∉ (front ++
      [("scanner", Item.table .headed (itemsOf standard.scanner.value.entries))]).map Prod.fst := by
    rw [List.map_append, List.mem_append, not_or]
    exact ⟨hkeys "patterns" (by decide) (by decide), by simp⟩
  have hflat : FlatEntries maxInteger [("disabled", .strings [])] :=
    .of_keys ["disabled"] rfl (by decide) (by decide) (by simpa using .strings [])
  have hrules := linesRead_topTable hpatterns (by decide) ["scanner"] hflat
  refine ⟨_, hblocks.append (.cons hscanner (.cons hrules (.nil _))), ?_⟩
  simp only [Document.toDict, entryValues_append, entryValues, Item.toValue, entryValues_itemsOf,
    hfront]
  cbv

theorem parse_standardText : Toml.parse standardText = some defaults := by
  obtain ⟨d, hblocks, hdict⟩ := blocksRead_standard
  have htext : standardText.toList = joined (standardLines.map String.toList) :=
    toList_blockText standardLines
  have hmap : ([""].intercalate standardBlocks).map String.toList =
      [[]].intercalate (standardBlocks.map (·.map String.toList)) := by
    decide +kernel
  have hsolid : StartsSolid (joined ([[]].intercalate (standardBlocks.map (·.map String.toList))) ++
      joined ((standardLines.drop 44).map String.toList)) :=
    startsSolid_cons (c := '[') rfl
  rw [standardLines_eq, List.map_append, List.map_append, joined_append, joined_append,
    hmap] at htext
  rw [← String.ofList_toList (s := standardText), htext,
    parse_commented isComment_before isComment_after hblocks.lines hsolid, hdict]

theorem standardLayer_of_parse {d : Dict} (h : Toml.parse standardText = some d) :
    standardLayer = .ok d := by
  rw [standardLayer, ConfigFormat.layer, if_pos (Utf8.isValid_ofString _), Utf8.toString_ofString,
    ConfigFormat.parse, h]

theorem standardLayer_eq : standardLayer = .ok defaults :=
  standardLayer_of_parse parse_standardText

theorem extract_eq_ok_iff {d : Dict} {origin : Problem → String} {c : Config} :
    extract d origin = .ok c ↔ read .layered (.dict d) = .ok c := by
  unfold extract
  cases read .layered (.dict d) <;> simp [Except.mapError]

/-- The document says the standard configuration. -/
theorem extract_standardLayer (origin : Problem → String) :
    (standardLayer.mapError LoadError.layer).bind (extract · origin) = .ok standard := by
  rw [standardLayer_eq]
  exact extract_eq_ok_iff.2 (by cbv)

end Config

end ConstantScan
