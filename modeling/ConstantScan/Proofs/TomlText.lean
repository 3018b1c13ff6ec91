import ConstantScan.Proofs.TomlDocument

/-!
# Configurations in TOML read back

A configuration is written as blocks of lines, one for each table. They are read as that
configuration, whatever stands in its strings, if its numbers are not greater than TOML allows.
-/

namespace ConstantScan.Toml

/-! ## How tables are written -/

section

variable {top : Nat}

def blockText (b : List String) : String := String.join (b.map (· ++ "\n"))

theorem mapM_lineOf?_flat {es : List (String × Value)} (hbare : ∀ e ∈ es, Bare e.1)
    (hflat : ∀ e ∈ es, Flat top e.2) : es.mapM lineOf? = some (es.map (entryLine · ++ "\n")) := by
  induction es with
  | nil => rfl
  | cons e es ih =>
    rw [List.mapM_cons, lineOf?_flat (hbare e List.mem_cons_self) (hflat e List.mem_cons_self),
      ih (fun f hf => hbare f (List.mem_cons_of_mem _ hf))
        fun f hf => hflat f (List.mem_cons_of_mem _ hf)]
    rfl

theorem innerBlocks?_flat_append (path : String) {es : List (String × Value)}
    (h : ∀ e ∈ es, Flat top e.2) (es' : List (String × Value)) :
    innerBlocks? path (es ++ es') = innerBlocks? path es' := by
  induction es with
  | nil => rfl
  | cons e es ih =>
    obtain ⟨k, v⟩ := e
    have hrest := ih fun f hf => h f (List.mem_cons_of_mem _ hf)
    have hv : Flat top v := h (k, v) List.mem_cons_self
    rw [List.cons_append]
    cases hv with
    | bool | natural | string => rw [← hrest]; simp [innerBlocks?, Value.natural]
    | strings ss =>
      have hheader := (@Flat.strings top ss).hasHeader
      rw [← hrest, Value.strings, innerBlocks?]
      rw [Value.strings] at hheader
      simp [hheader]

/-- A table with entries on lines of their own in front of those with headers. -/
theorem tableBlocks?_eq (header path : String) {es es' : List (String × Value)}
    (h : FlatEntries top es) (h' : ∀ e ∈ es', hasHeader e.2 = true) :
    tableBlocks? header path (es ++ es') = (innerBlocks? path es').map fun inner =>
      let own := header ++ blockText (es.map entryLine)
      if own.isEmpty then inner else own :: inner := by
  have hfilter : (es ++ es').filter (fun e => !hasHeader e.2) = es := by
    rw [List.filter_append, List.filter_eq_self.2 fun e he => by rw [(h.flat e he).hasHeader]; rfl,
      List.filter_eq_nil_iff.2 fun e he => by rw [h' e he]; simp, List.append_nil]
  have hlines : String.join (es.map (entryLine · ++ "\n")) = blockText (es.map entryLine) := by
    rw [blockText, List.map_map]
    rfl
  rw [tableBlocks?, hfilter, mapM_lineOf?_flat h.bare h.flat, innerBlocks?_flat_append path h.flat]
  simp only [Option.bind_eq_bind, Option.bind_some, hlines]
  cases innerBlocks? path es' <;> rfl

theorem blockText_cons (l : String) (b : List String) :
    blockText (l :: b) = l ++ "\n" ++ blockText b := by
  rw [blockText, List.map_cons, String.join_cons, blockText]

theorem isEmpty_blockText_cons (l : String) (b : List String) :
    (blockText (l :: b)).isEmpty = false := by
  rw [← Bool.not_eq_true, String.isEmpty_iff, blockText_cons]
  intro heq
  have hlength := congrArg String.length heq
  simp at hlength

theorem tableBlocks?_append {title path : String} {es es' : List (String × Value)}
    (h : FlatEntries top es) (h' : ∀ e ∈ es', hasHeader e.2 = true) :
    tableBlocks? (title ++ "\n") path (es ++ es') =
      (innerBlocks? path es').map (blockText (tableBlock title es) :: ·) := by
  simp only [tableBlocks?_eq _ _ h h', ← blockText_cons, isEmpty_blockText_cons]
  rfl

theorem tableBlocks?_flat {title path : String} {es : List (String × Value)}
    (h : FlatEntries top es) :
    tableBlocks? (title ++ "\n") path es = some [blockText (tableBlock title es)] := by
  have htable : tableBlocks? (title ++ "\n") path (es ++ []) = _ := tableBlocks?_append h (by simp)
  rwa [List.append_nil, innerBlocks?] at htable

theorem itemBlocks?_flat {path : String} {rows : List (List (String × Value))}
    (h : ∀ es ∈ rows, FlatEntries top es) :
    itemBlocks? path (rows.map .dict) =
      some (rows.map fun es => blockText (tableBlock (arrayTitle path) es)) := by
  induction rows with
  | nil => rw [List.map_nil, itemBlocks?, List.map_nil]
  | cons es rows ih =>
    have htitle : "[[" ++ path ++ "]]\n" = arrayTitle path ++ "\n" := by
      simp only [arrayTitle, String.append_assoc]
      rfl
    rw [List.map_cons, itemBlocks?, htitle, tableBlocks?_flat (h es List.mem_cons_self),
      ih fun es hes => h es (List.mem_cons_of_mem _ hes)]
    rfl

theorem hasHeader_tables {rows : List (List (String × Value))} (h : rows ≠ []) :
    hasHeader (.list (rows.map .dict)) = true := by
  obtain ⟨es, rows, rfl⟩ := List.exists_cons_of_ne_nil h
  simp [hasHeader, isTable]

theorem innerBlocks?_tables {path k : String} (hk : Bare k) {rows : List (List (String × Value))}
    (h : ∀ es ∈ rows, FlatEntries top es) (hrows : rows ≠ []) (es : List (String × Value)) :
    innerBlocks? path ((k, .list (rows.map .dict)) :: es) = (innerBlocks? path es).map
      (rows.map (fun es => blockText (tableBlock (arrayTitle (path ++ k)) es)) ++ ·) := by
  rw [innerBlocks?, if_pos (hasHeader_tables hrows), hk.keyText, itemBlocks?_flat h]
  cases innerBlocks? path es <;> rfl

theorem innerBlocks?_table {path k : String} (hk : Bare k) (inner es : List (String × Value)) :
    innerBlocks? path ((k, .dict inner) :: es) = do
      let blocks ← tableBlocks? (tableTitle (path ++ k) ++ "\n") (path ++ k ++ ".") inner
      return blocks ++ (← innerBlocks? path es) := by
  have htitle : "[" ++ (path ++ k) ++ "]\n" = tableTitle (path ++ k) ++ "\n" := by
    simp only [tableTitle, String.append_assoc]
    rfl
  rw [innerBlocks?, hk.keyText]
  simp only [htitle]

/-! ## The blocks of a configuration -/

structure Fits (top : Nat) (c : ScanSettings) : Prop where
  maxFileSizeMb : c.maxFileSizeMb ≤ top
  maxThreads : c.maxThreads ≤ top
  threadPercentage : c.threadPercentage ≤ top
  minFilesForParallel : c.minFilesForParallel ≤ top

instance (k : String) : Decidable (Bare k) :=
  decidable_of_iff (k.toList ≠ [] ∧ k.toList.all isBareKey = true)
    ⟨fun h => ⟨h.1, List.all_eq_true.1 h.2⟩, fun h => ⟨h.ne_nil, List.all_eq_true.2 h.chars⟩⟩

theorem FlatEntries.of_keys {es : List (String × Value)} (keys : List String)
    (hkeys : es.map Prod.fst = keys) (hbare : ∀ k ∈ keys, Bare k) (hnodup : keys.Nodup)
    (hflat : ∀ e ∈ es, Flat top e.2) : FlatEntries top es where
  bare e he := hbare e.1 (hkeys ▸ List.mem_map_of_mem he)
  flat := hflat
  nodup := hkeys ▸ hnodup

theorem flatEntries_baseDir (dir : Option String) : FlatEntries top (textEntry "base_dir" dir) := by
  cases dir with
  | none => exact .of_keys [] rfl (by simp) (by simp) (by simp [textEntry])
  | some dir =>
    refine .of_keys ["base_dir"] rfl (by decide) (by decide) ?_
    simpa [textEntry] using @Flat.string top dir

theorem flatEntries_target (t : TargetEntry) : FlatEntries top t.value.entries := by
  rw [TargetEntry.value, Value.entries]
  cases t.label with
  | none =>
    refine .of_keys ["path"] rfl (by decide) (by decide) ?_
    simpa [textEntry] using @Flat.string top t.path
  | some label =>
    refine .of_keys ["label", "path"] rfl (by decide) (by decide) ?_
    simpa [textEntry] using ⟨@Flat.string top label, @Flat.string top t.path⟩

theorem flatEntries_scanner {c : ScanSettings} (h : Fits top c) : FlatEntries top c.value.entries := by
  refine .of_keys ["extensions", "exclude_dirs", "ignore_paths", "follow_symlinks",
    "respect_gitignore", "skip_binary_files", "max_file_size_mb", "mode", "max_threads",
    "thread_percentage", "min_files_for_parallel"] rfl (by decide) (by decide) ?_
  simp only [ScanSettings.value, Value.entries, List.forall_mem_cons]
  exact ⟨.strings _, .strings _, .strings _, .bool _, .bool _, .bool _, .natural h.maxFileSizeMb,
    .string _, .natural h.maxThreads, .natural h.threadPercentage, .natural h.minFilesForParallel,
    by simp⟩

theorem flatEntries_rule (c : CustomRule) : FlatEntries top c.value.entries := by
  refine .of_keys ["name", "regex", "description", "remediation", "enabled"] rfl (by decide)
    (by decide) ?_
  simp only [CustomRule.value, Value.entries, List.forall_mem_cons]
  exact ⟨.string _, .string _, .string _, .string _, .bool _, by simp⟩

/-- The entries of the rules that are written on lines of their own. -/
def ownRuleEntries (r : RuleSettings) : List (String × Value) :=
  ("disabled", .strings r.disabled) :: if r.custom.isEmpty then [("custom", .list [])] else []

theorem flatEntries_ownRules (r : RuleSettings) : FlatEntries top (ownRuleEntries r) := by
  rw [ownRuleEntries]
  split
  · refine .of_keys ["disabled", "custom"] rfl (by decide) (by decide) ?_
    simpa using ⟨@Flat.strings top r.disabled, @Flat.strings top []⟩
  · refine .of_keys ["disabled"] rfl (by decide) (by decide) ?_
    simpa using @Flat.strings top r.disabled

theorem map_value_targets (ts : List TargetEntry) :
    ts.map TargetEntry.value = (ts.map fun t => t.value.entries).map .dict := by
  rw [List.map_map]
  rfl

theorem map_value_rules (rs : List CustomRule) :
    rs.map CustomRule.value = (rs.map fun r => r.value.entries).map .dict := by
  rw [List.map_map]
  rfl

theorem tableBlocks?_rules (title : String) (r : RuleSettings) :
    tableBlocks? (title ++ "\n") "patterns." r.value.entries =
      some (blockText (tableBlock title (ownRuleEntries r)) :: r.custom.map fun c =>
        blockText (tableBlock (arrayTitle "patterns.custom") c.value.entries)) := by
  have hown : FlatEntries maxInteger (ownRuleEntries r) := flatEntries_ownRules r
  cases hcustom : r.custom with
  | nil =>
    have hentries : r.value.entries = ownRuleEntries r := by
      simp [RuleSettings.value, Value.entries, ownRuleEntries, hcustom]
    rw [hentries, tableBlocks?_flat hown, List.map_nil]
  | cons c cs =>
    have hentries : r.value.entries = ownRuleEntries r ++
        [("custom", .list (((c :: cs).map fun c => c.value.entries).map .dict))] := by
      rw [← map_value_rules]
      simp [RuleSettings.value, Value.entries, ownRuleEntries, hcustom]
    have hflat : ∀ es ∈ (c :: cs).map fun c => c.value.entries, FlatEntries maxInteger es := by
      intro es hes
      obtain ⟨c', -, rfl⟩ := List.mem_map.1 hes
      exact flatEntries_rule c'
    have hrows : (c :: cs).map (fun c => c.value.entries) ≠ [] := by simp
    have hheader := hasHeader_tables hrows
    rw [hentries, tableBlocks?_append hown (by simpa using hheader),
      innerBlocks?_tables (by decide) hflat (by simp), innerBlocks?, List.map_map]
    simp [Function.comp_def]

def headedBlocks (c : Config) : List (List String) :=
  c.targets.map (fun t => tableBlock (arrayTitle "targets") t.value.entries) ++
    [tableBlock (tableTitle "scanner") c.scanner.value.entries,
      tableBlock (tableTitle "patterns") (ownRuleEntries c.patterns)] ++
    c.patterns.custom.map fun r => tableBlock (arrayTitle "patterns.custom") r.value.entries

/-- The blocks of a configuration in the order in which they are written. -/
def configBlocks (c : Config) : List (List String) :=
  (match c.baseDir with
    | none => []
    | some dir => [[entryLine ("base_dir", .string dir)]]) ++ headedBlocks c

theorem innerBlocks?_config {c : Config} (hfits : Fits top c.scanner) (htargets : c.targets ≠ []) :
    innerBlocks? "" [("targets", .list (c.targets.map TargetEntry.value)),
      ("scanner", c.scanner.value), ("patterns", c.patterns.value)] =
        some ((headedBlocks c).map blockText) := by
  have hflat : ∀ es ∈ c.targets.map fun t => t.value.entries, FlatEntries top es := by
    intro es hes
    obtain ⟨t, -, rfl⟩ := List.mem_map.1 hes
    exact flatEntries_target t
  have hscanner : c.scanner.value = .dict c.scanner.value.entries := rfl
  have hpatterns : c.patterns.value = .dict c.patterns.value.entries := rfl
  rw [map_value_targets, innerBlocks?_tables (by decide) hflat (by simpa using htargets), hscanner,
    innerBlocks?_table (by decide), hpatterns, innerBlocks?_table (by decide)]
  simp only [String.empty_append]
  have hdot : "patterns" ++ "." = "patterns." := rfl
  rw [hdot, tableBlocks?_rules, tableBlocks?_flat (flatEntries_scanner hfits), innerBlocks?]
  simp [headedBlocks, Function.comp_def]

theorem print?_config {c : Config} (hfits : Fits top c.scanner) (htargets : c.targets ≠ []) :
    print? c.entries = some (String.intercalate "\n" ((configBlocks c).map blockText)) := by
  have hheaders : ∀ e ∈ [("targets", Value.list (c.targets.map TargetEntry.value)),
      ("scanner", c.scanner.value), ("patterns", c.patterns.value)], hasHeader e.2 = true := by
    simp only [List.forall_mem_cons]
    refine ⟨?_, rfl, rfl, by simp⟩
    rw [map_value_targets]
    exact hasHeader_tables (by simpa using htargets)
  have hdir : FlatEntries top (textEntry "base_dir" c.baseDir) := flatEntries_baseDir c.baseDir
  rw [print?, Config.entries, tableBlocks?_eq _ _ hdir hheaders,
    innerBlocks?_config hfits htargets, configBlocks]
  cases c.baseDir with
  | none => rfl
  | some dir =>
    have hblock : (textEntry "base_dir" (some dir)).map entryLine =
        [entryLine ("base_dir", .string dir)] := rfl
    simp only [hblock, String.empty_append, isEmpty_blockText_cons]
    rfl

end

/-! ## What the blocks add -/

theorem entryValues_append (es es' : Entries) :
    entryValues (es ++ es') = entryValues es ++ entryValues es' := by
  induction es with
  | nil => rw [entryValues]; rfl
  | cons e es ih =>
    obtain ⟨k, i⟩ := e
    rw [List.cons_append, entryValues, ih, entryValues]
    rfl

theorem entryValues_itemsOf (es : List (String × Value)) :
    entryValues (itemsOf es) = Dict.readBackEntries signed es := by
  induction es with
  | nil => rw [Dict.readBackEntries, itemsOf, List.map_nil, entryValues]
  | cons e es ih =>
    rw [itemsOf, List.map_cons, entryValues, ← itemsOf, ih, Dict.readBackEntries, Item.toValue]

theorem tableValues_eq (acc : List Value) (tables : List Entries) :
    tableValues acc tables =
      (tables.reverse.map fun es => .dict (Dict.ofList (entryValues es))) ++ acc := by
  induction tables generalizing acc with
  | nil => rw [tableValues]; rfl
  | cons es tables ih =>
    rw [tableValues, ih, List.reverse_cons, List.map_append, List.append_assoc]
    rfl

/-- An array of tables, the last one first, in the order of its rows. -/
theorem toValue_tables {last : Entries} {earlier : List Entries}
    {rows : List (List (String × Value))} (h : last :: earlier = (rows.map itemsOf).reverse) :
    (Item.tables last earlier).toValue = (Value.list (rows.map .dict)).readBack signed := by
  have hrows : rows.map itemsOf = earlier.reverse ++ [last] := by
    rw [← List.reverse_cons, h, List.reverse_reverse]
  have hvalues : (rows.map fun es => Value.dict (Dict.ofList (entryValues (itemsOf es)))) =
      (earlier.reverse ++ [last]).map fun es => .dict (Dict.ofList (entryValues es)) := by
    rw [← hrows, List.map_map]
    rfl
  rw [Item.toValue, tableValues_eq, Value.readBack_list, Value.readBackItems_eq_map, List.map_map]
  rw [List.map_append, List.map_singleton] at hvalues
  rw [← hvalues]
  refine congrArg Value.list (List.map_congr_left fun es _ => ?_)
  rw [Function.comp_apply, Value.readBack_dict, entryValues_itemsOf]

section

variable {inner : Entries} {es : List (String × Value)}

theorem linesRead_topTable {k : String} (hk : k ∉ inner.map Prod.fst) (hbare : Bare k)
    (current : List String) (h : FlatEntries maxInteger es) :
    LinesRead ⟨inner, current⟩ ((tableBlock (tableTitle k) es).map String.toList)
      ⟨inner ++ [(k, .table .headed (itemsOf es))], [k]⟩ :=
  linesRead_table focused_id hk (by simpa using hbare) (by simp [maxDepth]) rfl current h

end

theorem blocksRead_rules {inner : Entries} (hk : "patterns" ∉ inner.map Prod.fst)
    (current : List String) (r : RuleSettings) :
    ∃ items current', entryValues items = Dict.readBackEntries signed r.value.entries ∧
      BlocksRead ⟨inner, current⟩
        (tableBlock (tableTitle "patterns") (ownRuleEntries r) :: r.custom.map fun c =>
          tableBlock (arrayTitle "patterns.custom") c.value.entries)
        ⟨inner ++ [("patterns", .table .headed items)], current'⟩ := by
  have hown := linesRead_topTable hk (by decide) current (flatEntries_ownRules r)
  -- Without custom rules an empty list of them stands in the table itself.
  cases hcustom : r.custom with
  | nil =>
    refine ⟨_, _, ?_, .cons hown (.nil _)⟩
    rw [entryValues_itemsOf, ownRuleEntries, hcustom]
    simp [RuleSettings.value, Value.entries, hcustom]
  | cons c cs =>
    have hflat : ∀ es ∈ (c :: cs).map fun c => c.value.entries, FlatEntries maxInteger es := by
      intro es hes
      obtain ⟨c', -, rfl⟩ := List.mem_map.1 hes
      exact flatEntries_rule c'
    have hitems : ownRuleEntries r = [("disabled", .strings r.disabled)] := by
      simp [ownRuleEntries, hcustom]
    have hcustomKey : "custom" ∉ (itemsOf (ownRuleEntries r)).map Prod.fst := by
      rw [hitems]
      simp [itemsOf]
    have hname : "patterns.custom".toList = dotted (["patterns"] ++ ["custom"]) := by decide
    obtain ⟨last, earlier, current', hrows, hblocks⟩ := blocksRead_array
      (focused_table hk .headed) hcustomKey (by decide) (by decide) hname ["patterns"] hflat (by simp)
    refine ⟨_, current', ?_, .cons hown (by rwa [List.map_map] at hblocks)⟩
    have hentries : r.value.entries = [("disabled", .strings r.disabled),
        ("custom", .list ((c :: cs).map CustomRule.value))] := by
      rw [← hcustom]
      rfl
    rw [entryValues_append, entryValues_itemsOf, hitems, entryValues, entryValues,
      toValue_tables hrows, ← map_value_rules, hentries]
    simp only [Dict.readBackEntries]
    rfl

def frontBlocks (c : Config) : List (List String) :=
  (match c.baseDir with
    | none => []
    | some dir => [[entryLine ("base_dir", .string dir)]]) ++
    c.targets.map fun t => tableBlock (arrayTitle "targets") t.value.entries

def ruleBlocks (r : RuleSettings) : List (List String) :=
  tableBlock (tableTitle "patterns") (ownRuleEntries r) :: r.custom.map fun c =>
    tableBlock (arrayTitle "patterns.custom") c.value.entries

theorem configBlocks_eq (c : Config) : configBlocks c = frontBlocks c ++
    tableBlock (tableTitle "scanner") c.scanner.value.entries :: ruleBlocks c.patterns := by
  simp [configBlocks, headedBlocks, frontBlocks, ruleBlocks]

theorem blocksRead_front {c : Config} (htargets : c.targets ≠ []) :
    ∃ items current, entryValues items = Dict.readBackEntries signed
        (textEntry "base_dir" c.baseDir ++
          [("targets", .list (c.targets.map TargetEntry.value))]) ∧
      (∀ k, k ≠ "base_dir" → k ≠ "targets" → k ∉ items.map Prod.fst) ∧
      BlocksRead {} (frontBlocks c) ⟨items, current⟩ := by
  have hflat : ∀ es ∈ c.targets.map fun t => t.value.entries, FlatEntries maxInteger es := by
    intro es hes
    obtain ⟨t, -, rfl⟩ := List.mem_map.1 hes
    exact flatEntries_target t
  have hdir : BlocksRead {} (match c.baseDir with
      | none => []
      | some dir => [[entryLine ("base_dir", .string dir)]])
      ⟨itemsOf (textEntry "base_dir" c.baseDir), []⟩ := by
    cases hbase : c.baseDir with
    | none => exact .nil _
    | some dir =>
      exact .cons (linesRead_entries_nil focused_id (flatEntries_baseDir (some dir))) (.nil _)
  have hkeys (k : String) (hk : k ≠ "base_dir") :
      k ∉ (itemsOf (textEntry "base_dir" c.baseDir)).map Prod.fst := by
    rw [map_fst_itemsOf]
    cases c.baseDir <;> simp [textEntry, hk]
  have hname : "targets".toList = dotted ([] ++ ["targets"]) := by decide
  obtain ⟨last, earlier, current, hrows, harray⟩ := blocksRead_array focused_id
    (hkeys "targets" (by decide)) (by decide) (by decide) hname [] hflat (by simpa using htargets)
  rw [List.map_map] at harray
  refine ⟨itemsOf (textEntry "base_dir" c.baseDir) ++ [("targets", Item.tables last earlier)],
    current, ?_, fun k hk hk' => ?_, hdir.append harray⟩
  · simp only [entryValues_append, entryValues_itemsOf, entryValues, toValue_tables hrows,
      ← map_value_targets, Dict.readBackEntries_eq_map]
    simp
  · rw [List.map_append, List.mem_append, not_or]
    exact ⟨hkeys k hk, by simpa using hk'⟩

/-- The base directory and the targets, and a table of the scanner behind them. -/
theorem blocksRead_scanner {c : Config} (htargets : c.targets ≠ []) {es : List (String × Value)}
    (h : FlatEntries maxInteger es) :
    ∃ items, entryValues items = Dict.readBackEntries signed (textEntry "base_dir" c.baseDir ++
        [("targets", .list (c.targets.map TargetEntry.value))]) ∧
      "patterns" ∉ items.map Prod.fst ∧
      BlocksRead {} (frontBlocks c ++ [tableBlock (tableTitle "scanner") es])
        ⟨items ++ [("scanner", .table .headed (itemsOf es))], ["scanner"]⟩ := by
  obtain ⟨items, current, hitems, hkeys, hfront⟩ := blocksRead_front htargets
  have hscanner := linesRead_topTable (hkeys "scanner" (by decide) (by decide)) (by decide)
    current h
  exact ⟨items, hitems, hkeys "patterns" (by decide) (by decide),
    hfront.append (.cons hscanner (.nil _))⟩

theorem blocksRead_config {c : Config} (hfits : Fits maxInteger c.scanner)
    (htargets : c.targets ≠ []) :
    ∃ d, BlocksRead {} (configBlocks c) d ∧
      entryValues d.entries = Dict.readBackEntries signed c.entries := by
  obtain ⟨front, hfront, hkey, hscanner⟩ := blocksRead_scanner htargets (flatEntries_scanner hfits)
  have hpatterns : "patterns" ∉ (front ++
      [("scanner", Item.table .headed (itemsOf c.scanner.value.entries))]).map Prod.fst := by
    rw [List.map_append, List.mem_append, not_or]
    exact ⟨hkey, by simp⟩
  obtain ⟨items, current, hitems, hrules⟩ := blocksRead_rules hpatterns ["scanner"] c.patterns
  have hblocks := hscanner.append hrules
  change BlocksRead {} (_ ++ ruleBlocks c.patterns) _ at hblocks
  rw [List.append_assoc, List.singleton_append, ← configBlocks_eq] at hblocks
  refine ⟨_, hblocks, ?_⟩
  have hscannerValue : (Item.table .headed (itemsOf c.scanner.value.entries)).toValue =
      c.scanner.value.readBack signed := by
    rw [Item.toValue, entryValues_itemsOf, ScanSettings.value, Value.readBack_dict]
    rfl
  have hpatternsValue : (Item.table .headed items).toValue = c.patterns.value.readBack signed := by
    rw [Item.toValue, hitems, RuleSettings.value, Value.readBack_dict]
    rfl
  simp only [entryValues_append, entryValues, hscannerValue, hpatternsValue, hfront,
    Config.entries, Dict.readBackEntries_eq_map]
  simp

/-! ## The whole text -/

theorem toList_blockText (b : List String) :
    (blockText b).toList = joined (b.map String.toList) := by
  simp [blockText, joined, List.flatMap_map]

theorem joined_append (ls ls' : List (List Char)) : joined (ls ++ ls') = joined ls ++ joined ls' := by
  rw [joined, List.flatMap_append, joined, joined]

theorem joined_intercalate (bs : List (List (List Char))) :
    joined ([[]].intercalate bs) = ['\n'].intercalate (bs.map joined) := by
  induction bs with
  | nil => rfl
  | cons b bs ih =>
    cases bs with
    | nil => rw [List.intercalate_singleton, List.map_singleton, List.intercalate_singleton]
    | cons b' bs =>
      rw [List.intercalate_cons_cons, joined_append, joined_append, ih, List.map_cons (a := b),
        List.map_cons, List.intercalate_cons_cons]
      rfl

/-- What is in front of a part and behind it does not depend on the part. -/
theorem intercalate_append_cons {α : Type} (sep : List α) (bs bs' : List (List α)) :
    ∃ front back, ∀ b, sep.intercalate (bs ++ b :: bs') = front ++ (b ++ back) ∧
      sep.intercalate (bs ++ [b]) = front ++ b := by
  induction bs with
  | nil =>
    cases bs' with
    | nil => exact ⟨[], [], fun b => by simp⟩
    | cons b' bs' =>
      refine ⟨[], sep ++ sep.intercalate (b' :: bs'), fun b => ?_⟩
      rw [List.nil_append, List.intercalate_cons_cons]
      simp
  | cons b' bs ih =>
    obtain ⟨front, back, h⟩ := ih
    refine ⟨b' ++ sep ++ front, back, fun b => ?_⟩
    have hcons (bs'' : List (List α)) (b : List α) : sep.intercalate (b' :: (bs ++ b :: bs'')) =
        b' ++ sep ++ sep.intercalate (bs ++ b :: bs'') := by
      cases bs with
      | nil => exact List.intercalate_cons_cons
      | cons b'' bs => exact List.intercalate_cons_cons
    rw [List.cons_append, List.cons_append, hcons, hcons, (h b).1, (h b).2]
    simp only [List.append_assoc, and_self]

theorem LinesRead.of_append {d d' : Document} {ls ls' : List (List Char)}
    (h : LinesRead d (ls ++ ls') d') : ∃ d₁, LinesRead d ls d₁ ∧ LinesRead d₁ ls' d' := by
  induction ls generalizing d with
  | nil => exact ⟨d, .nil d, h⟩
  | cons l ls ih =>
    cases h with
    | empty h =>
      obtain ⟨d₁, hls, hls'⟩ := ih h
      exact ⟨d₁, .empty hls, hls'⟩
    | line hline h =>
      obtain ⟨d₁, hls, hls'⟩ := ih h
      exact ⟨d₁, .line hline hls, hls'⟩

theorem LinesRead.last {d d' : Document} {l : List Char} (h : LinesRead d [l] d') (hl : l ≠ []) :
    LineReads d l d' := by
  cases h with
  | empty => exact absurd rfl hl
  | line hline h =>
    cases h
    exact hline

/-- Nothing marks the start of the file. -/
theorem head_joined_ne {d d' : Document} {ls : List (List Char)} (h : LinesRead d ls d')
    {rest : List Char} (hrest : StartsSolid rest) : ∀ cs, joined ls ++ rest ≠ '\uFEFF' :: cs := by
  have hsolid {text : List Char} (h : StartsSolid text) : ∀ cs, text ≠ '\uFEFF' :: cs := by
    rintro cs rfl
    exact absurd (stops_cons.1 h) (by decide)
  cases h with
  | nil => exact hsolid hrest
  | empty => exact fun cs heq => absurd (List.cons.inj heq).1 (by decide)
  | @line _ _ _ l ls hline =>
    have hjoined : joined (l :: ls) ++ rest = l ++ '\n' :: (joined ls ++ rest) := by
      simp [joined]
    rw [hjoined]
    exact hsolid (hline.solid _)

theorem parse_joined {d d' : Document} {ls : List (List Char)} (h : LinesRead {} ls d)
    {l tail : List Char} (hl : LineReads d l d') (htail : LineEnd tail []) :
    parse (String.ofList (joined ls ++ (l ++ tail))) = some d'.toDict := by
  rw [parse, String.toList_ofList]
  split
  · next heq => exact absurd heq (head_joined_ne h (hl.solid tail) _)
  · rw [document?_joined h hl htail (Nat.lt_succ_self _), Option.map_some]

theorem parse_stuck {d : Document} {ls : List (List Char)} (h : LinesRead {} ls d)
    {rest : List Char} (hsolid : StartsSolid rest) (hne : rest ≠ []) (hline : line? d rest = none) :
    parse (String.ofList (joined ls ++ rest)) = none := by
  rw [parse, String.toList_ofList]
  split
  · next heq => exact absurd heq (head_joined_ne h hsolid _)
  · rw [document?_stuck h hsolid hne hline (Nat.lt_succ_self _), Option.map_none]

/-- The last line of the rules, or of the last rule, ends in something that shows. -/
theorem headedBlocks_last (c : Config) : ∃ bs b l cs x, headedBlocks c = bs ++ [b ++ [l]] ∧
    l.toList = cs ++ [x] ∧ Unicode.isBlank x = false := by
  rw [headedBlocks]
  cases hcustom : c.patterns.custom using List.reverseRecOn with
  | nil =>
    refine ⟨c.targets.map (fun t => tableBlock (arrayTitle "targets") t.value.entries) ++
      [tableBlock (tableTitle "scanner") c.scanner.value.entries],
      [tableTitle "patterns", entryLine ("disabled", .strings c.patterns.disabled)],
      entryLine ("custom", .list []), "custom = [".toList, ']', ?_, by decide, by decide⟩
    simp [tableBlock, ownRuleEntries, hcustom]
  | append_singleton rules r =>
    obtain ⟨cs, x, hlast, hx⟩ : ∃ cs x,
        (entryLine ("enabled", .bool r.enabled)).toList = cs ++ [x] ∧ Unicode.isBlank x = false := by
      cases r.enabled with
      | true => exact ⟨"enabled = tru".toList, 'e', by decide, by decide⟩
      | false => exact ⟨"enabled = fals".toList, 'e', by decide, by decide⟩
    have hblock : tableBlock (arrayTitle "patterns.custom") r.value.entries =
        [arrayTitle "patterns.custom", entryLine ("name", .string r.name),
          entryLine ("regex", .string r.regex), entryLine ("description", .string r.description),
          entryLine ("remediation", .string r.remediation)] ++
          [entryLine ("enabled", .bool r.enabled)] := rfl
    rw [List.map_append, ← List.append_assoc, List.map_singleton, hblock]
    exact ⟨_, _, _, cs, x, rfl, hlast, hx⟩

/-- The lines of a configuration, with empty ones between the blocks. -/
def configLines (c : Config) : List (List Char) :=
  [[]].intercalate ((configBlocks c).map (·.map String.toList))

theorem toList_blocks (c : Config) :
    (String.intercalate "\n" ((configBlocks c).map blockText)).toList = joined (configLines c) := by
  have hblockText : (configBlocks c).map (String.toList ∘ blockText) =
      ((configBlocks c).map (·.map String.toList)).map joined := by
    rw [List.map_map]
    exact List.map_congr_left fun b _ => toList_blockText b
  have hnewline : "\n".toList = ['\n'] := rfl
  rw [String.toList_intercalate, List.map_map, hblockText, hnewline, ← joined_intercalate,
    configLines]

/-- The last line is not blank at its end. -/
theorem configLines_last (c : Config) : ∃ ls cs x, configLines c = ls ++ [cs ++ [x]] ∧
    Unicode.isBlank x = false := by
  obtain ⟨bs, b, l, cs, x, hlast, hl, hx⟩ := headedBlocks_last c
  obtain ⟨bs', hlast'⟩ : ∃ bs', configBlocks c = bs' ++ [b ++ [l]] :=
    ⟨_ ++ bs, by rw [configBlocks, hlast, ← List.append_assoc]⟩
  obtain ⟨front, _, hfront⟩ := intercalate_append_cons [[]] (bs'.map (·.map String.toList)) []
  refine ⟨front ++ b.map String.toList, cs, x, ?_, hx⟩
  rw [configLines, hlast', List.map_append, List.map_singleton, (hfront _).2, List.map_append,
    List.map_singleton, hl, List.append_assoc]

theorem Flat.le {top n : Nat} {v : Value} (h : Flat top v) (hv : v = .natural n) : n ≤ top := by
  cases h with
  | natural h =>
    obtain rfl := Number.unsigned.inj (Value.number.inj hv)
    exact h
  | bool | string => simp [Value.natural] at hv
  | strings ss => simp [Value.natural, Value.strings] at hv

theorem fits_of_flat {top : Nat} {c : ScanSettings} (h : ∀ e ∈ c.value.entries, Flat top e.2) :
    Fits top c := by
  have hnumber : ∀ k n, (k, Value.natural n) ∈ c.value.entries → n ≤ top :=
    fun k n hmem => (h _ hmem).le rfl
  have hmem : ∀ e ∈ [("max_file_size_mb", Value.natural c.maxFileSizeMb),
      ("max_threads", .natural c.maxThreads), ("thread_percentage", .natural c.threadPercentage),
      ("min_files_for_parallel", .natural c.minFilesForParallel)], e ∈ c.value.entries := by
    simp [ScanSettings.value, Value.entries]
  simp only [List.forall_mem_cons] at hmem
  exact ⟨hnumber _ _ hmem.1, hnumber _ _ hmem.2.1, hnumber _ _ hmem.2.2.1, hnumber _ _ hmem.2.2.2.1⟩

/-- The first number of the scanner that is too great for TOML. -/
theorem exists_too_great {top : Nat} {c : ScanSettings} (h : Fits top c)
    (hnot : ¬ Fits maxInteger c) :
    ∃ pre k n post, c.value.entries = pre ++ (k, .natural n) :: post ∧
      FlatEntries maxInteger pre ∧ Bare k ∧ maxInteger < n := by
  classical
  obtain ⟨hbare, hflat, hnodup⟩ := flatEntries_scanner h
  generalize hes : c.value.entries = es at hbare hflat hnodup
  have hfind : (es.find? fun e => decide (¬ Flat maxInteger e.2)).isSome := by
    rw [List.find?_isSome]
    by_contra hnone
    refine hnot (fits_of_flat fun e he => ?_)
    by_contra hne
    exact hnone ⟨e, hes ▸ he, by simpa using hne⟩
  obtain ⟨⟨k, v⟩, hfirst⟩ := Option.isSome_iff_exists.1 hfind
  obtain ⟨hv, pre, post, rfl, hpre⟩ := List.find?_eq_some_iff_append.1 hfirst
  have hmem : (k, v) ∈ pre ++ (k, v) :: post := by simp
  have hv : ¬ Flat maxInteger v := by simpa using hv
  have hflatPre : ∀ e ∈ pre, Flat maxInteger e.2 := fun e he => by simpa using hpre e he
  have hnodupPre : (pre.map Prod.fst).Nodup := by
    rw [List.map_append] at hnodup
    exact hnodup.of_append_left
  have hfront : FlatEntries maxInteger pre :=
    ⟨fun e he => hbare e (List.mem_append_left _ he), hflatPre, hnodupPre⟩
  obtain ⟨n, rfl, hn⟩ : ∃ n, v = .natural n ∧ maxInteger < n := by
    cases hflat _ hmem with
    | bool b => exact absurd (.bool b) hv
    | natural => exact ⟨_, rfl, Nat.lt_of_not_le fun hle => hv (.natural hle)⟩
    | string s => exact absurd (.string s) hv
    | strings ss => exact absurd (.strings ss) hv
  exact ⟨pre, k, n, post, rfl, hfront, hbare _ hmem, hn⟩

section

variable {c : Config} (htargets : c.targets ≠ [])
include htargets

/-- A configuration with numbers that TOML allows is read from the text it is written as, with the
last line end or without. -/
theorem parse_lines (hfits : Fits maxInteger c.scanner) {ls : List (List Char)} {cs : List Char}
    {x : Char} (hlines : configLines c = ls ++ [cs ++ [x]]) {tail : List Char}
    (htail : LineEnd tail []) : parse (String.ofList (joined ls ++ (cs ++ x :: tail))) =
      some (Dict.ofList (Dict.readBackEntries signed c.entries)) := by
  obtain ⟨d, hblocks, hentries⟩ := blocksRead_config hfits htargets
  have hread : LinesRead {} (configLines c) d := hblocks.lines
  rw [hlines] at hread
  obtain ⟨d', hfirst, hrest⟩ := hread.of_append
  have hparse := parse_joined hfirst (hrest.last (by simp)) htail
  rw [List.append_assoc, List.singleton_append] at hparse
  rw [hparse, Document.toDict, hentries]

/-- A configuration with a number that TOML does not allow is not read. -/
theorem parse_lines_too_great {top : Nat} (hfits : Fits top c.scanner)
    (hnot : ¬ Fits maxInteger c.scanner) {ls : List (List Char)} {cs : List Char} {x : Char}
    (hlines : configLines c = ls ++ [cs ++ [x]]) {tail : List Char} (htail : LineEnd tail []) :
    parse (String.ofList (joined ls ++ (cs ++ x :: tail))) = none := by
  obtain ⟨pre, k, n, post, hentries, hpre, hk, hn⟩ := exists_too_great hfits hnot
  obtain ⟨items, -, -, hscanner⟩ := blocksRead_scanner htargets hpre
  obtain ⟨front, back, hfront⟩ := intercalate_append_cons [[]]
    ((frontBlocks c).map (·.map String.toList)) ((ruleBlocks c.patterns).map (·.map String.toList))
  have hread := hscanner.lines
  rw [List.map_append, List.map_singleton, (hfront _).2] at hread
  have hline : (entryLine (k, .natural n)).toList = keyLine k (Nat.toDigits 10 n) := by
    rw [← Decimal.toList_toString]
    exact toList_entryLine rfl
  have hsplit : configLines c = (front ++ (tableBlock (tableTitle "scanner") pre).map String.toList) ++
      keyLine k (Nat.toDigits 10 n) :: (post.map (fun e => (entryLine e).toList) ++ back) := by
    rw [configLines, configBlocks_eq, List.map_append, List.map_cons, (hfront _).1, hentries, ← hline]
    simp [tableBlock]
  rw [hsplit] at hlines
  have hstuck {after : List Char} (hafter : AfterValue after) := parse_stuck hread
    (hk.solid_keyLine _ after) (by simp [keyLine]) (line?_too_great _ hk hn hafter)
  -- the number may be on the last line, for all that is known of the lines here
  rcases List.eq_nil_or_concat (post.map (fun e => (entryLine e).toList) ++ back) with
    hlast | ⟨more, l, hlast⟩
  · rw [hlast] at hlines
    obtain ⟨rfl, hl⟩ := List.append_inj' hlines rfl
    have hend : cs ++ x :: tail = cs ++ [x] ++ tail := by simp
    rw [hend, ← (List.cons.inj hl).1]
    exact hstuck htail.afterValue
  · rw [hlast, List.concat_eq_append, ← List.cons_append, ← List.append_assoc] at hlines
    obtain ⟨rfl, -⟩ := List.append_inj' hlines rfl
    have hjoined : joined (front ++ (tableBlock (tableTitle "scanner") pre).map String.toList ++
        keyLine k (Nat.toDigits 10 n) :: more) ++ (cs ++ x :: tail) =
          joined (front ++ (tableBlock (tableTitle "scanner") pre).map String.toList) ++
            (keyLine k (Nat.toDigits 10 n) ++ '\n' :: (joined more ++ (cs ++ x :: tail))) := by
      rw [joined_append]
      simp [joined]
    rw [hjoined]
    exact hstuck (stops_cons.2 rfl)

end

/-- A configuration is written as lines. They are read as that configuration, with the last line end
or without, if TOML allows its numbers, and not at all if it does not. -/
theorem parse_print {top : Nat} {c : Config} (hfits : Fits top c.scanner)
    (htargets : c.targets ≠ []) :
    ∃ text front x, print? c.entries = some text ∧ text.toList = front ++ [x, '\n'] ∧
      Unicode.isBlank x = false ∧ ∀ tail, LineEnd tail [] →
        (Fits maxInteger c.scanner → parse (String.ofList (front ++ x :: tail)) =
          some (Dict.ofList (Dict.readBackEntries signed c.entries))) ∧
        (¬ Fits maxInteger c.scanner → parse (String.ofList (front ++ x :: tail)) = none) := by
  obtain ⟨ls, cs, x, hlines, hx⟩ := configLines_last c
  have htext : (String.intercalate "\n" ((configBlocks c).map blockText)).toList =
      joined ls ++ cs ++ [x, '\n'] := by
    rw [toList_blocks, hlines, joined_append]
    simp [joined]
  refine ⟨_, joined ls ++ cs, x, print?_config hfits htargets, htext, hx, fun tail htail => ?_⟩
  rw [List.append_assoc]
  exact ⟨fun hfits => parse_lines htargets hfits hlines htail,
    fun hnot => parse_lines_too_great htargets hfits hnot hlines htail⟩

end ConstantScan.Toml
