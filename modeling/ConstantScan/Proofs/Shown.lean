import ConstantScan.Cli.Run
import ConstantScan.Proofs.ConfigValues
import ConstantScan.Proofs.Reload
import ConstantScan.Proofs.TomlText
import ConstantScan.Proofs.YamlNodes

/-!
# Shown configurations

What is shown of a loaded configuration is a copy of it in each format: the text reads as that
configuration, and loads as it again under the same variables.
-/

namespace ConstantScan

open Read

/-! ## Ends of texts -/

theorem Unicode.trimEnd_append {cs blanks : List Char} {x : Char} (hx : isBlank x = false)
    (h : ∀ c ∈ blanks, isBlank c = true) : trimEnd (cs ++ x :: blanks) = cs ++ [x] := by
  rw [trimEnd, List.reverse_append, List.reverse_cons, List.append_assoc,
    List.dropWhile_append_of_pos fun c hc => h c (List.mem_reverse.1 hc), List.singleton_append,
    List.dropWhile_cons_of_neg (by simp [hx])]
  simp

/-- A text that ends in that character and a newline. -/
def EndsLine (x : Char) (cs : List Char) : Prop := ∃ front, cs = front ++ [x, '\n']

theorem EndsLine.of_suffix {x : Char} {cs ds : List Char} (h : EndsLine x cs) (hds : cs <:+ ds) :
    EndsLine x ds := by
  obtain ⟨front, rfl⟩ := h
  obtain ⟨first, rfl⟩ := hds
  exact ⟨first ++ front, by simp⟩

namespace Yaml

/-! ## The last line in YAML -/

theorem closesEntries_append_singleton (es : List (String × Value)) (e : String × Value) :
    closesEntries (es ++ [e]) = closes e.2 := by
  induction es with
  | nil => rw [List.nil_append, closesEntries]
  | cons e' es ih =>
    obtain ⟨e'', es', hes⟩ := List.exists_cons_of_ne_nil (by simp : es ++ [e] ≠ [])
    rw [List.cons_append, hes, closesEntries, ← hes, ih]

theorem closesItems_append_singleton (vs : List Value) (v : Value) :
    closesItems (vs ++ [v]) = closes v := by
  induction vs with
  | nil => rw [List.nil_append, closesItems]
  | cons v' vs ih =>
    obtain ⟨v'', vs', hvs⟩ := List.exists_cons_of_ne_nil (by simp : vs ++ [v] ≠ [])
    rw [List.cons_append, hvs, closesItems, ← hvs, ih]

theorem suffix_entryLines (indent : Nat) (fresh : Bool) (es : List (String × Value))
    (e : String × Value) :
    (afterKey indent e.2).toList <:+ (entryLines indent fresh (es ++ [e])).toList := by
  induction es generalizing fresh with
  | nil =>
    rw [List.nil_append, entryLines, entryLines]
    simp only [String.append_empty, String.toList_append]
    exact List.suffix_append _ _
  | cons e' es ih =>
    rw [List.cons_append, entryLines, String.toList_append]
    exact (ih true).trans (List.suffix_append _ _)

theorem suffix_itemLines (indent : Nat) (vs : List Value) (v : Value) :
    (itemText indent v).toList <:+ (itemLines indent (vs ++ [v])).toList := by
  induction vs with
  | nil =>
    rw [List.nil_append, itemLines, itemLines]
    simp only [String.append_empty, String.toList_append]
    exact List.suffix_append _ _
  | cons v' vs ih =>
    rw [List.cons_append, itemLines, String.toList_append]
    exact ih.trans (List.suffix_append _ _)

theorem endsLine_rule (c : CustomRule) :
    ∃ x, Unicode.isBlank x = false ∧ EndsLine x (itemText 2 c.value).toList := by
  have hlast : (afterKey 4 (.bool c.enabled)).toList <:+ (itemText 2 c.value).toList :=
    suffix_entryLines 4 false [("name", .string c.name), ("regex", .string c.regex),
      ("description", .string c.description), ("remediation", .string c.remediation)]
      ("enabled", .bool c.enabled)
  refine ⟨'e', by decide, EndsLine.of_suffix ?_ hlast⟩
  cases c.enabled with
  | true => exact ⟨" tru".toList, rfl⟩
  | false => exact ⟨" fals".toList, rfl⟩

theorem endsLine_customRules (cs : List CustomRule) : ∃ x, Unicode.isBlank x = false ∧
    EndsLine x (afterKey 2 (.list (cs.map CustomRule.value))).toList := by
  cases cs using List.reverseRecOn with
  | nil => exact ⟨']', by decide, " [".toList, rfl⟩
  | append_singleton cs c =>
    obtain ⟨x, hx, hends⟩ := endsLine_rule c
    refine ⟨x, hx, hends.of_suffix ?_⟩
    rw [List.map_append, List.map_singleton]
    obtain ⟨v, vs, hvs⟩ :=
      List.exists_cons_of_ne_nil (by simp : cs.map CustomRule.value ++ [c.value] ≠ [])
    rw [hvs, afterKey, ← hvs, String.toList_append]
    exact (suffix_itemLines 2 _ _).trans (List.suffix_append _ _)

theorem entries_eq_append (c : Config) :
    ∃ front, c.entries = front ++ [("patterns", c.patterns.value)] :=
  ⟨textEntry "base_dir" c.baseDir ++
    [("targets", .list (c.targets.map TargetEntry.value)), ("scanner", c.scanner.value)],
    by simp [Config.entries]⟩

/-- The last line of a configuration ends in a bracket or in a flag. -/
theorem endsLine_print (c : Config) :
    ∃ x, Unicode.isBlank x = false ∧ EndsLine x (print c.entries).toList := by
  obtain ⟨x, hx, hends⟩ := endsLine_customRules c.patterns.custom
  have hrules : (afterKey 2 (.list (c.patterns.custom.map CustomRule.value))).toList <:+
      (afterKey 0 c.patterns.value).toList := by
    rw [RuleSettings.value, afterKey, String.toList_append]
    exact (suffix_entryLines 2 true [("disabled", .strings c.patterns.disabled)]
      ("custom", _)).trans (List.suffix_append _ _)
  have hprint : (afterKey 0 c.patterns.value).toList <:+ (print c.entries).toList := by
    obtain ⟨front, hentries⟩ := entries_eq_append c
    rw [print, if_neg (by simp [Config.entries]), hentries]
    exact suffix_entryLines 0 true front ("patterns", c.patterns.value)
  exact ⟨x, hx, (hends.of_suffix hrules).of_suffix hprint⟩

theorem closesEntries_entries (c : Config) : closesEntries c.entries = true := by
  obtain ⟨front, hentries⟩ := entries_eq_append c
  rw [hentries, closesEntries_append_singleton, RuleSettings.value, closes, closesEntries,
    closesEntries, closes]
  cases c.patterns.custom using List.reverseRecOn with
  | nil => rfl
  | append_singleton cs r =>
    rw [List.map_append, List.map_singleton, closesItems_append_singleton]
    rfl

/-- A configuration is read from the text it is written as, with the last line end or without. -/
theorem parse_print {c : Config} (hfits : c.scanner.Fits) :
    ∃ front x, (print c.entries).toList = front ++ [x, '\n'] ∧ Unicode.isBlank x = false ∧
      ∀ tail, Toml.LineEnd tail [] → parse (String.ofList (front ++ x :: tail)) =
        some (Dict.ofList (Dict.readBackEntries .unsigned c.entries)) := by
  obtain ⟨x, hx, front, htext⟩ := endsLine_print c
  refine ⟨front, x, htext, hx, fun tail htail => ?_⟩
  have hwritten := written_entries c
  refine parse_of_before (by simp [Config.entries]) (fun e he => (hwritten e he).1)
    (fun e he => (hwritten e he).2) (by decide) (Config.plain_entries hfits _) ?_
  rw [htext, closesEntries_entries]
  cases htail with
  | newline =>
    have hline : Before true (front ++ [x, '\n']) (front ++ [x, '\n'] ++ (spaces 0 ++ [])) 0 [] :=
      .line 0 solid_nil
    simpa [spaces] using hline
  | last => exact .stop 0 rfl (by simp)

end Yaml

/-- A configuration is read from its JSON text, with a line end after it or without. -/
theorem Json.parse_pretty_value {c : Config} (hfits : c.scanner.Fits) :
    ∃ front, (pretty 0 c.value).toList = front ++ ['\x7d'] ∧ ∀ tail, Toml.LineEnd tail [] →
      parse (String.ofList (front ++ '\x7d' :: tail)) =
        some (.dict (Dict.ofList (Dict.readBackEntries .unsigned c.entries))) := by
  obtain ⟨front, htext⟩ : ∃ front, (pretty 0 c.value).toList = front ++ ['\x7d'] := by
    rw [Config.value, pretty, enclose]
    split
    · exact ⟨['\x7b'], by simp⟩
    · exact ⟨_, by rw [String.toList_append]; rfl⟩
  refine ⟨front, htext, fun tail htail => ?_⟩
  have hplain : c.value.Plain maxUnsigned maxOpen := .dict (Config.plain_entries hfits 123)
  have hrest : tail = [] ∨ tail = ['\n'] := by
    cases htail with
    | newline => exact .inr rfl
    | last => exact .inl rfl
  have hread := parseChars_pretty hplain hrest
  rw [htext, List.append_assoc, List.singleton_append, Config.value, Value.readBack_dict] at hread
  rw [parse, String.toList_ofList, hread]

/-! ## Texts -/

/-- Whole numbers as a reader of the format gives them back. -/
def ConfigFormat.number : ConfigFormat → Nat → Number
  | toml => Toml.signed
  | json | yaml => .unsigned

namespace Config

/-- What is shown of a configuration in a format: its text without the blanks at the end. -/
def shown (c : Config) (format : ConfigFormat) : Except WriteError String :=
  (c.write format).map fun text => String.ofList (Unicode.trimEnd text.toList)

/-- The end of a text: its last line end may be missing. -/
def textEnds : List String := ["", "\n"]

theorem shown_of_write {c : Config} {format : ConfigFormat} {text : String}
    {front blanks : List Char} {x : Char} (Read : Option Dict → Prop)
    (hwrite : c.write format = .ok text) (htext : text.toList = front ++ x :: blanks)
    (hx : Unicode.isBlank x = false) (hblanks : ∀ c ∈ blanks, Unicode.isBlank c = true)
    (hparse : ∀ tail, Toml.LineEnd tail [] →
      Read (format.parse (String.ofList (front ++ x :: tail)))) :
    ∃ text, c.shown format = .ok text ∧ ∀ stop ∈ textEnds, Read (format.parse (text ++ stop)) := by
  refine ⟨String.ofList (front ++ [x]), ?_, ?_⟩
  · simp only [shown, hwrite, Except.map, htext, Unicode.trimEnd_append hx hblanks]
  · have happend (tail : List Char) : String.ofList (front ++ [x]) ++ String.ofList tail =
        String.ofList (front ++ x :: tail) := by
      rw [← String.ofList_append, List.append_assoc, List.singleton_append]
    simp only [textEnds, List.forall_mem_cons]
    refine ⟨?_, ?_, by simp⟩
    · exact (congrArg (Read ∘ format.parse) (happend [])).mpr (hparse [] .last)
    · exact (congrArg (Read ∘ format.parse) (happend ['\n'])).mpr (hparse ['\n'] (.newline []))

/-- The format has all numbers of the configuration: those of TOML are signed. -/
def Writable (c : Config) (format : ConfigFormat) : Prop :=
  format = .toml → Toml.Fits Toml.maxInteger c.scanner

/-- What a reader finds in the text: the entries of the configuration, or nothing. -/
structure Found (c : Config) (format : ConfigFormat) (found : Option Dict) : Prop where
  entries : c.Writable format →
    found = some (Dict.ofList (Dict.readBackEntries format.number c.entries))
  nothing : ¬ c.Writable format → found = none

theorem writable_of_ne {c : Config} {format : ConfigFormat} (h : format ≠ .toml) :
    c.Writable format := fun htoml => absurd htoml h

theorem fits_toml {c : ScanSettings} (h : c.Fits) : Toml.Fits (UInt64.size - 1) c :=
  ⟨h.maxFileSizeMb, h.maxThreads, h.threadPercentage.trans (by decide), h.minFilesForParallel⟩

/-- What is shown of a configuration reads as its entries, with a line end or without, if the format
has all of its numbers. -/
theorem parse_shown {c : Config} (format : ConfigFormat) (hfits : c.scanner.Fits)
    (htargets : c.targets ≠ []) :
    ∃ text, c.shown format = .ok text ∧
      ∀ stop ∈ textEnds, c.Found format (format.parse (text ++ stop)) := by
  have hnewline : ∀ c ∈ ['\n'], Unicode.isBlank c = true := List.forall_mem_singleton.2 (by decide)
  cases format with
  | toml =>
    obtain ⟨text, front, x, hprint, htext, hx, hparse⟩ := Toml.parse_print (fits_toml hfits) htargets
    refine shown_of_write _ (by rw [write, hprint]) htext hx hnewline fun tail htail => ?_
    obtain ⟨hsome, hnone⟩ := hparse tail htail
    exact ⟨fun h => hsome (h rfl), fun h => hnone fun hfits => h fun _ => hfits⟩
  | json =>
    obtain ⟨front, htext, hparse⟩ := Json.parse_pretty_value hfits
    refine shown_of_write _ rfl htext (by decide) (by simp) fun tail htail => ⟨fun _ => ?_, fun h => ?_⟩
    · rewrite [ConfigFormat.parse, hparse tail htail]
      rfl
    · exact absurd (writable_of_ne (by decide)) h
  | yaml =>
    obtain ⟨front, x, htext, hx, hparse⟩ := Yaml.parse_print hfits
    refine shown_of_write _ rfl htext hx hnewline fun tail htail => ⟨fun _ => hparse tail htail, ?_⟩
    exact fun h => absurd (writable_of_ne (by decide)) h

end Config

/-! ## Copies -/

/-- The text reads in the format as the configuration, however strict the reader is. -/
def ConfigFormat.Reads (format : ConfigFormat) (text : String) (c : Config) : Prop :=
  ∃ d, format.parse text = some d ∧ ∀ s, Config.read s (.dict d) = .ok c

/-- A file of the format with that text, named by the caller, loads as the configuration under these
variables. -/
def ConfigFormat.Loads (format : ConfigFormat) (vars : List (String × String)) (text : String)
    (c : Config) : Prop :=
  ∀ (env : Environment) (p : Path), env.vars = vars → env.Reaches p → ofPath p = format →
    env.files.read p = .ok (Utf8.ofString text) → Config.load env (some p) none = .ok c

/-- No file of the format with that text loads where the caller names it. -/
def ConfigFormat.Refuses (format : ConfigFormat) (text : String) : Prop :=
  ∀ (env : Environment) (p : Path), env.Reaches p → ofPath p = format →
    env.files.read p = .ok (Utf8.ofString text) → ∀ c, Config.load env (some p) none ≠ .ok c

theorem ConfigFormat.refuses_of_parse {format : ConfigFormat} {text : String}
    (h : format.parse text = none) : format.Refuses text := by
  rintro env p hreaches rfl hread c hload
  obtain ⟨fault, hlayer⟩ : ∃ fault, env.fileLayer (ofPath p) p = .error (.malformed fault) := by
    rw [hreaches.fileLayer (FileTree.isFile_of_read hread), hread]
    simp only [layer, Utf8.isValid_ofString, if_true, Utf8.toString_ofString, h]
    exact ⟨_, rfl⟩
  obtain ⟨d, hmerged, -⟩ := Config.load_eq_ok_iff.1 hload
  simp [Config.merged, Config.layers, FileTree.isFile_of_read hread, hlayer,
    Config.standardLayer_eq, bind, Except.bind, pure, Except.pure, mergeLayers, overrideLayer,
    Except.mapError] at hmerged

theorem ConfigFormat.toInt?_number (format : ConfigFormat) (n : Nat) :
    (format.number n).toInt? = some (n : Int) := by
  cases format <;> rfl

theorem Cli.Context.showConfig_of_load {x : Context} {c : Config} (h : x.load none = .ok c)
    {format : ConfigFormat} {text : String} (hshown : c.shown format = .ok text) :
    x.showConfig format = .ok (.clean (.line text)) := by
  cases hwrite : c.write format with
  | error e => simp [Config.shown, hwrite, Except.map] at hshown
  | ok written =>
    simp only [Config.shown, hwrite, Except.map, Except.ok.injEq] at hshown
    simp only [showConfig, h, hwrite, bind, Except.bind, pure, Except.pure, Except.mapError, hshown]

namespace Config

theorem targets_ne_nil_of_load {env : Environment} {file : Option Path} {overrides : Option Value}
    {c : Config} (h : load env file overrides = .ok c) : c.targets ≠ [] := by
  obtain ⟨-, -, -, hvalid⟩ := load_eq_ok_iff.1 h
  intro htargets
  simp [validate, htargets] at hvalid

/-- What is shown of a loaded configuration is a copy of it, if the format has all of its numbers: the
text reads as that configuration, and loads as it under the variables that were there, if these had
the last word and none of them sets a key below the mode. -/
theorem shown_copies {env : Environment} {file : Option Path} {overrides : Option Value}
    {c : Config} (h : load env file overrides = .ok c) (format : ConfigFormat) :
    ∃ text, c.shown format = .ok text ∧
      (∀ x : Cli.Context, x.load none = .ok c →
        x.showConfig format = .ok (.clean (.line text))) ∧
      ∀ stop ∈ textEnds,
        (c.Writable format → format.Reads (text ++ stop) c ∧
          ((overrides = none ∨ VariablesStand env file overrides) →
            ¬ SetsModeByDict (Variable.layer env.vars) →
              format.Loads env.vars (text ++ stop) c)) ∧
        (¬ c.Writable format → format.Refuses (text ++ stop)) := by
  obtain ⟨d, -, hread, -⟩ := load_eq_ok_iff.1 h
  have hfits := fits_of_read hread
  obtain ⟨text, hshown, hparse⟩ := parse_shown format hfits (targets_ne_nil_of_load h)
  have hshows (s : Strictness) := shownBy_readBack format.toInt?_number s hfits
  refine ⟨text, hshown, fun x hx => x.showConfig_of_load hx hshown, fun stop hstop =>
    ⟨fun hwritable => ?_, fun hnot => format.refuses_of_parse ((hparse stop hstop).nothing hnot)⟩⟩
  have hparse := (hparse stop hstop).entries hwritable
  refine ⟨⟨_, hparse, fun s => (hshows s).read⟩, ?_⟩
  rintro hstand hmode env' p hvars hreaches rfl hfile
  refine load_of_shownBy h hstand hvars hmode hreaches
    ⟨_, hfile, Utf8.isValid_ofString _, ?_⟩ (hshows .layered)
  rw [Utf8.toString_ofString]
  exact hparse

end Config

/-! ## A directory with one file -/

namespace Sample

def holding (content : Bytes) (vars : List (String × String)) : Environment where
  files := {
    root := .dir [(name "work", .dir [(name "own.json", .file content),
      (name "own.toml", .file content), (name "own.yaml", .file content)])]
    current := [name "work"] }
  vars := vars

def ownFile : ConfigFormat → Path
  | .toml => .ofString "own.toml"
  | .json => .ofString "own.json"
  | .yaml => .ofString "own.yaml"

section

variable (content : Bytes) (vars : List (String × String)) (format : ConfigFormat)

theorem read_holding : (holding content vars).files.read (ownFile format) = .ok content := by
  generalize content = c
  cases format <;> cbv

theorem reaches_holding : (holding content vars).Reaches (ownFile format) where
  standing _ := by
    refine ⟨⟨_, rfl⟩, ?_, ?_, ?_⟩ <;> intro n hn <;> obtain rfl := List.mem_singleton.1 hn <;>
      decide
  short := by
    have hdir : (holding content vars).workDir = .ofString "/work" := by
      rw [Path.ofString, Utf8.ofString_eq_encode]
      rfl
    have hlength : ((Path.ofString "/work").join (ownFile format)).bytes.length = 14 := by
      cases format <;> cbv
    rw [hdir, hlength]
    decide

end

theorem ofPath_ownFile (format : ConfigFormat) : ConfigFormat.ofPath (ownFile format) = format := by
  cases format <;> cbv

theorem sets_holding (vars : List (String × String)) (text : String) {format : ConfigFormat} {d : Dict}
    (h : format.parse text = some d) :
    (holding (Utf8.ofString text) vars).NamedSets (ownFile format) d := by
  refine ⟨_, read_holding _ _ _, Utf8.isValid_ofString text, ?_⟩
  rw [ofPath_ownFile, Utf8.toString_ofString, h]

/-- A label that looks like a flag, and a path with a line end and both kinds of quotes. -/
def tricky : Config := { Config.standard with targets := [⟨some "yes", "a\n'b\""⟩] }

def trickyText : String :=
  "\x7b\"targets\": [\x7b\"label\": \"yes\", \"path\": \"a\\n'b\\\"\"\x7d]\x7d"

/-- Files that are greater than TOML can say. -/
def great : Config :=
  { Config.standard with scanner := { Config.standard.scanner with maxFileSizeMb := 2 ^ 63 } }

def greatText : String :=
  "\x7b\"scanner\": \x7b\"max_file_size_mb\": 9223372036854775808\x7d\x7d"

/-- The mode is the only key of a dictionary. -/
def keyedText : String := "\x7b\"scanner\": \x7b\"mode\": \x7b\"auto\": null\x7d\x7d\x7d"

/-- Sets another key beside the one that is the mode. -/
def keyedVars : List (String × String) := [("PRECISION_SCAN_SCANNER__MODE__PARALLEL", "x")]

theorem layer_keyedVars : Variable.layer keyedVars =
    [("scanner", .dict [("mode", .dict [("parallel", .string "x")])])] := by
  have hkeys : Variable.keys? "PRECISION_SCAN_SCANNER__MODE__PARALLEL" =
      some ["scanner", "mode", "parallel"] := by decide
  have hvalue : Variable.value "x" = .string "x" := by cbv
  simp only [Variable.layer, keyedVars, List.foldl_cons, List.foldl_nil, hkeys, hvalue]
  cbv

def modeVars : List (String × String) := [("PRECISION_SCAN_SCANNER__MODE", "parallel")]

theorem layer_modeVars : Variable.layer modeVars =
    [("scanner", .dict [("mode", .string "parallel")])] := by
  have hkeys : Variable.keys? "PRECISION_SCAN_SCANNER__MODE" = some ["scanner", "mode"] := by
    decide
  have hvalue : Variable.value "parallel" = .string "parallel" := by cbv
  simp only [Variable.layer, modeVars, List.foldl_cons, List.foldl_nil, hkeys, hvalue]
  cbv

/-- Asks for the mode that is the standard one. -/
def autoMode : Dict := [("scanner", .dict [("mode", .string "auto")])]

end Sample

namespace Config

theorem validate_standard : standard.validate = .ok () := rfl

/-- What the one file sets stands between the standard configuration and the variables. -/
theorem load_holding {vars : List (String × String)} {text : String} {format : ConfigFormat}
    {d asked : Dict} {overrides : Option Value} {c : Config} (htext : format.parse text = some d)
    (hasked : OverridesSet overrides asked)
    (hread : Config.read .layered
      (.dict ([defaults, d, Variable.layer vars, asked].foldl Dict.merge [])) = .ok c)
    (hvalid : c.validate = .ok ()) :
    load (Sample.holding (Utf8.ofString text) vars) (some (Sample.ownFile format)) overrides =
      .ok c :=
  load_eq_ok_iff.2 ⟨_, merged_of_named (Sample.reaches_holding _ _ _)
    (Sample.sets_holding vars text htext) hasked, hread, hvalid⟩

theorem shown_copies_tricky :
    load (Sample.holding (Utf8.ofString Sample.trickyText) []) (some (Sample.ownFile .json)) none =
        .ok Sample.tricky ∧
      ∀ format, ∃ text, Sample.tricky.shown format = .ok text ∧
        format.Reads (text ++ "\n") Sample.tricky ∧
        format.Loads [] (text ++ "\n") Sample.tricky := by
  have htext : ConfigFormat.json.parse Sample.trickyText = some [("targets",
      .list [.dict [("label", .string "yes"), ("path", .string "a\n'b\"")]])] := by cbv
  have hload : load (Sample.holding (Utf8.ofString Sample.trickyText) [])
      (some (Sample.ownFile .json)) none = .ok Sample.tricky :=
    load_holding htext .absent (by cbv) (by rfl)
  refine ⟨hload, fun format => ?_⟩
  have hwritable : Sample.tricky.Writable format :=
    fun _ => ⟨by decide, by decide, by decide, by decide⟩
  obtain ⟨text, hshown, -, hcopy⟩ := shown_copies hload format
  obtain ⟨hreads, hloads⟩ := (hcopy "\n" (by simp [textEnds])).1 hwritable
  refine ⟨text, hshown, hreads, hloads (.inl rfl) ?_⟩
  rintro ⟨es, hes⟩
  simp [Sample.holding, Variable.layer, Value.at?, Dict.get?] at hes

/-! ## What keeps a copy from loading -/

/-- The standard configuration as its JSON text shows it, with another layer over it. -/
def recalled (upper : Dict) : Except LoadError Config :=
  extract ([defaults, Dict.ofList (Dict.readBackEntries .unsigned standard.entries), upper,
    []].foldl Dict.merge [])

theorem not_loads_standard {vars : List (String × String)} {d : Dict}
    (hlayer : Variable.layer vars = d) (hrecalled : recalled d ≠ .ok standard) :
    ∃ text, standard.shown .json = .ok text ∧
      ¬ ConfigFormat.json.Loads vars text standard := by
  have hfits : standard.scanner.Fits := ⟨by decide, by decide, by decide, by decide⟩
  obtain ⟨text, hshown, hparse⟩ := parse_shown .json hfits (by simp [standard])
  have htext := (hparse "" (by simp [textEnds])).entries (writable_of_ne (by decide))
  rw [String.append_empty] at htext
  refine ⟨text, hshown, fun hloads => hrecalled ?_⟩
  have hload := hloads (Sample.holding (Utf8.ofString text) vars) (Sample.ownFile .json) rfl
    (Sample.reaches_holding _ _ _) (Sample.ofPath_ownFile _) (Sample.read_holding _ _ _)
  obtain ⟨d', hd', hread, -⟩ := load_eq_ok_iff.1 hload
  rw [merged_of_named (Sample.reaches_holding _ _ _) (Sample.sets_holding vars text htext) .absent]
    at hd'
  obtain rfl := Except.ok.inj hd'
  rw [recalled, ← hlayer, extract_eq_ok_iff]
  exact hread

theorem not_loads_of_refuses {format : ConfigFormat} {text : String}
    (h : format.Refuses text) (vars : List (String × String)) (c : Config) :
    ¬ format.Loads vars text c := fun hloads =>
  h (Sample.holding (Utf8.ofString text) vars) (Sample.ownFile format) (Sample.reaches_holding _ _ _)
    (Sample.ofPath_ownFile _) (Sample.read_holding _ _ _) c
    (hloads _ _ rfl (Sample.reaches_holding _ _ _) (Sample.ofPath_ownFile _)
      (Sample.read_holding _ _ _))

/-- What is shown does not load again where a number is too great for TOML, where a variable sets a
key beside the one that was the mode, or where what was asked for hid a variable. -/
theorem not_shown_copies :
    (load (Sample.holding (Utf8.ofString Sample.greatText) []) (some (Sample.ownFile .json)) none =
        .ok Sample.great ∧
      ∃ text, Sample.great.shown .toml = .ok text ∧
        ¬ ConfigFormat.toml.Loads [] text Sample.great) ∧
    (load (Sample.holding (Utf8.ofString Sample.keyedText) Sample.keyedVars)
        (some (Sample.ownFile .json)) none = .ok standard ∧
      ∃ text, standard.shown .json = .ok text ∧
        ¬ ConfigFormat.json.Loads Sample.keyedVars text standard) ∧
    (load (Sample.holding (Utf8.ofString "\x7b\x7d") Sample.modeVars) (some (Sample.ownFile .json))
        (some (.dict Sample.autoMode)) = .ok standard ∧
      ∃ text, standard.shown .json = .ok text ∧
        ¬ ConfigFormat.json.Loads Sample.modeVars text standard) := by
  refine ⟨⟨?_, ?_⟩, ⟨?_, not_loads_standard Sample.layer_keyedVars ?_⟩, ?_,
    not_loads_standard Sample.layer_modeVars ?_⟩
  · have htext : ConfigFormat.json.parse Sample.greatText = some
        [("scanner", .dict [("max_file_size_mb", .natural (2 ^ 63))])] := by cbv
    exact load_holding htext .absent (by cbv) (by rfl)
  · have hfits : Sample.great.scanner.Fits := ⟨by decide, by decide, by decide, by decide⟩
    have hnot : ¬ Sample.great.Writable .toml := fun h =>
      absurd (h rfl).maxFileSizeMb (by decide)
    obtain ⟨text, hshown, hparse⟩ := parse_shown .toml hfits (by simp [Sample.great, standard])
    have hnothing := (hparse "" (by simp [textEnds])).nothing hnot
    rw [String.append_empty] at hnothing
    exact ⟨text, hshown, not_loads_of_refuses (ConfigFormat.refuses_of_parse hnothing) _ _⟩
  · have htext : ConfigFormat.json.parse Sample.keyedText =
        some [("scanner", .dict [("mode", .dict [("auto", .null)])])] := by cbv
    refine load_holding htext .absent ?_ validate_standard
    rw [Sample.layer_keyedVars]
    cbv
  · -- Two keys are no mode.
    intro h
    have hfails : (recalled
        [("scanner", .dict [("mode", .dict [("parallel", .string "x")])])]).isOk = false := by
      decide +kernel
    rw [h] at hfails
    exact Bool.noConfusion hfails
  · have htext : ConfigFormat.json.parse "\x7b\x7d" = some [] := by cbv
    refine load_holding htext (.dict Sample.autoMode) ?_ validate_standard
    rw [Sample.layer_modeVars]
    cbv
  · -- The variable is not hidden this time.
    intro h
    have hmode : (recalled [("scanner", .dict [("mode", .string "parallel")])]).toOption.map
        (·.scanner.mode) = some .parallel := by decide +kernel
    rw [h] at hmode
    exact absurd hmode (by decide)

end Config

end ConstantScan
