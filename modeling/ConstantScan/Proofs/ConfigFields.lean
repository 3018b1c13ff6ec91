import ConstantScan.Config.Format
import ConstantScan.Proofs.Records
import Mathlib

/-!
# The fields of a configuration

The records of a configuration as lists of fields, and what a dictionary has to hold for its reading
to be a given configuration.
-/

namespace ConstantScan

open Read

/-! ## The fields -/

namespace ScanSettings

def recordFields (s : Strictness) : List (RecordField ScanSettings) := [
  ⟨"extensions", list string, extensions, fun c x => { c with extensions := x }⟩,
  ⟨"exclude_dirs", list string, excludeDirs, fun c x => { c with excludeDirs := x }⟩,
  ⟨"ignore_paths", list string, ignorePaths, fun c x => { c with ignorePaths := x }⟩,
  ⟨"follow_symlinks", bool, followSymlinks, fun c x => { c with followSymlinks := x }⟩,
  ⟨"respect_gitignore", bool, respectGitignore, fun c x => { c with respectGitignore := x }⟩,
  ⟨"skip_binary_files", bool, skipBinaryFiles, fun c x => { c with skipBinaryFiles := x }⟩,
  ⟨"max_file_size_mb", size, maxFileSizeMb, fun c x => { c with maxFileSizeMb := x }⟩,
  ⟨"mode", ScanMode.read s, mode, fun c x => { c with mode := x }⟩,
  ⟨"max_threads", size, maxThreads, fun c x => { c with maxThreads := x }⟩,
  ⟨"thread_percentage", percentage, threadPercentage,
    fun c x => { c with threadPercentage := x }⟩,
  ⟨"min_files_for_parallel", size, minFilesForParallel,
    fun c x => { c with minFilesForParallel := x }⟩]

theorem map_toSlot_recordFields (s : Strictness) :
    (recordFields s).map RecordField.toSlot = fields s := rfl

theorem lawful_recordFields (s : Strictness) : RecordField.Lawful (recordFields s) where
  nodup := by simp [recordFields]
  get_set := by simp [recordFields]
  get_set_of_ne := by simp [recordFields]
  ext r r' h := by
    simp only [recordFields, List.forall_mem_cons] at h
    cases r
    cases r'
    simp_all

theorem read_dict_eq_ok_iff (s : Strictness) {es : Dict} (hes : es.Ascending)
    (r : ScanSettings) :
    read s (.dict es) = .ok r ↔ ∀ f ∈ recordFields s, f.Reads {} es r :=
  (record_dict_eq_ok_iff (lawful_recordFields s) hes.nodup s "ScannerConfig" {} nothingMissing r).trans
    (and_iff_left rfl)

end ScanSettings

namespace RuleSettings

def recordFields (s : Strictness) : List (RecordField RuleSettings) := [
  ⟨"disabled", list string, disabled, fun c x => { c with disabled := x }⟩,
  ⟨"custom", list (CustomRule.read s), custom, fun c x => { c with custom := x }⟩]

theorem map_toSlot_recordFields (s : Strictness) :
    (recordFields s).map RecordField.toSlot = fields s := rfl

theorem lawful_recordFields (s : Strictness) : RecordField.Lawful (recordFields s) where
  nodup := by simp [recordFields]
  get_set := by simp [recordFields]
  get_set_of_ne := by simp [recordFields]
  ext r r' h := by
    simp only [recordFields, List.forall_mem_cons] at h
    cases r
    cases r'
    simp_all

theorem read_dict_eq_ok_iff (s : Strictness) {es : Dict} (hes : es.Ascending)
    (r : RuleSettings) :
    read s (.dict es) = .ok r ↔ ∀ f ∈ recordFields s, f.Reads {} es r :=
  (record_dict_eq_ok_iff (lawful_recordFields s) hes.nodup s "PatternsConfig" {} nothingMissing r).trans
    (and_iff_left rfl)

end RuleSettings

namespace Config

def recordFields (s : Strictness) : List (RecordField Config) := [
  ⟨"base_dir", optional string, baseDir, fun c x => { c with baseDir := x }⟩,
  ⟨"targets", list (TargetEntry.read s), targets, fun c x => { c with targets := x }⟩,
  ⟨"scanner", ScanSettings.read s, scanner, fun c x => { c with scanner := x }⟩,
  ⟨"patterns", RuleSettings.read s, patterns, fun c x => { c with patterns := x }⟩]

theorem map_toSlot_recordFields (s : Strictness) :
    (recordFields s).map RecordField.toSlot = fields s := rfl

theorem lawful_recordFields (s : Strictness) : RecordField.Lawful (recordFields s) where
  nodup := by simp [recordFields]
  get_set := by simp [recordFields]
  get_set_of_ne := by simp [recordFields]
  ext r r' h := by
    simp only [recordFields, List.forall_mem_cons] at h
    cases r
    cases r'
    simp_all

theorem read_dict_eq_ok_iff (s : Strictness) {es : Dict} (hes : es.Ascending) (r : Config) :
    read s (.dict es) = .ok r ↔ ∀ f ∈ recordFields s, f.Reads {} es r :=
  (record_dict_eq_ok_iff (lawful_recordFields s) hes.nodup s "ScanConfig" {} nothingMissing r).trans
    (and_iff_left rfl)

end Config

/-! ## Targets and rules

A field without a default is optional while the record is read. -/

def Read.needed {α : Type} (read : Read α) : Read (Option α) := fun v => (read v).map some

theorem Read.slot_needed {α σ : Type} (name : String) (read : Read α) (set : σ → Option α → σ) :
    Read.slot name (needed read) set = Read.slot name read fun r x => set r (some x) := by
  refine Prod.ext rfl (funext fun r => funext fun v => ?_)
  simp only [Read.slot, needed]
  cases read v <;> rfl

namespace TargetEntry.Draft

def recordFields : List (RecordField Draft) := [
  ⟨"label", optional string, label, fun c x => { c with label := x }⟩,
  ⟨"path", needed string, path, fun c x => { c with path := x }⟩]

theorem map_toSlot_recordFields : recordFields.map RecordField.toSlot = fields := by
  simp only [recordFields, List.map_cons, List.map_nil, RecordField.toSlot, slot_needed]
  rfl

theorem lawful_recordFields : RecordField.Lawful recordFields where
  nodup := by simp [recordFields]
  get_set := by simp [recordFields]
  get_set_of_ne := by simp [recordFields]
  ext r r' h := by
    simp only [recordFields, List.forall_mem_cons] at h
    cases r
    cases r'
    simp_all

end TargetEntry.Draft

theorem TargetEntry.read_dict {s : Strictness} {es : Dict} (hes : (es.map Prod.fst).Nodup)
    {t : TargetEntry} (hlabel : Dict.get? "label" es = t.label.map .string)
    (hpath : Dict.get? "path" es = some (.string t.path)) : read s (.dict es) = .ok t := by
  have hdraft : record s "TargetConfig" Draft.fields {} Draft.missing (.dict es) =
      .ok ⟨t.label, some t.path⟩ := by
    rw [← Draft.map_toSlot_recordFields, record_dict_eq_ok_iff Draft.lawful_recordFields hes]
    simp only [Draft.recordFields, List.forall_mem_cons, RecordField.Reads, hlabel, hpath]
    cases t.label <;> simp [Draft.missing, needed, string, Except.map, Read.optional]
  rw [read, hdraft]
  rfl

namespace CustomRule.Draft

def recordFields : List (RecordField Draft) := [
  ⟨"name", needed string, name, fun c x => { c with name := x }⟩,
  ⟨"regex", needed string, regex, fun c x => { c with regex := x }⟩,
  ⟨"description", string, description, fun c x => { c with description := x }⟩,
  ⟨"remediation", string, remediation, fun c x => { c with remediation := x }⟩,
  ⟨"enabled", bool, enabled, fun c x => { c with enabled := x }⟩]

theorem map_toSlot_recordFields : recordFields.map RecordField.toSlot = fields := by
  simp only [recordFields, List.map_cons, List.map_nil, RecordField.toSlot, slot_needed]
  rfl

theorem lawful_recordFields : RecordField.Lawful recordFields where
  nodup := by simp [recordFields]
  get_set := by simp [recordFields]
  get_set_of_ne := by simp [recordFields]
  ext r r' h := by
    simp only [recordFields, List.forall_mem_cons] at h
    cases r
    cases r'
    simp_all

end CustomRule.Draft

theorem CustomRule.read_dict {s : Strictness} {es : Dict} (hes : (es.map Prod.fst).Nodup)
    {c : CustomRule} (hname : Dict.get? "name" es = some (.string c.name))
    (hregex : Dict.get? "regex" es = some (.string c.regex))
    (hdescription : Dict.get? "description" es = some (.string c.description))
    (hremediation : Dict.get? "remediation" es = some (.string c.remediation))
    (henabled : Dict.get? "enabled" es = some (.bool c.enabled)) :
    read s (.dict es) = .ok c := by
  have hdraft : record s "CustomPatternConfig" Draft.fields {} Draft.missing (.dict es) =
      .ok ⟨some c.name, some c.regex, c.description, c.remediation, c.enabled⟩ := by
    rw [← Draft.map_toSlot_recordFields, record_dict_eq_ok_iff Draft.lawful_recordFields hes]
    simp only [Draft.recordFields, List.forall_mem_cons, RecordField.Reads, hname, hregex,
      hdescription, hremediation, henabled]
    simp [Draft.missing, needed, string, Read.bool, Except.map]
  rw [read, hdraft]
  rfl

/-! ## What a dictionary shows -/

namespace RecordField

variable {σ : Type}

/-- Each field has an entry, which is no dictionary and reads as what the record has. -/
def Shown (fs : List (RecordField σ)) (es : Dict) (r : σ) : Prop :=
  ∀ f ∈ fs, ∃ v, Dict.get? f.name es = some v ∧ v.isDict = false ∧ f.read v = .ok (f.get r)

theorem Shown.reads {fs : List (RecordField σ)} {es : Dict} {r : σ} (h : Shown fs es r)
    (start : σ) : ∀ f ∈ fs, f.Reads start es r := by
  intro f hf
  obtain ⟨v, hv, -, hread⟩ := h f hf
  rwa [Reads, hv]

end RecordField

namespace Config

/-- A dictionary that holds a configuration as it is written. -/
structure ShownBy (s : Strictness) (c : Config) (d : Dict) : Prop where
  ascending : d.Ascending
  baseDir : Dict.get? "base_dir" d = c.baseDir.map .string
  targets : ∃ v, Dict.get? "targets" d = some v ∧ v.isDict = false ∧
    list (TargetEntry.read s) v = .ok c.targets
  scanner : ∃ es : Dict, Dict.get? "scanner" d = some (.dict es) ∧ es.Ascending ∧
    RecordField.Shown (ScanSettings.recordFields s) es c.scanner
  patterns : ∃ es : Dict, Dict.get? "patterns" d = some (.dict es) ∧ es.Ascending ∧
    RecordField.Shown (RuleSettings.recordFields s) es c.patterns

theorem ShownBy.reads {s : Strictness} {c : Config} {d : Dict} (h : c.ShownBy s d) :
    ∀ f ∈ recordFields s, f.Reads {} d c := by
  obtain ⟨tv, htargets, -, htv⟩ := h.targets
  obtain ⟨se, hscanner, hse, hsettings⟩ := h.scanner
  obtain ⟨pe, hpatterns, hpe, hrules⟩ := h.patterns
  simp only [recordFields, List.forall_mem_cons, RecordField.Reads, h.baseDir, htargets, hscanner,
    hpatterns]
  refine ⟨?_, htv, ?_, ?_, by simp⟩
  · cases c.baseDir <;> rfl
  · exact (ScanSettings.read_dict_eq_ok_iff s hse _).2 (hsettings.reads {})
  · exact (RuleSettings.read_dict_eq_ok_iff s hpe _).2 (hrules.reads {})

theorem ShownBy.read {s : Strictness} {c : Config} {d : Dict} (h : c.ShownBy s d) :
    Config.read s (.dict d) = .ok c :=
  (read_dict_eq_ok_iff s h.ascending c).2 h.reads

end Config

end ConstantScan
