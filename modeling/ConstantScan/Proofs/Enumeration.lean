import ConstantScan.Proofs.Run
import Mathlib

/-!
# A run enumerates targets, files, lines and rules

The findings of a run are those of four nested enumerations, written down here without any of the
functions that gather them. The summaries count what each target adds.
-/

namespace ConstantScan

/-! ## Files that are scanned -/

theorem read_of_loadFile {settings : ScanSettings} {t : FileTree} {p : Path} {content : Bytes}
    (h : loadFile settings t p = .ok content) : t.read p = .ok content := by
  simp only [loadFile, bind, Except.bind, pure, Except.pure, throw, throwThe,
    MonadExceptOf.throw] at h
  cases hlook : t.look p with
  | error e => simp [hlook, Except.mapError] at h
  | ok node =>
    cases hread : t.read p with
    | error e =>
      simp only [hlook, hread, Except.mapError] at h
      split_ifs at h
    | ok c =>
      simp only [hlook, hread, Except.mapError] at h
      split_ifs at h
      rw [Except.ok.inj h]

/-- A file that is not skipped is read, and its content is what is scanned. -/
theorem read_of_scanFile {rules : RuleSet} {settings : ScanSettings} {t : FileTree} {p : Path}
    {found : List LineMatch} (h : scanFile rules settings t p = .scanned found) :
    ∃ content, t.read p = .ok content ∧ found = rules.scan content := by
  unfold scanFile at h
  cases hload : loadFile settings t p with
  | error reason => simp [hload] at h
  | ok content =>
    simp only [hload, FileOutcome.scanned.injEq] at h
    exact ⟨content, read_of_loadFile hload, h.symm⟩

namespace Scanner

variable (s : Scanner) (env : Environment)

/-! ## The enumeration -/

/-- What a rule reports of a line; the first line has index zero. -/
def findingAt (target : ScanTarget) (file : Path) (index : Nat) (line : List Char) (rule : Rule) :
    Finding :=
  { target := target.label
    file := file.relativeText target.root
    line := index + 1
    text := String.ofList (Unicode.trim line)
    rule := rule.name }

def contentFindings (target : ScanTarget) (file : Path) (content : Bytes) : Findings :=
  ((textLines (Utf8.decode content)).mapIdx fun index line =>
    (s.rules.rules.filter (·.matchesLine line)).map (findingAt target file index line)).flatten

def scannedFiles (target : ScanTarget) : List Path :=
  (s.walker.walk env target.root).filter fun p => (s.outcomeOf env p).isScanned

/-- A finding for each target that is there, each file of it that is not skipped, each line of the
file and each rule that matches the line. -/
def enumeration (targets : List ScanTarget) : Findings :=
  (targets.filter (env.files.exists ·.root)).flatMap fun target =>
    (s.scannedFiles env target).flatMap fun file =>
      (env.files.read file).toOption.toList.flatMap (s.contentFindings target file)

structure Summarizes (target : ScanTarget) (summary : TargetSummary) : Prop where
  label : summary.label = target.label
  root : summary.root = target.root
  missing : summary.status = .missing ↔ env.files.exists target.root = false
  counts : env.files.exists target.root = true →
    ∃ scanned skipped,
      summary.status = .scanned scanned skipped (s.enumeration env [target]).length ∧
      scanned = (s.scannedFiles env target).length ∧
      scanned + skipped = (s.walker.walk env target.root).length

/-- Two environments hold the same files of a target that are not skipped. -/
def SameScanned (env env' : Environment) (target : ScanTarget) : Prop :=
  s.scannedFiles env' target = s.scannedFiles env target ∧
    ∀ file ∈ s.scannedFiles env target, env'.files.read file = env.files.read file

/-! ## Lines -/

theorem map_attribute_scan (target : ScanTarget) (file : Path) (content : Bytes) :
    (s.rules.scan content).map (·.attribute target file) =
      s.contentFindings target file content := by
  rw [RuleSet.scan, RuleSet.scanLines, contentFindings, List.mapIdx_eq_zipIdx_map,
    List.zipIdx_eq_map_add, List.flatMap_map, List.map_flatMap, List.flatMap_def]
  congr 1
  apply List.map_congr_left
  rintro ⟨line, index⟩ -
  simp only [RuleSet.scanLine, RuleSet.matching, List.map_map]
  apply List.map_congr_left
  intro rule _
  simp [LineMatch.attribute, findingAt, Nat.add_comm]

theorem contentFindings_of_line (target : ScanTarget) (file : Path) {content : Bytes}
    {line : List Char} (h : textLines (Utf8.decode content) = [line]) :
    s.contentFindings target file content = ((s.rules.matching line).map Rule.name).map
      (⟨target.label, file.relativeText target.root, 1, String.ofList (Unicode.trim line), ·⟩) := by
  rw [contentFindings, h, List.map_map]
  simp [findingAt, RuleSet.matching, Function.comp_def]

/-! ## Files -/

theorem found_attributed (target : ScanTarget) (file : Path) :
    (s.outcomeOf env file).found.map (·.attribute target file) =
      if (s.outcomeOf env file).isScanned then
        (env.files.read file).toOption.toList.flatMap (s.contentFindings target file)
      else [] := by
  cases h : s.outcomeOf env file with
  | skipped reason => rfl
  | scanned found =>
    obtain ⟨content, hread, rfl⟩ := read_of_scanFile h
    simp [FileOutcome.isScanned, FileOutcome.found, hread, Except.toOption,
      map_attribute_scan]

theorem targetFindings_eq (target : ScanTarget) :
    s.targetFindings env target =
      (s.scannedFiles env target).flatMap fun file =>
        (env.files.read file).toOption.toList.flatMap (s.contentFindings target file) := by
  rw [targetFindings, scannedFiles]
  induction s.walker.walk env target.root with
  | nil => rfl
  | cons file files ih =>
    rw [List.flatMap_cons, ih, found_attributed, List.filter_cons]
    split <;> simp

/-! ## Targets -/

theorem enumeration_eq (targets : List ScanTarget) :
    s.enumeration env targets = targets.flatMap (s.targetFindings env) := by
  induction targets with
  | nil => rfl
  | cons target targets ih =>
    rw [List.flatMap_cons, ← ih, enumeration, enumeration, List.filter_cons]
    split
    · rw [List.flatMap_cons, ← targetFindings_eq]
    · next h =>
      rw [s.targetFindings_of_not_exists env (by simpa using h), List.nil_append]

theorem summarizes_targetSummary (target : ScanTarget) :
    s.Summarizes env target (s.targetSummary env target) where
  label := rfl
  root := rfl
  missing := by
    unfold targetSummary targetStatus
    cases env.files.exists target.root <;> simp
  counts h := by
    let files := s.walker.walk env target.root
    refine ⟨files.countP fun p => (s.outcomeOf env p).isScanned,
      files.countP fun p => !(s.outcomeOf env p).isScanned, ?_, ?_, ?_⟩
    · simp only [targetSummary, targetStatus, h, if_true, enumeration_eq, List.flatMap_singleton]
      rfl
    · exact List.countP_eq_length_filter
    · rw [List.length_eq_countP_add_countP fun p => (s.outcomeOf env p).isScanned]
      simp [files]

theorem targetFindings_congr {env env' : Environment} {target : ScanTarget}
    (h : s.SameScanned env env' target) :
    s.targetFindings env' target = s.targetFindings env target := by
  rw [targetFindings_eq, targetFindings_eq, h.1]
  apply List.flatMap_congr
  intro file hfile
  rw [h.2 file hfile]

/-! ## Runs -/

/-- The targets of a run do not touch one another, and a file that is skipped touches nothing. -/
theorem run_enumerates (machine : Machine) (targets : List ScanTarget) :
    (s.run env machine targets).1.findings = s.enumeration env targets ∧
      List.Forall₂ (s.Summarizes env) targets (s.run env machine targets).1.targets ∧
      (∀ (machine' machine'' : Machine) (others : List ScanTarget),
        (s.run env machine'' (targets ++ others)).1 =
          { targets :=
              (s.run env machine targets).1.targets ++ (s.run env machine' others).1.targets
            findings :=
              (s.run env machine targets).1.findings ++ (s.run env machine' others).1.findings }) ∧
      ∀ (machine' : Machine) (env' : Environment),
        (∀ target ∈ targets, s.SameScanned env env' target) →
          (s.run env' machine' targets).1.findings = (s.run env machine targets).1.findings := by
  refine ⟨?_, ?_, ?_, ?_⟩
  · rw [run_eq, enumeration_eq]
  · rw [run_eq, List.forall₂_map_right_iff, List.forall₂_same]
    intro target _
    exact s.summarizes_targetSummary env target
  · intro machine' machine'' others
    simp only [run_eq, List.map_append, List.flatMap_append]
  · intro machine' env' hsame
    rw [run_eq, run_eq]
    apply List.flatMap_congr
    intro target htarget
    exact s.targetFindings_congr (hsame target htarget)

/-- Finds the letter `x` in Python sources. -/
def letterScanner : Scanner where
  rules :=
    { rules := [⟨"letter", "x", .one [⟨0x78, 0x78⟩], "", ""⟩]
      ne_nil := by simp
      nodup := by simp }
  filter := { extensions := .ofList ["py"], prunedDirs := .empty, ignored := [] }
  settings := {}

def letterTarget : ScanTarget := ⟨"repo", .ofString "/repo"⟩

/-- `/repo` with `a.py`, which is a text, and other entries. -/
def letterSources (others : List (Bytes × FileNode)) : Environment where
  files :=
    { root := .dir [(Utf8.encode "repo".toList,
        .dir ((Utf8.encode "a.py".toList, .file [0x78]) :: others))]
      current := [] }
  vars := []

def binarySource : Bytes × FileNode := (Utf8.encode "b.py".toList, .file [0x78, 0])

theorem run_enumerates_beside_binary :
    (letterScanner.run (letterSources [binarySource]) (.orderly 4) [letterTarget]).1.findings =
      (letterScanner.run (letterSources []) (.orderly 1) [letterTarget]).1.findings := by
  apply (letterScanner.run_enumerates (letterSources []) (.orderly 1) [letterTarget]).2.2.2
  intro target htarget
  rw [List.mem_singleton.1 htarget]
  have hplain : letterScanner.scannedFiles (letterSources []) letterTarget =
      [.ofString "/repo/a.py"] := by cbv
  have hbinary : letterScanner.scannedFiles (letterSources [binarySource]) letterTarget =
      [.ofString "/repo/a.py"] := by cbv
  refine ⟨hbinary.trans hplain.symm, fun file hfile => ?_⟩
  rw [hplain, List.mem_singleton] at hfile
  rw [hfile]
  cbv

example : letterScanner.enumeration (letterSources [binarySource]) [letterTarget] =
    [⟨"repo", "a.py", 1, "x", "letter"⟩] := by cbv

end Scanner

end ConstantScan
