import ConstantScan.Proofs.Enumeration
import ConstantScan.Proofs.NearestDouble
import Mathlib

/-!
# Looser limits on files

A file is left out if it is too large or, where such files are skipped, binary. With a higher limit
on the size, or binary files no longer skipped, a run scans the same files and further ones, and
what it finds has everything that was found before, in its order.
-/

namespace ConstantScan

/-! ## Sizes -/

/-- Of sizes that are precise the limit is exact, however large it is. -/
theorem exceeds_iff {size : Nat} (h : size < 2 ^ Double.precision) (limit : Nat) :
    exceeds size limit = true ↔ bytesPerMb * limit < size := by
  rw [exceeds, decide_eq_true_iff, Double.nearest_of_lt h]
  by_cases hlimit : limit < 2 ^ Double.precision
  · rw [Double.nearest_of_lt hlimit]
  · -- A limit that may be rounded is beyond all these sizes, and so is what it is rounded to.
    have hpos : 0 < bytesPerMb := by decide
    have hbeyond {n : Nat} (hn : 2 ^ Double.precision ≤ n) : ¬ bytesPerMb * n < size :=
      not_lt.2 (h.le.trans (hn.trans (Nat.le_mul_of_pos_left n hpos)))
    have hlimit := not_lt.1 hlimit
    exact iff_of_false (hbeyond (Double.two_pow_le_nearest hlimit)) (hbeyond hlimit)

theorem exceeds_anti {limit limit' : Nat} (h : limit ≤ limit') {size : Nat}
    (hsize : exceeds size limit' = true) : exceeds size limit = true := by
  rw [exceeds, decide_eq_true_iff] at hsize ⊢
  exact (Nat.mul_le_mul_left _ (Double.nearest_mono h)).trans_lt hsize

/-! ## One file -/

theorem loadFile_of_read {t : FileTree} {p : Path} {content : Bytes} (h : t.read p = .ok content)
    (settings : ScanSettings) :
    loadFile settings t p =
      if exceeds content.length settings.maxFileSizeMb then
        .error (.tooLarge content.length settings.maxFileSizeMb)
      else if settings.skipBinaryFiles && isBinary content then .error .binary
      else .ok content := by
  unfold loadFile
  rw [FileTree.look_of_read h, h]
  simp only [bind, Except.bind, Except.mapError, pure, Except.pure, throw, throwThe,
    MonadExceptOf.throw]

structure Limits where
  maxFileSizeMb : Nat
  skipBinaryFiles : Bool

def ScanSettings.withLimits (settings : ScanSettings) (l : Limits) : ScanSettings :=
  { settings with maxFileSizeMb := l.maxFileSizeMb, skipBinaryFiles := l.skipBinaryFiles }

/-- The limits leave out no more than the settings do. -/
structure Limits.Loosens (l : Limits) (settings : ScanSettings) : Prop where
  maxFileSizeMb : settings.maxFileSizeMb ≤ l.maxFileSizeMb
  skipBinaryFiles : l.skipBinaryFiles = true → settings.skipBinaryFiles = true

theorem Limits.Loosens.loadFile {l : Limits} {settings : ScanSettings} (h : l.Loosens settings)
    {t : FileTree} {p : Path} {content : Bytes} (hload : loadFile settings t p = .ok content) :
    ConstantScan.loadFile (settings.withLimits l) t p = .ok content := by
  have hread := read_of_loadFile hload
  rw [loadFile_of_read hread] at hload ⊢
  split_ifs at hload with hsize hbinary
  have hsize' : ¬ exceeds content.length (settings.withLimits l).maxFileSizeMb = true :=
    fun hlarge => hsize (exceeds_anti h.maxFileSizeMb hlarge)
  have hbinary' : ¬ ((settings.withLimits l).skipBinaryFiles && isBinary content) = true := by
    rw [Bool.and_eq_true] at hbinary ⊢
    exact fun ⟨hskips, hzero⟩ => hbinary ⟨h.skipBinaryFiles hskips, hzero⟩
  rw [if_neg hsize', if_neg hbinary']

/-! ## Summaries -/

/-- All files are counted as before, and as many of them or more are scanned. -/
inductive TargetStatus.Grows : TargetStatus → TargetStatus → Prop
  | missing : Grows .missing .missing
  | scanned {n k found n' k' found' : Nat} (files : n' + k' = n + k) (scanned : n ≤ n')
      (findings : found ≤ found') : Grows (.scanned n k found) (.scanned n' k' found')

structure TargetSummary.Grows (t t' : TargetSummary) : Prop where
  label : t'.label = t.label
  root : t'.root = t.root
  status : t.status.Grows t'.status

/-! ## Runs -/

def Config.withLimits (c : Config) (l : Limits) : Config :=
  { c with scanner := c.scanner.withLimits l }

namespace Scanner

def withLimits (s : Scanner) (l : Limits) : Scanner :=
  { s with settings := s.settings.withLimits l }

variable (s : Scanner) (l : Limits) (env : Environment)

theorem ofConfig_withLimits (c : Config) (libs : Libraries) :
    ofConfig (c.withLimits l) libs = (ofConfig c libs).map (·.withLimits l) :=
  ofConfig_map_settings (f := (·.withLimits l)) libs (fun _ => rfl) c

theorem walker_withLimits : (s.withLimits l).walker = s.walker := rfl

theorem outcomeOf_of_read {p : Path} {content : Bytes} (h : env.files.read p = .ok content)
    (hsize : content.length < 2 ^ Double.precision) :
    s.outcomeOf env p =
      if bytesPerMb * s.settings.maxFileSizeMb < content.length then
        .skipped (.tooLarge content.length s.settings.maxFileSizeMb)
      else if s.settings.skipBinaryFiles && isBinary content then .skipped .binary
      else .scanned (s.rules.scan content) := by
  rw [outcomeOf, scanFile, loadFile_of_read h]
  simp only [exceeds_iff hsize]
  split_ifs <;> rfl

section

variable {s l} (h : l.Loosens s.settings)

include h

theorem outcomeOf_withLimits {p : Path} (hp : (s.outcomeOf env p).isScanned = true) :
    (s.withLimits l).outcomeOf env p = s.outcomeOf env p := by
  unfold outcomeOf scanFile at hp ⊢
  cases hload : loadFile s.settings env.files p with
  | error reason => simp [hload, FileOutcome.isScanned] at hp
  | ok content =>
    have hload' : loadFile (s.withLimits l).settings env.files p = .ok content := h.loadFile hload
    rw [hload']
    rfl

theorem targetFindings_withLimits (target : ScanTarget) :
    (s.targetFindings env target).Sublist ((s.withLimits l).targetFindings env target) := by
  rw [targetFindings, targetFindings, walker_withLimits]
  refine List.Sublist.flatMap_right _ fun p _ => ?_
  cases hp : s.outcomeOf env p with
  | skipped reason => exact List.nil_sublist _
  | scanned found =>
    rw [outcomeOf_withLimits env h (by rw [hp]; rfl), hp]

theorem targetSummary_withLimits (target : ScanTarget) :
    (s.targetSummary env target).Grows ((s.withLimits l).targetSummary env target) where
  label := rfl
  root := rfl
  status := by
    have hfindings := (targetFindings_withLimits env h target).length_le
    have hscanned (p : Path) (hp : (s.outcomeOf env p).isScanned = true) :
        ((s.withLimits l).outcomeOf env p).isScanned = true := by
      rw [outcomeOf_withLimits env h hp, hp]
    have hcount (s : Scanner) (files : List Path) :
        files.countP (fun p => (s.outcomeOf env p).isScanned) +
          files.countP (fun p => !(s.outcomeOf env p).isScanned) = files.length := by
      rw [List.length_eq_countP_add_countP fun p => (s.outcomeOf env p).isScanned]
      simp
    unfold targetSummary targetStatus
    split
    · exact .scanned ((hcount _ _).trans (hcount _ _).symm)
        (List.countP_mono_left fun p _ => hscanned p) hfindings
    · exact .missing

/-- Looser limits only add. They need no other rules and no other globs, they lose and move no
finding, and they turn no scan with findings into a clean one. The limit on the size is exact. -/
theorem looser_limits_only_add (machine machine' : Machine) (targets : List ScanTarget) :
    (∀ c, ofConfig c = .ok s → ofConfig (c.withLimits l) = .ok (s.withLimits l)) ∧
      (s.run env machine targets).1.findings.Sublist
        ((s.withLimits l).run env machine' targets).1.findings ∧
      List.Forall₂ TargetSummary.Grows (s.run env machine targets).1.targets
        ((s.withLimits l).run env machine' targets).1.targets ∧
      ((s.run env machine targets).1.exitStatus.code = 1 →
        ((s.withLimits l).run env machine' targets).1.exitStatus.code = 1) ∧
      ∀ p content, env.files.read p = .ok content → content.length < 2 ^ 53 →
        s.outcomeOf env p =
          if 2 ^ 20 * s.settings.maxFileSizeMb < content.length then
            .skipped (.tooLarge content.length s.settings.maxFileSizeMb)
          else if s.settings.skipBinaryFiles && isBinary content then .skipped .binary
          else .scanned (s.rules.scan content) := by
  have hfindings : (s.run env machine targets).1.findings.Sublist
      ((s.withLimits l).run env machine' targets).1.findings := by
    rw [run_eq, run_eq]
    exact List.Sublist.flatMap_right _ fun target _ => targetFindings_withLimits env h target
  refine ⟨fun c hc => ?_, hfindings, ?_, ?_, fun p content hread hsize => ?_⟩
  · rw [ofConfig_withLimits, hc]
    rfl
  · rw [run_eq, run_eq, List.forall₂_map_left_iff, List.forall₂_map_right_iff, List.forall₂_same]
    exact fun target _ => targetSummary_withLimits env h target
  · rw [Report.code_eq_one_iff, Report.code_eq_one_iff]
    exact fun hfound hnone => hfound (List.sublist_nil.1 (hnone ▸ hfindings))
  · exact outcomeOf_of_read s env hread hsize

end

theorem looser_limits_only_add_binary :
    [⟨"repo", "a.py", 1, "x", "letter"⟩].Sublist
      ((letterScanner.withLimits ⟨10, false⟩).run (letterSources [binarySource]) (.orderly 4)
        [letterTarget]).1.findings := by
  have hloosens : (Limits.mk 10 false).Loosens letterScanner.settings := ⟨le_rfl, by simp⟩
  have hfindings : (letterScanner.run (letterSources [binarySource]) (.orderly 1)
      [letterTarget]).1.findings = [⟨"repo", "a.py", 1, "x", "letter"⟩] := by
    rw [run_eq, ← enumeration_eq]
    cbv
  rw [← hfindings]
  exact (looser_limits_only_add _ hloosens (.orderly 1) (.orderly 4) [letterTarget]).2.1

end Scanner

end ConstantScan
