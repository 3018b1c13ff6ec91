import ConstantScan.Proofs.JsonText
import ConstantScan.Proofs.ReadBack
import ConstantScan.Proofs.YamlBlocks

/-!
# The values that configurations are written from

They are texts, flags, whole numbers and a few levels of lists and dictionaries, which every format has
a form for.
-/

namespace ConstantScan

/-! ## Levels and numbers -/

theorem Value.plain_strings {top : Nat} (room : Nat) (ss : List String) :
    (Value.strings ss).Plain top (room + 1) := by
  refine .list fun v hv => ?_
  obtain ⟨s, -, rfl⟩ := List.mem_map.1 hv
  exact .string room s

theorem TargetEntry.plain_value {top : Nat} (room : Nat) (t : TargetEntry) :
    t.value.Plain top (room + 1) := by
  refine .dict ?_
  cases t.label with
  | none => simpa [textEntry] using Value.Plain.string room t.path
  | some label => simpa [textEntry] using ⟨Value.Plain.string room label, .string room t.path⟩

theorem CustomRule.plain_value {top : Nat} (room : Nat) (c : CustomRule) :
    c.value.Plain top (room + 1) := by
  refine .dict ?_
  simp only [List.forall_mem_cons]
  exact ⟨.string _ _, .string _ _, .string _ _, .string _ _, .bool _ _, by simp⟩

theorem ScanSettings.plain_value {c : ScanSettings} (h : c.Fits) (room : Nat) :
    c.value.Plain Json.maxUnsigned (room + 2) := by
  have hpercentage : c.threadPercentage ≤ Json.maxUnsigned :=
    Nat.le_trans h.threadPercentage (by decide)
  refine .dict ?_
  simp only [List.forall_mem_cons]
  exact ⟨Value.plain_strings _ _, Value.plain_strings _ _, Value.plain_strings _ _, .bool _ _,
    .bool _ _, .bool _ _, .natural _ h.maxFileSizeMb, .string _ _, .natural _ h.maxThreads,
    .natural _ hpercentage, .natural _ h.minFilesForParallel, by simp⟩

theorem RuleSettings.plain_value {top : Nat} (room : Nat) (c : RuleSettings) :
    c.value.Plain top (room + 3) := by
  refine .dict ?_
  simp only [List.forall_mem_cons]
  refine ⟨Value.plain_strings _ _, .list fun v hv => ?_, by simp⟩
  obtain ⟨r, -, rfl⟩ := List.mem_map.1 hv
  exact r.plain_value room

theorem Config.plain_entries {c : Config} (h : c.scanner.Fits) (room : Nat) :
    ∀ e ∈ c.entries, e.2.Plain Json.maxUnsigned (room + 3) := by
  have htargets : (Value.list (c.targets.map TargetEntry.value)).Plain Json.maxUnsigned
      (room + 3) := by
    refine .list fun v hv => ?_
    obtain ⟨t, -, rfl⟩ := List.mem_map.1 hv
    exact t.plain_value (room + 1)
  rw [entries, List.forall_mem_append]
  refine ⟨?_, ?_⟩
  · cases c.baseDir with
    | none => simp [textEntry]
    | some dir => simpa [textEntry] using Value.Plain.string _ dir
  · simp only [List.forall_mem_cons]
    exact ⟨htargets, ScanSettings.plain_value h _, c.patterns.plain_value room, by simp⟩

/-! ## Blocks -/

namespace Yaml

instance (k : String) : Decidable (BareKey k) :=
  decidable_of_iff (formOf k.toList = .plain ∧ k.length ≤ maxKeyLength)
    ⟨fun h => ⟨h.1, h.2⟩, fun h => ⟨h.plain, h.length⟩⟩

theorem Written.of_keys (item : Bool) {es : List (String × Value)} (keys : List String)
    (hkeys : es.map Prod.fst = keys) (hne : keys ≠ []) (hbare : ∀ k ∈ keys, BareKey k)
    (h : ∀ e ∈ es, Written false e.2) : Written item (.dict es) := by
  refine .dict item ?_ (fun e he => hbare e.1 (hkeys ▸ List.mem_map_of_mem he)) h
  rintro rfl
  exact hne hkeys.symm

theorem written_strings (ss : List String) : Written false (Value.strings ss) := by
  refine .list fun v hv => ?_
  obtain ⟨s, -, rfl⟩ := List.mem_map.1 hv
  exact .string true s

theorem written_target (t : TargetEntry) : Written true t.value := by
  rw [TargetEntry.value]
  cases t.label with
  | none =>
    refine .of_keys true ["path"] rfl (by simp) (by decide) ?_
    simpa [textEntry] using Written.string false t.path
  | some label =>
    refine .of_keys true ["label", "path"] rfl (by simp) (by decide) ?_
    simpa [textEntry] using ⟨Written.string false label, Written.string false t.path⟩

theorem written_rule (c : CustomRule) : Written true c.value := by
  refine .of_keys true ["name", "regex", "description", "remediation", "enabled"] rfl (by simp)
    (by decide) ?_
  simp only [List.forall_mem_cons]
  exact ⟨.string _ _, .string _ _, .string _ _, .string _ _, .bool _, by simp⟩

theorem written_scanner (c : ScanSettings) : Written false c.value := by
  refine .of_keys false ["extensions", "exclude_dirs", "ignore_paths", "follow_symlinks",
    "respect_gitignore", "skip_binary_files", "max_file_size_mb", "mode", "max_threads",
    "thread_percentage", "min_files_for_parallel"] rfl (by simp) (by decide) ?_
  simp only [List.forall_mem_cons]
  exact ⟨written_strings _, written_strings _, written_strings _, .bool _, .bool _, .bool _,
    .natural _, .string _ _, .natural _, .natural _, .natural _, by simp⟩

theorem written_rules (c : RuleSettings) : Written false c.value := by
  refine .of_keys false ["disabled", "custom"] rfl (by simp) (by decide) ?_
  simp only [List.forall_mem_cons]
  refine ⟨written_strings _, .list fun v hv => ?_, by simp⟩
  obtain ⟨r, -, rfl⟩ := List.mem_map.1 hv
  exact written_rule r

theorem written_entries (c : Config) : ∀ e ∈ c.entries, BareKey e.1 ∧ Written false e.2 := by
  have htargets : Written false (.list (c.targets.map TargetEntry.value)) := by
    refine .list fun v hv => ?_
    obtain ⟨t, -, rfl⟩ := List.mem_map.1 hv
    exact written_target t
  rw [Config.entries, List.forall_mem_append]
  refine ⟨?_, ?_⟩
  · cases c.baseDir with
    | none => simp [textEntry]
    | some dir => simpa [textEntry] using ⟨by decide, Written.string false dir⟩
  · simp only [List.forall_mem_cons]
    exact ⟨⟨by decide, htargets⟩, ⟨by decide, written_scanner _⟩, ⟨by decide, written_rules _⟩,
      by simp⟩

end Yaml

end ConstantScan
