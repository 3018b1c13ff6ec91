import ConstantScan.Proofs.Roots
import ConstantScan.Proofs.RuleSets

/-!
# The roots of all targets

The targets of a configuration get their roots one by one. This fails if a target needs a directory
that is not there, and also if the base directory of the configuration does, whether or not a target
needs that one.
-/

namespace ConstantScan

theorem expandHome_eq_none_iff {path : String} {home : Option Path} :
    expandHome path home = none ↔ StartsAtHome path ∧ home = none := by
  by_cases hform : StartsAtHome path
  · rw [and_iff_right hform]
    cases hform with
    | home => exact Iff.rfl
    | below rest => rw [expandHome_below, Option.map_eq_none_iff]
  · simp [expandHome_of_not_startsAtHome hform, hform]

/-- A directory that the path needs is not there: home if the path starts from it, or the one that
any other relative path starts from. -/
inductive Lacks (origin home : Option Path) (path : String) : Prop
  | home (form : StartsAtHome path) (none : home = none)
  | origin (form : ¬ StartsAtHome path) (relative : (Path.ofString path).isAbsolute = false)
      (none : origin = none)

theorem Lacks.relative {origin home : Option Path} {path : String} (h : Lacks origin home path) :
    (Path.ofString path).isAbsolute = false := by
  cases h with
  | home form => exact form.not_isAbsolute
  | origin _ relative => exact relative

/-- A path gets a root unless it lacks something. Where home is known, all relative paths have a
directory to start from. -/
theorem resolveRoot_eq_none_iff {origin home : Option Path} (h : origin = none → home = none)
    {path : String} : resolveRoot path origin home = none ↔ Lacks origin home path := by
  by_cases hform : StartsAtHome path
  · have hlacks : Lacks origin home path ↔ home = none :=
      ⟨fun hlacks => by cases hlacks <;> trivial, .home hform⟩
    rw [hlacks, resolveRoot]
    cases hexpand : expandHome path home with
    | none => simp [(expandHome_eq_none_iff.1 hexpand).2]
    | some p =>
      have hhome : home ≠ none := fun hnone => by
        simp [expandHome_eq_none_iff.2 ⟨hform, hnone⟩] at hexpand
      obtain ⟨dir, rfl⟩ := Option.ne_none_iff_exists'.1 (mt h hhome)
      rw [Option.bind_some]
      split <;> simp [hhome]
  · cases habsolute : (Path.ofString path).isAbsolute with
    | true =>
      rw [resolveRoot_of_isAbsolute habsolute]
      refine iff_of_false (Option.some_ne_none _) fun hlacks => ?_
      exact absurd (habsolute.symm.trans hlacks.relative) (by decide)
    | false =>
      rw [resolveRoot_of_relative hform habsolute, Option.map_eq_none_iff]
      exact ⟨.origin hform habsolute, fun hlacks => by cases hlacks <;> trivial⟩

namespace Config

/-- Where relative targets start from, if there is such a directory: the given one, or else the one
of the configuration, or else home. -/
def origin? (c : Config) (override home : Option Path) : Option Path :=
  override.or ((c.baseDir.bind (expandHome · home)).or home)

/-- The base directory that counts is that of the configuration, and it starts from a home that is
not known. -/
structure Homeless (c : Config) (override home : Option Path) : Prop where
  override : override = none
  home : home = none
  baseDir : ∃ dir ∈ c.baseDir, StartsAtHome dir

variable {c : Config} {override home : Option Path}

theorem home_eq_none_of_origin? (h : c.origin? override home = none) : home = none := by
  simp only [origin?, Option.or_eq_none_iff] at h
  exact h.2.2

theorem Homeless.origin? (h : c.Homeless override home) : c.origin? override home = none := by
  obtain ⟨dir, hdir, hform⟩ := h.baseDir
  simp only [Config.origin?, h.override, h.home, Option.mem_def.1 hdir, Option.bind_some,
    expandHome_eq_none_iff.2 ⟨hform, rfl⟩, Option.or_none]

theorem base_cases (c : Config) (override home : Option Path) :
    (c.Homeless override home ∧ c.base override home = .error .noBaseDir) ∨
      (¬ c.Homeless override home ∧ c.base override home = .ok (c.origin? override home)) := by
  cases override with
  | some dir => exact .inr ⟨fun h => Option.some_ne_none dir h.override, rfl⟩
  | none =>
    cases hdir : c.baseDir with
    | none =>
      refine .inr ⟨fun h => ?_, by simp [base, Config.origin?, hdir]⟩
      obtain ⟨dir, hmem, -⟩ := h.baseDir
      simp [hdir] at hmem
    | some dir =>
      cases hexpand : expandHome dir home with
      | none =>
        obtain ⟨hform, hhome⟩ := expandHome_eq_none_iff.1 hexpand
        exact .inl ⟨⟨rfl, hhome, dir, hdir, hform⟩, by simp [base, hdir, hexpand]⟩
      | some p =>
        refine .inr ⟨fun h => ?_, by simp [base, Config.origin?, hdir, hexpand]⟩
        obtain ⟨dir', hmem, hform⟩ := h.baseDir
        obtain rfl : dir = dir' := by simpa [hdir] using hmem
        simp [expandHome_eq_none_iff.2 ⟨hform, h.home⟩] at hexpand

theorem resolveTarget_eq_ok_iff {origin home : Option Path} {t : TargetEntry}
    {target : ScanTarget} : resolveTarget origin home t = .ok target ↔
      target.label = t.label.getD t.path ∧ resolveRoot t.path origin home = some target.root := by
  obtain ⟨label, root⟩ := target
  unfold resolveTarget
  cases resolveRoot t.path origin home <;> simp [eq_comm]

theorem resolveTarget_eq_error_iff {origin home : Option Path} {t : TargetEntry}
    {e : ConfigError} : resolveTarget origin home t = .error e ↔
      resolveRoot t.path origin home = none ∧ e = .noBaseDir := by
  unfold resolveTarget
  cases resolveRoot t.path origin home <;> simp [eq_comm]

/-- All targets get their roots, or there is no directory for one of them or for the base. -/
theorem resolveTargets_cases (c : Config) (override home : Option Path) :
    let origin := c.origin? override home
    (c.resolveTargets override home = .error .noBaseDir ∧
      (c.Homeless override home ∨ ∃ t ∈ c.targets, Lacks origin home t.path)) ∨
    (∃ targets, c.resolveTargets override home = .ok targets ∧ ¬ c.Homeless override home ∧
      (∀ t ∈ c.targets, ¬ Lacks origin home t.path) ∧
      List.Forall₂ (fun t target => target.label = t.label.getD t.path ∧
        resolveRoot t.path origin home = some target.root) c.targets targets) := by
  intro origin
  unfold resolveTargets
  obtain ⟨hhomeless, hbase⟩ | ⟨hhomeless, hbase⟩ := c.base_cases override home
  · exact .inl ⟨by rw [hbase]; rfl, .inl hhomeless⟩
  · -- There is a base or there is none, and then there is no home either.
    have hlacks (t : TargetEntry) : resolveRoot t.path origin home = none ↔
        Lacks origin home t.path := resolveRoot_eq_none_iff home_eq_none_of_origin?
    rw [hbase]
    change (c.targets.mapM (resolveTarget origin home) = _ ∧ _) ∨
      ∃ targets, c.targets.mapM (resolveTarget origin home) = _ ∧ _
    cases hmap : c.targets.mapM (resolveTarget origin home) with
    | ok targets =>
      have hroots := mapM_eq_ok_iff.1 hmap
      simp only [resolveTarget_eq_ok_iff] at hroots
      refine .inr ⟨targets, rfl, hhomeless, fun t ht hnone => ?_, hroots⟩
      obtain ⟨target, -, -, hroot⟩ := exists_mem_of_forall₂ hroots.flip ht
      simp [(hlacks t).2 hnone] at hroot
    | error e =>
      obtain ⟨t, ht, hnone⟩ := exists_of_mapM_eq_error hmap
      obtain ⟨hroot, rfl⟩ := resolveTarget_eq_error_iff.1 hnone
      exact .inl ⟨rfl, .inr ⟨t, ht, (hlacks t).1 hroot⟩⟩

/-- Where there is neither a home nor a base, every relative path lacks something. -/
theorem Homeless.lacks_iff (h : c.Homeless override home) {path : String} :
    Lacks (c.origin? override home) home path ↔ (Path.ofString path).isAbsolute = false := by
  refine ⟨Lacks.relative, fun hrelative => ?_⟩
  by_cases hform : StartsAtHome path
  · exact .home hform h.home
  · exact .origin hform hrelative h.origin?

/-- The targets fail just if one of them lacks something or the configured base directory does, even
where all target paths are absolute and none needs a base. What they get otherwise is read off one by
one. -/
theorem resolveTargets_fails_iff (c : Config) (override home : Option Path) :
    let origin := c.origin? override home
    let fails := c.resolveTargets override home = .error .noBaseDir
    let lacking := ∃ t ∈ c.targets, Lacks origin home t.path
    let absolute := ∀ t ∈ c.targets, (Path.ofString t.path).isAbsolute = true
    (fails ↔ c.Homeless override home ∨ lacking) ∧
    ((fails ↔ lacking) ↔ ¬ (c.Homeless override home ∧ absolute)) ∧
    (absolute → ((∃ targets, c.resolveTargets override home = .ok targets) ↔
      ¬ c.Homeless override home)) ∧
    (∀ e, c.resolveTargets override home = .error e → e = .noBaseDir) ∧
    ∀ targets, c.resolveTargets override home = .ok targets →
      List.Forall₂ (fun t target => target.label = t.label.getD t.path ∧
        resolveRoot t.path origin home = some target.root) c.targets targets := by
  intro origin fails lacking absolute
  have hcases := c.resolveTargets_cases override home
  have hfails : fails ↔ c.Homeless override home ∨ lacking := by
    obtain ⟨hfail, hwhy⟩ | ⟨targets, hok, hhomeless, hnone, -⟩ := hcases
    · exact iff_of_true hfail hwhy
    · refine iff_of_false (fun hfail => ?_) ?_
      · exact absurd (hok.symm.trans hfail) nofun
      · rintro (h | ⟨t, ht, hlacks⟩)
        · exact hhomeless h
        · exact hnone t ht hlacks
  have hlacking (h : c.Homeless override home) : lacking ↔ ¬ absolute := by
    simp only [lacking, absolute, origin, h.lacks_iff, not_forall, Bool.not_eq_true, exists_prop]
  have habsolute (h : absolute) : ¬ lacking := fun ⟨t, ht, hlacks⟩ =>
    absurd ((h t ht).symm.trans hlacks.relative) (by decide)
  refine ⟨hfails, ?_, fun h => ?_, fun e he => ?_, fun targets hok => ?_⟩
  · -- Without a home and a base, a path that is not absolute lacks something of its own.
    rw [hfails]
    by_cases hhomeless : c.Homeless override home
    · simp [hhomeless, hlacking hhomeless]
    · simp [hhomeless]
  · obtain ⟨hfail, hwhy⟩ | ⟨targets, hok, hhomeless, -⟩ := hcases
    · refine iff_of_false (fun ⟨targets, hok⟩ => ?_) (not_not_intro (hwhy.resolve_right ?_))
      · exact absurd (hok.symm.trans hfail) nofun
      · exact habsolute h
    · exact iff_of_true ⟨targets, hok⟩ hhomeless
  · obtain ⟨hfail, -⟩ | ⟨targets, hok, -⟩ := hcases
    · exact Except.error.inj (he.symm.trans hfail)
    · exact absurd (hok.symm.trans he) nofun
  · obtain ⟨hfail, -⟩ | ⟨targets', hok', -, -, hroots⟩ := hcases
    · exact absurd (hok.symm.trans hfail) nofun
    · exact Except.ok.inj (hok.symm.trans hok') ▸ hroots

/-- The only target is absolute and needs neither of the directories that are not there. -/
theorem resolveTargets_fails_without_need :
    let c : Config := { baseDir := some "~/src", targets := [{ path := "/srv/code" }] }
    (∀ t ∈ c.targets, (Path.ofString t.path).isAbsolute = true) ∧
    (¬ ∃ t ∈ c.targets, Lacks (c.origin? none none) none t.path) ∧
    c.resolveTargets none none = .error .noBaseDir := by
  intro c
  have habsolute : ∀ t ∈ c.targets, (Path.ofString t.path).isAbsolute = true := by
    intro t ht
    obtain rfl := List.mem_singleton.1 ht
    cbv
  refine ⟨habsolute, ?_, by cbv⟩
  rintro ⟨t, ht, hlacks⟩
  exact absurd ((habsolute t ht).symm.trans hlacks.relative) (by decide)

end Config

end ConstantScan
