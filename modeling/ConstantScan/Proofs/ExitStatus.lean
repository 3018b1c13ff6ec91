import ConstantScan.Proofs.Effort
import ConstantScan.Proofs.Enumeration
import ConstantScan.Proofs.ReportJson
import ConstantScan.Proofs.RuleIndependence
import ConstantScan.Proofs.Stages

/-!
# How a scan ends

A scan fails with the first of its stages that fails, and then nothing is written to the output.
Otherwise its exit code tells whether anything is found, and nothing else.
-/

namespace ConstantScan

/-! ## Reports can be written -/

namespace Scanner

end Scanner

/-! ## Scans -/

namespace Cli

namespace Context

variable {x : Context} {o : ScanOptions}

/-- After what is told meanwhile comes the report. -/
theorem run_scan_eq_report {c : Config} {p : Prepared} (h : x.ScanPasses o c p) :
    ∃ told, x.run (.scan o) =
      (x.report p.scanner o.format (p.scanner.run x.env x.machine p.targets).1).after told := by
  rw [run, scan, h.prepareScan_eq]
  exact ⟨_, rfl⟩

variable {overrides overrides' : Option Value} {baseDir : Option Path} {x' : Context} {c : Config}
  {e : Effort}

theorem Stops.withEffort {f : Failure} (h : x.Stops overrides baseDir f)
    (hload : Config.load x.env x.configFile overrides = .ok c)
    (hload' : Config.load x'.env x'.configFile overrides' = .ok (c.withEffort e))
    (henv : x.env.Alike x'.env) : x'.Stops overrides' baseDir f := by
  cases h with
  | loading h => cases h.symm.trans hload
  | rules hc h =>
    cases hc.symm.trans hload
    rw [← henv.libraries] at h
    exact .rules hload' h
  | globs hc hrules h =>
    cases hc.symm.trans hload
    rw [← henv.libraries] at hrules h
    exact .globs hload' hrules h
  | targets hc hrules hfilter h =>
    cases hc.symm.trans hload
    rw [← henv.libraries] at hrules hfilter
    refine .targets hload' hrules hfilter ?_
    rw [Config.resolveTargets_withEffort, henv.home]
    exact h

theorem Passes.withEffort {p : Prepared} (h : x.Passes overrides baseDir c p)
    (hload' : Config.load x'.env x'.configFile overrides' = .ok (c.withEffort e))
    (henv : x.env.Alike x'.env) :
    x'.Passes overrides' baseDir (c.withEffort e)
      { p with scanner := p.scanner.withEffort e } where
  load := hload'
  rules := henv.libraries ▸ h.rules
  filter := henv.libraries ▸ h.filter
  settings := congrArg (ScanSettings.withEffort · e) h.settings
  targets := by
    rw [Config.resolveTargets_withEffort, henv.home]
    exact h.targets

end Context

/-! ## Command lines -/

namespace CommandLine

variable {o : ScanOptions} {l : CommandLine (.scan o)} {env : Environment} (machine : Machine)
  (colors : Bool)

open ScanCall

end CommandLine

end Cli

end ConstantScan
