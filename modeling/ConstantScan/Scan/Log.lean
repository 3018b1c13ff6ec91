import ConstantScan.Number.Decimal

/-! # What a scan tells while it runs -/

namespace ConstantScan

inductive LogLevel
  | info
  | warning
  deriving DecidableEq, Repr

structure LogEntry where
  level : LogLevel
  text : String
  deriving DecidableEq, Repr

def LogLevel.label : LogLevel → String
  | info => " INFO "
  | warning => " WARN "

/-! ## Filters -/

/-- How much is shown: errors from one on, warnings from two on, then infos and all else. -/
abbrev LogThreshold := Nat

def LogLevel.threshold : LogLevel → LogThreshold
  | warning => 2
  | info => 3

/-- The part of the program that writes the log. -/
def logSource : String := "precision_scan::scanner::orchestrator"

/-- How much is shown of the parts of a program whose names start with `source`. -/
structure LogRule where
  source : String
  threshold : LogThreshold
  deriving DecidableEq, Repr

structure LogFilter where
  rules : List LogRule
  deriving DecidableEq, Repr

namespace LogRule

def thresholdNames : List String := ["off", "error", "warn", "info", "debug", "trace"]

/-- A threshold by its name in any case or by its number. -/
def threshold? (text : String) : Option LogThreshold :=
  match Decimal.natural? text.toList with
  | some n => if n < thresholdNames.length then some n else none
  | none => thresholdNames.findIdx? (· == text.map Char.toLower)

def isSourceChar (c : Char) : Bool := c.isAlphanum || c == '_' || c == ':' || c == '-'

/-- A threshold for all sources, or a source with its threshold; all is shown of a source alone. -/
def ofString? (text : String) : Option LogRule :=
  match threshold? text with
  | some n => some ⟨"", n⟩
  | none =>
    let source := text.toList.takeWhile isSourceChar
    let whole := thresholdNames.length - 1
    if source.isEmpty then none
    else
      match text.toList.drop source.length with
      | [] | ['='] => some ⟨String.ofList source, whole⟩
      | '=' :: rest => (threshold? (String.ofList rest)).map (⟨String.ofList source, ·⟩)
      | _ => none

def covers (r : LogRule) : Bool := r.source.toList.isPrefixOf logSource.toList

end LogRule

namespace LogFilter

def upTo (level : LogLevel) : LogFilter := ⟨[⟨"", level.threshold⟩]⟩

/-- Rules with commas between them. -/
def ofString? (text : String) : Option LogFilter :=
  (((text.splitOn ",").filter (!·.isEmpty)).mapM LogRule.ofString?).map (⟨·⟩)

/-- The threshold of the rule with the longest source; of two alike the later one counts. Only
errors are shown without any rule. -/
def threshold (f : LogFilter) : LogThreshold :=
  if f.rules.isEmpty then 1
  else
    let nearest := (f.rules.filter LogRule.covers).foldl
      (fun best r =>
        match best with
        | some b => if b.source.length ≤ r.source.length then some r else some b
        | none => some r)
      none
    match nearest with
    | some r => r.threshold
    | none => 0

def shows (f : LogFilter) (e : LogEntry) : Bool := e.level.threshold ≤ f.threshold

end LogFilter

end ConstantScan
