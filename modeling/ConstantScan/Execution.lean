import ConstantScan.Config.Basic

/-! # Working on many items -/

namespace ConstantScan

/-- How workers go through items, which are numbered from zero. -/
structure Schedule (workers items : Nat) where
  /-- The items of each worker that gets any, in the order in which it takes them. -/
  shares : List (List Nat)
  turns : List Nat
  length_le : shares.length ≤ max workers 1
  perm : shares.flatten.Perm (List.range items)

namespace Schedule

/-- The items in the order in which they are completed. What is left after the last turn is
completed worker by worker. -/
def play (shares : List (List Nat)) : (turns : List Nat) → List Nat
  | [] => shares.flatten
  | w :: turns =>
    match shares[w]? with
    | some (i :: rest) => i :: play (shares.set w rest) turns
    | _ => play shares turns

def completion {workers items : Nat} (s : Schedule workers items) : List Nat :=
  play s.shares s.turns

def orderly (workers items : Nat) : Schedule workers items where
  shares := [List.range items]
  turns := []
  length_le := Nat.le_max_right _ _
  perm := by simp

end Schedule

structure Machine where
  cores : Nat
  startsWorkers : (job workers : Nat) → Bool
  schedule : (job workers items : Nat) → Schedule workers items

namespace Machine

def after (m : Machine) (jobs : Nat) : Machine where
  cores := m.cores
  startsWorkers job := m.startsWorkers (jobs + job)
  schedule job := m.schedule (jobs + job)

def orderly (cores : Nat) : Machine where
  cores
  startsWorkers _ _ := true
  schedule _ := .orderly

end Machine

inductive Strategy
  | sequential
  | parallel (workers : Nat)
  deriving DecidableEq, Repr

namespace Strategy

/-- Workers for a share of the cores, one at least; a limit of zero is none. -/
def workers (cores maxThreads percentage : Nat) : Nat :=
  let share := max 1 (cores * percentage / 100)
  if maxThreads > 0 then min maxThreads share else share

def auto (items minItems workers : Nat) : Strategy :=
  if items < minItems || workers ≤ 1 then .sequential else .parallel workers

def forWorkload (settings : ScanSettings) (cores items : Nat) : Strategy :=
  let n := min (workers cores settings.maxThreads settings.threadPercentage) (max items 1)
  match settings.mode with
  | .sequential => .sequential
  | .parallel => .parallel n
  | .auto => auto items settings.minFilesForParallel n

variable {α β : Type}

/-- Puts results, which carry the numbers of their items, into the order of the items. -/
def collect (count : Nat) (completed : List (Nat × β)) : List β :=
  (List.range count).filterMap fun i => completed.lookup i

def complete (work : α → β) (items : Array α) (order : List Nat) : List (Nat × β) :=
  order.filterMap fun i => items[i]?.map fun x => (i, work x)

def execute (s : Strategy) (machine : Machine) (work : α → β) (items : List α) : List β :=
  match s with
  | .sequential => items.map work
  | .parallel n =>
    if machine.startsWorkers 0 n then
      let order := (machine.schedule 0 n items.length).completion
      collect items.length (complete work items.toArray order)
    else items.map work

end Strategy

end ConstantScan
