/-!
# Schedules

Jobs that run again and again: first after a delay, then once a period. A run that is more than a
few milliseconds late moves the later ones, so that they do not crowd together to catch up. All
times are in milliseconds.
-/

namespace LogPipeline

structure ScheduledJob where
  name : String
  /-- From one run to the next, at least one. -/
  period : Nat
  takes : Nat
  due : Nat
  /-- When the current run ends, or the last one ended. -/
  free : Nat
  deriving DecidableEq, Repr, Inhabited

namespace ScheduledJob

/-- How late a run may begin without moving the later ones. -/
def tolerance : Nat := 5

def start (j : ScheduledJob) : Nat :=
  max j.due j.free

def dueAfter (j : ScheduledJob) : Nat :=
  (if j.due + tolerance < j.start then j.start else j.due) + j.period

def next (j : ScheduledJob) : ScheduledJob :=
  { j with due := j.dueAfter, free := j.start + j.takes }

def runsUntil (instant : Nat) : Nat → ScheduledJob → List Nat × ScheduledJob
  | 0, j => ([], j)
  | n + 1, j =>
    if instant < j.start then ([], j)
    else
      let (runs, later) := runsUntil instant n j.next
      (j.start :: runs, later)

/-- The instants of all runs that begin up to an instant. Each run moves the next one by a
millisecond at least. -/
def run (instant : Nat) (j : ScheduledJob) : List Nat × ScheduledJob :=
  runsUntil instant (instant + 1 - j.due) j

end ScheduledJob

structure JobRun where
  name : String
  instant : Nat
  deriving DecidableEq, Repr

structure Schedule where
  jobs : List ScheduledJob
  clock : Nat
  stopped : Bool
  deriving DecidableEq, Repr, Inhabited

namespace Schedule

def empty : Schedule := ⟨[], 0, false⟩

def every (s : Schedule) (name : String) (delay period takes : Nat) : Schedule :=
  { s with jobs := s.jobs ++ [⟨name, max period 1, takes, s.clock + delay, s.clock⟩] }

def jobNames (s : Schedule) : List String :=
  s.jobs.map (·.name)

def insertRun (r : JobRun) : List JobRun → List JobRun
  | [] => [r]
  | other :: rest =>
    if r.instant < other.instant then r :: other :: rest else other :: insertRun r rest

def advanceTo (s : Schedule) (instant : Nat) : List JobRun × Schedule :=
  if s.stopped then ([], { s with clock := instant })
  else
    let ran := s.jobs.map fun j => (j.name, j.run instant)
    let runs := ran.flatMap fun r => r.2.1.map fun t => ⟨r.1, t⟩
    (runs.foldl (fun sorted r => insertRun r sorted) [],
      { s with clock := instant, jobs := ran.map (·.2.2) })

def advance (s : Schedule) (millis : Nat) : List JobRun × Schedule :=
  s.advanceTo (s.clock + millis)

/-- Stops all jobs, and waits for the end of the runs that have begun. -/
def stop (s : Schedule) : Schedule :=
  if s.stopped then s
  else { s with stopped := true, clock := s.jobs.foldl (fun t j => max t j.free) s.clock }

end Schedule

end LogPipeline
