import Mathlib.Data.List.Perm.Basic
import LogPipeline.Schedule

/-!
# Jobs run on time

What a job does until an instant does not depend on where the caller stops to look: it does the
same when it is asked twice. So a schedule of many jobs, to which jobs are added while time passes,
runs each of them as often as its delay and its period say, and all of them in the order of time.
-/

namespace LogPipeline

/-! ## One job -/

namespace ScheduledJob

variable {j : ScheduledJob} {instant : Nat}

theorem due_lt_next (period : 1 ≤ j.period) : j.due < j.next.due := by
  change j.due < j.dueAfter
  rw [dueAfter]
  split <;> omega

theorem start_le_next : j.start ≤ j.next.start :=
  Nat.le_trans (Nat.le_add_right _ j.takes) (Nat.le_max_right _ _)

theorem runsUntil_of_late (late : instant < j.start) (n : Nat) :
    runsUntil instant n j = ([], j) := by
  cases n with
  | zero => rfl
  | succ n => rw [runsUntil, if_pos late]

theorem runsUntil_eq_run (period : 1 ≤ j.period) {n : Nat} (enough : instant + 1 - j.due ≤ n) :
    runsUntil instant n j = j.run instant := by
  have one {j : ScheduledJob} (period : 1 ≤ j.period) {n : Nat}
      (enough : instant + 1 - j.due ≤ n) : runsUntil instant (n + 1) j = runsUntil instant n j := by
    induction n generalizing j with
    | zero =>
        have late : instant < j.start := by
          simp only [start]
          omega
        rw [runsUntil_of_late late, runsUntil_of_late late]
    | succ n ih =>
        have later := due_lt_next period
        have same := ih (j := j.next) period (by omega)
        rw [runsUntil, same]
        rfl
  obtain ⟨extra, rfl⟩ := Nat.exists_eq_add_of_le enough
  clear enough
  induction extra with
  | zero => rfl
  | succ extra ih => rw [← Nat.add_assoc, one period (Nat.le_add_right _ _), ih]

theorem run_of_late (late : instant < j.start) : j.run instant = ([], j) :=
  runsUntil_of_late late _

theorem run_of_due (period : 1 ≤ j.period) (due : j.start ≤ instant) :
    j.run instant = (j.start :: (j.next.run instant).1, (j.next.run instant).2) := by
  have later := due_lt_next period
  have early : j.due ≤ instant := Nat.le_trans (Nat.le_max_left _ _) due
  obtain ⟨n, some⟩ : ∃ n, instant + 1 - j.due = n + 1 := ⟨instant - j.due, by omega⟩
  rw [run, some, runsUntil, if_neg (Nat.not_lt_of_le due),
    runsUntil_eq_run (j := j.next) period (by omega)]

theorem run_induction (instant : Nat) {motive : (j : ScheduledJob) → 1 ≤ j.period → Prop}
    (late : ∀ j period, instant < j.start → motive j period)
    (due : ∀ j (period : 1 ≤ j.period), j.start ≤ instant → motive j.next period → motive j period)
    (j : ScheduledJob) (period : 1 ≤ j.period) : motive j period := by
  by_cases here : instant < j.start
  · exact late j period here
  · have later := due_lt_next period
    have early : j.due ≤ instant :=
      Nat.le_trans (Nat.le_max_left _ _) (Nat.le_of_not_lt here)
    exact due j period (Nat.le_of_not_lt here) (run_induction instant late due j.next period)
termination_by instant + 1 - j.due

theorem period_run (period : 1 ≤ j.period) : (j.run instant).2.period = j.period := by
  induction j, period using run_induction instant with
  | late j period late => rw [run_of_late late]
  | due j period due ih => rw [run_of_due period due, ih]; rfl

theorem lt_start_run (period : 1 ≤ j.period) : instant < (j.run instant).2.start := by
  induction j, period using run_induction instant with
  | late j period late => rw [run_of_late late]; exact late
  | due j period due ih => rw [run_of_due period due]; exact ih

theorem mem_run (period : 1 ≤ j.period) : ∀ t ∈ (j.run instant).1, j.start ≤ t ∧ t ≤ instant := by
  induction j, period using run_induction instant with
  | late j period late =>
      rw [run_of_late late]
      exact List.forall_mem_nil _
  | due j period due ih =>
      rw [run_of_due period due]
      refine List.forall_mem_cons.mpr ⟨⟨Nat.le_refl _, due⟩, fun t member => ?_⟩
      obtain ⟨after, before⟩ := ih t member
      exact ⟨Nat.le_trans start_le_next after, before⟩

theorem run_split (period : 1 ≤ j.period) {early late : Nat} (order : early ≤ late) :
    j.run late =
      ((j.run early).1 ++ ((j.run early).2.run late).1, ((j.run early).2.run late).2) := by
  induction j, period using run_induction early with
  | late j period later => rw [run_of_late later]; rfl
  | due j period due ih =>
      rw [run_of_due period due, run_of_due period (Nat.le_trans due order), ih]
      rfl

/-! ## Runs that take no time -/

structure Prompt (j : ScheduledJob) : Prop where
  period : 1 ≤ j.period
  takes : j.takes = 0
  free : j.free ≤ j.due

theorem Prompt.start (prompt : Prompt j) : j.start = j.due :=
  Nat.max_eq_left prompt.free

theorem Prompt.next_eq (prompt : Prompt j) :
    j.next = { j with due := j.due + j.period, free := j.due } := by
  have punctual : ¬ j.due + tolerance < j.due := by simp only [tolerance]; omega
  rw [next, dueAfter, prompt.start, if_neg punctual, prompt.takes, Nat.add_zero]

theorem Prompt.next (prompt : Prompt j) : Prompt j.next := by
  rw [prompt.next_eq]
  exact ⟨prompt.period, prompt.takes, Nat.le_add_right _ _⟩

/-- How many of the instants `first`, `first + period` and so on an instant does not precede. -/
def ticks (first period instant : Nat) : Nat :=
  if instant < first then 0 else (instant - first) / period + 1

theorem ticks_succ {first period : Nat} (positive : 1 ≤ period) (due : first ≤ instant) :
    ticks first period instant = ticks (first + period) period instant + 1 := by
  rw [ticks, ticks, if_neg (Nat.not_lt_of_le due)]
  split
  · rename_i late
    rw [Nat.div_eq_of_lt (by omega)]
  · rename_i again
    have rest : instant - first = instant - (first + period) + period := by omega
    rw [rest, Nat.add_div_right _ positive]

theorem run_of_prompt (prompt : Prompt j) (instant : Nat) :
    (j.run instant).1 =
      (List.range (ticks j.due j.period instant)).map fun k => j.due + k * j.period := by
  have positive := prompt.period
  induction j, positive using run_induction instant with
  | late j positive late =>
      rw [prompt.start] at late
      rw [run_of_late (by rwa [prompt.start]), ticks, if_pos late]
      rfl
  | due j positive due ih =>
      rw [run_of_due positive due, ih prompt.next, prompt.next_eq]
      rw [prompt.start] at due
      rw [ticks_succ positive due, List.range_succ_eq_map, List.map_cons, List.map_map,
        prompt.start, Nat.zero_mul, Nat.add_zero]
      refine congrArg (j.due :: ·) (List.map_congr_left fun k _ => ?_)
      simp only [Function.comp_apply, Nat.succ_mul]
      omega

end ScheduledJob

/-! ## The order of time -/

namespace Schedule

def inOrder (runs : List JobRun) : List JobRun :=
  runs.foldl (fun sorted r => insertRun r sorted) []

theorem insertRun_perm (r : JobRun) (runs : List JobRun) : (insertRun r runs).Perm (r :: runs) := by
  induction runs with
  | nil => exact .refl _
  | cons other rest ih =>
      rw [insertRun]
      split
      · exact .refl _
      · exact (ih.cons other).trans (.swap r other rest)

theorem forall_mem_insertRun {P : JobRun → Prop} {r : JobRun} {runs : List JobRun} (also : P r)
    (all : ∀ a ∈ runs, P a) : ∀ a ∈ insertRun r runs, P a :=
  fun a member => List.forall_mem_cons.mpr ⟨also, all⟩ a ((insertRun_perm r runs).mem_iff.mp member)

theorem sorted_insertRun (r : JobRun) {runs : List JobRun}
    (sorted : runs.Pairwise fun a b => a.instant ≤ b.instant) :
    (insertRun r runs).Pairwise fun a b => a.instant ≤ b.instant := by
  induction runs with
  | nil => exact List.pairwise_singleton _ _
  | cons other rest ih =>
      obtain ⟨least, tail⟩ := List.pairwise_cons.mp sorted
      rw [insertRun]
      split
      · rename_i before
        refine List.pairwise_cons.mpr ⟨List.forall_mem_cons.mpr ⟨Nat.le_of_lt before, ?_⟩, sorted⟩
        exact fun b member => Nat.le_trans (Nat.le_of_lt before) (least b member)
      · rename_i after
        have still := forall_mem_insertRun (P := fun b => other.instant ≤ b.instant)
          (Nat.le_of_not_lt after) least
        exact List.pairwise_cons.mpr ⟨still, ih tail⟩

theorem inOrder_perm (runs : List JobRun) : (inOrder runs).Perm runs := by
  have fold (sorted : List JobRun) :
      (runs.foldl (fun sorted r => insertRun r sorted) sorted).Perm (sorted ++ runs) := by
    induction runs generalizing sorted with
    | nil => rw [List.append_nil]; exact .refl _
    | cons r rest ih =>
        refine (ih _).trans (((insertRun_perm r sorted).append_right rest).trans ?_)
        exact List.perm_middle.symm
  exact fold []

theorem sorted_inOrder (runs : List JobRun) :
    (inOrder runs).Pairwise fun a b => a.instant ≤ b.instant := by
  have fold {sorted : List JobRun} (start : sorted.Pairwise fun a b => a.instant ≤ b.instant) :
      (runs.foldl (fun sorted r => insertRun r sorted) sorted).Pairwise
        fun a b => a.instant ≤ b.instant := by
    induction runs generalizing sorted with
    | nil => exact start
    | cons r rest ih => exact ih (sorted_insertRun r start)
  exact fold .nil

theorem insertRun_append (r : JobRun) {instant : Nat} {early late : List JobRun}
    (before : ∀ a ∈ early, a.instant ≤ instant) (after : ∀ b ∈ late, instant < b.instant) :
    insertRun r (early ++ late) =
      if r.instant ≤ instant then insertRun r early ++ late else early ++ insertRun r late := by
  induction early with
  | nil =>
      split
      · rename_i soon
        cases late with
        | nil => rfl
        | cons b rest =>
            have first : r.instant < b.instant :=
              Nat.lt_of_le_of_lt soon (after b List.mem_cons_self)
            simp only [List.nil_append, insertRun, if_pos first, List.cons_append]
      · rfl
  | cons a rest ih =>
      obtain ⟨here, others⟩ := List.forall_mem_cons.mp before
      rw [List.cons_append, insertRun, insertRun, ih others]
      split
      · rename_i first
        rw [if_pos (Nat.le_of_lt (Nat.lt_of_lt_of_le first here))]
        rfl
      · split <;> rfl

theorem inOrder_split (runs : List JobRun) (instant : Nat) :
    inOrder runs = inOrder (runs.filter fun r => r.instant ≤ instant) ++
      inOrder (runs.filter fun r => instant < r.instant) := by
  have fold {early late : List JobRun} (before : ∀ a ∈ early, a.instant ≤ instant)
      (after : ∀ b ∈ late, instant < b.instant) :
      runs.foldl (fun sorted r => insertRun r sorted) (early ++ late) =
        (runs.filter fun r => r.instant ≤ instant).foldl (fun sorted r => insertRun r sorted)
            early ++
          (runs.filter fun r => instant < r.instant).foldl (fun sorted r => insertRun r sorted)
            late := by
    induction runs generalizing early late with
    | nil => rfl
    | cons r rest ih =>
        rw [List.foldl_cons, insertRun_append r before after, List.filter_cons, List.filter_cons]
        by_cases soon : r.instant ≤ instant
        · have punctual := Nat.not_lt_of_le soon
          simp only [soon, punctual, if_true, decide_true, decide_false, Bool.false_eq_true,
            if_false]
          exact ih (forall_mem_insertRun soon before) after
        · have late := Nat.lt_of_not_le soon
          simp only [soon, late, if_true, decide_true, decide_false, Bool.false_eq_true, if_false]
          exact ih before (forall_mem_insertRun late after)
  exact @fold [] [] (List.forall_mem_nil _) (List.forall_mem_nil _)

/-! ## Time passes -/

def runsOf (instant : Nat) (j : ScheduledJob) : List JobRun :=
  (j.run instant).1.map fun t => ⟨j.name, t⟩

variable {s : Schedule}

theorem advanceTo_of_running (running : s.stopped = false) (instant : Nat) :
    s.advanceTo instant = (inOrder (s.jobs.flatMap (runsOf instant)),
      { s with clock := instant, jobs := s.jobs.map fun j => (j.run instant).2 }) := by
  simp only [advanceTo, running, Bool.false_eq_true, if_false, List.flatMap_map, List.map_map]
  rfl

theorem advanceTo_of_stopped (stopped : s.stopped = true) (instant : Nat) :
    s.advanceTo instant = ([], { s with clock := instant }) := by
  rw [advanceTo, if_pos stopped]

/-- No job stands still, and none has missed a run. -/
structure Sound (s : Schedule) : Prop where
  period : ∀ j ∈ s.jobs, 1 ≤ j.period
  ahead : s.stopped = false → ∀ j ∈ s.jobs, s.clock ≤ j.start

theorem Sound.every (sound : Sound s) (name : String) (delay period takes : Nat) :
    Sound (s.every name delay period takes) where
  period := List.forall_mem_append.mpr
    ⟨sound.period, List.forall_mem_singleton.mpr (Nat.le_max_right _ _)⟩
  ahead running := List.forall_mem_append.mpr
    ⟨sound.ahead running, List.forall_mem_singleton.mpr (Nat.le_max_right _ _)⟩

theorem Sound.advanceTo (sound : Sound s) (instant : Nat) : Sound (s.advanceTo instant).2 := by
  cases running : s.stopped with
  | true =>
      rw [advanceTo_of_stopped running]
      exact ⟨sound.period, fun again => by cases running.symm.trans again⟩
  | false =>
      rw [advanceTo_of_running running]
      constructor
      · refine List.forall_mem_map.mpr fun j member => ?_
        rw [ScheduledJob.period_run (sound.period j member)]
        exact sound.period j member
      · exact fun _ => List.forall_mem_map.mpr fun j member =>
          Nat.le_of_lt (ScheduledJob.lt_start_run (sound.period j member))

theorem Sound.stop (sound : Sound s) : Sound s.stop := by
  rw [Schedule.stop]
  split
  · exact sound
  · exact ⟨sound.period, nofun⟩

theorem name_run (j : ScheduledJob) (instant : Nat) : (j.run instant).2.name = j.name := by
  have still (n : Nat) : (ScheduledJob.runsUntil instant n j).2.name = j.name := by
    induction n generalizing j with
    | zero => rfl
    | succ n ih =>
        rw [ScheduledJob.runsUntil]
        split
        · rfl
        · exact ih j.next
  exact still _

theorem runsOf_split {j : ScheduledJob} (period : 1 ≤ j.period) {early late : Nat}
    (order : early ≤ late) :
    runsOf late j = runsOf early j ++ runsOf late (j.run early).2 := by
  rw [runsOf, ScheduledJob.run_split period order, List.map_append, runsOf, runsOf, name_run]

theorem mem_runsOf {j : ScheduledJob} (period : 1 ≤ j.period) {instant : Nat} :
    ∀ r ∈ runsOf instant j, j.start ≤ r.instant ∧ r.instant ≤ instant :=
  List.forall_mem_map.mpr (ScheduledJob.mem_run period)

theorem filter_runsOf {j : ScheduledJob} (period : 1 ≤ j.period) {early late : Nat}
    (order : early ≤ late) :
    (runsOf late j).filter (fun r => r.instant ≤ early) = runsOf early j ∧
      (runsOf late j).filter (fun r => early < r.instant) = runsOf late (j.run early).2 := by
  have again : 1 ≤ (j.run early).2.period := by rwa [ScheduledJob.period_run period]
  have soon : ∀ r ∈ runsOf early j, r.instant ≤ early :=
    fun r member => (mem_runsOf period r member).2
  have later : ∀ r ∈ runsOf late (j.run early).2, early < r.instant := fun r member =>
    Nat.lt_of_lt_of_le (ScheduledJob.lt_start_run period) (mem_runsOf again r member).1
  rw [runsOf_split period order, List.filter_append, List.filter_append,
    List.filter_eq_self.mpr fun r member => decide_eq_true (soon r member),
    List.filter_eq_self.mpr fun r member => decide_eq_true (later r member),
    List.filter_eq_nil_iff.mpr fun r member => by simpa using later r member,
    List.filter_eq_nil_iff.mpr fun r member => by simpa using soon r member]
  exact ⟨List.append_nil _, List.nil_append _⟩

theorem advanceTo_split (sound : Sound s) {early late : Nat} (order : early ≤ late) :
    s.advanceTo late = ((s.advanceTo early).1 ++ ((s.advanceTo early).2.advanceTo late).1,
      ((s.advanceTo early).2.advanceTo late).2) := by
  cases running : s.stopped with
  | true =>
      have still : ({ s with clock := early } : Schedule).stopped = true := running
      rw [advanceTo_of_stopped running, advanceTo_of_stopped running, advanceTo_of_stopped still]
      rfl
  | false =>
      have still : ({ s with clock := early, jobs := s.jobs.map fun j => (j.run early).2 } :
          Schedule).stopped = false := running
      rw [advanceTo_of_running running, advanceTo_of_running running, advanceTo_of_running still]
      have soon : (s.jobs.flatMap (runsOf late)).filter (fun r => r.instant ≤ early) =
          s.jobs.flatMap (runsOf early) := by
        rw [List.filter_flatMap]
        exact List.flatMap_congr fun j member => (filter_runsOf (sound.period j member) order).1
      have later : (s.jobs.flatMap (runsOf late)).filter (fun r => early < r.instant) =
          (s.jobs.map fun j => (j.run early).2).flatMap (runsOf late) := by
        rw [List.filter_flatMap, List.flatMap_map]
        exact List.flatMap_congr fun j member => (filter_runsOf (sound.period j member) order).2
      have jobs : (s.jobs.map fun j => (j.run late).2) =
          (s.jobs.map fun j => (j.run early).2).map fun j => (j.run late).2 := by
        rw [List.map_map]
        refine List.map_congr_left fun j member => ?_
        rw [ScheduledJob.run_split (sound.period j member) order]
        rfl
      rw [inOrder_split _ early, soon, later, jobs]

/-! ## Whatever happens -/

inductive Occasion where
  | every (name : String) (delay period takes : Nat)
  | advance (millis : Nat)
  | stop

def undergo (s : Schedule) : Occasion → List JobRun × Schedule
  | .every name delay period takes => ([], s.every name delay period takes)
  | .advance millis => s.advance millis
  | .stop => ([], s.stop)

def undergoAll (s : Schedule) : List Occasion → List JobRun × Schedule
  | [] => ([], s)
  | occasion :: rest =>
    let (later, final) := undergoAll (s.undergo occasion).2 rest
    ((s.undergo occasion).1 ++ later, final)

theorem undergoAll_cons (s : Schedule) (occasion : Occasion) (rest : List Occasion) :
    s.undergoAll (occasion :: rest) =
      ((s.undergo occasion).1 ++ ((s.undergo occasion).2.undergoAll rest).1,
        ((s.undergo occasion).2.undergoAll rest).2) := rfl

theorem undergoAll_append (s : Schedule) (first rest : List Occasion) :
    s.undergoAll (first ++ rest) =
      ((s.undergoAll first).1 ++ ((s.undergoAll first).2.undergoAll rest).1,
        ((s.undergoAll first).2.undergoAll rest).2) := by
  induction first generalizing s with
  | nil => rfl
  | cons occasion first ih =>
      rw [List.cons_append, undergoAll_cons, undergoAll_cons, ih, List.append_assoc]

theorem Sound.undergo (sound : Sound s) (occasion : Occasion) : Sound (s.undergo occasion).2 := by
  cases occasion with
  | every name delay period takes => exact sound.every name delay period takes
  | advance millis => exact sound.advanceTo _
  | stop => exact sound.stop

theorem Sound.undergoAll (sound : Sound s) (occasions : List Occasion) :
    Sound (s.undergoAll occasions).2 := by
  induction occasions generalizing s with
  | nil => exact sound
  | cons occasion rest ih => exact ih (sound.undergo occasion)

theorem sound_empty : Sound empty :=
  ⟨List.forall_mem_nil _, fun _ => List.forall_mem_nil _⟩

theorem Sound.between (sound : Sound s) (occasion : Occasion) :
    s.clock ≤ (s.undergo occasion).2.clock ∧
      ∀ r ∈ (s.undergo occasion).1,
        s.clock ≤ r.instant ∧ r.instant ≤ (s.undergo occasion).2.clock := by
  cases occasion with
  | every => exact ⟨Nat.le_refl _, List.forall_mem_nil _⟩
  | advance millis =>
      simp only [Schedule.undergo, advance]
      cases running : s.stopped with
      | true =>
          rw [advanceTo_of_stopped running]
          exact ⟨Nat.le_add_right _ _, List.forall_mem_nil _⟩
      | false =>
          rw [advanceTo_of_running running]
          refine ⟨Nat.le_add_right _ _, fun r member => ?_⟩
          obtain ⟨j, known, among⟩ := List.mem_flatMap.mp ((inOrder_perm _).mem_iff.mp member)
          obtain ⟨after, before⟩ := mem_runsOf (sound.period j known) r among
          exact ⟨Nat.le_trans (sound.ahead running j known) after, before⟩
  | stop =>
      refine ⟨?_, List.forall_mem_nil _⟩
      rw [Schedule.undergo, Schedule.stop]
      split
      · exact Nat.le_refl _
      · have longer (jobs : List ScheduledJob) (t : Nat) :
            t ≤ jobs.foldl (fun t j => max t j.free) t := by
          induction jobs generalizing t with
          | nil => exact Nat.le_refl _
          | cons j rest ih => exact Nat.le_trans (Nat.le_max_left _ _) (ih _)
        exact longer s.jobs s.clock

theorem Sound.sorted (sound : Sound s) (occasions : List Occasion) :
    (s.undergoAll occasions).1.Pairwise (fun a b => a.instant ≤ b.instant) ∧
      ∀ r ∈ (s.undergoAll occasions).1, s.clock ≤ r.instant := by
  induction occasions generalizing s with
  | nil => exact ⟨.nil, List.forall_mem_nil _⟩
  | cons occasion rest ih =>
      obtain ⟨onward, between⟩ := sound.between occasion
      obtain ⟨later, ahead⟩ := ih (sound.undergo occasion)
      have first : (s.undergo occasion).1.Pairwise fun a b => a.instant ≤ b.instant := by
        cases occasion with
        | every | stop => exact .nil
        | advance millis =>
            simp only [Schedule.undergo, advance]
            cases running : s.stopped with
            | true => rw [advanceTo_of_stopped running]; exact .nil
            | false => rw [advanceTo_of_running running]; exact sorted_inOrder _
      refine ⟨List.pairwise_append.mpr ⟨first, later, fun a early b late => ?_⟩,
        List.forall_mem_append.mpr ⟨fun r member => (between r member).1, fun r member => ?_⟩⟩
      · exact Nat.le_trans (between a early).2 (ahead b late)
      · exact Nat.le_trans onward (ahead r member)

theorem undergoAll_of_stopped (stopped : s.stopped = true) (occasions : List Occasion) :
    (s.undergoAll occasions).1 = [] := by
  induction occasions generalizing s with
  | nil => rfl
  | cons occasion rest ih =>
      cases occasion with
      | every => exact ih stopped
      | advance millis =>
          simp only [undergoAll, undergo, advance]
          rw [advanceTo_of_stopped stopped, List.nil_append]
          exact ih stopped
      | stop =>
          simp only [undergoAll, undergo, stop, if_pos stopped, List.nil_append]
          exact ih stopped

theorem stopped_undergoAll (stopped : s.stopped = true) (occasions : List Occasion) :
    (s.undergoAll occasions).2.stopped = true := by
  induction occasions generalizing s with
  | nil => exact stopped
  | cons occasion rest ih =>
      refine ih ?_
      cases occasion with
      | every => exact stopped
      | advance => rw [undergo, advance, advanceTo_of_stopped stopped]; exact stopped
      | stop => rw [undergo, Schedule.stop, if_pos stopped]; exact stopped

theorem stopped_stop (s : Schedule) : s.stop.stopped = true := by
  rw [Schedule.stop]
  split
  · assumption
  · rfl

theorem clock_advanceTo (s : Schedule) (instant : Nat) :
    (s.advanceTo instant).2.clock = instant := by
  rw [advanceTo]
  split <;> rfl

theorem Sound.undergoAll_split (sound : Sound s) (a b : Nat) (after : List Occasion) :
    s.undergoAll (.advance (a + b) :: after) =
      s.undergoAll (.advance a :: .advance b :: after) := by
  have split := advanceTo_split sound (Nat.le_add_right (s.clock + a) b)
  simp only [undergoAll_cons, Schedule.undergo, advance, clock_advanceTo, ← Nat.add_assoc]
  rw [split, List.append_assoc]

/-! ## Jobs as they were registered -/

structure Registration where
  name : String
  since : Nat
  delay : Nat
  period : Nat

def Registration.job (r : Registration) : ScheduledJob :=
  ⟨r.name, max r.period 1, 0, r.since + r.delay, r.since⟩

/-- The runs until an instant of a job that runs when its delay has passed, and then once a period,
or once a millisecond if the period is zero. -/
def Registration.runs (instant : Nat) (r : Registration) : List JobRun :=
  let first := r.since + r.delay
  let period := max r.period 1
  let count := if instant < first then 0 else (instant - first) / period + 1
  (List.range count).map fun k => ⟨r.name, first + k * period⟩

def registrations : Nat → List Occasion → List Registration
  | _, [] => []
  | clock, .every name delay period _ :: rest =>
    ⟨name, clock, delay, period⟩ :: registrations clock rest
  | clock, .advance millis :: rest => registrations (clock + millis) rest
  | clock, .stop :: rest => registrations clock rest

def elapsed : List Occasion → Nat
  | [] => 0
  | .advance millis :: rest => millis + elapsed rest
  | _ :: rest => elapsed rest

theorem elapsed_append (first rest : List Occasion) :
    elapsed (first ++ rest) = elapsed first + elapsed rest := by
  induction first with
  | nil => exact (Nat.zero_add _).symm
  | cons occasion first ih =>
      cases occasion with
      | advance millis => simp only [List.cons_append, elapsed, ih, Nat.add_assoc]
      | every | stop => exact ih

theorem registrations_append (clock : Nat) (first rest : List Occasion) :
    registrations clock (first ++ rest) =
      registrations clock first ++ registrations (clock + elapsed first) rest := by
  induction first generalizing clock with
  | nil => rfl
  | cons occasion first ih =>
      cases occasion with
      | every => simp only [List.cons_append, registrations, elapsed, ih]
      | advance => simp only [List.cons_append, registrations, elapsed, ih, Nat.add_assoc]
      | stop => exact ih clock

def Occasion.IsBrief : Occasion → Prop
  | .every _ _ _ takes => takes = 0
  | .advance _ => True
  | .stop => False

theorem Registration.runsOf_job (instant : Nat) (r : Registration) :
    runsOf instant r.job = r.runs instant := by
  have prompt : r.job.Prompt := ⟨Nat.le_max_right _ _, rfl, Nat.le_add_right _ _⟩
  rw [runsOf, ScheduledJob.run_of_prompt prompt, List.map_map]
  rfl

theorem flatMap_runsOf_split (sound : Sound s) {early late : Nat} (order : early ≤ late) :
    (s.jobs.flatMap (runsOf late)).Perm (s.jobs.flatMap (runsOf early) ++
      (s.jobs.map fun j => (j.run early).2).flatMap (runsOf late)) := by
  rw [List.flatMap_map]
  refine .trans (.of_eq ?_) (List.flatMap_append_perm _ _ _).symm
  exact List.flatMap_congr fun j member => runsOf_split (sound.period j member) order

/-- Until an instant each job runs as if time had passed at once since it was registered. -/
theorem Sound.undergoAll_perm (sound : Sound s) (running : s.stopped = false)
    {occasions : List Occasion} (brief : ∀ o ∈ occasions, o.IsBrief) {millis instant : Nat}
    (last : s.clock + elapsed occasions + millis = instant) :
    (s.undergoAll (occasions ++ [.advance millis])).1.Perm (s.jobs.flatMap (runsOf instant) ++
      (registrations s.clock occasions).flatMap fun r => r.runs instant) := by
  induction occasions generalizing s with
  | nil =>
      have now : s.clock + millis = instant := last
      simp only [List.nil_append, Schedule.undergoAll, Schedule.undergo, advance, List.append_nil,
        registrations, List.flatMap_nil, advanceTo_of_running running, now]
      exact inOrder_perm _
  | cons occasion rest ih =>
      obtain ⟨here, others⟩ := List.forall_mem_cons.mp brief
      cases occasion with
      | every name delay period takes =>
          cases here
          let r : Registration := ⟨name, s.clock, delay, period⟩
          have jobs : (s.jobs ++ [r.job]).flatMap (runsOf instant) =
              s.jobs.flatMap (runsOf instant) ++ r.runs instant := by
            rw [List.flatMap_append, List.flatMap_singleton, r.runsOf_job]
          have later := ih (sound.every name delay period 0) running others last
          refine later.trans (.of_eq ?_)
          rw [registrations, List.flatMap_cons, ← List.append_assoc, ← jobs]
          rfl
      | advance first =>
          have order : s.clock + first ≤ instant := by
            simp only [elapsed] at last
            omega
          have still : (s.advanceTo (s.clock + first)).2.stopped = false := by
            rw [advanceTo_of_running running]
            exact running
          have clock : (s.advanceTo (s.clock + first)).2.clock = s.clock + first := by
            rw [advanceTo_of_running running]
          have later := ih (sound.advanceTo (s.clock + first)) still others
            (by rw [clock, ← last, elapsed, Nat.add_assoc s.clock])
          rw [clock, advanceTo_of_running running] at later
          rw [List.cons_append, undergoAll_cons, Schedule.undergo, advance,
            advanceTo_of_running running]
          refine ((inOrder_perm _).append later).trans ?_
          rw [← List.append_assoc]
          exact (flatMap_runsOf_split sound order).symm.append_right _
      | stop => exact here.elim

/-- Each job runs when its delay has passed since it was registered, and then once a period, until
the instant up to which the schedule waits. All runs are in the order of time. It does not matter in
which parts the schedule waits, and when it is stopped nothing runs any more. -/
theorem ticks_on_time :
    (∀ (occasions : List Occasion) (millis : Nat), (∀ o ∈ occasions, o.IsBrief) →
      (empty.undergoAll (occasions ++ [.advance millis])).1.Perm
        ((registrations 0 occasions).flatMap fun r => r.runs (elapsed occasions + millis))) ∧
      (∀ occasions, (empty.undergoAll occasions).1.Pairwise fun a b => a.instant ≤ b.instant) ∧
      (∀ before a b after, empty.undergoAll (before ++ .advance (a + b) :: after) =
        empty.undergoAll (before ++ .advance a :: .advance b :: after)) ∧
      ∀ before after, (empty.undergoAll (before ++ .stop :: after)).1 =
        (empty.undergoAll before).1 := by
  refine ⟨fun occasions millis brief => ?_, fun occasions => (sound_empty.sorted occasions).1,
    fun before a b after => ?_, fun before after => ?_⟩
  · exact sound_empty.undergoAll_perm rfl brief (by rw [empty, Nat.zero_add])
  · rw [undergoAll_append, undergoAll_append,
      (sound_empty.undergoAll before).undergoAll_split a b after]
  · rw [undergoAll_append, undergoAll_cons, undergo, List.nil_append,
      undergoAll_of_stopped (stopped_stop _), List.append_nil]

/-- The second job is registered when the first one has run twice. Its period is raised to a
millisecond, and it begins at the last instant but one. -/
theorem ticks_on_time_unaligned :
    let occasions : List Occasion :=
      [.every "a" 1 3 0, .advance 2, .advance 2, .every "b" 5 0 0, .advance 3]
    (∀ o ∈ occasions, o.IsBrief) ∧
      (empty.undergoAll (occasions ++ [.advance 3])).1.Perm
        [⟨"a", 1⟩, ⟨"a", 4⟩, ⟨"a", 7⟩, ⟨"a", 10⟩, ⟨"b", 9⟩, ⟨"b", 10⟩] := by
  intro occasions
  have brief : ∀ o ∈ occasions, o.IsBrief := by simp [occasions, Occasion.IsBrief]
  have same : (registrations 0 occasions).flatMap (fun r => r.runs (elapsed occasions + 3)) =
      [⟨"a", 1⟩, ⟨"a", 4⟩, ⟨"a", 7⟩, ⟨"a", 10⟩, ⟨"b", 9⟩, ⟨"b", 10⟩] := by decide
  exact ⟨brief, same ▸ ticks_on_time.1 occasions 3 brief⟩

end Schedule

end LogPipeline
