import LogPipeline.Proofs.Pipeline.Steps

namespace LogPipeline.Pipeline

open Backend

variable {α : Type}

structure Frame (within : Pipeline α → Pipeline α → Prop) : Prop where
  refl : ∀ p, within p p
  trans : ∀ {p q r}, within p q → within q r → within p r
  backend : ∀ p backend, within p { p with backend }
  tasks : ∀ p announced pool more, (∀ task ∈ more, task.isJob = false) →
    within p { p with announced, pool, ready := p.ready ++ more }
  timer : ∀ p due task, task.isJob = false → p.clock < due →
    within p { p with timers := p.timers ++ [⟨due, task⟩] }

namespace Frame

variable {within : Pipeline α → Pipeline α → Prop}

theorem pool (frame : Frame within) (p : Pipeline α) (pool : Pool) : within p { p with pool } := by
  have same := frame.tasks p p.announced pool [] (List.forall_mem_nil _)
  rw [List.append_nil] at same
  exact same

theorem serving (frame : Frame within) (p : Pipeline α) (pool : Pool) :
    within p { p with pool, ready := p.ready ++ [.serve] } :=
  frame.tasks p p.announced pool [.serve] (List.forall_mem_singleton.mpr rfl)

theorem setTimer (frame : Frame within) (wait : Nat) {task : Task} (other : task.isJob = false)
    (p : Pipeline α) : within p (setTimer wait task p).2 := by
  rw [setTimer_apply]
  split
  · exact frame.tasks p p.announced p.pool [task] (List.forall_mem_singleton.mpr other)
  · rename_i later
    exact frame.timer p _ task other (Nat.lt_add_of_pos_right (Nat.pos_of_ne_zero later))

theorem scheduled (frame : Frame within) (id : BatchId) (p : Pipeline α) :
    within p (p.scheduled id) := by
  rw [Pipeline.scheduled]
  split
  · exact frame.refl p
  · exact frame.serving p _

theorem announce (frame : Frame within) (id : BatchId) (p : Pipeline α) :
    within p (announce id p).2 := by
  rw [announce_apply]
  dsimp only
  split
  · have told := frame.tasks p (p.announced ++ [id]) p.pool [] (List.forall_mem_nil _)
    rw [List.append_nil] at told
    exact told
  · exact frame.scheduled id p

theorem seatLeft (frame : Frame within) (id : BatchId) (p : Pipeline α) :
    within p (p.seatLeft id) := by
  rw [Pipeline.seatLeft]
  split
  · exact frame.pool p _
  · exact frame.serving p _

theorem deliver (frame : Frame within) (id : BatchId) (retry attempts : Nat) (p : Pipeline α) :
    within p (deliver id retry attempts p).2 := by
  induction attempts generalizing p retry with
  | zero =>
      rw [deliver_zero]
      exact frame.seatLeft id p
  | succ attempts ih =>
      rw [deliver_succ]
      generalize tryOnce p.pool.policy p.now id retry p.backend = tried
      obtain ⟨next, backend⟩ := tried
      have attempted := frame.backend p backend
      cases next with
      | done outcome => exact frame.trans attempted (frame.seatLeft id _)
      | wait retry span =>
          dsimp only
          split
          · exact frame.trans attempted (frame.seatLeft id _)
          · split
            · exact frame.trans attempted (ih retry _)
            · exact frame.trans attempted (frame.setTimer _ rfl _)

theorem serve (frame : Frame within) (p : Pipeline α) : within p (serve p).2 := by
  rw [serve_apply]
  cases p.pool.waiting with
  | nil => exact frame.refl p
  | cons id waiting =>
      dsimp only
      split
      · exact frame.refl p
      · exact frame.trans (frame.pool p _) (frame.deliver id 0 _ _)

theorem makeBatch (frame : Frame within) (key : Key) (logs : List RawLog) (p : Pipeline α) :
    within p (makeBatch key logs p).2 := by
  rw [makeBatch_apply]
  generalize (Backend.saveBatch (.new p.backend.ids.fresh key logs p.now)).on
    { p.backend with ids := p.backend.ids.advance } = saved
  obtain ⟨answer, backend⟩ := saved
  have made := frame.backend p backend
  cases answer with
  | error e => exact made
  | ok _ => exact frame.trans made (frame.announce _ _)

theorem makeBatches (frame : Frame within) (groups : List (Key × List RawLog)) (p : Pipeline α) :
    within p (makeBatches groups p).2 := by
  induction groups generalizing p with
  | nil => exact frame.refl p
  | cons group rest ih =>
      rw [makeBatches_cons]
      exact frame.trans (frame.makeBatch group.1 group.2 p) (ih _)

theorem drainBuffers (frame : Frame within)
    (cleared : ∀ p, within p (showBuffered { p with buffers := p.buffers.cleared }).2)
    (p : Pipeline α) : within p (drainBuffers p).2 := by
  rw [drainBuffers_apply]
  split
  · exact frame.refl p
  · exact frame.trans (cleared p) (frame.makeBatches _ _)

end Frame

end LogPipeline.Pipeline
