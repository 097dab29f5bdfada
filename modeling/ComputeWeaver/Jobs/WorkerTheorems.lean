/-
Jobs.WorkerTheorems — when a round of the worker returns.

`succeed` and `fail` raise when the worker no longer holds the job, and the
handler of an exception of `succeed` calls `fail`. A call of the two that comes
to its end returns exactly when the job is held in the state it ends in
(`EndsIn.isOk_iff`), whatever else goes on in the queue. So a worker whose lease
was taken over raises out of `run_once`; and neither call changes a row that the
worker does not hold (`keeps_unheld`).
-/
import ComputeWeaver.Jobs.AttemptsTheorems
import ComputeWeaver.Jobs.Worker

namespace ComputeWeaver.Jobs

open Lib Persistence QueueTx

variable {json : JobJson} {calls : Nat → JobCall} {clock : Int} {x : QueueTx} {i : Nat}
  {job : DurableJob} {workerId : String} {update : JobUpdate}

def Holds (x : QueueTx) (workerId : String) (job : DurableJob) : Prop :=
  ∃ row, x.jobs.get? job.id = some row ∧ row.held workerId = true

/-- The call comes to its end in state `x` of a run, with this reply. -/
def EndsIn (json : JobJson) (calls : Nat → JobCall) (clock : Int) (call : JobCall)
    (reply : Except PyError JobReply) (x : QueueTx) : Prop :=
  ∃ moves i, x = QueueTx.after json calls clock moves ∧ calls i = call ∧
    (∀ ended, x.phase i ≠ .ended ended) ∧ (x.advance json calls i).phase i = .ended reply

theorem queueInv_after (json : JobJson) (calls : Nat → JobCall) (clock : Int)
    (moves : List QueueMove) : QueueInv json calls (after json calls clock moves) :=
  run_invariant queueInv_step moves _ (queueInv_init json calls clock)

/-! ## Reports -/

/-- `succeed` or `fail`. -/
def JobCall.isReport : JobCall → Bool
  | .succeed _ _ _ => true
  | .fail _ _ _ => true
  | _ => false

variable {call : JobCall} {reply : Except PyError JobReply}

theorem missed_error (hreport : call.isReport = true) (hupdate : call.update? json = some update) :
    ∃ e, update.missed = .error e := by
  cases call with
  | succeed job workerId result | fail job workerId error => cases hupdate; exact ⟨_, rfl⟩
  | _ => cases hreport

theorem advanceUpdate_ends (h : QueueInv json calls x)
    (hupdate : (calls i).update? json = some update)
    (htenant : checkTenant update.job.tenantId = .ok ())
    (hopen : ∀ ended, x.phase i ≠ .ended ended)
    (hends : (x.advanceUpdate i update).phase i = .ended reply) :
    (reply = update.missed ∧ ¬ Holds x update.workerId update.job) ∨
      (∃ row, reply = .ok (update.updated row)) ∧ Holds x update.workerId update.job := by
  have hrelies := h.relies i
  unfold QueueTx.advanceUpdate at hends
  cases hphase : x.phase i with
  | idle => simp [hphase, QueueTx.checked, htenant] at hends
  | begun now =>
    simp only [hphase] at hends
    split at hends
    · simp at hends
    rename_i hnot
    refine .inl ⟨by simpa using hends.symm, ?_⟩
    rintro ⟨row, hget, hheld⟩
    exact hnot (by simp [hget, hheld])
  | matched now =>
    simp only [hphase] at hends
    split at hends
    · cases hget : x.jobs.get? update.job.id with
      | none =>
        simp only [hget, phase_finish, JobPhase.ended.injEq] at hends
        exact .inl ⟨hends.symm, by simp [Holds, hget]⟩
      | some row =>
        simp only [hget] at hends
        split at hends
        · simp at hends
        rename_i hnot
        simp only [phase_finish, JobPhase.ended.injEq] at hends
        refine .inl ⟨hends.symm, ?_⟩
        rintro ⟨row', hrow', hheld⟩
        cases hget.symm.trans hrow'
        exact hnot hheld
    · simp [hphase] at hends
  | written now id row =>
    rw [hphase] at hrelies
    obtain ⟨-, -, old, hold, hwritten⟩ := hrelies
    simp only [hphase, phase_commit, JobPhase.ended.injEq] at hends
    refine .inr ⟨⟨row, hends.symm⟩, ?_⟩
    obtain ⟨_, _, hclaim, -⟩ | ⟨update', hupdate', rfl, hheld, -⟩ := hwritten
    · simp [hclaim, JobCall.update?] at hupdate
    · cases hupdate.symm.trans hupdate'
      exact ⟨old, hold, hheld⟩
  | ended ended => exact absurd hphase (hopen ended)
  | absent | numbered id | inserted id row | scanning now ids => simp [hphase] at hends

theorem EndsIn.isOk_iff (h : EndsIn json calls clock call reply x)
    (hreport : call.isReport = true) (hupdate : call.update? json = some update)
    (htenant : checkTenant update.job.tenantId = .ok ()) :
    reply.isOk = true ↔ Holds x update.workerId update.job := by
  obtain ⟨moves, i, rfl, rfl, hopen, hends⟩ := h
  obtain ⟨e, hmissed⟩ := missed_error hreport hupdate
  have hadvance : (after json calls clock moves).advance json calls i =
      (after json calls clock moves).advanceUpdate i update := by
    unfold QueueTx.advance
    cases hcall : calls i <;> rw [hcall] at hupdate <;> cases hupdate <;> rfl
  rw [hadvance] at hends
  rcases advanceUpdate_ends (queueInv_after json calls clock moves) hupdate htenant hopen hends with
    ⟨rfl, hnot⟩ | ⟨⟨row, rfl⟩, hheld⟩
  · simp [hmissed, hnot, Except.isOk, Except.toBool]
  · simp [hheld, Except.isOk, Except.toBool]

theorem keeps_unheld (h : QueueInv json calls x) (hreport : (calls i).isReport = true)
    (hworker : (calls i).worker? = some workerId) {id : Int} {row : JobRow}
    (hget : x.jobs.get? id = some row) (hnot : row.held workerId = false) :
    (x.advance json calls i).jobs.get? id = some row := by
  rcases (kept_advance h i).stepped.row h hget with hsame | ⟨now, row', -, -, hupdates⟩
  · exact hsame
  obtain ⟨_, _, hclaim, -⟩ | ⟨update, hupdate, -, hheld, -⟩ := hupdates
  · simp [hclaim, JobCall.isReport] at hreport
  have hsame : update.workerId = workerId := by
    cases hcall : calls i <;> rw [hcall] at hupdate hworker <;> cases hupdate <;>
      exact Option.some.inj hworker
  rw [hsame, hnot] at hheld
  cases hheld

/-! ## A round -/

/-- **Main result.** A round that has claimed a job returns exactly when its
`succeed` ends with the job held, or the `fail` that follows an exception does.
And in every state of the queue, neither call changes a row that its worker does
not hold. -/
theorem run_once_returns_iff (json : JobJson) (calls : Nat → JobCall) (clock : Int)
    (worker : Worker) (reply : Replies) (job : DurableJob) (x y : QueueTx)
    (htenant : checkTenant job.tenantId = .ok ())
    (hclaim : reply (.claim worker.workerId 60) = .ok (.claimed (some job)))
    (hsucceed : ∀ result, worker.handle job = .ok result →
      EndsIn json calls clock (.succeed job worker.workerId result)
        (reply (.succeed job worker.workerId result)) x)
    (hfail : ∀ e, worker.attempt reply job = .error e →
      EndsIn json calls clock (worker.failure job e) (reply (worker.failure job e)) y) :
    ((worker.runOnce reply).isOk = true ↔
      ((worker.handle job).isOk = true ∧ Holds x worker.workerId job) ∨
        ((worker.attempt reply job).isOk = false ∧ Holds y worker.workerId job)) ∧
    ∀ moves i id row, (calls i).isReport = true →
      (calls i).worker? = some worker.workerId →
      (QueueTx.after json calls clock moves).jobs.get? id = some row →
      row.held worker.workerId = false →
      (QueueTx.after json calls clock (moves ++ [.advance i])).jobs.get? id = some row := by
  refine ⟨?_, ?_⟩
  · have hattempt : (worker.attempt reply job).isOk = true ↔
        (worker.handle job).isOk = true ∧ Holds x worker.workerId job := by
      cases hhandle : worker.handle job with
      | error e => simp [Worker.attempt, hhandle, Except.isOk, Except.toBool]
      | ok result =>
        have hheld : (reply (.succeed job worker.workerId result)).isOk = true ↔
            Holds x worker.workerId job := (hsucceed result hhandle).isOk_iff rfl rfl htenant
        rw [← hheld, Worker.attempt, hhandle]
        cases hreply : reply (.succeed job worker.workerId result) <;>
          simp [hreply, Except.isOk, Except.toBool]
    rw [← hattempt, Worker.runOnce, hclaim]
    cases hraised : worker.attempt reply job with
    | ok => simp [hraised, Except.isOk, Except.toBool]
    | error e =>
      have hheld : (reply (worker.failure job e)).isOk = true ↔ Holds y worker.workerId job :=
        (hfail e hraised).isOk_iff rfl rfl htenant
      rw [← hheld]
      simp only [hraised]
      cases reply (worker.failure job e) <;> simp [Except.isOk, Except.toBool]
  · intro moves i id row hreport hworker hget hnot
    unfold after
    rw [run_append]
    exact keeps_unheld (queueInv_after json calls clock moves) hreport hworker hget hnot

/-! ## A lease that is taken over -/

/-- A worker whose handler returns. -/
def sampleWorker : Worker where
  workerId := "worker-one"
  handlers := Dict.empty.set "heartbeat" fun _ => .ok []
  text
    | .runtimeError message => message
    | _ => ""

/-- A worker of one handler, and a second one that takes the job over. -/
def takeover : Nat → JobCall
  | 0 => .enqueue ⟨"tenant-one", "heartbeat", [], "job-one", 1, 0⟩
  | 1 => .claim "worker-one" 60
  | 2 => .claim "worker-two" 60
  | 3 => .succeed sampleJob "worker-one" []
  | _ => sampleWorker.failure sampleJob (.runtimeError "job lease was lost before completion")

/-- What the worker's calls were answered. -/
def repliesIn (x : QueueTx) : Replies
  | .claim _ _ => .ok (.claimed (some sampleJob))
  | .succeed _ _ _ => match x.phase 3 with
      | .ended reply => reply
      | _ => .error .stopIteration
  | _ => match x.phase 4 with
      | .ended reply => reply
      | _ => .error .stopIteration

/-- The job is claimed and nobody interferes. -/
def undisturbed : List QueueMove := steps 5 0 ++ steps 4 1 ++ steps 3 3

theorem run_once_returns_iff_undisturbed :
    (sampleWorker.runOnce (repliesIn (QueueTx.after plainJson takeover 0
      (undisturbed ++ [.advance 3])))).isOk = true := by
  have hopen : (match (after plainJson takeover 0 undisturbed).phase 3 with
      | .ended _ => false
      | _ => true) = true := by decide +kernel
  have hends : (match (after plainJson takeover 0
        (undisturbed ++ [.advance 3])).phase 3 with
      | .ended (.ok _) => true
      | _ => false) = true := by decide +kernel
  have hholds : ((after plainJson takeover 0 undisturbed).jobs.get? 1).any
      (·.held "worker-one") = true := by decide +kernel
  have hstep : after plainJson takeover 0 (undisturbed ++ [.advance 3]) =
      (after plainJson takeover 0 undisturbed).advance plainJson takeover 3 :=
    run_append _ _ _
  rw [hstep] at hends ⊢
  generalize hx : after plainJson takeover 0 undisturbed = x at hopen hends hholds ⊢
  obtain ⟨row, hrow⟩ := (Option.any_eq_true _ _).mp hholds
  obtain ⟨returned, hphase⟩ : ∃ returned,
      (x.advance plainJson takeover 3).phase 3 = .ended (.ok returned) := by
    split at hends
    · rename_i returned hphase
      exact ⟨returned, hphase⟩
    · cases hends
  have hhandle : sampleWorker.handle sampleJob = .ok [] := rfl
  have hreply : repliesIn (x.advance plainJson takeover 3) (.succeed sampleJob "worker-one" []) =
      .ok returned := by simp [repliesIn, hphase]
  refine (run_once_returns_iff plainJson takeover 0 sampleWorker _ sampleJob x x (by decide) rfl
    ?_ ?_).1.mpr (.inl ⟨rfl, row, hrow⟩)
  · intro result hresult
    cases hhandle.symm.trans hresult
    refine ⟨undisturbed, 3, hx.symm, rfl, fun ended hended => ?_,
      hphase.trans (by rw [← hreply]; rfl)⟩
    simp [hended] at hopen
  · intro e hraised
    have hreturned : sampleWorker.attempt (repliesIn (x.advance plainJson takeover 3)) sampleJob =
        .ok () := by
      rw [Worker.attempt, hhandle, ok_bind]
      exact congrArg (· >>= fun _ => pure ()) hreply
    cases hreturned.symm.trans hraised

/-- The lease runs out while the handler runs and the job is claimed again; both
reports raise, and so does the round. -/
theorem lost_lease_raises :
    raised? (sampleWorker.runOnce (repliesIn (QueueTx.after plainJson takeover 0
      (steps 5 0 ++ steps 4 1 ++ .tick 60000000 :: steps 4 2 ++ steps 2 3 ++ steps 2 4)))) =
      some (.runtimeError "job lease was lost before failure recording") := by
  decide +kernel

end ComputeWeaver.Jobs
