/-
Jobs.EnqueueTheorems — what the number that `enqueue` returns is good for.

A job keeps its tenant, key, kind and payload through every update, and no call
deletes a row. So an `enqueue` that has returned can be relied on in every later
state, and calls that race for one key agree on the job.
-/
import ComputeWeaver.Jobs.WorkerTheorems

namespace ComputeWeaver.Jobs

open Lib Persistence QueueTx

/-- The row is the job of an `enqueue`: inserted by it, or compared with it. -/
structure Answers (json : JobJson) (args : EnqueueArgs) (row : JobRow) : Prop where
  key : row.key = args.key
  kind : row.kind = args.kind
  payload : row.payload = json.stored args.payload ∨
    json.dumps row.payload = json.dumps args.payload

/-- The next step of call `i`, an `enqueue`, returns the number of a job. -/
structure Enqueues (json : JobJson) (calls : Nat → JobCall) (x : QueueTx) (i : Nat)
    (args : EnqueueArgs) (id : Int) : Prop where
  call : calls i = .enqueue args
  unended : ∀ reply, x.phase i ≠ .ended reply
  ends : (x.advance json calls i).phase i = .ended (.ok (.enqueued id))

variable {json : JobJson} {calls : Nat → JobCall} {x x' : QueueTx} {i : Nat} {id : Int}
  {args : EnqueueArgs}

theorem Stepped.answers (hinv : QueueInv json calls x) (hs : Stepped calls x i x')
    (h : ∃ row, x.jobs.get? id = some row ∧ Answers json args row) :
    ∃ row, x'.jobs.get? id = some row ∧ Answers json args row := by
  obtain ⟨row, hget, hrow⟩ := h
  obtain hsame | ⟨now, row', hget', -, hupdates⟩ := hs.row hinv hget
  · exact ⟨row, hsame, hrow⟩
  have hkept : row'.kind = row.kind ∧ row'.payload = row.payload := by
    obtain ⟨_, _, -, -, rfl⟩ | ⟨update, hupdate, -, -, rfl⟩ := hupdates
    · exact ⟨rfl, rfl⟩
    · cases hcall : calls i <;> rw [hcall] at hupdate <;> cases hupdate <;> exact ⟨rfl, rfl⟩
  refine ⟨row', hget', hupdates.key.trans hrow.key, hkept.1.trans hrow.kind, ?_⟩
  rw [hkept.2]
  exact hrow.payload

/-- **One step.** -/
theorem answers_step (x : QueueTx) (move : QueueMove)
    (h : QueueInv json calls x ∧ ∃ row, x.jobs.get? id = some row ∧ Answers json args row) :
    QueueInv json calls (x.step json calls move) ∧
      ∃ row, (x.step json calls move).jobs.get? id = some row ∧ Answers json args row := by
  obtain ⟨hinv, hrow⟩ := h
  refine ⟨queueInv_step x move hinv, ?_⟩
  cases move with
  | advance i => exact (kept_advance hinv i).stepped.answers hinv hrow
  | skip i => exact (kept_skip hinv i).stepped.answers hinv hrow
  | abort i error => exact (kept_abort hinv i error).stepped.answers hinv hrow
  | tick micros => exact hrow

/-- The step in which an `enqueue` returns leaves its job in the table. -/
theorem Enqueues.answers (hinv : QueueInv json calls x) (h : Enqueues json calls x i args id) :
    ∃ row, (x.advance json calls i).jobs.get? id = some row ∧ Answers json args row := by
  obtain ⟨hcall, hopen, hends⟩ := h
  have hrelies := hinv.relies i
  simp only [QueueTx.advance, hcall] at hends ⊢
  unfold advanceEnqueue at hends ⊢
  cases hphase : x.phase i with
  | idle =>
    simp only [hphase] at hends
    split at hends
    · simp at hends
    · unfold QueueTx.checked at hends
      split at hends <;> simp at hends
  | begun now =>
    cases hjob : x.jobOf args.key with
    | none => simp [hphase, hjob] at hends
    | some entry =>
      obtain ⟨id', row⟩ := entry
      simp only [hphase, hjob] at hends ⊢
      split at hends
      · simp at hends
      rename_i hsame
      rw [if_neg hsame]
      simp only [phase_finish, JobPhase.ended.injEq, Except.ok.injEq, JobReply.enqueued.injEq]
        at hends
      obtain ⟨hkind, hpayload⟩ := not_or.mp hsame
      have hget : x.jobs.get? id' = some row :=
        Dict.mem_entries_iff.mp (List.mem_of_find?_eq_some hjob)
      have hkey : row.key = args.key := by simpa using List.find?_some hjob
      exact ⟨row, hends ▸ hget, hkey, not_not.mp hkind, .inr (not_not.mp hpayload)⟩
  | numbered number =>
    simp only [hphase] at hends
    split at hends
    · split at hends <;> simp at hends
    · simp [hphase] at hends
  | inserted number row =>
    rw [hphase, hcall] at hrelies
    obtain ⟨-, _, hargs, rfl, -⟩ := hrelies
    cases hargs
    simp only [hphase, phase_commit, JobPhase.ended.injEq, Except.ok.injEq,
      JobReply.enqueued.injEq] at hends
    exact ⟨newRow json args, hends ▸ Dict.get?_set_self .., rfl, rfl, .inl rfl⟩
  | ended reply => exact absurd hphase (hopen reply)
  | absent | scanning now ids | matched now | written now number row =>
    simp [hphase] at hends

/-- **Main result.** Whatever else goes on in the queue: once an `enqueue` has
returned a number, that job is in the table for good, under the key of the call,
of its kind, and with the payload it stored or was compared with. Every later
`enqueue` of the key that returns, returns the same number and asked for the
same kind. -/
theorem enqueue_durable (json : JobJson) (calls : Nat → JobCall) (clock : Int)
    (moves later : List QueueMove) (i : Nat) (args : EnqueueArgs) (id : Int)
    (h : Enqueues json calls (QueueTx.after json calls clock moves) i args id) :
    let x := QueueTx.after json calls clock (moves ++ .advance i :: later)
    (∃ row, x.jobs.get? id = some row ∧ Answers json args row) ∧
      ∀ j args' id', Enqueues json calls x j args' id' → args'.key = args.key →
        id' = id ∧ args'.kind = args.kind := by
  intro x
  have hinv : QueueInv json calls x := queueInv_after json calls clock _
  have hrow : ∃ row, x.jobs.get? id = some row ∧ Answers json args row := by
    have hbefore := queueInv_after json calls clock moves
    rw [show x = run (step json calls) (step json calls _ (.advance i)) later from
      run_append _ _ _]
    exact (run_invariant answers_step later _
      ⟨queueInv_step _ (.advance i) hbefore, h.answers hbefore⟩).2
  refine ⟨hrow, fun j args' id' h' hkey => ?_⟩
  -- in the state that the second call leaves, one key has one job
  obtain ⟨row, hget, hanswers⟩ := (kept_advance hinv j).stepped.answers hinv hrow
  obtain ⟨row', hget', hanswers'⟩ := h'.answers hinv
  have hid : id' = id := (kept_advance hinv j).inv.unique id' id row' row hget' hget
    (hanswers'.key.trans (hkey.trans hanswers.key.symm))
  subst hid
  cases hget.symm.trans hget'
  exact ⟨rfl, hanswers'.kind.symm.trans hanswers.kind⟩

/-- The job is claimed, and is still the one that was asked for. -/
theorem enqueue_durable_claimed :
    ∃ row, (QueueTx.after plainJson sampleCalls 0
        (steps 4 0 ++ .advance 0 :: steps 4 1)).jobs.get? 1 = some row ∧
      Answers plainJson ⟨"tenant-one", "heartbeat", [], "job-one", 1, 0⟩ row := by
  have hphase : (after plainJson sampleCalls 0 (steps 4 0)).phase 0 =
      .inserted 1 (newRow plainJson ⟨"tenant-one", "heartbeat", [], "job-one", 1, 0⟩) := rfl
  refine (enqueue_durable plainJson sampleCalls 0 (steps 4 0) (steps 4 1) 0 _ 1
    ⟨rfl, fun reply => by simp [hphase], ?_⟩).1
  simp [QueueTx.advance, sampleCalls, advanceEnqueue, hphase]

end ComputeWeaver.Jobs
