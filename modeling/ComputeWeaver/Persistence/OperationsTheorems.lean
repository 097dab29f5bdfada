/-
Persistence.OperationsTheorems — when a recorded success of an
API operation is final on the Postgres backend.

`OperationEffect` lists what one database block can do, with its guards;
`step_operationEffect` is the only place that unfolds the blocks.

The claim block never touches a 'succeeded' row and the success block only a
'started' one. The failure block has no such clause: a caller whose lease
expired, whose operation another caller took over and completed, and whose own
callback then raises, turns 'succeeded' into 'failed', and the next caller runs
the callback again. `NoLateFailure` rules out exactly that block.
-/
import ComputeWeaver.Persistence.Operations

namespace ComputeWeaver.Persistence

open Lib OperationBackend Dict

/-! ## The in-memory backend -/

section

variable {σ ρ : Type} {env : PyEnv} {call : OperationArgs}
  {callback : σ → Except PyError ρ × σ} {memory : OperationMemory ρ} {s : σ} {result : ρ}
  {e : PyError}

/-- The three ways a call ends: it raises and leaves the table as it was, it is
answered from a record, or its callback returns and is recorded. -/
theorem executeMemory_cases (env : PyEnv) (call : OperationArgs)
    (callback : σ → Except PyError ρ × σ) (memory : OperationMemory ρ) (s : σ) :
    (∃ e s', executeMemory env call callback memory s = (.error e, memory, s')) ∨
    (∃ result, executeMemory env call callback memory s = (.ok result, memory, s) ∧
      call.check = .ok () ∧
      memory.get? (call.tenantId, call.key) = some (call.operation, call.digest env, result)) ∨
    (∃ result s', executeMemory env call callback memory s = (.ok result,
        memory.set (call.tenantId, call.key) (call.operation, call.digest env, result), s') ∧
      call.check = .ok () ∧ callback s = (.ok result, s') ∧
      memory.get? (call.tenantId, call.key) = none) := by
  unfold executeMemory
  split
  · exact .inl ⟨_, _, rfl⟩
  rename_i hcheck
  split
  · rename_i operation digest result hrecord
    split
    · exact .inl ⟨_, _, rfl⟩
    · rename_i hsame
      rw [not_or, not_not, not_not] at hsame
      exact .inr (.inl ⟨result, rfl, hcheck, by rw [hrecord, hsame.1, hsame.2]⟩)
  · rename_i hnone
    split
    · exact .inl ⟨_, _, rfl⟩
    · rename_i result s' hcallback
      exact .inr (.inr ⟨result, s', rfl, hcheck, hcallback, hnone⟩)

theorem executeMemory_state (env : PyEnv) (call : OperationArgs)
    (callback : σ → Except PyError ρ × σ) (memory : OperationMemory ρ) (s : σ) :
    (executeMemory env call callback memory s).2.2 = s ∨
      (memory.get? (call.tenantId, call.key) = none ∧
        (executeMemory env call callback memory s).2.2 = (callback s).2) := by
  unfold executeMemory
  split
  · exact .inl rfl
  split
  · split <;> exact .inl rfl
  rename_i hnone
  refine .inr ⟨hnone, ?_⟩
  cases callback s with
  | mk outcome s' => cases outcome <;> rfl

theorem executeMemory_raised
    (h : (executeMemory env call callback memory s).1 = .error e) :
    (executeMemory env call callback memory s).2.2 = s ∨
      callback s = (.error e, (executeMemory env call callback memory s).2.2) := by
  unfold executeMemory at h ⊢
  cases hcheck : call.check with
  | error e' => exact .inl rfl
  | ok =>
    cases hrecord : memory.get? (call.tenantId, call.key) with
    | some record =>
      dsimp only
      split <;> exact .inl rfl
    | none =>
      cases hcallback : callback s with
      | mk outcome s' =>
        simp only [hcheck, hrecord, hcallback] at h
        cases outcome with
        | error e' => cases h; exact .inr rfl
        | ok result => cases h

theorem executeMemory_of_error (h : callback s = (.error e, s)) :
    (executeMemory env call callback memory s).2 = (memory, s) := by
  unfold executeMemory
  split
  · rfl
  · split
    · split <;> rfl
    · rw [h]

theorem executeMemory_records {memory' : OperationMemory ρ} {s' : σ}
    (h : executeMemory env call callback memory s = (.ok result, memory', s')) :
    call.check = .ok () ∧
      memory'.get? (call.tenantId, call.key) = some (call.operation, call.digest env, result) := by
  rcases executeMemory_cases env call callback memory s with
    ⟨e, s₁, hraised⟩ | ⟨recorded, hanswered, hcheck, hrecord⟩ | ⟨returned, s₁, hran, hcheck, _, _⟩
  · cases hraised.symm.trans h
  · cases hanswered.symm.trans h
    exact ⟨hcheck, hrecord⟩
  · cases hran.symm.trans h
    exact ⟨hcheck, get?_set_self _ _ _⟩

/-- A call whose key has a record is answered from it, if operation and digest
are the recorded ones. -/
theorem executeMemory_answers_iff {operation digest : String}
    (hcheck : call.check = .ok ())
    (hrecord : memory.get? (call.tenantId, call.key) = some (operation, digest, result)) :
    executeMemory env call callback memory s = (.ok result, memory, s) ↔
      operation = call.operation ∧ digest = call.digest env := by
  unfold executeMemory
  simp only [hcheck, hrecord]
  split
  · rename_i hother
    constructor
    · intro h
      cases h
    · intro hsame
      simp [hsame] at hother
  · rename_i hsame
    rw [not_or, not_not, not_not] at hsame
    simp [hsame]

theorem executeMemory_keeps {key : String × String} {record : String × String × ρ}
    (h : memory.get? key = some record) :
    (executeMemory env call callback memory s).2.1.get? key = some record := by
  rcases executeMemory_cases env call callback memory s with
    ⟨e, s₁, hraised⟩ | ⟨recorded, hanswered, _, _⟩ | ⟨returned, s₁, hran, _, _, hnone⟩
  · rw [hraised]
    exact h
  · rw [hanswered]
    exact h
  · rw [hran, get?_set_ne, h]
    rintro rfl
    cases hnone.symm.trans h

end

/-! ## The Postgres backend -/

variable (backend : OperationBackend) (args : Nat → OperationArgs)

def rowKey (i : Nat) : String × String := ((args i).tenantId, (args i).key)

def SameIntent (i : Nat) (row : OperationRow) : Prop :=
  row.operation = (args i).operation ∧ row.intentHash = (args i).digest backend.env

/-- The caller's arguments pass the checks made before the first block. -/
def Admissible (i : Nat) : Prop :=
  (args i).check = .ok () ∧ OperationBackend.checkTenant (args i) = .ok ()

/-! ## What one block does -/

inductive OperationEffect (x : OperationState) : OperationMove → OperationState → Prop
  | skip (m : OperationMove) : OperationEffect x m x
  | refused (i : Nat) (now : Int) (e : PyError) :
      OperationEffect x (.begin i now) { x with phase := Function.update x.phase i (.raised e) }
  | replayed (i : Nat) (now : Int) (response : Value) :
      OperationEffect x (.begin i now)
        { x with phase := Function.update x.phase i (.replayed response) }
  | claimed (i : Nat) (now : Int) (row : OperationRow) (hadmissible : Admissible args i)
      (hold : ∀ old, x.table.get? (rowKey args i) = some old →
        old.status ≠ .succeeded ∧ SameIntent backend args i old)
      (hrow : SameIntent backend args i row) :
      OperationEffect x (.begin i now)
        ⟨x.table.set (rowKey args i) row, Function.update x.phase i .running⟩
  | recorded (i : Nat) (now : Int) (result : Value) (row : OperationRow)
      (hrunning : x.phase i = .running) (hrow : x.table.get? (rowKey args i) = some row)
      (hstarted : row.status = .started) :
      OperationEffect x (.succeed i now result)
        ⟨x.table.set (rowKey args i) { row with
            status := .succeeded, response := some (backend.jsonSafe result)
            completedAt := some now },
          Function.update x.phase i (.completed result)⟩
  | lost (i : Nat) (now : Int) (result : Value) (e : PyError) :
      OperationEffect x (.succeed i now result)
        { x with phase := Function.update x.phase i (.raised e) }
  | failed (i : Nat) (now : Int) (error : PyError) (message : String) (row : OperationRow)
      (hrunning : x.phase i = .running) (hrow : x.table.get? (rowKey args i) = some row) :
      OperationEffect x (.fail i now error message)
        ⟨x.table.set (rowKey args i) { row with
            status := .failed, error := some (String.ofList (message.toList.take 4000))
            completedAt := some now },
          Function.update x.phase i (.raised error)⟩
  | unmatched (i : Nat) (now : Int) (error : PyError) (message : String) :
      OperationEffect x (.fail i now error message)
        { x with phase := Function.update x.phase i (.raised error) }

theorem claim_cases (table : Dict (String × String) OperationRow) (i : Nat) (now : Int) :
    (∃ e, backend.claim table (args i) now = (.error e, table)) ∨
    (∃ response, backend.claim table (args i) now = (.ok (some response), table)) ∨
    (∃ row, backend.claim table (args i) now = (.ok none, table.set (rowKey args i) row) ∧
      Admissible args i ∧ SameIntent backend args i row ∧
      ∀ old, table.get? (rowKey args i) = some old →
        old.status ≠ .succeeded ∧ SameIntent backend args i old) := by
  unfold claim
  split
  · exact .inl ⟨_, rfl⟩
  · exact .inl ⟨_, rfl⟩
  · rename_i hcheck htenant
    split
    · rename_i row hrow
      split
      · exact .inl ⟨_, rfl⟩
      rename_i hidentity
      simp only [not_or, Classical.not_not] at hidentity
      split
      · exact .inr (.inl ⟨_, rfl⟩)
      rename_i hstatus
      split
      · exact .inl ⟨_, rfl⟩
      refine .inr (.inr ⟨_, rfl, ⟨hcheck, htenant⟩, hidentity, fun old hold => ?_⟩)
      rw [rowKey, hrow] at hold
      cases hold
      exact ⟨hstatus, hidentity⟩
    · rename_i hrow
      refine .inr (.inr ⟨_, rfl, ⟨hcheck, htenant⟩, ⟨rfl, rfl⟩, fun old hold => ?_⟩)
      rw [rowKey, hrow] at hold
      cases hold

theorem step_operationEffect (x : OperationState) (m : OperationMove) :
    OperationEffect backend args x m (backend.step args x m) := by
  cases m with
  | begin i now =>
    simp only [step]
    split
    · rcases claim_cases backend args x.table i now with
        ⟨e, h⟩ | ⟨response, h⟩ | ⟨row, h, hadmissible, hrow, hold⟩ <;> rw [h]
      · exact .refused i now e
      · exact .replayed i now response
      · exact .claimed i now row hadmissible hold hrow
    · exact .skip _
  | succeed i now result =>
    simp only [step]
    split
    · rename_i hrunning
      unfold recordSuccess
      split
      · rename_i hmatch
        split at hmatch
        · rename_i row hrow
          split at hmatch
          · rename_i hwhere
            cases hmatch
            exact .recorded i now result row hrunning hrow hwhere.2
          · cases hmatch
        · cases hmatch
      · rename_i hmatch
        split at hmatch
        · split at hmatch
          · cases hmatch
          · cases hmatch
            exact .lost i now result _
        · cases hmatch
          exact .lost i now result _
    · exact .skip _
  | fail i now error message =>
    simp only [step]
    split
    · rename_i hrunning
      unfold recordFailure
      split
      · rename_i row hrow
        split
        · exact .failed i now error message row hrunning hrow
        · exact .unmatched i now error message
      · exact .unmatched i now error message
    · exact .skip _

/-! ## A recorded success is final -/

/-- No callback raises after its operation's row was recorded as
succeeded. -/
def NoLateFailure (x : OperationState) : OperationMove → Prop
  | .fail i _ _ _ => x.phase i = .running →
      ∀ row, x.table.get? (rowKey args i) = some row → row.status ≠ .succeeded
  | _ => True

variable {x y : OperationState} {m : OperationMove} {row : OperationRow}

theorem OperationEffect.succeeded_kept (h : OperationEffect backend args x m y)
    (hguard : NoLateFailure args x m) {key : String × String} (hrow : x.table.get? key = some row)
    (hstatus : row.status = .succeeded) : y.table.get? key = some row := by
  cases h with
  | claimed i now new _ hold _ =>
    have hne : rowKey args i ≠ key := fun heq => (hold row (heq ▸ hrow)).1 hstatus
    exact (get?_set_ne _ _ hne).trans hrow
  | recorded i now result old _ hold hstarted =>
    have hne : rowKey args i ≠ key := by
      intro heq
      rw [heq, hrow] at hold
      cases hold
      rw [hstatus] at hstarted
      cases hstarted
    exact (get?_set_ne _ _ hne).trans hrow
  | failed i now error message old hrunning hold =>
    have hne : rowKey args i ≠ key := fun heq => hguard hrunning row (heq ▸ hrow) hstatus
    exact (get?_set_ne _ _ hne).trans hrow
  | _ => exact hrow

theorem OperationEffect.sameIntent_kept (h : OperationEffect backend args x m y) {k : Nat}
    (hrow : x.table.get? (rowKey args k) = some row) (hk : SameIntent backend args k row) :
    ∃ new, y.table.get? (rowKey args k) = some new ∧ SameIntent backend args k new := by
  cases h with
  | claimed i now new _ hold hnew =>
    by_cases heq : rowKey args i = rowKey args k
    · have hi := (hold row (heq ▸ hrow)).2
      refine ⟨new, heq ▸ get?_set_self _ _ _, ?_, ?_⟩
      · rw [hnew.1, ← hi.1, hk.1]
      · rw [hnew.2, ← hi.2, hk.2]
    · exact ⟨row, (get?_set_ne _ _ heq).trans hrow, hk⟩
  | recorded i now result old _ hold _ | failed i now error message old _ hold =>
    by_cases heq : rowKey args i = rowKey args k
    · rw [heq, hrow] at hold
      cases hold
      rw [← heq]
      exact ⟨_, get?_set_self _ _ _, hk.1, hk.2⟩
    · exact ⟨row, (get?_set_ne _ _ heq).trans hrow, hk⟩
  | _ => exact ⟨row, hrow, hk⟩

/-- The rows of the callers that are past their first block. -/
structure Claimed (x : OperationState) : Prop where
  running : ∀ i, x.phase i = .running → Admissible args i ∧
    ∃ row, x.table.get? (rowKey args i) = some row ∧ SameIntent backend args i row
  completed : ∀ i result, x.phase i = .completed result → Admissible args i ∧
    ∃ row, x.table.get? (rowKey args i) = some row ∧ SameIntent backend args i row ∧
      row.status = .succeeded ∧ row.response = some (backend.jsonSafe result)

theorem claimed_init : Claimed backend args .init :=
  ⟨fun i h => by simp [OperationState.init] at h,
   fun i result h => by simp [OperationState.init] at h⟩

theorem Claimed.others (hx : Claimed backend args x) (hguard : NoLateFailure args x m)
    (h : OperationEffect backend args x m y) :
    (∀ k, x.phase k = .running → Admissible args k ∧
      ∃ row, y.table.get? (rowKey args k) = some row ∧ SameIntent backend args k row) ∧
    (∀ k result, x.phase k = .completed result → Admissible args k ∧
      ∃ row, y.table.get? (rowKey args k) = some row ∧ SameIntent backend args k row ∧
        row.status = .succeeded ∧ row.response = some (backend.jsonSafe result)) := by
  refine ⟨?_, ?_⟩
  · intro k hk
    obtain ⟨hadmissible, row, hrow, hsame⟩ := hx.running k hk
    exact ⟨hadmissible, h.sameIntent_kept backend args hrow hsame⟩
  · intro k result hk
    obtain ⟨hadmissible, row, hrow, hsame, hstatus, hresponse⟩ := hx.completed k result hk
    exact ⟨hadmissible, row, h.succeeded_kept backend args hguard hrow hstatus, hsame, hstatus,
      hresponse⟩

theorem Claimed.effect (hx : Claimed backend args x) (hguard : NoLateFailure args x m)
    (h : OperationEffect backend args x m y) : Claimed backend args y := by
  obtain ⟨hrunning, hcompleted⟩ := hx.others backend args hguard h
  cases h with
  | skip => exact hx
  | refused i now e | replayed i now response | lost i now result e
  | failed i now error message row _ _ | unmatched i now error message =>
    exact ⟨fun k hk => hrunning k (phase_of_update hk (by simp)).2,
      fun k r hk => hcompleted k r (phase_of_update hk (by simp)).2⟩
  | claimed i now row hadmissible _ hrow =>
    refine ⟨fun k hk => ?_, fun k r hk => hcompleted k r (phase_of_update hk (by simp)).2⟩
    by_cases hki : k = i
    · subst hki
      exact ⟨hadmissible, row, get?_set_self _ _ _, hrow⟩
    · exact hrunning k (phase_update_ne hk hki)
  | recorded i now result row hi hrow _ =>
    refine ⟨fun k hk => hrunning k (phase_of_update hk (by simp)).2, fun k r hk => ?_⟩
    by_cases hki : k = i
    · subst hki
      simp only [Function.update_self, CallPhase.completed.injEq] at hk
      subst hk
      obtain ⟨hadmissible, old, hold, hsame⟩ := hx.running k hi
      rw [hrow] at hold
      cases hold
      exact ⟨hadmissible, _, get?_set_self _ _ _, hsame, rfl, rfl⟩
    · exact hcompleted k r (phase_update_ne hk hki)

/-- A caller that finds its row succeeded returns the recorded response. -/
theorem begin_replays {j : Nat} (now : Int) (hidle : x.phase j = .idle)
    (hadmissible : Admissible args j) (hrow : x.table.get? (rowKey args j) = some row)
    (hsame : SameIntent backend args j row) (hstatus : row.status = .succeeded) :
    (backend.step args x (.begin j now)).phase j = .replayed (row.response.getD .none) := by
  have hclaim : backend.claim x.table (args j) now =
      (.ok (some (row.response.getD .none)), x.table) := by
    unfold rowKey at hrow
    simp [claim, hadmissible.1, hadmissible.2, hrow, hsame.1, hsame.2, hstatus]
  simp [step, hidle, hclaim, phaseOf]

/-- **A recorded success is final.** In every interleaving in which no
callback raises after its operation's row was recorded as succeeded: once a
caller has recorded its success, every later caller with the same tenant,
key, operation and intent returns the recorded response, and so starts no
callback. -/
theorem succeeded_operation_final (pre post : List OperationMove)
    (hg : Guarded (backend.step args) (NoLateFailure args) .init (pre ++ post))
    (i : Nat) (result : Value) (hdone : (run (backend.step args) .init pre).phase i =
      .completed result)
    (j : Nat) (now : Int) (hsame : args j = args i)
    (hidle : (run (backend.step args) .init (pre ++ post)).phase j = .idle) :
    (backend.step args (run (backend.step args) .init (pre ++ post)) (.begin j now)).phase j =
      .replayed (backend.jsonSafe result) := by
  obtain ⟨hpre, hpost⟩ := (guarded_append _ _ _).mp hg
  have hclaimed : Claimed backend args (run (backend.step args) .init pre) :=
    guarded_invariant (P := Claimed backend args)
      (fun x m hguard hx => hx.effect backend args hguard (step_operationEffect backend args x m))
      pre .init hpre (claimed_init backend args)
  obtain ⟨hadmissible, row, hrow, hintent, hstatus, hresponse⟩ := hclaimed.completed i result hdone
  have hkept : (run (backend.step args) .init (pre ++ post)).table.get? (rowKey args i) =
      some row := by
    rw [run_append]
    exact guarded_invariant
      (P := fun x : OperationState => x.table.get? (rowKey args i) = some row)
      (fun x m hguard hx => (step_operationEffect backend args x m).succeeded_kept backend args
        hguard hx hstatus) post _ hpost hrow
  have hreplay := begin_replays backend args now hidle (by simpa [Admissible, hsame])
    (by simpa [rowKey, hsame] using hkept) (by simpa [SameIntent, hsame] using hintent) hstatus
  rwa [hresponse] at hreplay

/-- Every caller makes the same request, with a lease of two minutes. -/
def sampleBackend : OperationBackend := ⟨.plain, id, 120000000, by decide⟩

def sampleArgs (_ : Nat) : OperationArgs :=
  ⟨"tenant-one", "operation-0001", "plan.validate", [("version", .int 1)]⟩

/-- Caller 0 fails, and caller 2 takes over from caller 1, whose lease expires. -/
def takenOver : List OperationMove :=
  [.begin 0 0, .fail 0 1 (.runtimeError "timeout") "RuntimeError: timeout", .begin 1 2,
    .begin 2 120000002, .succeed 2 120000003 (.str "done")]

theorem succeeded_operation_final_sampleArgs :
    (sampleBackend.step sampleArgs (run (sampleBackend.step sampleArgs) .init
      (takenOver ++ [.succeed 1 120000004 (.str "late")])) (.begin 3 120000005)).phase 3 =
        .replayed (.str "done") := by
  refine succeeded_operation_final sampleBackend sampleArgs takenOver _ ?_ 2 (.str "done") rfl 3
    120000005 rfl rfl
  refine ⟨trivial, fun _ row hrow => ?_, trivial, trivial, trivial, trivial, trivial⟩
  cases hrow
  decide

/-- Caller 0's lease expires, caller 1 takes the operation over and succeeds. -/
def expiredLease : List OperationMove :=
  [.begin 0 0, .begin 1 120000000, .succeed 1 120000001 (.str "done")]

/-- Then caller 0's callback raises. -/
def lateFailure : List OperationMove :=
  expiredLease ++ [.fail 0 120000002 (.runtimeError "timeout") "RuntimeError: timeout"]

/-- Caller 2 runs the callback again. -/
theorem succeeded_operation_restarted :
    ¬ ((run (sampleBackend.step sampleArgs) .init expiredLease).phase 1 =
        .completed (.str "done") →
      (sampleBackend.step sampleArgs (run (sampleBackend.step sampleArgs) .init lateFailure)
        (.begin 2 120000003)).phase 2 = .replayed (.str "done")) := by
  intro h
  have hrunning : (sampleBackend.step sampleArgs (run (sampleBackend.step sampleArgs) .init
      lateFailure) (.begin 2 120000003)).phase 2 = .running := rfl
  rw [h rfl] at hrunning
  cases hrunning

end ComputeWeaver.Persistence
