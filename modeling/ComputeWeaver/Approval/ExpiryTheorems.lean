/-
Approval.ExpiryTheorems — requests on Postgres whose time is up.

`Wrote` lists what a call can do to a row, with what it has found there, and
`serve_rows` says that it does nothing else. A request is voted on only while
it is pending and before its expiry; the answer "approval expired" leaves it
pending, since the status written with it is rolled back. So it can be approved
afterwards, by a vote with an earlier `now` or after its requester has moved
the expiry.
-/
import ComputeWeaver.Approval.PostgresWorkflow

namespace ComputeWeaver.Approval

open Lib Risk Persistence ApprovalTables

/-! ## What a call writes -/

/-- A call writes this row of a request. -/
inductive Wrote (session : Session) (tables : ApprovalTables) :
    WorkflowCall → String → String → ApprovalRow → Prop
  | created (request : ApprovalRequest) (row : ApprovalRow)
      (habsent : tables.approvals.get? (request.tenantId, request.id) = none) :
      Wrote session tables (.create request) request.tenantId request.id row
  | voted (requestId actorId role : String) (now : DateTime) (tenantId : String)
      (row : ApprovalRow) (status : ApprovalStatus)
      (hrow : tables.approvals.get? (tenantId, requestId) = some row)
      (hpending : row.status = .pending) (hbefore : now.ge (.aware row.expiresAt) = .ok false) :
      Wrote session tables (.approve requestId actorId role now tenantId) tenantId requestId
        { row with status }
  | rejected (requestId tenantId : String) (row : ApprovalRow)
      (hrow : tables.approvals.get? (tenantId, requestId) = some row) :
      Wrote session tables (.reject requestId tenantId) tenantId requestId
        { row with status := .rejected }
  | modified (requestId actorId : String) (expiresAt : DateTime) (requiredRoles : Finset String)
      (requiredCount : Int) (tenantId : String) (row : ApprovalRow)
      (hrow : tables.approvals.get? (tenantId, requestId) = some row)
      (hpending : row.status = .pending) :
      Wrote session tables
        (.modify requestId actorId expiresAt requiredRoles requiredCount tenantId)
        tenantId requestId
        { row with expiresAt := session.instant expiresAt, requiredRoles, requiredCount }

/-- The rows after a call: as they were, or with one of them written. -/
def RowsAfter (session : Session) (tables : ApprovalTables) (call : WorkflowCall)
    (rows : Dict (String × String) ApprovalRow) : Prop :=
  rows = tables.approvals ∨ ∃ tenantId requestId row,
    Wrote session tables call tenantId requestId row ∧
      rows = tables.approvals.set (tenantId, requestId) row

section

variable {session : Session} {tables : ApprovalTables} {call : WorkflowCall}

variable {tenantId actorId requestId : String} {committed : ApprovalTables}
  {a : Option ApprovalRequest}

/-- A transaction leaves the rows as they were unless its block returns. -/
theorem rowsAfter_connection {α : Type} {block : ApprovalTables → Except PyError α × ApprovalTables}
    (h : ∀ a committed, block tables = (.ok a, committed) →
      RowsAfter session tables call committed.approvals) :
    RowsAfter session tables call (tenantConnection tables tenantId actorId block).2.approvals := by
  unfold tenantConnection checked
  split
  · split
    · rename_i a committed hblock
      exact h a committed hblock
    · exact .inl rfl
  · exact .inl rfl

theorem thenGet_snd (requestId tenantId : String)
    (out : Except PyError (Option ApprovalRequest) × ApprovalTables) :
    (thenGet session requestId tenantId out).2 = out.2 := by
  obtain ⟨outcome, tables⟩ := out
  match outcome with
  | .error e => rfl
  | .ok none => rfl
  | .ok (some request) => rfl

/-- The calls that return `self.get(...)`. -/
theorem rowsAfter_thenGet
    {block : ApprovalTables → Except PyError (Option ApprovalRequest) × ApprovalTables}
    (h : ∀ a committed, block tables = (.ok a, committed) →
      RowsAfter session tables call committed.approvals) :
    RowsAfter session tables call (checked (requireTenant tenantId) tables
      (thenGet session requestId tenantId
        (tenantConnection tables tenantId actorId block))).2.approvals := by
  unfold checked
  split
  · rw [thenGet_snd]
    exact rowsAfter_connection h
  · exact .inl rfl

theorem createBlock_eq_ok {request : ApprovalRequest}
    (h : createBlock session request tables = (.ok (), committed)) :
    RowsAfter session tables (.create request) committed.approvals := by
  unfold createBlock checked at h
  split at h
  · split at h
    · split at h
      · cases h
        exact .inl rfl
      · cases h
    · rename_i habsent
      split at h
      · cases h
        exact .inr ⟨_, _, _, .created request _ habsent, rfl⟩
      · cases h
  · cases h

theorem approveBlock_eq_ok {role : String} {now : DateTime}
    (h : approveBlock session requestId actorId role now tenantId tables = (.ok a, committed)) :
    RowsAfter session tables (.approve requestId actorId role now tenantId)
      committed.approvals := by
  unfold approveBlock checked at h
  split at h
  · split at h
    · cases h
    rename_i row hrow
    split at h
    · cases h
    rename_i hpending
    split at h
    · cases h
    · cases h
    rename_i hbefore
    split at h
    · cases h
    split at h
    · cases h
    split at h
    · cases h
      exact .inl rfl
    · cases h
      exact .inr ⟨_, _, _, .voted requestId actorId role now tenantId row _ hrow
        (not_not.mp hpending) hbefore, rfl⟩
  · cases h

theorem rejectBlock_eq_ok (h : rejectBlock requestId tenantId tables = (.ok a, committed)) :
    RowsAfter session tables (.reject requestId tenantId) committed.approvals := by
  unfold rejectBlock checked at h
  split at h
  · split at h
    · cases h
    rename_i row hrow
    split at h
    · cases h
      exact .inr ⟨_, _, _, .rejected requestId tenantId row hrow, rfl⟩
    split at h
    · cases h
    · cases h
      exact .inl rfl
  · cases h

theorem modifyBlock_eq_ok {expiresAt : DateTime} {requiredRoles : Finset String}
    {requiredCount : Int}
    (h : modifyBlock session requestId actorId expiresAt requiredRoles requiredCount tenantId
      tables = (.ok a, committed)) :
    RowsAfter session tables
      (.modify requestId actorId expiresAt requiredRoles requiredCount tenantId)
      committed.approvals := by
  unfold modifyBlock checked at h
  split at h
  · split at h
    · cases h
    rename_i row hrow
    split at h
    · rename_i hchecks
      cases h
      obtain ⟨_, hvalid, _⟩ := bind_eq_ok.mp hchecks
      have hpending : row.status = .pending := by
        unfold ApprovalWorkflow.validateModification at hvalid
        split at hvalid
        · cases hvalid
        · rename_i hstatus
          rw [not_or, not_not] at hstatus
          exact hstatus.1
      exact .inr ⟨_, _, _, .modified requestId actorId expiresAt requiredRoles requiredCount
        tenantId row hrow hpending, rfl⟩
    · cases h
  · cases h

/-- **One call.** -/
theorem serve_rows (session : Session) (tables : ApprovalTables) (call : WorkflowCall) :
    RowsAfter session tables call (tables.serve session call).2.approvals := by
  cases call with
  | create request =>
    show RowsAfter session tables (.create request) (tables.create session request).2.approvals
    unfold create
    split
    · exact .inl rfl
    split
    · exact .inl rfl
    exact rowsAfter_connection fun _ _ => createBlock_eq_ok
  | approve requestId actorId role now tenantId =>
    exact rowsAfter_thenGet fun _ _ => approveBlock_eq_ok
  | reject requestId tenantId => exact rowsAfter_thenGet fun _ _ => rejectBlock_eq_ok
  | modify requestId actorId expiresAt requiredRoles requiredCount tenantId =>
    exact rowsAfter_thenGet fun _ _ => modifyBlock_eq_ok
  | get requestId tenantId => exact .inl rfl
  | list tenantId => exact .inl rfl

end

/-! ## After the answer -/

/-- The call does not come back to a time before `now`: it does not vote on the
request with an earlier time, and does not move its expiry beyond `now`. -/
def NotBefore (session : Session) (tenantId requestId : String) (now : Int) : WorkflowCall → Prop
  | .approve id _ _ now' tenant => tenant = tenantId → id = requestId → now ≤ now'.micros
  | .modify id _ expiresAt _ _ tenant =>
      tenant = tenantId → id = requestId → session.instant expiresAt ≤ now
  | _ => True

instance (session : Session) (tenantId requestId : String) (now : Int) (call : WorkflowCall) :
    Decidable (NotBefore session tenantId requestId now call) :=
  match call with
  | .approve .. | .modify .. => by
      unfold NotBefore
      infer_instance
  | .create .. | .reject .. | .get .. | .list .. => isTrue trivial

def TimeIsUp (tenantId requestId : String) (now : Int) (tables : ApprovalTables) : Prop :=
  ∃ row, tables.approvals.get? (tenantId, requestId) = some row ∧ row.status ≠ .approved ∧
    (row.status = .pending → row.expiresAt ≤ now)

variable {session : Session} {tenantId requestId : String} {now : Int} {tables : ApprovalTables}

theorem TimeIsUp.step {call : WorkflowCall}
    (hcall : NotBefore session tenantId requestId now call)
    (h : TimeIsUp tenantId requestId now tables) :
    TimeIsUp tenantId requestId now (tables.serve session call).2 := by
  obtain ⟨row, hrow, happroved, htime⟩ := h
  rcases serve_rows session tables call with hsame | ⟨tenant, id, written, hwrote, hset⟩
  · exact ⟨row, hsame ▸ hrow, happroved, htime⟩
  by_cases hkey : (tenant, id) = (tenantId, requestId)
  · obtain ⟨rfl, rfl⟩ := Prod.mk.inj hkey
    refine ⟨written, by rw [hset, Dict.get?_set_self], ?_⟩
    cases hwrote with
    | created request _ habsent => cases habsent.symm.trans hrow
    | voted _ actorId role now' _ found status hfound hpending hbefore =>
      -- a vote would need a time before the expiry, which is before `now`
      cases hfound.symm.trans hrow
      obtain ⟨_, hlt⟩ := DateTime.ge_eq_ok.mp hbefore
      have hexpires := htime hpending
      have hnow : now ≤ now'.micros := hcall rfl rfl
      have hge : ¬ row.expiresAt ≤ now'.micros := of_decide_eq_false hlt.symm
      omega
    | rejected _ _ found hfound => exact ⟨by simp, by simp⟩
    | modified _ actorId expiresAt roles count _ found hfound hpending =>
      cases hfound.symm.trans hrow
      exact ⟨happroved, fun _ => hcall rfl rfl⟩
  · exact ⟨row, by rw [hset, Dict.get?_set_ne _ _ hkey, hrow], happroved, htime⟩

/-- **A run.** -/
theorem TimeIsUp.run {calls : List WorkflowCall}
    (hcalls : ∀ call ∈ calls, NotBefore session tenantId requestId now call)
    (h : TimeIsUp tenantId requestId now tables) :
    TimeIsUp tenantId requestId now
      (Lib.run (fun tables call => (tables.serve session call).2) tables calls) := by
  induction calls generalizing tables with
  | nil => exact h
  | cons call rest ih =>
    rw [List.forall_mem_cons] at hcalls
    exact ih hcalls.2 (h.step hcalls.1)

section

variable {session : Session} {tables : ApprovalTables} {requestId tenantId : String}

/-- The answer comes from the block of `approve` alone. -/
theorem requireTenant_ne_expired :
    requireTenant tenantId ≠ .error (.valueError "approval expired") := by
  unfold requireTenant
  split <;> simp [throw, throwThe, MonadExceptOf.throw]

theorem checkTenant_ne_expired :
    checkTenant tenantId ≠ .error (.valueError "approval expired") := by
  unfold checkTenant
  split <;> simp [throw, throwThe, MonadExceptOf.throw]

theorem checkText_ne_expired {text : String} :
    checkText text ≠ .error (.valueError "approval expired") := by
  unfold checkText
  split <;> simp [throw, throwThe, MonadExceptOf.throw]

theorem get_ne_expired :
    tables.get session requestId tenantId ≠ .error (.valueError "approval expired") := by
  intro h
  rcases bind_eq_error.mp h with h | ⟨_, _, h⟩
  · exact requireTenant_ne_expired h
  rcases bind_eq_error.mp h with h | ⟨_, _, h⟩
  · exact checkTenant_ne_expired h
  rcases bind_eq_error.mp h with h | ⟨_, _, h⟩
  · exact checkText_ne_expired h
  split at h <;> cases h

variable {actorId role : String} {now : DateTime}

/-- The answer is given to a pending request whose expiry is not after `now`. -/
theorem approveBlock_expired {left : ApprovalTables}
    (h : approveBlock session requestId actorId role now tenantId tables =
      (.error (.valueError "approval expired"), left)) :
    TimeIsUp tenantId requestId now.micros tables := by
  unfold approveBlock checked at h
  split at h
  · split at h
    · cases h
    rename_i row hrow
    split at h
    · simp at h
    rename_i hpending
    rw [not_not] at hpending
    split at h
    · rename_i e hge
      rw [(Except.error.inj (Prod.mk.inj h).1)] at hge
      unfold DateTime.ge at hge
      split at hge <;> cases hge
    · rename_i hge
      have hexpires := (DateTime.ge_eq_ok.mp hge).2
      exact ⟨row, hrow, by simp [hpending], fun _ => of_decide_eq_true hexpires.symm⟩
    · split at h
      · simp at h
      split at h
      · simp at h
      split at h <;> simp at h
  · rename_i e htext
    rw [Except.error.inj (Prod.mk.inj h).1] at htext
    exact absurd htext checkText_ne_expired

theorem timeIsUp_of_approve
    (h : (tables.approve session requestId actorId role now tenantId).1 =
      .error (.valueError "approval expired")) : TimeIsUp tenantId requestId now.micros tables := by
  unfold approve checked at h
  split at h
  · unfold tenantConnection checked at h
    split at h
    · split at h
      · rename_i a committed hblock
        cases a with
        | none => exact absurd h get_ne_expired
        | some request => cases h
      · rename_i e left hblock
        rw [Except.error.inj h] at hblock
        exact approveBlock_expired hblock
    · rename_i e hchecks
      rw [Except.error.inj h] at hchecks
      rcases bind_eq_error.mp hchecks with htenant | ⟨_, _, htext⟩
      · exact absurd htenant checkTenant_ne_expired
      · exact absurd htext checkText_ne_expired
  · rename_i e hrequire
    rw [Except.error.inj h] at hrequire
    exact absurd hrequire requireTenant_ne_expired

end

/-- **Main result.** Once `approve` has answered "approval expired" at some `now`,
the request is not approved after any further calls that do not come back to a
time before `now`. -/
theorem expired_never_approved (session : Session) (before later : List WorkflowCall)
    (requestId actorId role : String) (now : DateTime) (tenantId : String)
    (hanswer : ((ApprovalTables.after session before).serve session
      (.approve requestId actorId role now tenantId)).1 = .error (.valueError "approval expired"))
    (hlater : ∀ call ∈ later, NotBefore session tenantId requestId now.micros call) :
    ∃ row, (ApprovalTables.after session
      (before ++ .approve requestId actorId role now tenantId :: later)).approvals.get?
        (tenantId, requestId) = some row ∧ row.status ≠ .approved := by
  have happrove : ((after session before).approve session requestId actorId role now
      tenantId).1 = .error (.valueError "approval expired") := by
    rw [serve, Prod.map_fst] at hanswer
    generalize (approve session _ _ _ _ _ _).1 = outcome at hanswer
    cases outcome with
    | error e =>
      cases hanswer
      rfl
    | ok request => cases hanswer
  have hcalls : ∀ call ∈ .approve requestId actorId role now tenantId :: later,
      NotBefore session tenantId requestId now.micros call :=
    List.forall_mem_cons.mpr ⟨fun _ _ => le_refl _, hlater⟩
  have hrun := (timeIsUp_of_approve happrove).run hcalls
  rw [after, ← run_append] at hrun
  obtain ⟨row, hrow, hstatus, _⟩ := hrun
  exact ⟨row, hrow, hstatus⟩

/-- A vote comes too late, and others follow. -/
theorem expired_never_approved_sample :
    ∃ row, (ApprovalTables.after plainSession
      [.create sampleRequest,
       .approve "approval-1" "bob" "operator" (.aware 100) "tenant-one",
       .modify "approval-1" "alice" (.aware 90) {"operator"} 1 "tenant-one",
       .approve "approval-1" "carol" "operator" (.aware 100) "tenant-one"]).approvals.get?
        ("tenant-one", "approval-1") = some row ∧ row.status ≠ .approved :=
  expired_never_approved plainSession [.create sampleRequest]
    [.modify "approval-1" "alice" (.aware 90) {"operator"} 1 "tenant-one",
     .approve "approval-1" "carol" "operator" (.aware 100) "tenant-one"]
    "approval-1" "bob" "operator" (.aware 100) "tenant-one" (by decide +kernel)
    (by decide +kernel)

/-- A vote is answered "approval expired"; the requester moves the expiry, and two
votes approve the request. -/
theorem approved_after_expired :
    let create := WorkflowCall.create sampleRequest
    let late := WorkflowCall.approve "approval-1" "bob" "operator" (.aware 100) "tenant-one"
    let later : List WorkflowCall :=
      [.modify "approval-1" "alice" (.aware 200) {"operator"} 2 "tenant-one",
       .approve "approval-1" "bob" "operator" (.aware 101) "tenant-one",
       .approve "approval-1" "carol" "operator" (.aware 102) "tenant-one"]
    ((after plainSession [create]).serve plainSession late).1 =
      .error (.valueError "approval expired") ∧
    ((after plainSession ([create, late] ++ later)).approvals.get?
      ("tenant-one", "approval-1")).map ApprovalRow.status = some .approved := by
  decide +kernel

end ComputeWeaver.Approval
