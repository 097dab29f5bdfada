/-
Approval.BackendTheorems — the two backends of the approval
workflow side by side.

`Mirrors` relates their states: the row of a request has its fields, and its
votes are in the order in which they were cast. `Portable` is what a call must
meet for the two to agree on it. Its first part names what Postgres does not
keep: an empty tenant, NUL characters, naive times, counts of more than 32 bits,
an order of texts other than by code point. The rest are differences in the
backends themselves:

* ids are global in memory, and belong to a tenant on Postgres;
* a request that is created again after its votes differs from the stored one
  in memory, and not on Postgres;
* the status EXPIRED is kept in memory, and rolled back on Postgres;
* votes are read in the order cast in memory, by their times on Postgres.
-/
import ComputeWeaver.Approval.PostgresWorkflow

namespace ComputeWeaver.Approval

open Lib Risk Persistence ApprovalTables Dict ApprovalWorkflow List

/-! ## Both backends -/

structure Backends where
  memory : ApprovalWorkflow
  tables : ApprovalTables

namespace Backends

def empty : Backends := ⟨.empty, .empty⟩

def step (session : Session) (x : Backends) (call : WorkflowCall) : Backends where
  memory := (x.memory.serve call).2
  tables := (x.tables.serve session call).2

end Backends

/-- Both calls return equal requests, or both raise errors of one class. -/
def SameOutcome : WorkflowOutcome → WorkflowOutcome → Prop
  | .ok requests, .ok requests' => requests = requests'
  | .error e, .error e' => e.className = e'.className
  | _, _ => False

def WorkflowCall.Fresh : WorkflowCall → Prop
  | .create request => request.status = .pending ∧ request.approvals = []
  | _ => True

/-- What a request asks for, as it was when nobody had voted. -/
def ApprovalRequest.unvoted (request : ApprovalRequest) : ApprovalRequest :=
  { request with approvals := [], status := .pending }

def OwnId (w : ApprovalWorkflow) (tenantId requestId : String) : Prop :=
  ∀ existing, w.requests.get? requestId = some existing → existing.tenantId = tenantId

/-- What a call must meet for the two backends to agree on it. -/
def Portable (session : Session) (x : Backends) : WorkflowCall → Prop
  | .create request =>
      PlainTexts request.tenantId [request.id, request.planId, request.requestedBy] ∧
      (∀ role ∈ request.requiredRoles, hasNul role = false) ∧
      request.expiresAt.isNaive = false ∧ request.requiredCount ≤ 2147483647 ∧
      OwnId x.memory request.tenantId request.id ∧
      ∀ existing, x.memory.requests.get? request.id = some existing →
        existing.unvoted = request → existing = request
  | .approve requestId actorId role now tenantId =>
      PlainTexts tenantId [requestId, actorId] ∧ OwnId x.memory tenantId requestId ∧
      ∀ existing, x.memory.requests.get? requestId = some existing →
        (existing.status = .pending → now.ge existing.expiresAt ≠ .ok true) ∧
        (existing.approvals.any (fun vote => vote.1 = actorId) = false →
          ∀ vote ∈ x.tables.voteRows tenantId requestId, voteOrder session vote
            ((tenantId, requestId, actorId), ⟨role, .approved, now.micros⟩) = true)
  | .reject requestId tenantId =>
      PlainTexts tenantId [requestId] ∧ OwnId x.memory tenantId requestId
  | .modify requestId actorId _ requiredRoles requiredCount tenantId =>
      PlainTexts tenantId [requestId, actorId] ∧
      (∀ role ∈ requiredRoles, hasNul role = false) ∧ requiredCount ≤ 2147483647 ∧
      OwnId x.memory tenantId requestId
  | .get requestId tenantId => PlainTexts tenantId [requestId] ∧ OwnId x.memory tenantId requestId
  | .list tenantId =>
      PlainTexts tenantId [] ∧
      ∀ id request id' request', x.memory.requests.get? id = some request →
        x.memory.requests.get? id' = some request' → request.tenantId = tenantId →
        request'.tenantId = tenantId → session.collate id id' = decide (id ≤ id')

/-! ## What the states have in common -/

def rowOf (request : ApprovalRequest) : ApprovalRow where
  planId := request.planId
  risk := request.risk
  requestedBy := request.requestedBy
  expiresAt := request.expiresAt.micros
  requiredRoles := request.requiredRoles
  requiredCount := request.requiredCount
  status := request.status

@[simp] theorem rowOf_status (request : ApprovalRequest) :
    (rowOf request).status = request.status := rfl

def requestAt (w : ApprovalWorkflow) (tenantId requestId : String) : Option ApprovalRequest :=
  (w.requests.get? requestId).filter fun request => request.tenantId = tenantId

structure Mirrors (session : Session) (x : Backends) : Prop where
  rows : ∀ tenantId requestId, x.tables.approvals.get? (tenantId, requestId) =
    (requestAt x.memory tenantId requestId).map rowOf
  named : ∀ requestId request, x.memory.requests.get? requestId = some request →
    request.id = requestId
  plain : ∀ requestId request, x.memory.requests.get? requestId = some request →
    hasNul requestId = false
  aware : ∀ requestId request, x.memory.requests.get? requestId = some request →
    request.expiresAt.isNaive = false
  votes : ∀ tenantId requestId,
    (x.tables.voteRows tenantId requestId).map (fun vote => (vote.1.2.2, vote.2.role)) =
      ((requestAt x.memory tenantId requestId).map ApprovalRequest.approvals).getD []
  cast : ∀ vote ∈ x.tables.votes.entries, vote.2.decision = .approved
  ordered : ∀ tenantId requestId, (x.tables.voteRows tenantId requestId).Pairwise
    fun a b => voteOrder session a b = true

section

variable {session : Session} {x : Backends} {tenantId requestId : String}

theorem mirrors_empty : Mirrors session .empty where
  rows := fun _ _ => rfl
  named := fun _ _ h => by cases h
  plain := fun _ _ h => by cases h
  aware := fun _ _ h => by cases h
  votes := fun _ _ => rfl
  cast := fun _ h => by cases h
  ordered := fun _ _ => .nil

theorem OwnId.requestAt (h : OwnId x.memory tenantId requestId) :
    requestAt x.memory tenantId requestId = x.memory.requests.get? requestId := by
  unfold Approval.requestAt
  cases hget : x.memory.requests.get? requestId with
  | none => rfl
  | some request => simp [Option.filter, h request hget]

theorem OwnId.requestAt_some (h : OwnId x.memory tenantId requestId)
    (hget : x.memory.requests.get? requestId = some request) :
    Approval.requestAt x.memory tenantId requestId = some request :=
  h.requestAt.trans hget

variable {t expiresAt now : DateTime} {n requiredCount : Int} {risk : RiskLevel}
  {requiredRoles : Finset String} {role : String}

theorem instant_of_aware (h : t.isNaive = false) : session.instant t = t.micros := by
  cases t with
  | naive micros => cases h
  | aware micros => rfl

theorem aware_micros (h : t.isNaive = false) : .aware t.micros = t := by
  cases t with
  | naive micros => cases h
  | aware micros => rfl

theorem Mirrors.approvedRows (h : Mirrors session x) (tenantId requestId : String) :
    x.tables.approvedRows tenantId requestId = x.tables.voteRows tenantId requestId := by
  refine filter_eq_self.mpr fun vote hvote => ?_
  exact decide_eq_true (h.cast vote (mem_of_mem_filter hvote))

variable {request : ApprovalRequest} {texts : List String} {tables : ApprovalTables}
  {actorId : String}

theorem Mirrors.approvalsOf (h : Mirrors session x)
    (hrequest : requestAt x.memory tenantId requestId = some request) :
    x.tables.approvalsOf session tenantId requestId = request.approvals := by
  have hvotes := h.votes tenantId requestId
  rw [hrequest, Option.map_some, Option.getD_some] at hvotes
  rw [ApprovalTables.approvalsOf, h.approvedRows, pySorted,
    List.Pairwise.insertionSort_eq (h.ordered tenantId requestId), hvotes]

theorem Mirrors.requestOf (h : Mirrors session x)
    (hrequest : requestAt x.memory tenantId requestId = some request) :
    x.tables.requestOf session tenantId requestId (rowOf request) = request := by
  obtain ⟨hget, htenant⟩ := Option.filter_eq_some_iff.mp hrequest
  have haware := aware_micros (h.aware requestId request hget)
  rw [ApprovalTables.requestOf, h.approvalsOf hrequest]
  simp only [rowOf, haware, ← h.named requestId request hget, ← of_decide_eq_true htenant]

/-! ### Reading -/

theorem requireTenant_ok (h : PlainTexts tenantId texts) : requireTenant tenantId = .ok () := by
  rw [requireTenant, if_neg h.1]
  rfl

theorem Mirrors.get (h : Mirrors session x) (hplain : PlainTexts tenantId texts)
    (hid : requestId ∈ texts) :
    x.tables.get session requestId tenantId =
      (requestAt x.memory tenantId requestId).elim (.error (.keyError requestId)) .ok := by
  rw [ApprovalTables.get, requireTenant_ok hplain, checkTenant_ok hplain,
    checkText_ok requestId hplain hid, ok_bind, ok_bind, ok_bind, h.rows]
  cases hrequest : requestAt x.memory tenantId requestId with
  | none => rfl
  | some request =>
    rw [Option.map_some]
    exact congrArg Except.ok (h.requestOf hrequest)

/-! ### Writing -/

theorem requestAt_store (w : ApprovalWorkflow) (request : ApprovalRequest) (t id : String) :
    requestAt (w.store requestId request) t id =
      if requestId = id then (if request.tenantId = t then some request else none)
      else requestAt w t id := by
  unfold requestAt
  rw [store_requests_get?]
  split
  · simp [Option.filter]
  · rfl

theorem OwnId.other (h : OwnId x.memory tenantId requestId) {t : String} (hne : tenantId ≠ t) :
    Approval.requestAt x.memory t requestId = none := by
  refine Option.filter_eq_none_iff.mpr fun existing hget => ?_
  simpa [h existing hget] using hne

theorem Mirrors.update (h : Mirrors session x) (hid : request.id = requestId)
    (hplain : hasNul requestId = false) (htenant : request.tenantId = tenantId)
    (haware : request.expiresAt.isNaive = false) (hown : OwnId x.memory tenantId requestId)
    {added : List ((String × String × String) × VoteRow)}
    (hrows : tables.approvals = x.tables.approvals.set (tenantId, requestId) (rowOf request))
    (hadded : ∀ t id, tables.voteRows t id = x.tables.voteRows t id ++
      if (tenantId, requestId) = (t, id) then added else [])
    (hvotes : request.approvals =
      ((x.memory.requests.get? requestId).map ApprovalRequest.approvals).getD [] ++
        added.map fun vote => (vote.1.2.2, vote.2.role))
    (hcast : ∀ vote ∈ tables.votes.entries, vote.2.decision = .approved)
    (hordered : (x.tables.voteRows tenantId requestId ++ added).Pairwise
      fun a b => voteOrder session a b = true) :
    Mirrors session ⟨x.memory.store requestId request, tables⟩ where
  rows := by
    intro t id
    rw [hrows, get?_set, requestAt_store, h.rows, htenant]
    by_cases hkey : requestId = id
    · subst hkey
      by_cases ht : tenantId = t
      · subst ht
        simp
      · simp [ht, hown.other ht]
    · simp [hkey]
  named := by
    intro id other hget
    rw [store_requests_get?] at hget
    split at hget
    · cases hget
      exact hid.trans ‹_›
    · exact h.named id other hget
  plain := by
    intro id other hget
    rw [store_requests_get?] at hget
    split at hget
    · rename_i heq
      exact heq ▸ hplain
    · exact h.plain id other hget
  aware := by
    intro id other hget
    rw [store_requests_get?] at hget
    split at hget
    · cases hget
      exact haware
    · exact h.aware id other hget
  votes := by
    intro t id
    rw [hadded, map_append, h.votes, requestAt_store, htenant]
    by_cases hkey : requestId = id
    · subst hkey
      by_cases ht : tenantId = t
      · subst ht
        rw [hown.requestAt]
        simp [hvotes]
      · simp [ht, hown.other ht]
    · simp [hkey]
  cast := hcast
  ordered := by
    intro t id
    rw [hadded]
    split
    · rename_i heq
      cases heq
      exact hordered
    · rw [append_nil]
      exact h.ordered t id

theorem Mirrors.store (h : Mirrors session x) (hid : request.id = requestId)
    (hplain : hasNul requestId = false) (htenant : request.tenantId = tenantId)
    (haware : request.expiresAt.isNaive = false) (hown : OwnId x.memory tenantId requestId)
    (hvotes : request.approvals =
      ((x.memory.requests.get? requestId).map ApprovalRequest.approvals).getD []) :
    Mirrors session ⟨x.memory.store requestId request,
      x.tables.setRow tenantId requestId (rowOf request)⟩ := by
  have hadded : ∀ t id, (x.tables.setRow tenantId requestId (rowOf request)).voteRows t id =
      x.tables.voteRows t id ++ if (tenantId, requestId) = (t, id) then [] else [] := by
    intro t id
    simp only [ite_self, append_nil]
    rfl
  exact h.update hid hplain htenant haware hown rfl hadded (by simpa using hvotes) h.cast
    (by simpa using h.ordered tenantId requestId)

theorem voteRows_addVote {vote : VoteRow}
    (hnew : tables.votes.get? (tenantId, requestId, actorId) = none) (t id : String) :
    (tables.addVote tenantId requestId actorId vote).voteRows t id = tables.voteRows t id ++
      if (tenantId, requestId) = (t, id) then [((tenantId, requestId, actorId), vote)] else [] := by
  rw [voteRows, addVote, entries_set_of_none hnew, filter_append]
  congr 1
  by_cases ht : tenantId = t <;> by_cases hid : requestId = id <;> simp [ht, hid]

theorem Mirrors.voted_iff (h : Mirrors session x)
    (hrequest : requestAt x.memory tenantId requestId = some request) (actorId : String) :
    (x.tables.votes.get? (tenantId, requestId, actorId)).isSome =
      request.approvals.any fun vote => vote.1 = actorId := by
  have hvotes := h.votes tenantId requestId
  rw [hrequest, Option.map_some, Option.getD_some] at hvotes
  rw [← hvotes, any_map, Bool.eq_iff_iff, any_eq_true, Option.isSome_iff_exists]
  constructor
  · rintro ⟨vote, hvote⟩
    refine ⟨((tenantId, requestId, actorId), vote), ?_, by simp⟩
    exact mem_filter.mpr ⟨mem_entries_iff.mpr hvote, by simp⟩
  · rintro ⟨⟨⟨t, id, actor⟩, vote⟩, hrow, hactor⟩
    obtain ⟨hmem, hkey⟩ := mem_filter.mp hrow
    simp only [Bool.and_eq_true, decide_eq_true_eq] at hkey
    obtain ⟨rfl, rfl⟩ := hkey
    obtain rfl : actor = actorId := by simpa using hactor
    exact ⟨vote, mem_entries_iff.mp hmem⟩

/-! ### Calls -/

def Agrees (session : Session) (x : Backends) (call : WorkflowCall) : Prop :=
  SameOutcome (x.memory.serve call).1 (x.tables.serve session call).1 ∧
    Mirrors session (x.step session call)

theorem tenantConnection_plain {α : Type} (hplain : PlainTexts tenantId texts)
    (hactor : hasNul actorId = false) (tables : ApprovalTables)
    (block : ApprovalTables → Except PyError α × ApprovalTables) :
    tenantConnection tables tenantId actorId block =
      ((block tables).1, if (block tables).1.isOk then (block tables).2 else tables) := by
  rw [tenantConnection, checkTenant_ok hplain, checkText, if_neg (by simp [hactor])]
  rcases block tables with ⟨outcome, tables'⟩
  cases outcome with
  | error e => rfl
  | ok a => rfl

theorem checkRoles_ok {roles : Finset String} (h : ∀ role ∈ roles, hasNul role = false) :
    checkRoles roles = .ok () := by
  rw [checkRoles, if_neg]
  · rfl
  · rintro ⟨role, hrole, hnul⟩
    rw [h role hrole] at hnul
    cases hnul

theorem checkInteger_ok (hlow : 0 ≤ n) (hhigh : n ≤ 2147483647) : checkInteger n = .ok () := by
  rw [checkInteger, if_pos ⟨by omega, hhigh⟩]
  rfl

theorem nonneg_of_minimum (h : ¬ n < ApprovalWorkflow.minimum risk) : 0 ≤ n := by
  unfold ApprovalWorkflow.minimum at h
  split at h
  · omega
  · split at h <;> omega

theorem sameRequest_rowOf {existing : ApprovalRequest} (hid : existing.id = request.id)
    (htenant : existing.tenantId = request.tenantId) (haware : existing.expiresAt.isNaive = false)
    (hstatus : request.status = .pending) (happrovals : request.approvals = []) :
    sameRequest (rowOf existing) request = decide (existing.unvoted = request) := by
  rw [Bool.eq_iff_iff, decide_eq_true_iff]
  obtain ⟨id, planId, tenant, risk, requestedBy, expiresAt, roles, count, approvals, status⟩ :=
    request
  cases hstatus
  cases happrovals
  simp only [sameRequest, Bool.and_eq_true, decide_eq_true_eq]
  simp [ApprovalRequest.unvoted, rowOf, aware_micros haware, hid, htenant, and_assoc]

theorem Mirrors.create (h : Mirrors session x) (hfresh : (WorkflowCall.create request).Fresh)
    (hportable : Portable session x (.create request)) : Agrees session x (.create request) := by
  obtain ⟨hplain, hroles, haware, hcount, hown, hsame⟩ := hportable
  obtain ⟨hstatus, happrovals⟩ := hfresh
  have hactor : hasNul request.requestedBy = false := hplain.2 _ (by simp)
  simp only [Agrees, Backends.step, ApprovalWorkflow.serve, ApprovalTables.serve,
    ApprovalWorkflow.create, ApprovalTables.create]
  split
  · exact ⟨rfl, h⟩
  rename_i hminimum
  split
  · exact ⟨rfl, h⟩
  rw [tenantConnection_plain hplain hactor, createBlock, checkText_ok request.id hplain (by simp),
    checked_ok, h.rows, hown.requestAt]
  cases hget : x.memory.requests.get? request.id with
  | some existing =>
    have hid := h.named _ _ hget
    simp only [Option.map_some, sameRequest_rowOf hid (hown existing hget) (h.aware _ _ hget)
      hstatus happrovals, decide_eq_true_eq]
    by_cases heq : existing = request
    · have hunvoted : existing.unvoted = request := by
        rw [heq, ApprovalRequest.unvoted, ← hstatus, ← happrovals]
      rw [if_pos heq, if_pos hunvoted]
      exact ⟨rfl, h⟩
    · rw [if_neg heq, if_neg (fun hunvoted => heq (hsame existing hget hunvoted))]
      exact ⟨rfl, h⟩
  | none =>
    have hchecks : (do
        checkText request.planId
        checkRoles request.requiredRoles
        checkInteger request.requiredCount) = .ok () := by
      rw [checkText_ok request.planId hplain (by simp), checkRoles_ok hroles,
        checkInteger_ok (nonneg_of_minimum hminimum) hcount]
      rfl
    simp only [Option.map_none, hchecks, checked_ok]
    refine ⟨rfl, ?_⟩
    have hrow : newRow session request = rowOf request := by
      rw [newRow, instant_of_aware haware, rowOf]
    show Mirrors session ⟨x.memory.store request.id request,
      x.tables.setRow request.tenantId request.id (newRow session request)⟩
    rw [hrow]
    exact h.store rfl (hplain.2 _ (by simp)) rfl haware hown (by rw [hget, happrovals]; rfl)

/-- A call on a stored request, in memory and as a block of statements. -/
inductive SameStep (session : Session) (x : Backends) (tenantId requestId : String) :
    Except PyError ApprovalRequest × ApprovalWorkflow →
      Except PyError (Option ApprovalRequest) × ApprovalTables → Prop
  | raised {e e' : PyError} {tables : ApprovalTables} (h : e.className = e'.className) :
      SameStep session x tenantId requestId (.error e, x.memory) (.error e', tables)
  | stored {request : ApprovalRequest} {tables : ApprovalTables}
      (htenant : request.tenantId = tenantId)
      (h : Mirrors session ⟨x.memory.store requestId request, tables⟩) :
      SameStep session x tenantId requestId
        (.ok request, x.memory.store requestId request) (.ok none, tables)
  | found {request : ApprovalRequest} {read : Option ApprovalRequest}
      (h : requestAt x.memory tenantId requestId = some request)
      (hread : ∀ other, read = some other → other = request) :
      SameStep session x tenantId requestId (.ok request, x.memory) (.ok read, x.tables)

theorem SameStep.call {memory : Except PyError ApprovalRequest × ApprovalWorkflow}
    {block : ApprovalTables → Except PyError (Option ApprovalRequest) × ApprovalTables}
    (hstep : SameStep session x tenantId requestId memory (block x.tables))
    (hplain : PlainTexts tenantId texts) (hid : requestId ∈ texts) (hactor : hasNul actorId = false)
    (h : Mirrors session x) :
    let tables := checked (requireTenant tenantId) x.tables
      (thenGet session requestId tenantId (tenantConnection x.tables tenantId actorId block))
    SameOutcome (memory.1.map fun request => [request]) (tables.1.map fun request => [request]) ∧
      Mirrors session ⟨memory.2, tables.2⟩ := by
  have htext : checkText actorId = .ok () := by
    rw [checkText, if_neg (by simp [hactor])]
    rfl
  rw [requireTenant_ok hplain, checked_ok, tenantConnection, checkTenant_ok hplain, htext]
  generalize block x.tables = outcome at hstep
  cases hstep with
  | raised hclass => exact ⟨hclass, h⟩
  | stored htenant hstored =>
    have hread := hstored.get hplain hid
    rw [requestAt_store, if_pos rfl, if_pos htenant] at hread
    refine ⟨?_, hstored⟩
    show SameOutcome _ (Except.map _ (ApprovalTables.get session _ _ _))
    rw [hread]
    rfl
  | found hrequest hread =>
    rename_i request read
    cases read with
    | some other =>
      cases hread other rfl
      exact ⟨rfl, h⟩
    | none =>
      refine ⟨?_, h⟩
      show SameOutcome _ (Except.map _ (ApprovalTables.get session _ _ _))
      rw [h.get hplain hid, hrequest]
      rfl

theorem Mirrors.reject (h : Mirrors session x)
    (hportable : Portable session x (.reject requestId tenantId)) :
    Agrees session x (.reject requestId tenantId) := by
  obtain ⟨hplain, hown⟩ := hportable
  suffices hstep : SameStep session x tenantId requestId (x.memory.reject requestId)
      (rejectBlock requestId tenantId x.tables) from
    hstep.call hplain (mem_singleton_self _) (by decide) h
  rw [ApprovalWorkflow.reject, rejectBlock, checkText_ok requestId hplain (by simp), checked_ok,
    h.rows, hown.requestAt]
  cases hget : x.memory.requests.get? requestId with
  | none => exact .raised rfl
  | some request =>
    have hrequest := hown.requestAt_some hget
    simp only [Option.map_some, rowOf_status]
    by_cases hrejected : request.status = .rejected
    · simp only [hrejected, reduceCtorEq, if_true, if_false, ne_eq, not_true]
      exact .found hrequest (by simp)
    by_cases hpending : request.status = .pending
    · simp only [hpending, reduceCtorEq, if_true, if_false, ne_eq, not_true]
      have hid := h.named _ _ hget
      have haware := h.aware _ _ hget
      have htenant := hown request hget
      have hstored : Mirrors session ⟨x.memory.store requestId { request with status := .rejected },
          x.tables.setRow tenantId requestId (rowOf { request with status := .rejected })⟩ :=
        h.store hid (hplain.2 _ (by simp)) htenant haware hown (by rw [hget]; rfl)
      exact .stored htenant hstored
    · simp only [hrejected, hpending, if_true, if_false, ne_eq, not_false_eq_true]
      exact .raised rfl

theorem Mirrors.voteRows_length (h : Mirrors session x)
    (hrequest : requestAt x.memory tenantId requestId = some request) :
    (x.tables.voteRows tenantId requestId).length = request.approvals.length := by
  have hvotes := congrArg List.length (h.votes tenantId requestId)
  rw [hrequest, Option.map_some, Option.getD_some, length_map] at hvotes
  exact hvotes

theorem nonneg_of_validateModification {status : ApprovalStatus} {requestedBy : String}
    {voteCount : Nat}
    (h : validateModification status requestedBy actorId risk expiresAt
      requiredRoles requiredCount voteCount = .ok ()) :
    0 ≤ requiredCount ∧ expiresAt.isNaive = false := by
  unfold validateModification at h
  iterate 3
    split at h
    · cases h
  rename_i hlow
  split at h
  · cases h
  rename_i haware
  exact ⟨nonneg_of_minimum fun hmin => hlow (.inl hmin), by simpa using haware⟩

theorem Mirrors.modify (h : Mirrors session x)
    (hportable : Portable session x
      (.modify requestId actorId expiresAt requiredRoles requiredCount tenantId)) :
    Agrees session x
      (.modify requestId actorId expiresAt requiredRoles requiredCount tenantId) := by
  obtain ⟨hplain, hroles, hcount, hown⟩ := hportable
  suffices hstep : SameStep session x tenantId requestId
      (x.memory.modify requestId actorId expiresAt requiredRoles requiredCount)
      (modifyBlock session requestId actorId expiresAt requiredRoles requiredCount tenantId
        x.tables)
    from hstep.call hplain (by simp) (hplain.2 actorId (by simp)) h
  rw [ApprovalWorkflow.modify, modifyBlock, checkText_ok requestId hplain (by simp), checked_ok,
    h.rows, hown.requestAt]
  cases hget : x.memory.requests.get? requestId with
  | none => exact .raised rfl
  | some request =>
    have hrequest := hown.requestAt_some hget
    simp only [Option.map_some, rowOf, h.voteRows_length hrequest, checkRoles_ok hroles]
    cases hvalid : validateModification request.status request.requestedBy actorId
        request.risk expiresAt requiredRoles requiredCount request.approvals.length with
    | error e => exact .raised rfl
    | ok _ =>
      obtain ⟨hnonneg, haware⟩ := nonneg_of_validateModification hvalid
      have hid := h.named _ _ hget
      have htenant := hown request hget
      have hstored : Mirrors session
          ⟨x.memory.store requestId { request with expiresAt, requiredRoles, requiredCount },
            x.tables.setRow tenantId requestId
              (rowOf { request with expiresAt, requiredRoles, requiredCount })⟩ :=
        h.store hid (hplain.2 _ (by simp)) htenant haware hown (by rw [hget]; rfl)
      simp only [checkInteger_ok hnonneg hcount, instant_of_aware haware, ok_bind, checked_ok]
      exact .stored htenant hstored

theorem Mirrors.vote (h : Mirrors session x)
    (hget : x.memory.requests.get? requestId = some request)
    (hown : OwnId x.memory tenantId requestId) (hnow : now.isNaive = false)
    (hnew : (x.tables.votes.get? (tenantId, requestId, actorId)).isSome = false)
    (horder : ∀ vote ∈ x.tables.voteRows tenantId requestId, voteOrder session vote
      ((tenantId, requestId, actorId), ⟨role, .approved, now.micros⟩) = true) :
    let approvals := request.approvals ++ [(actorId, role)]
    let status : ApprovalStatus :=
      if request.requiredCount ≤ approvals.length then .approved else .pending
    Mirrors session ⟨x.memory.store requestId { request with approvals, status },
      x.tables.voted session tenantId requestId actorId role now (rowOf request)⟩ := by
  intro approvals status
  rw [Option.isSome_eq_false_iff, Option.isNone_iff_eq_none] at hnew
  have hrequest := hown.requestAt_some hget
  let vote : VoteRow := ⟨role, .approved, now.micros⟩
  have hcast : ∀ other ∈ (x.tables.addVote tenantId requestId actorId vote).votes.entries,
      other.2.decision = .approved := by
    intro other hother
    rw [addVote, entries_set_of_none hnew] at hother
    rcases mem_append.mp hother with hold | hlast
    · exact h.cast other hold
    · cases mem_singleton.mp hlast
      rfl
  have hadded : ∀ t id, (x.tables.addVote tenantId requestId actorId vote).voteRows t id = _ :=
    voteRows_addVote hnew
  have hcount : ((x.tables.addVote tenantId requestId actorId vote).approvedRows tenantId
      requestId).length = approvals.length := by
    rw [ApprovalTables.approvedRows, filter_eq_self.mpr, hadded, if_pos rfl,
      length_append, h.voteRows_length hrequest, length_append]
    · rfl
    · exact fun other hother => decide_eq_true (hcast other (mem_of_mem_filter hother))
  have hordered : (x.tables.voteRows tenantId requestId ++
      [((tenantId, requestId, actorId), vote)]).Pairwise
        fun a b => voteOrder session a b = true := by
    rw [pairwise_append]
    refine ⟨h.ordered tenantId requestId, pairwise_singleton _ _, fun a ha b hb => ?_⟩
    rw [mem_singleton.mp hb]
    exact horder a ha
  let updated := { request with approvals, status }
  have hid : updated.id = requestId := h.named requestId request hget
  have haware : updated.expiresAt.isNaive = false := h.aware requestId request hget
  have htenant : updated.tenantId = tenantId := hown request hget
  have hvoted : x.tables.voted session tenantId requestId actorId role now (rowOf request) =
      (x.tables.addVote tenantId requestId actorId vote).setRow tenantId requestId
        (rowOf updated) := by
    rw [voted, instant_of_aware hnow, hcount]
    rfl
  have hvotes : updated.approvals =
      ((x.memory.requests.get? requestId).map ApprovalRequest.approvals).getD [] ++
        [((tenantId, requestId, actorId), vote)].map fun vote => (vote.1.2.2, vote.2.role) := by
    rw [hget]
    rfl
  rw [hvoted]
  exact h.update hid (h.plain _ _ hget) htenant haware hown rfl hadded hvotes hcast hordered

theorem Mirrors.approve (h : Mirrors session x)
    (hportable : Portable session x (.approve requestId actorId role now tenantId)) :
    Agrees session x (.approve requestId actorId role now tenantId) := by
  obtain ⟨hplain, hown, hexisting⟩ := hportable
  suffices hstep : SameStep session x tenantId requestId
      (x.memory.approve requestId actorId role now)
      (approveBlock session requestId actorId role now tenantId x.tables)
    from hstep.call hplain (by simp) (hplain.2 actorId (by simp)) h
  rw [ApprovalWorkflow.approve, approveBlock, checkText_ok requestId hplain (by simp), checked_ok,
    h.rows, hown.requestAt]
  cases hget : x.memory.requests.get? requestId with
  | none => exact .raised rfl
  | some request =>
    have hrequest := hown.requestAt_some hget
    obtain ⟨hexpired, horder⟩ := hexisting request hget
    have haware := h.aware _ _ hget
    simp only [Option.map_some, rowOf, aware_micros haware]
    by_cases hpending : request.status = .pending
    · rw [if_neg (not_not.mpr hpending), if_neg (not_not.mpr hpending)]
      cases hge : now.ge request.expiresAt with
      | error e => exact .raised rfl
      | ok expired =>
        cases expired with
        | true => exact absurd hge (hexpired hpending)
        | false =>
          dsimp only
          split
          · exact .raised rfl
          split
          · exact .raised rfl
          rw [h.voted_iff hrequest]
          split
          · refine .found hrequest fun other hother => ?_
            exact (Option.some.inj hother).symm.trans (h.requestOf hrequest)
          rename_i hvoted
          have hnew := Bool.eq_false_iff.mpr hvoted
          have hcomparable := (DateTime.ge_eq_ok.mp hge).1
          exact .stored (hown request hget) (h.vote hget hown (hcomparable.trans haware)
            (h.voted_iff hrequest actorId ▸ hnew) (horder hnew))
    · rw [if_pos hpending, if_pos hpending]
      exact .raised rfl

theorem Mirrors.get_call (h : Mirrors session x)
    (hportable : Portable session x (.get requestId tenantId)) :
    Agrees session x (.get requestId tenantId) := by
  obtain ⟨hplain, hown⟩ := hportable
  refine ⟨?_, h⟩
  rw [ApprovalTables.serve, h.get hplain (mem_singleton_self _), hown.requestAt,
    ApprovalWorkflow.serve, ApprovalWorkflow.get, getItem]
  cases x.memory.requests.get? requestId with
  | none => rfl
  | some request => rfl

def entriesOf (w : ApprovalWorkflow) (tenantId : String) : List (String × ApprovalRequest) :=
  w.requests.entries.filter fun entry => entry.2.tenantId = tenantId

theorem mem_entriesOf {w : ApprovalWorkflow} :
    (requestId, request) ∈ entriesOf w tenantId ↔
      requestAt w tenantId requestId = some request := by
  rw [entriesOf, mem_filter, mem_entries_iff, requestAt, Option.filter_eq_some_iff]

def rowIds (tables : ApprovalTables) (tenantId : String) : List String :=
  (tables.approvals.entries.filter fun row => row.1.1 = tenantId).map fun row => row.1.2

theorem mem_rowIds :
    requestId ∈ rowIds tables tenantId ↔
      ∃ row, tables.approvals.get? (tenantId, requestId) = some row := by
  simp only [rowIds, mem_map, mem_filter, decide_eq_true_eq]
  constructor
  · rintro ⟨⟨⟨t, id⟩, row⟩, ⟨hmem, rfl⟩, rfl⟩
    exact ⟨row, mem_entries_iff.mp hmem⟩
  · rintro ⟨row, hget⟩
    exact ⟨((tenantId, requestId), row), ⟨mem_entries_iff.mpr hget, rfl⟩, rfl⟩

theorem nodup_rowIds (tables : ApprovalTables) (tenantId : String) :
    (rowIds tables tenantId).Nodup := by
  have hnodup := (tables.approvals.nodup).of_map
  refine List.Nodup.map_on ?_ (hnodup.filter _)
  rintro ⟨⟨t, id⟩, row⟩ hrow ⟨⟨t', id'⟩, row'⟩ hrow' heq
  obtain ⟨hmem, htenant⟩ := mem_filter.mp hrow
  obtain ⟨hmem', htenant'⟩ := mem_filter.mp hrow'
  obtain rfl : t = tenantId := of_decide_eq_true htenant
  obtain rfl : t' = t := of_decide_eq_true htenant'
  obtain rfl : id = id' := heq
  cases (mem_entries_iff.mp hmem).symm.trans (mem_entries_iff.mp hmem')
  rfl

theorem Mirrors.ids_perm (h : Mirrors session x) (tenantId : String) :
    (rowIds x.tables tenantId).Perm ((entriesOf x.memory tenantId).map Prod.fst) := by
  have hnodup : ((entriesOf x.memory tenantId).map Prod.fst).Nodup :=
    x.memory.requests.nodup.sublist (filter_sublist.map _)
  rw [perm_ext_iff_of_nodup (nodup_rowIds _ _) hnodup]
  intro id
  rw [mem_rowIds, h.rows, mem_map]
  constructor
  · rintro ⟨row, hrow⟩
    obtain ⟨request, hrequest, _⟩ := Option.map_eq_some_iff.mp hrow
    exact ⟨(id, request), mem_entriesOf.mpr hrequest, rfl⟩
  · rintro ⟨⟨id', request⟩, hmem, rfl⟩
    exact ⟨rowOf request, by rw [mem_entriesOf.mp hmem]; rfl⟩

theorem Mirrors.list (h : Mirrors session x) (hportable : Portable session x (.list tenantId)) :
    Agrees session x (.list tenantId) := by
  obtain ⟨hplain, hcollate⟩ := hportable
  refine ⟨?_, h⟩
  let entries := entriesOf x.memory tenantId
  have hentry : ∀ entry ∈ entries, requestAt x.memory tenantId entry.1 = some entry.2 :=
    fun entry hentry => mem_entriesOf.mp hentry
  let sorted := pySorted (fun a b => decide (a.1 ≤ b.1)) entries
  -- in memory the requests are sorted by their ids, which are their keys
  have hmemory : x.memory.list tenantId = sorted.map Prod.snd := by
    have hvalues : (x.memory.requests.entries.map Prod.snd).filter
        (fun request => request.tenantId = tenantId) = entries.map Prod.snd := List.filter_map ..
    rw [ApprovalWorkflow.list, hvalues,
      pySorted_map Prod.snd (fun a b => decide (a.2.id ≤ b.2.id)) _ fun _ _ => rfl]
    refine congrArg _ (pySorted_congr fun a ha b hb => ?_)
    have hid := fun entry he => h.named _ _ (Option.filter_eq_some_iff.mp (hentry entry he)).1
    rw [hid a ha, hid b hb]
  -- Postgres sorts the same ids, in the same order
  have hids : pySorted session.collate (rowIds x.tables tenantId) = sorted.map Prod.fst := by
    have hsame : ∀ a ∈ rowIds x.tables tenantId, ∀ b ∈ rowIds x.tables tenantId,
        session.collate a b = decide (a ≤ b) := by
      intro a ha b hb
      rw [mem_rowIds, h.rows] at ha hb
      obtain ⟨_, ha⟩ := ha
      obtain ⟨_, hb⟩ := hb
      obtain ⟨request, hrequest, _⟩ := Option.map_eq_some_iff.mp ha
      obtain ⟨request', hrequest', _⟩ := Option.map_eq_some_iff.mp hb
      obtain ⟨hget, htenant⟩ := Option.filter_eq_some_iff.mp hrequest
      obtain ⟨hget', htenant'⟩ := Option.filter_eq_some_iff.mp hrequest'
      exact hcollate a request b request' hget hget' (of_decide_eq_true htenant)
        (of_decide_eq_true htenant')
    have hkeys : pySorted (fun a b => decide (a ≤ b)) (entries.map Prod.fst) =
        sorted.map Prod.fst := pySorted_map Prod.fst _ _ (fun _ _ => rfl) entries
    rw [pySorted_congr hsame, ← hkeys]
    exact pySorted_eq_of_perm ((h.ids_perm tenantId).trans (pySorted_perm _ _).symm)
      (pairwise_pySorted _)
  have hread : ∀ entry ∈ sorted, x.tables.get session entry.1 tenantId = .ok entry.2 := by
    intro entry hmem
    have hrequest := hentry entry (mem_pySorted.mp hmem)
    have hnul := h.plain _ _ (Option.filter_eq_some_iff.mp hrequest).1
    have hplain' : PlainTexts tenantId [entry.1] := ⟨hplain.1, by simpa [hnul] using hplain.2⟩
    rw [h.get hplain' (mem_singleton_self _), hrequest]
    rfl
  have htables : x.tables.list session tenantId = .ok (sorted.map Prod.snd) := by
    rw [ApprovalTables.list, checkTenant_ok hplain, ok_bind]
    show (pySorted session.collate (rowIds x.tables tenantId)).mapM _ = _
    rw [hids]
    exact except_mapM_map Prod.snd hread
  show SameOutcome (.ok (x.memory.list tenantId)) (x.tables.list session tenantId)
  rw [hmemory, htables]
  rfl

/-- **One call.** -/
theorem Mirrors.step (h : Mirrors session x) {call : WorkflowCall} (hfresh : call.Fresh)
    (hportable : Portable session x call) : Agrees session x call := by
  cases call with
  | create request => exact h.create hfresh hportable
  | approve requestId actorId role now tenantId => exact h.approve hportable
  | reject requestId tenantId => exact h.reject hportable
  | modify requestId actorId expiresAt requiredRoles requiredCount tenantId =>
    exact h.modify hportable
  | get requestId tenantId => exact h.get_call hportable
  | list tenantId => exact h.list hportable

end

/-! ## Series of calls -/

theorem run_backends (session : Session) (calls : List WorkflowCall) (x : Backends) :
    run (Backends.step session) x calls =
      ⟨run (fun w call => (w.serve call).2) x.memory calls,
        run (fun tables call => (tables.serve session call).2) x.tables calls⟩ := by
  induction calls generalizing x with
  | nil => rfl
  | cons call rest ih => exact ih _

instance (call : WorkflowCall) : Decidable call.Fresh :=
  match call with
  | .create _ => inferInstanceAs (Decidable (_ ∧ _))
  | .approve .. | .reject .. | .modify .. | .get .. | .list .. => isTrue trivial

theorem portable_list_iff (session : Session) (x : Backends) (tenantId : String) :
    Portable session x (.list tenantId) ↔ PlainTexts tenantId [] ∧
      ∀ a ∈ entriesOf x.memory tenantId, ∀ b ∈ entriesOf x.memory tenantId,
        session.collate a.1 b.1 = decide (a.1 ≤ b.1) := by
  refine and_congr_right fun _ => ⟨fun h a ha b hb => ?_, fun h id a id' b ha hb hta htb => ?_⟩
  · obtain ⟨hget, htenant⟩ := Option.filter_eq_some_iff.mp (mem_entriesOf.mp ha)
    obtain ⟨hget', htenant'⟩ := Option.filter_eq_some_iff.mp (mem_entriesOf.mp hb)
    exact h _ _ _ _ hget hget' (of_decide_eq_true htenant) (of_decide_eq_true htenant')
  · exact h (id, a) (mem_entriesOf.mpr (Option.filter_eq_some_iff.mpr ⟨ha, by simpa using hta⟩))
      (id', b) (mem_entriesOf.mpr (Option.filter_eq_some_iff.mpr ⟨hb, by simpa using htb⟩))

instance (w : ApprovalWorkflow) (tenantId requestId : String) :
    Decidable (OwnId w tenantId requestId) :=
  inferInstanceAs (Decidable (∀ existing, _ = some existing → _))

instance (session : Session) (x : Backends) (call : WorkflowCall) :
    Decidable (Portable session x call) :=
  match call with
  | .create _ | .approve .. | .reject .. | .modify .. | .get .. => by
      unfold Portable
      infer_instance
  | .list tenantId => decidable_of_iff _ (portable_list_iff session x tenantId).symm

def sampleCalls : List WorkflowCall :=
  [.create sampleRequest,
   .create sampleRequest,
   .approve "approval-1" "bob" "operator" (.aware 1) "tenant-one",
   .approve "approval-1" "carol" "viewer" (.aware 2) "tenant-one",
   .reject "approval-1" "tenant-one",
   .get "approval-1" "tenant-one",
   .list "tenant-one"]

/-- The request's time is up when a vote comes. -/
def expiredCalls : List WorkflowCall :=
  [.create sampleRequest, .approve "approval-1" "bob" "operator" (.aware 100) "tenant-one"]

end ComputeWeaver.Approval
