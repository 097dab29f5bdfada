/-
Api.CollectionsTheorems — how many success records a resource
has.

Every call of `mutate` that returns appends one record; it has written a version
unless the store answered it from the record of its key (`Replayed`). Records
and versions are therefore equal in number after every prefix of a run exactly
when no call of it is replayed.
-/
import ComputeWeaver.Api.Collections
import ComputeWeaver.Api.StoreTheorems

namespace ComputeWeaver.Api

open Lib Observability ResourceStore List

variable {env : PyEnv} {sha256 : String → String} {x : CollectionState} {call : CollectionWrite}

def isWriteOf (key : String × String × String) (record : AuditRecord) : Bool :=
  record.tenantId = pyStr key.1 ∧ record.action = pyStr (key.2.1 ++ ".write") ∧
    record.resource = pyStr key.2.2 ∧ record.outcome = pyStr "success"

def CollectionState.records (x : CollectionState) (key : String × String × String) :
    List AuditRecord :=
  x.audit.records.filter (isWriteOf key)

/-- As many success records as versions, for every resource. -/
def Exact (x : CollectionState) : Prop := ∀ tenantId kind id,
  (x.records (tenantId, kind, id)).length = (x.store.versionNumbers kind id tenantId).length

def Replayed (env : PyEnv) (x : CollectionState) (call : CollectionWrite) : Prop :=
  (writeBody env call.args x.store).isOk = true ∧
    (x.store.idempotency.get? (call.args.tenantId, call.args.idempotencyKey)).isSome = true

theorem length_versionNumbers {store : ResourceStore} (hc : Consistent store)
    (tenantId kind id : String) : ((store.versionNumbers kind id tenantId).length : Int) =
      lastVersion StoredResource.version store.items (tenantId, kind, id) := by
  have hsorted := hc.sorted_versionNumbers kind id tenantId
  have hlength := congrArg List.length hsorted
  rw [(pySorted_perm _ _).length_eq] at hlength
  rw [hlength, upTo, length_map, length_range]
  exact Int.toNat_of_nonneg (hc.versioned.lastVersion_nonneg _)

theorem isWriteOf_record (key : String × String × String) (previous : PyStr) :
    isWriteOf key (call.record.record sha256 previous) = decide (call.args.key = key) := by
  obtain ⟨tenantId, kind, id⟩ := key
  simp [isWriteOf, AppendCall.record, AuditRecord.sealed, CollectionWrite.record, PutArgs.key,
    pyStr_injective.eq_iff]

theorem length_records_append (key : String × String × String) (store : ResourceStore) :
    (CollectionState.records ⟨store, (x.audit.append sha256 call.record).2⟩ key).length =
      (x.records key).length + if call.args.key = key then 1 else 0 := by
  simp only [CollectionState.records, AuditLog.append, filter_append, length_append,
    filter_cons, isWriteOf_record, decide_eq_true_eq, filter_nil]
  by_cases hkey : call.args.key = key <;> simp [hkey]

/-- **One call.** It raises and changes nothing, is answered from a record with
the store as it was, or writes the next version of its resource. -/
theorem step_cases (env : PyEnv) (sha256 : String → String) (x : CollectionState)
    (call : CollectionWrite) :
    (x.step env sha256 call = x ∧ ¬ Replayed env x call) ∨
    (x.step env sha256 call = ⟨x.store, (x.audit.append sha256 call.record).2⟩ ∧
      Replayed env x call) ∨
    ∃ resource store', x.step env sha256 call =
        ⟨store', (x.audit.append sha256 call.record).2⟩ ∧ ¬ Replayed env x call ∧
      PutEffect env x.store call.args resource store' ∧
      store'.items = x.store.items.set call.args.key resource ∧
      resource.version = lastVersion StoredResource.version x.store.items call.args.key + 1 := by
  cases hwrite : writeBody env call.args x.store with
  | error e =>
    refine .inl ⟨by simp [CollectionState.step, mutate, hwrite], fun h => ?_⟩
    simp [Replayed, hwrite, Except.isOk, Except.toBool] at h
  | ok out =>
    obtain ⟨resource, store'⟩ := out
    have hstep : x.step env sha256 call = ⟨store', (x.audit.append sha256 call.record).2⟩ := by
      simp [CollectionState.step, mutate, hwrite]
    obtain ⟨-, -, hput⟩ := bind_eq_ok.mp hwrite
    have heffect := put_effect hput
    have hcases := heffect
    cases heffect with
    | replayed _ hkey =>
      exact .inr (.inl ⟨hstep, by simp [hwrite, Except.isOk, Except.toBool], by simp [hkey]⟩)
    | stored hkey _ =>
      exact .inr (.inr ⟨_, _, hstep, fun h => by simp [Replayed, hkey] at h, hcases, rfl,
        written_version env⟩)

theorem exact_step (hc : Consistent x.store) (hexact : Exact x) (h : ¬ Replayed env x call) :
    Consistent (x.step env sha256 call).store ∧ Exact (x.step env sha256 call) := by
  rcases step_cases env sha256 x call with
    ⟨hsame, -⟩ | ⟨-, hreplayed⟩ | ⟨resource, store', hstep, -, heffect, hitems, hversion⟩
  · rw [hsame]
    exact ⟨hc, hexact⟩
  · exact absurd hreplayed h
  · rw [hstep]
    have hc' := heffect.consistent hc
    refine ⟨hc', fun tenantId kind id => ?_⟩
    have hbefore := length_versionNumbers hc tenantId kind id
    have hafter := length_versionNumbers hc' tenantId kind id
    have hold := hexact tenantId kind id
    rw [length_records_append]
    show _ = (store'.versionNumbers kind id tenantId).length
    rw [hitems, lastVersion, Dict.get?_set] at hafter
    by_cases hkey : call.args.key = (tenantId, kind, id)
    · rw [if_pos hkey] at hafter ⊢
      rw [hkey] at hversion
      simp only [Option.map_some, Option.getD_some, hversion] at hafter
      omega
    · rw [if_neg hkey, ← lastVersion] at hafter
      rw [if_neg hkey]
      omega

theorem not_replayed_of_exact (hexact : Exact x) (h : Exact (x.step env sha256 call)) :
    ¬ Replayed env x call := by
  intro hreplayed
  rcases step_cases env sha256 x call with ⟨-, hnot⟩ | ⟨hstep, -⟩ | ⟨_, _, -, hnot, -⟩
  · exact hnot hreplayed
  · rw [hstep] at h
    have hbefore := hexact call.args.tenantId call.args.kind call.args.resourceId
    have hafter := h call.args.tenantId call.args.kind call.args.resourceId
    simp only [length_records_append, PutArgs.key, if_true] at hafter
    exact absurd (hafter.trans hbefore.symm) (Nat.succ_ne_self _)
  · exact hnot hreplayed

/-- **Main result.** In a run from the empty store, every resource has as many
success records as versions at every moment exactly when no call is replayed. -/
theorem write_records_iff (env : PyEnv) (sha256 : String → String) (calls : List CollectionWrite) :
    (∀ pre, pre <+: calls → Exact (run (CollectionState.step env sha256) ⟨.empty, .empty⟩ pre)) ↔
      Guarded (CollectionState.step env sha256) (fun x call => ¬ Replayed env x call)
        ⟨.empty, .empty⟩ calls :=
  guarded_iff_of_invariant (I := fun x => Consistent x.store ∧ Exact x)
    (fun _ _ h hnot => exact_step h.1 h.2 hnot) (fun _ h => h.2)
    (fun _ _ h hexact => not_replayed_of_exact h.2 hexact) calls ⟨.empty, .empty⟩
    ⟨consistent_empty, fun _ _ _ => rfl⟩

def repeatedWrite : CollectionWrite where
  args := { kind := "job", resourceId := "job-1", tenantId := "tenant-one", body := []
            idempotencyKey := "request-1" }
  actorId := "alice"
  correlationId := "correlation-1"
  now := wallClock 2026 1 1 0 0 0 0

/-- One version, two success records. -/
theorem repeated_write_recorded_twice :
    let x := run (CollectionState.step .plain id) ⟨.empty, .empty⟩ [repeatedWrite, repeatedWrite]
    (x.records ("tenant-one", "job", "job-1")).length = 2 ∧
      (x.store.versionNumbers "job" "job-1" "tenant-one").length = 1 := by
  decide +kernel

end ComputeWeaver.Api
