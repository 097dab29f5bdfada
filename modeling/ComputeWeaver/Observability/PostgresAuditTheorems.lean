/-
Observability.PostgresAuditTheorems — every tenant's records in
Postgres link up, after any interleaving of appends; in memory they do so only
for a tenant that no other one comes before.

Who appends for a tenant has its advisory lock from before it reads the last
hash until its record is committed, so what it has read is still the last hash
when it commits (`Frame`), and the number of its record, taken under the lock,
is greater than all committed ones.
-/
import ComputeWeaver.Observability.AuditTheorems
import ComputeWeaver.Observability.PostgresAudit
import ComputeWeaver.Lib.Calls

namespace ComputeWeaver.Observability

open Lib AuditTable Function List

/-! ## The rows of a tenant -/

namespace AuditTable

variable {rows : AuditTable} {row : AuditRow} {tenantId : PyStr}

theorem tenantRows_append_self (h : row.record.tenantId = tenantId) :
    tenantRows (rows ++ [row]) tenantId = rows.tenantRows tenantId ++ [row] := by
  simp [tenantRows, filter_append, h]

theorem tenantRows_append_other (h : row.record.tenantId ≠ tenantId) :
    tenantRows (rows ++ [row]) tenantId = rows.tenantRows tenantId := by
  simp [tenantRows, filter_append, h]

def Ordered (rows : AuditTable) (tenantId : PyStr) : Prop :=
  (rows.tenantRows tenantId).Pairwise fun a b => a.sequence < b.sequence

theorem Ordered.tenantRecords_eq (h : rows.Ordered tenantId) :
    rows.tenantRecords tenantId = (rows.tenantRows tenantId).map AuditRow.record := by
  have hsorted : (rows.tenantRows tenantId).Pairwise
      fun a b => decide (a.sequence ≤ b.sequence) = true :=
    h.imp fun hlt => decide_eq_true (Nat.le_of_lt hlt)
  rw [tenantRecords, pySorted, hsorted.insertionSort_eq]

theorem Ordered.append (h : rows.Ordered tenantId) (htenant : row.record.tenantId = tenantId)
    (hlast : ∀ other ∈ rows.tenantRows tenantId, other.sequence < row.sequence) :
    Ordered (rows ++ [row]) tenantId := by
  rw [Ordered, tenantRows_append_self htenant, pairwise_append]
  refine ⟨h, pairwise_singleton _ _, ?_⟩
  intro other hother row' hrow'
  rw [mem_singleton.mp hrow']
  exact hlast other hother

end AuditTable

/-! ## What a transaction relies on -/

section

variable (sha256 : String → String) (lockKey : PyStr → Int)

structure Follows (x : AuditTx) (call : AppendCall) (row : AuditRow) : Prop where
  record : row.record = call.record sha256 (x.rows.previous sha256 call.tenantId)
  fresh : row.sequence < x.nextSequence
  last : ∀ other ∈ x.rows.tenantRows call.tenantId, other.sequence < row.sequence

def Relies (x : AuditTx) (i : Nat) (call : AppendCall) : AuditPhase → Prop
  | .locked => x.advisoryLocks (lockKey call.tenantId) = some i
  | .read previous => x.advisoryLocks (lockKey call.tenantId) = some i ∧
      previous = x.rows.previous sha256 call.tenantId
  | .numbered row =>
      x.advisoryLocks (lockKey call.tenantId) = some i ∧ Follows sha256 x call row
  | .inserted row =>
      x.advisoryLocks (lockKey call.tenantId) = some i ∧ Follows sha256 x call row
  | _ => True

/-- The tenants that a transaction has locked are as they were. -/
structure Frame (j : Nat) (x x' : AuditTx) : Prop where
  sequence : x.nextSequence ≤ x'.nextSequence
  tenants : ∀ tenantId, x.advisoryLocks (lockKey tenantId) = some j →
    x'.advisoryLocks (lockKey tenantId) = some j ∧
      x'.rows.tenantRows tenantId = x.rows.tenantRows tenantId

variable {sha256 lockKey} {x x' : AuditTx} {j : Nat} {call : AppendCall}

theorem previous_congr {rows rows' : AuditTable} {tenantId : PyStr}
    (h : rows'.tenantRows tenantId = rows.tenantRows tenantId) :
    rows'.previous sha256 tenantId = rows.previous sha256 tenantId := by
  rw [previous, previous, tenantRecords, tenantRecords, h]

theorem Follows.frame {row : AuditRow} (hf : Frame lockKey j x x')
    (hlock : x.advisoryLocks (lockKey call.tenantId) = some j) (h : Follows sha256 x call row) :
    Follows sha256 x' call row := by
  have hrows := (hf.tenants _ hlock).2
  refine ⟨?_, Nat.lt_of_lt_of_le h.fresh hf.sequence, ?_⟩
  · rw [previous_congr hrows]
    exact h.record
  · rw [hrows]
    exact h.last

theorem Relies.frame {phase : AuditPhase} (hf : Frame lockKey j x x')
    (h : Relies sha256 lockKey x j call phase) : Relies sha256 lockKey x' j call phase := by
  cases phase with
  | locked => exact (hf.tenants _ h).1
  | read previous =>
    obtain ⟨hlock, hprevious⟩ := h
    obtain ⟨hlock', hrows⟩ := hf.tenants _ hlock
    exact ⟨hlock', hprevious.trans (previous_congr hrows).symm⟩
  | numbered row | inserted row => exact ⟨(hf.tenants _ h.1).1, h.2.frame hf h.1⟩
  | _ => trivial

end

/-! ## The invariant -/

structure Chained (sha256 : String → String) (lockKey : PyStr → Int) (calls : Nat → AppendCall)
    (x : AuditTx) : Prop where
  ordered : ∀ tenantId, x.rows.Ordered tenantId
  below : ∀ row ∈ x.rows, row.sequence < x.nextSequence
  verified : ∀ tenantId,
    (auditLinks sha256).verifyFrom genesis (x.rows.tenantRecords tenantId) = true
  relies : ∀ i, Relies sha256 lockKey x i (calls i) (x.phase i)

/-- A step of call `i` that commits nothing. -/
structure QuietStep (i : Nat) (x x' : AuditTx) : Prop where
  rows : x'.rows = x.rows
  sequence : x.nextSequence ≤ x'.nextSequence
  others : ∀ j, j ≠ i → x'.phase j = x.phase j
  locks : Locks.KeepsOthers i x.advisoryLocks x'.advisoryLocks

section

variable {sha256 : String → String} {lockKey : PyStr → Int} {calls : Nat → AppendCall}
variable {x x' : AuditTx} {i : Nat}

theorem chained_init : Chained sha256 lockKey calls .init where
  ordered _ := List.Pairwise.nil
  below _ h := by cases h
  verified _ := rfl
  relies _ := trivial

namespace Chained

section

variable (h : Chained sha256 lockKey calls x)
include h

theorem quiet (hq : QuietStep i x x') {phase : AuditPhase} (hphase : x'.phase i = phase)
    (hrelies : Relies sha256 lockKey x' i (calls i) phase) : Chained sha256 lockKey calls x' where
  ordered := by
    rw [hq.rows]
    exact h.ordered
  below := by
    rw [hq.rows]
    exact fun row hrow => Nat.lt_of_lt_of_le (h.below row hrow) hq.sequence
  verified := by
    rw [hq.rows]
    exact h.verified
  relies j := by
    by_cases hj : j = i
    · rw [hj, hphase]
      exact hrelies
    have hframe : Frame lockKey j x x' :=
      ⟨hq.sequence, fun _ hlock => ⟨hq.locks _ j hj hlock, by rw [hq.rows]⟩⟩
    rw [hq.others j hj]
    exact (h.relies j).frame hframe

theorem goto {phase : AuditPhase} (hrelies : Relies sha256 lockKey x i (calls i) phase) :
    Chained sha256 lockKey calls (x.goto i phase) := by
  have hframe : Frame lockKey i x (x.goto i phase) :=
    ⟨Nat.le_refl _, fun _ hlock => ⟨hlock, rfl⟩⟩
  exact h.quiet ⟨rfl, Nat.le_refl _, others_update, .refl i _⟩ (update_self ..)
    (hrelies.frame hframe)

theorem finish (i : Nat) (reply : Except PyError AuditRecord) :
    Chained sha256 lockKey calls (x.finish i reply) :=
  h.quiet ⟨rfl, Nat.le_refl _, others_update, Locks.keepsOthers_release _ i⟩
    (update_self ..) trivial

theorem checked {check : Except PyError Unit} {next : AuditTx}
    (hnext : Chained sha256 lockKey calls next) :
    Chained sha256 lockKey calls (x.checked i check next) := by
  unfold AuditTx.checked
  cases check with
  | error e => exact h.finish i _
  | ok _ => exact hnext

theorem commit {row : AuditRow} (hlock : x.advisoryLocks (lockKey (calls i).tenantId) = some i)
    (hfollows : Follows sha256 x (calls i) row) :
    Chained sha256 lockKey calls (x.commit i row) := by
  have htenant : row.record.tenantId = (calls i).tenantId := by
    rw [hfollows.record]
    rfl
  have hordered : ∀ tenantId, AuditTable.Ordered (x.rows ++ [row]) tenantId := by
    intro tenantId
    by_cases heq : row.record.tenantId = tenantId
    · refine (h.ordered tenantId).append heq ?_
      rw [← heq, htenant]
      exact hfollows.last
    · rw [AuditTable.Ordered, tenantRows_append_other heq]
      exact h.ordered tenantId
  constructor
  · exact hordered
  · intro other hother
    rcases mem_append.mp hother with hold | hnew
    · exact h.below other hold
    · rw [mem_singleton.mp hnew]
      exact hfollows.fresh
  · intro tenantId
    change (auditLinks sha256).verifyFrom genesis
      (tenantRecords (x.rows ++ [row]) tenantId) = true
    have hverified := h.verified tenantId
    have hold := (h.ordered tenantId).tenantRecords_eq
    rw [(hordered tenantId).tenantRecords_eq]
    by_cases heq : row.record.tenantId = tenantId
    · rw [tenantRows_append_self heq, map_append, ← hold]
      refine HashLinks.verifyFrom_concat.mpr ⟨hverified, ?_, ?_⟩
      · rw [← heq, htenant, hfollows.record]
        rfl
      · rw [hfollows.record]
        exact digest_record sha256 _ _
    · rw [tenantRows_append_other heq, ← hold]
      exact hverified
  · intro j
    rcases eq_or_ne j i with rfl | hj
    · rw [show (x.commit j row).phase j = .ended (.ok row.record) from update_self ..]
      trivial
    rw [show (x.commit i row).phase j = x.phase j from update_of_ne hj _ _]
    have hframe : Frame lockKey j x (x.commit i row) := by
      refine ⟨Nat.le_refl _, fun tenantId hheld => ?_⟩
      -- the other has the lock of another tenant
      have hne : row.record.tenantId ≠ tenantId := by
        rintro rfl
        rw [htenant] at hheld
        exact Locks.ne_of_held hlock hheld hj rfl
      exact ⟨Locks.keepsOthers_release _ i _ j hj hheld, tenantRows_append_other hne⟩
    exact (h.relies j).frame hframe

end

end Chained

/-- **One step.** -/
theorem chained_advance (h : Chained sha256 lockKey calls x) (i : Nat) :
    Chained sha256 lockKey calls (x.advance sha256 lockKey i (calls i)) := by
  have hrelies := h.relies i
  unfold AuditTx.advance
  cases hphase : x.phase i with
  | idle => exact h.checked (h.goto trivial)
  | begun =>
    simp only []
    split
    · rename_i hfree
      exact h.quiet ⟨rfl, Nat.le_refl _, others_update,
        Locks.keepsOthers_acquire hfree⟩ (update_self ..) (Locks.acquire_self _ _ _)
    · exact h
  | locked =>
    rw [hphase] at hrelies
    exact h.goto ⟨hrelies, rfl⟩
  | read previous =>
    rw [hphase] at hrelies
    obtain ⟨hlock, rfl⟩ := hrelies
    refine h.checked (h.quiet ⟨rfl, Nat.le_succ _, others_update,
      .refl i _⟩ (update_self ..) ⟨hlock, rfl, Nat.lt_succ_self _, ?_⟩)
    -- the number is greater than all that have been given out
    exact fun other hother => h.below other (mem_filter.mp hother).1
  | numbered row =>
    rw [hphase] at hrelies
    simp only []
    split
    · split
      · exact h.finish i _
      · exact h.quiet ⟨rfl, Nat.le_refl _, others_update, .refl i _⟩ (update_self ..)
          ⟨hrelies.1, hrelies.2.record, hrelies.2.fresh, hrelies.2.last⟩
    · exact h
  | inserted row =>
    rw [hphase] at hrelies
    exact h.commit hrelies.1 hrelies.2
  | ended reply => exact h

theorem chained_abort (h : Chained sha256 lockKey calls x) (i : Nat) (error : PyError) :
    Chained sha256 lockKey calls (x.abort i error) := by
  unfold AuditTx.abort
  cases hphase : x.phase i with
  | idle => exact h
  | ended reply => exact h
  | _ => exact h.finish i _

theorem chained_step (h : Chained sha256 lockKey calls x) (move : AuditMove) :
    Chained sha256 lockKey calls (x.step sha256 lockKey calls move) := by
  cases move with
  | advance i => exact chained_advance h i
  | abort i error => exact chained_abort h i error

end

/-- **Every run.** -/
theorem chained_after (sha256 : String → String) (lockKey : PyStr → Int)
    (calls : Nat → AppendCall) (moves : List AuditMove) :
    Chained sha256 lockKey calls (AuditTx.after sha256 lockKey calls moves) := by
  have hstep : ∀ x move, Chained sha256 lockKey calls x →
      Chained sha256 lockKey calls (x.step sha256 lockKey calls move) :=
    fun _ move h => chained_step h move
  exact run_invariant hstep moves _ chained_init

/-- **Main result.** Where the records of a tenant link up: in memory as far as
no call of another tenant comes before one of its own, in Postgres always. A
tenant id that `tenant_connection` refuses has no answer there. Only that the
records fail to link up otherwise rests on SHA-256. -/
theorem tenant_chains_verify (sha256 : String → String) :
    (∀ calls : List AppendCall,
      (AuditLog.after sha256 calls).verify sha256 = true ∧
      ∀ tenantId,
        (Leading tenantId calls →
          (AuditLog.after sha256 calls).verifyTenant sha256 tenantId = true) ∧
        (Function.Injective sha256 → (∀ s, sha256 s ≠ "GENESIS") →
          (AuditLog.after sha256 calls).verifyTenant sha256 tenantId = true →
            Leading tenantId calls) ∧
        ∀ roles : Finset String, "admin" ∈ roles ∨ "auditor" ∈ roles →
          (auditIntegrity sha256 (AuditLog.after sha256 calls) tenantId roles).map
            IntegrityReport.valid =
              .ok ((AuditLog.after sha256 calls).verifyTenant sha256 tenantId)) ∧
    ∀ (lockKey : PyStr → Int) (calls : Nat → AppendCall) (moves : List AuditMove)
      (tenantId : PyStr),
      (AuditTx.after sha256 lockKey calls moves).rows.verifyTenant sha256 tenantId =
        (openTenant tenantId (pyStr "system")).map fun _ => true := by
  refine ⟨fun calls => ⟨verify_after sha256 calls, fun tenantId => ?_⟩, ?_⟩
  · exact ⟨verifyTenant_of_leading, leading_of_verifyTenant,
      fun roles hroles => auditIntegrity_valid _ _ hroles⟩
  · intro lockKey calls moves tenantId
    have hverified := (chained_after sha256 lockKey calls moves).verified tenantId
    rw [verifyTenant, hverified]
    cases openTenant tenantId (pyStr "system") <;> rfl

theorem twoTenants_not_leading : ¬ Leading (pyStr "tenant-two") twoTenants := by decide +kernel

/-- Two tenants in memory; two tenants whose appends overlap in Postgres. -/
theorem tenant_chains_verify_samples :
    AuditLog.verifyTenant sampleSha256 (.after sampleSha256 twoTenants) (pyStr "tenant-one") =
        true ∧
      AuditLog.verifyTenant sampleSha256 (.after sampleSha256 twoTenants) (pyStr "tenant-two") ≠
        true ∧
      AuditTable.verifyTenant sampleSha256
        (AuditTx.after sampleSha256 (fun tenantId => tenantId.length)
          (fun i => sampleCall (pyStr "operator-1") (if i = 0 then "tenant-one" else "tenant-two"))
          [.advance 0, .advance 1, .advance 0, .advance 1, .advance 0, .advance 0, .advance 0,
            .advance 0, .advance 1]).rows (pyStr "tenant-one") = .ok true := by
  obtain ⟨hmemory, hpostgres⟩ := tenant_chains_verify sampleSha256
  refine ⟨((hmemory _).2 _).1 (by decide +kernel), fun h => twoTenants_not_leading ?_,
    (hpostgres _ _ _ _).trans ?_⟩
  · exact ((hmemory _).2 _).2.1 sampleSha256_injective sampleSha256_ne_genesis h
  · rfl

/-- A record of one tenant, then one of another: the second tenant's only
record does not start at "GENESIS". -/
theorem second_tenant_invalid :
    let log := AuditLog.after sampleSha256 twoTenants
    log.verify sampleSha256 = true ∧
      log.verifyTenant sampleSha256 (pyStr "tenant-two") = false ∧
      (auditIntegrity sampleSha256 log (pyStr "tenant-two") {"auditor"}).map
        IntegrityReport.valid = .ok false := by
  intro log
  have hfalse : log.verifyTenant sampleSha256 (pyStr "tenant-two") = false := by
    refine Bool.eq_false_iff.mpr fun h => absurd ?_ twoTenants_not_leading
    exact leading_of_verifyTenant sampleSha256_injective sampleSha256_ne_genesis h
  refine ⟨verify_after sampleSha256 _, hfalse, ?_⟩
  rw [auditIntegrity_valid _ _ (.inr (by simp)), hfalse]

end ComputeWeaver.Observability
