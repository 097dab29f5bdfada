/-
Jobs.QueueTheorems — who may change a job.

Between its steps a transaction relies only on rows it has locked and on the
number it has drawn (`Relies`), and no step of another one touches these
(`Frame`). So a commit writes over the very row its WHERE clause was evaluated
on, and what may happen to a job can be read off the WHERE clauses: a claim
finds it pending or its lease run out, everything else finds it running and
leased to the caller. What has to be known besides is that `leased_by` of a
running job is the worker of its latest claim (`Consistent`).
-/
import ComputeWeaver.Jobs.Queue
import ComputeWeaver.Lib.Calls

namespace ComputeWeaver.Jobs

open Lib Persistence Dict JobRow QueueTx Function Option

/-! ## What the log says about a job -/

def latest (log : List JobEvent) (id : Int) : Option JobEvent :=
  (log.filter fun event => event.jobId = id).getLast?

def claimsOf (log : List JobEvent) (id : Int) : List JobEvent :=
  log.filter fun event => event.jobId = id ∧ event.kind = .claimed

def latestClaim (log : List JobEvent) (id : Int) : Option String :=
  (claimsOf log id).getLast?.map JobEvent.workerId

section

variable {log events : List JobEvent} {event : JobEvent} {id : Int}

theorem latest_append_self (log : List JobEvent) (event : JobEvent) :
    latest (log ++ [event]) event.jobId = some event := by
  simp [latest]

theorem latest_append_other (h : ∀ event ∈ events, event.jobId ≠ id) :
    latest (log ++ events) id = latest log id := by
  have hnone : events.filter (fun event => event.jobId = id) = [] := by
    rw [List.filter_eq_nil_iff]
    simpa using h
  simp [latest, hnone]

theorem claimsOf_append_other (h : ∀ event ∈ events, event.jobId ≠ id) :
    claimsOf (log ++ events) id = claimsOf log id := by
  have hnone : events.filter (fun event => event.jobId = id ∧ event.kind = .claimed) = [] := by
    rw [List.filter_eq_nil_iff]
    intro event hmem
    simp [h event hmem]
  rw [claimsOf, List.filter_append, hnone, List.append_nil, claimsOf]

theorem claimsOf_append_claim (h : event.kind = .claimed) :
    claimsOf (log ++ [event]) event.jobId = claimsOf log event.jobId ++ [event] := by
  simp [claimsOf, h]

theorem claimsOf_append_unclaimed (h : event.kind ≠ .claimed) (id : Int) :
    claimsOf (log ++ [event]) id = claimsOf log id := by
  simp [claimsOf, h]

end

/-! ## What is committed -/

structure Consistent (log : List JobEvent) (id : Int) (row : JobRow) : Prop where
  pending : row.status = .pending → row.leasedBy = none ∧
    (latest log id = none ∨ ∃ event, latest log id = some event ∧ event.kind = .failed)
  running : row.status = .running → row.leasedBy = latestClaim log id ∧ row.leasedBy ≠ none

/-- The row that an `UPDATE` of the call makes of `row`. -/
def Updates (json : JobJson) (call : JobCall) (now : Int) (id : Int) (row row' : JobRow) : Prop :=
  (∃ workerId leaseSeconds, call = .claim workerId leaseSeconds ∧ row.claimable now = true ∧
    row' = row.claim workerId leaseSeconds now) ∨
  ∃ update, call.update? json = some update ∧ id = update.job.id ∧
    row.held update.workerId = true ∧ row' = update.write now row

section

variable {json : JobJson} {call : JobCall} {now id : Int} {row row' : JobRow} {log : List JobEvent}

def JobCall.worker? : JobCall → Option String
  | .enqueue _ => none
  | .claim workerId _ => some workerId
  | .heartbeat _ workerId _ => some workerId
  | .succeed _ workerId _ => some workerId
  | .fail _ workerId _ => some workerId

/-- What a call logs when it commits. -/
def JobCall.kind? : JobCall → Option EventKind
  | .enqueue _ => none
  | .claim _ _ => some .claimed
  | .heartbeat _ _ _ => some .extended
  | .succeed _ _ _ => some .succeeded
  | .fail _ _ _ => some .failed

variable {workerId : String}

theorem JobRow.held_iff :
    row.held workerId = true ↔ row.status = .running ∧ row.leasedBy = some workerId := by
  simp [held]

theorem Updates.key (h : Updates json call now id row row') : row'.key = row.key := by
  obtain ⟨workerId, leaseSeconds, -, -, rfl⟩ | ⟨update, hupdate, -, -, rfl⟩ := h
  · rfl
  · cases call <;> cases hupdate <;> rfl

theorem Updates.consistent (h : Updates json call now id row row') (hrow : Consistent log id row)
    {kind : EventKind} (hworker : call.worker? = some workerId) (hkind : call.kind? = some kind) :
    Consistent (log ++ [⟨id, workerId, kind, row'⟩]) id row' := by
  obtain ⟨workerId', leaseSeconds, rfl, -, rfl⟩ | ⟨update, hupdate, -, hheld, rfl⟩ := h
  · cases hworker
    cases hkind
    refine ⟨nofun, fun _ => ⟨?_, some_ne_none _⟩⟩
    rw [latestClaim, claimsOf_append_claim rfl]
    simp [claim]
  · obtain ⟨hstatus, -⟩ := held_iff.mp hheld
    cases call with
    | enqueue args => cases hupdate
    | claim workerId' leaseSeconds => cases hupdate
    | heartbeat job workerId' leaseSeconds =>
      cases hupdate
      cases hkind
      refine ⟨fun hpending => ?_, fun _ => ?_⟩
      · cases hstatus.symm.trans hpending
      · rw [latestClaim, claimsOf_append_unclaimed]
        · exact hrow.running hstatus
        · exact nofun
    | succeed job workerId' result =>
      cases hupdate
      exact ⟨nofun, nofun⟩
    | fail job workerId' error =>
      cases hupdate
      cases hkind
      refine ⟨fun _ => ⟨rfl, .inr ⟨_, latest_append_self log _, rfl⟩⟩, fun hrunning => ?_⟩
      simp only [Jobs.fail, DurableJob.statusAfterFailure] at hrunning
      split at hrunning <;> cases hrunning

end

/-! ## What a transaction relies on -/

/-- The number that an unfinished `INSERT` has drawn. -/
def JobPhase.number? : JobPhase → Option Int
  | .numbered id => some id
  | .inserted id _ => some id
  | _ => none

def Relies (json : JobJson) (x : QueueTx) (i : Nat) (call : JobCall) : JobPhase → Prop
  | .begun now => now ≤ x.clock
  | .numbered id => id < x.nextId ∧ x.jobs.get? id = none
  | .inserted id row => (id < x.nextId ∧ x.jobs.get? id = none) ∧
      ∃ args, call = .enqueue args ∧ row = QueueTx.newRow json args ∧
        x.keyLocks args.key = some i ∧
        ∀ id' row', x.jobs.get? id' = some row' → row'.key ≠ args.key
  | .scanning now _ => now ≤ x.clock
  | .matched now => now ≤ x.clock
  | .written now id row' => now ≤ x.clock ∧ x.rowLocks id = some i ∧
      ∃ row, x.jobs.get? id = some row ∧ Updates json call now id row row'
  | _ => True

/-- What a transaction has locked or drawn is as it was. -/
structure Frame (j : Nat) (x x' : QueueTx) : Prop where
  clock : x.clock ≤ x'.clock
  nextId : x.nextId ≤ x'.nextId
  rows : ∀ id row, x.rowLocks id = some j → x.jobs.get? id = some row →
    x'.rowLocks id = some j ∧ x'.jobs.get? id = some row
  keys : ∀ key, x.keyLocks key = some j → x'.keyLocks key = some j ∧
    ((∀ id row, x.jobs.get? id = some row → row.key ≠ key) →
      ∀ id row, x'.jobs.get? id = some row → row.key ≠ key)
  numbers : ∀ id, (x.phase j).number? = some id → x.jobs.get? id = none → x'.jobs.get? id = none

variable {json : JobJson} {x : QueueTx} {call : JobCall} {id : Int} {phase : JobPhase}

theorem Relies.frame {x' : QueueTx} {j : Nat} (hf : Frame j x x')
    (h : Relies json x j call (x.phase j)) : Relies json x' j call (x.phase j) := by
  have hnumbers := hf.numbers
  cases hphase : x.phase j with
  | begun now | scanning now ids | matched now =>
    rw [hphase] at h
    exact Int.le_trans h hf.clock
  | numbered id =>
    rw [hphase] at h hnumbers
    exact ⟨Int.lt_of_lt_of_le h.1 hf.nextId, hnumbers id rfl h.2⟩
  | inserted id row =>
    rw [hphase] at h hnumbers
    obtain ⟨⟨hlt, hnone⟩, args, hcall, hrow, hlock, hkeys⟩ := h
    obtain ⟨hlock', hkeys'⟩ := hf.keys _ hlock
    exact ⟨⟨Int.lt_of_lt_of_le hlt hf.nextId, hnumbers id rfl hnone⟩, args, hcall, hrow, hlock',
      hkeys' hkeys⟩
  | written now id row' =>
    rw [hphase] at h
    obtain ⟨hnow, hlock, row, hget, hupdates⟩ := h
    obtain ⟨hlock', hget'⟩ := hf.rows id row hlock hget
    exact ⟨Int.le_trans hnow hf.clock, hlock', row, hget', hupdates⟩
  | _ => trivial

/-! ## The invariant -/

structure QueueInv (json : JobJson) (calls : Nat → JobCall) (x : QueueTx) : Prop where
  unique : ∀ id id' row row', x.jobs.get? id = some row → x.jobs.get? id' = some row' →
    row.key = row'.key → id = id'
  numbers : ∀ id row, x.jobs.get? id = some row → id < x.nextId
  consistent : ∀ id row, x.jobs.get? id = some row → Consistent x.log id row
  logged : ∀ event ∈ x.log, ∃ row, x.jobs.get? event.jobId = some row
  distinct : ∀ i j id, (x.phase i).number? = some id → (x.phase j).number? = some id → i = j
  relies : ∀ i, Relies json x i (calls i) (x.phase i)

theorem queueInv_init (json : JobJson) (calls : Nat → JobCall) (clock : Int) :
    QueueInv json calls (.init clock) where
  unique _ _ _ _ h := by cases h
  numbers _ _ h := by cases h
  consistent _ _ h := by cases h
  logged _ h := by cases h
  distinct _ _ _ h := by cases h
  relies _ := trivial

/-- A step of call `i` that commits nothing. -/
structure QuietStep (i : Nat) (x x' : QueueTx) : Prop where
  jobs : x'.jobs = x.jobs
  log : x'.log = x.log
  clock : x'.clock = x.clock
  nextId : x.nextId ≤ x'.nextId
  others : ∀ j, j ≠ i → x'.phase j = x.phase j
  rowLocks : Locks.KeepsOthers i x.rowLocks x'.rowLocks
  keyLocks : Locks.KeepsOthers i x.keyLocks x'.keyLocks

theorem Relies.number_lt {i : Nat} (h : Relies json x i call phase)
    (hnumber : phase.number? = some id) : id < x.nextId := by
  cases phase with
  | numbered id' =>
    cases hnumber
    exact h.1
  | inserted id' row =>
    cases hnumber
    exact h.1.1
  | _ => cases hnumber

namespace QueueInv

variable {json : JobJson} {calls : Nat → JobCall} {x x' : QueueTx} {i : Nat}

theorem quiet (h : QueueInv json calls x) (hq : QuietStep i x x')
    (hphase : x'.phase i = phase)
    (hnumber : ∀ id, phase.number? = some id → (x.phase i).number? = some id ∨ x.nextId ≤ id)
    (hrelies : Relies json x' i (calls i) phase) : QueueInv json calls x' where
  unique := by
    rw [hq.jobs]
    exact h.unique
  numbers id row hget := by
    rw [hq.jobs] at hget
    exact Int.lt_of_lt_of_le (h.numbers id row hget) hq.nextId
  consistent := by
    rw [hq.jobs, hq.log]
    exact h.consistent
  logged := by
    rw [hq.jobs, hq.log]
    exact h.logged
  distinct := by
    -- a number that call `i` has newly drawn is not one that another call has
    have hnew : ∀ j id, j ≠ i → (x'.phase i).number? = some id →
        (x'.phase j).number? ≠ some id := by
      intro j id hj hi hid
      rw [hq.others j hj] at hid
      rw [hphase] at hi
      rcases hnumber id hi with hold | hfresh
      · exact hj (h.distinct j i id hid hold)
      · exact absurd ((h.relies j).number_lt hid) (Int.not_lt.mpr hfresh)
    intro j k id hj hk
    by_cases hji : j = i
    · by_cases hki : k = i
      · rw [hji, hki]
      · exact absurd hk (hnew k id hki (hji ▸ hj))
    by_cases hki : k = i
    · exact absurd hj (hnew j id hji (hki ▸ hk))
    · rw [hq.others j hji] at hj
      rw [hq.others k hki] at hk
      exact h.distinct j k id hj hk
  relies j := by
    by_cases hj : j = i
    · rw [hj, hphase]
      exact hrelies
    rw [hq.others j hj]
    refine (h.relies j).frame ⟨?_, hq.nextId, ?_, ?_, ?_⟩
    · rw [hq.clock]
    · intro id row hlock hget
      rw [hq.jobs]
      exact ⟨hq.rowLocks id j hj hlock, hget⟩
    · intro key hlock
      rw [hq.jobs]
      exact ⟨hq.keyLocks key j hj hlock, id⟩
    · intro id _ hnone
      rwa [hq.jobs]

/-- Where call `i` may write a row: over one it has locked, which keeps its
key, or under a number it has drawn and a key it has locked. -/
def Slot (x : QueueTx) (i : Nat) (id : Int) (row : JobRow) : Prop :=
  (∃ old, x.jobs.get? id = some old ∧ row.key = old.key ∧ x.rowLocks id = some i) ∨
  (x.jobs.get? id = none ∧ (x.phase i).number? = some id ∧ x.keyLocks row.key = some i ∧
    ∀ id' row', x.jobs.get? id' = some row' → row'.key ≠ row.key)

variable {reply : JobReply} {events : List JobEvent}

theorem frame_commit (h : QueueInv json calls x) {row : JobRow}
    (hslot : Slot x i id row) {j : Nat} (hj : j ≠ i) :
    Frame j x (x.commit i id row events reply) := by
  refine ⟨le_refl _, le_refl _, ?_, ?_, ?_⟩
  · intro id' row' hlock hget
    refine ⟨Locks.keepsOthers_release _ i id' j hj hlock, ?_⟩
    change (x.jobs.set id row).get? id' = some row'
    rw [get?_set_ne, hget]
    rintro rfl
    rcases hslot with ⟨old, -, -, hheld⟩ | ⟨hnone, -⟩
    · exact hj (Option.some.inj (hlock.symm.trans hheld))
    · cases hnone.symm.trans hget
  · intro key hlock
    refine ⟨Locks.keepsOthers_release _ i key j hj hlock, fun hkeys id' row' hget => ?_⟩
    change (x.jobs.set id row).get? id' = some row' at hget
    rw [get?_set] at hget
    split at hget
    · cases hget
      rcases hslot with ⟨old, hold, hkey, -⟩ | ⟨-, -, hheld, -⟩
      · rw [hkey]
        exact hkeys id old hold
      · rintro rfl
        exact hj (Option.some.inj (hlock.symm.trans hheld))
    · exact hkeys id' row' hget
  · intro id' hnumber hnone
    change (x.jobs.set id row).get? id' = none
    rw [get?_set_ne, hnone]
    rintro rfl
    rcases hslot with ⟨old, hold, -⟩ | ⟨-, hdrawn, -⟩
    · cases hold.symm.trans hnone
    · exact hj (h.distinct j i id hnumber hdrawn)

theorem commit (h : QueueInv json calls x) {row : JobRow}
    (hslot : Slot x i id row) (hid : id < x.nextId) (hevents : ∀ event ∈ events, event.jobId = id)
    (hconsistent : Consistent (x.log ++ events) id row) :
    QueueInv json calls (x.commit i id row events reply) where
  unique := by
    -- whoever has the key of the new row is the row it replaces
    have hsame : ∀ id' row', x.jobs.get? id' = some row' → row'.key = row.key → id = id' := by
      intro id' row' hget hkey
      rcases hslot with ⟨old, hold, hkey', -⟩ | ⟨-, -, -, hkeys⟩
      · exact h.unique id id' old row' hold hget (hkey'.symm.trans hkey.symm)
      · exact absurd hkey (hkeys id' row' hget)
    intro id₁ id₂ row₁ row₂ hget₁ hget₂ hkey
    change (x.jobs.set id row).get? id₁ = some row₁ at hget₁
    change (x.jobs.set id row).get? id₂ = some row₂ at hget₂
    rw [get?_set] at hget₁ hget₂
    split at hget₁ <;> split at hget₂
    · rename_i h₁ h₂
      exact h₁.symm.trans h₂
    · rename_i h₁ _
      cases hget₁
      exact h₁.symm.trans (hsame id₂ row₂ hget₂ hkey.symm)
    · rename_i _ h₂
      cases hget₂
      exact (hsame id₁ row₁ hget₁ hkey).symm.trans h₂
    · exact h.unique id₁ id₂ row₁ row₂ hget₁ hget₂ hkey
  numbers id' row' hget := by
    change (x.jobs.set id row).get? id' = some row' at hget
    rw [get?_set] at hget
    split at hget
    · rename_i heq
      rw [← heq]
      exact hid
    · exact h.numbers id' row' hget
  consistent id' row' hget := by
    change (x.jobs.set id row).get? id' = some row' at hget
    change Consistent (x.log ++ events) id' row'
    rw [get?_set] at hget
    split at hget
    · rename_i heq
      cases hget
      rwa [← heq]
    rename_i hne
    have hother : ∀ event ∈ events, event.jobId ≠ id' :=
      fun event hmem heq => hne ((hevents event hmem).symm.trans heq)
    obtain ⟨hpending, hrunning⟩ := h.consistent id' row' hget
    refine ⟨?_, ?_⟩
    · rwa [latest_append_other hother]
    · rwa [latestClaim, claimsOf_append_other hother]
  logged event hmem := by
    change ∃ row', (x.jobs.set id row).get? event.jobId = some row'
    rw [get?_set]
    split
    · exact ⟨row, rfl⟩
    rename_i hne
    rcases List.mem_append.mp hmem with hold | hnew
    · exact h.logged event hold
    · exact absurd (hevents event hnew).symm hne
  distinct j k id' hj hk := by
    have hother : ∀ l, ((x.commit i id row events reply).phase l).number? = some id' → l ≠ i ∧
        (x.phase l).number? = some id' := by
      intro l hl
      rcases eq_or_ne l i with rfl | hne
      · rw [show (x.commit l id row events reply).phase l = .ended (.ok reply) from
          update_self ..] at hl
        cases hl
      · rw [show (x.commit i id row events reply).phase l = x.phase l from
          update_of_ne hne _ _] at hl
        exact ⟨hne, hl⟩
    exact h.distinct j k id' (hother j hj).2 (hother k hk).2
  relies j := by
    rcases eq_or_ne j i with rfl | hj
    · rw [show (x.commit j id row events reply).phase j = .ended (.ok reply) from
        update_self ..]
      trivial
    · rw [show (x.commit i id row events reply).phase j = x.phase j from
        update_of_ne hj _ _]
      exact (h.relies j).frame (h.frame_commit hslot hj)

end QueueInv

/-! ## Steps -/

/-- What a step of call `i` can be. -/
inductive Stepped (calls : Nat → JobCall) (x : QueueTx) (i : Nat) : QueueTx → Prop
  | quiet {x' : QueueTx} (hq : QuietStep i x x') : Stepped calls x i x'
  | insert {id : Int} {row : JobRow} {reply : JobReply} (hphase : x.phase i = .inserted id row) :
      Stepped calls x i (x.commit i id row [] reply)
  | update {now id : Int} {row : JobRow} {reply : JobReply} {workerId : String} {kind : EventKind}
      (hphase : x.phase i = .written now id row) (hworker : (calls i).worker? = some workerId)
      (hkind : (calls i).kind? = some kind) :
      Stepped calls x i (x.commit i id row [⟨id, workerId, kind, row⟩] reply)

/-- The invariant is kept by a step of call `i`. -/
structure Kept (json : JobJson) (calls : Nat → JobCall) (x : QueueTx) (i : Nat) (x' : QueueTx) :
    Prop where
  inv : QueueInv json calls x'
  stepped : Stepped calls x i x'

section

variable {json : JobJson} {calls : Nat → JobCall} {x x' : QueueTx} {i : Nat}

theorem QueueInv.stay (h : QueueInv json calls x) (i : Nat) : Kept json calls x i x :=
  ⟨h, .quiet ⟨rfl, rfl, rfl, le_refl _, fun _ _ => rfl, .refl i _, .refl i _⟩⟩

variable {phase : JobPhase} {now : Int} {workerId : String} {row' : JobRow}

section

variable (h : QueueInv json calls x)
include h

theorem QueueInv.goto (hnumber : phase.number? = none)
    (hrelies : Relies json (x.goto i phase) i (calls i) phase) :
    Kept json calls x i (x.goto i phase) := by
  have hq : QuietStep i x (x.goto i phase) :=
    ⟨rfl, rfl, rfl, le_refl _, others_update, .refl i _, .refl i _⟩
  refine ⟨h.quiet hq (update_self ..) ?_ hrelies, .quiet hq⟩
  simp [hnumber]

theorem QueueInv.finish (i : Nat) (reply : Except PyError JobReply) :
    Kept json calls x i (x.finish i reply) := by
  have hq : QuietStep i x (x.finish i reply) :=
    ⟨rfl, rfl, rfl, le_refl _, others_update, Locks.keepsOthers_release _ i,
      Locks.keepsOthers_release _ i⟩
  exact ⟨h.quiet hq (update_self ..) nofun trivial, .quiet hq⟩

theorem QueueInv.lockRow (hfree : x.rowLocks.available id i)
    (hnumber : phase.number? = none)
    (hrelies : Relies json (x.lockRow i id phase) i (calls i) phase) :
    Kept json calls x i (x.lockRow i id phase) := by
  have hq : QuietStep i x (x.lockRow i id phase) :=
    ⟨rfl, rfl, rfl, le_refl _, others_update, Locks.keepsOthers_acquire hfree, .refl i _⟩
  refine ⟨h.quiet hq (update_self ..) ?_ hrelies, .quiet hq⟩
  simp [hnumber]

theorem QueueInv.checked {check : Except PyError Unit} {next : QueueTx}
    (hnext : Kept json calls x i next) : Kept json calls x i (x.checked i check next) := by
  unfold QueueTx.checked
  cases check with
  | error e => exact h.finish i _
  | ok _ => exact hnext

end

theorem QueueTx.jobOf_eq_none {key : String × String} (h : (x.jobOf key).isSome = false) :
    ∀ id row, x.jobs.get? id = some row → row.key ≠ key := by
  intro id row hget hkey
  rw [jobOf, isSome_eq_false_iff, isNone_iff_eq_none, List.find?_eq_none] at h
  exact h (id, row) (mem_entries_iff.mpr hget) (by simpa using hkey)

section

variable (h : QueueInv json calls x)
include h

theorem kept_enqueue {args : EnqueueArgs} (hcall : calls i = .enqueue args) :
    Kept json calls x i (x.advanceEnqueue json i args) := by
  have hrelies := h.relies i
  unfold advanceEnqueue
  cases hphase : x.phase i with
  | idle =>
    simp only []
    split
    · exact h.finish i _
    · exact h.checked (h.goto rfl (le_refl _))
  | begun now =>
    cases hjob : x.jobOf args.key with
    | some entry =>
      simp only []
      split <;> exact h.finish i _
    | none => exact h.goto rfl trivial
  | absent =>
    have hq : QuietStep i x { x.goto i (.numbered x.nextId) with nextId := x.nextId + 1 } :=
      ⟨rfl, rfl, rfl, by simp, others_update, .refl i _, .refl i _⟩
    refine ⟨h.quiet hq (update_self ..) ?_ ?_, .quiet hq⟩
    · intro id hid
      cases hid
      exact .inr (le_refl _)
    · refine ⟨by simp, ?_⟩
      cases hget : x.jobs.get? x.nextId with
      | none => exact hget
      | some row => exact absurd (h.numbers _ _ hget) (lt_irrefl _)
  | numbered id =>
    rw [hphase] at hrelies
    simp only []
    split
    · rename_i hfree
      split
      · exact h.finish i _
      rename_i hnone
      have hq : QuietStep i x (x.lockKey i args.key (.inserted id (newRow json args))) :=
        ⟨rfl, rfl, rfl, le_refl _, others_update, .refl i _, Locks.keepsOthers_acquire hfree⟩
      refine ⟨h.quiet hq (update_self ..) ?_ ?_, .quiet hq⟩
      · intro id' hid'
        rw [hphase]
        exact .inl hid'
      · exact ⟨hrelies, args, hcall, rfl, Locks.acquire_self _ _ _,
          jobOf_eq_none (Bool.eq_false_iff.mpr hnone)⟩
    · exact h.stay i
  | inserted id row =>
    rw [hphase] at hrelies
    obtain ⟨⟨hid, hnone⟩, args', hcall', rfl, hlock, hkeys⟩ := hrelies
    have hslot : QueueInv.Slot x i id (newRow json args') :=
      .inr ⟨hnone, by rw [hphase]; rfl, hlock, hkeys⟩
    -- nothing has happened to a job that was not there
    have hunlogged : latest (x.log ++ []) id = none := by
      rw [List.append_nil, latest, List.getLast?_eq_none_iff, List.filter_eq_nil_iff]
      intro event hmem heq
      obtain ⟨row, hrow⟩ := h.logged event hmem
      rw [of_decide_eq_true heq] at hrow
      cases hnone.symm.trans hrow
    have hconsistent : Consistent (x.log ++ []) id (newRow json args') :=
      ⟨fun _ => ⟨rfl, .inl hunlogged⟩, nofun⟩
    exact ⟨h.commit hslot hid (by simp) hconsistent, .insert hphase⟩
  | _ => exact h.stay i

theorem QueueInv.commitUpdate {row : JobRow} {reply : JobReply} {kind : EventKind}
    (hphase : x.phase i = .written now id row) (hworker : (calls i).worker? = some workerId)
    (hkind : (calls i).kind? = some kind) :
    Kept json calls x i (x.commit i id row [⟨id, workerId, kind, row⟩] reply) := by
  have hrelies := h.relies i
  rw [hphase] at hrelies
  obtain ⟨-, hlock, old, hold, hupdates⟩ := hrelies
  refine ⟨h.commit (.inl ⟨old, hold, hupdates.key, hlock⟩) (h.numbers _ _ hold) ?_ ?_,
    .update hphase hworker hkind⟩
  · intro event hmem
    rw [List.mem_singleton.mp hmem]
  · exact hupdates.consistent (h.consistent _ _ hold) hworker hkind

theorem kept_claim {leaseSeconds : Int} (hcall : calls i = .claim workerId leaseSeconds) :
    Kept json calls x i (x.advanceClaim i workerId leaseSeconds) := by
  have hrelies := h.relies i
  unfold advanceClaim
  cases hphase : x.phase i with
  | idle =>
    simp only []
    split
    · exact h.finish i _
    · exact h.goto rfl (le_refl _)
  | begun now =>
    rw [hphase] at hrelies
    exact h.goto rfl hrelies
  | scanning now ids =>
    rw [hphase] at hrelies
    cases ids with
    | nil => exact h.finish i _
    | cons id rest =>
      simp only []
      cases hget : x.jobs.get? id with
      | none => exact h.goto rfl hrelies
      | some row =>
        simp only []
        split
        · rename_i htake
          obtain ⟨hfree, hclaimable⟩ := Bool.and_eq_true_iff.mp htake
          refine h.lockRow hfree rfl ⟨hrelies, Locks.acquire_self _ _ _, row, hget, ?_⟩
          exact .inl ⟨workerId, leaseSeconds, hcall, hclaimable, rfl⟩
        · exact h.goto rfl hrelies
  | written now id row =>
    exact h.commitUpdate hphase (by rw [hcall]; rfl) (by rw [hcall]; rfl)
  | _ => exact h.stay i

theorem kept_update {update : JobUpdate} (hcall : (calls i).update? json = some update) :
    Kept json calls x i (x.advanceUpdate i update) := by
  have hrelies := h.relies i
  have hworker : (calls i).worker? = some update.workerId ∧ (calls i).kind? = some update.kind := by
    cases hcalls : calls i <;> rw [hcalls] at hcall <;> cases hcall <;> exact ⟨rfl, rfl⟩
  unfold advanceUpdate
  cases hphase : x.phase i with
  | idle => exact h.checked (h.goto rfl (le_refl _))
  | begun now =>
    rw [hphase] at hrelies
    simp only []
    split
    · exact h.goto rfl hrelies
    · exact h.finish i _
  | matched now =>
    rw [hphase] at hrelies
    simp only []
    split
    · rename_i hfree
      cases hget : x.jobs.get? update.job.id with
      | none => exact h.finish i _
      | some row =>
        simp only []
        split
        · rename_i hheld
          refine h.lockRow hfree rfl ⟨hrelies, Locks.acquire_self _ _ _, row, hget, ?_⟩
          exact .inr ⟨update, hcall, rfl, hheld, rfl⟩
        · exact h.finish i _
    · exact h.stay i
  | written now id row => exact h.commitUpdate hphase hworker.1 hworker.2
  | _ => exact h.stay i

/-- **One step.** A step of a call keeps the invariant, and is quiet, inserts
the row of an `enqueue`, or commits an update. -/
theorem kept_advance (i : Nat) : Kept json calls x i (x.advance json calls i) := by
  unfold advance
  cases hcall : calls i with
  | enqueue args => exact kept_enqueue h hcall
  | claim workerId leaseSeconds => exact kept_claim h hcall
  | heartbeat job workerId leaseSeconds | succeed job workerId result | fail job workerId error =>
    exact kept_update h (by rw [hcall]; rfl)

theorem kept_skip (i : Nat) : Kept json calls x i (x.skip i) := by
  have hrelies := h.relies i
  unfold skip
  split
  · rename_i now id rest hphase
    rw [hphase] at hrelies
    exact h.goto rfl hrelies
  · exact h.stay i

theorem kept_abort (i : Nat) (error : PyError) : Kept json calls x i (x.abort i error) := by
  unfold abort
  split
  · exact h.stay i
  · exact h.stay i
  · exact h.finish i _

theorem queueInv_tick (micros : Nat) :
    QueueInv json calls { x with clock := x.clock + micros } where
  unique := h.unique
  numbers := h.numbers
  consistent := h.consistent
  logged := h.logged
  distinct := h.distinct
  relies j := by
    have hframe : Frame j x { x with clock := x.clock + micros } := by
      refine ⟨by simp, le_refl _, ?_, ?_, ?_⟩
      · exact fun id row hlock hget => ⟨hlock, hget⟩
      · exact fun key hlock => ⟨hlock, id⟩
      · exact fun id _ hnone => hnone
    have hrelies := (h.relies j).frame hframe
    exact hrelies

end

theorem queueInv_step (x : QueueTx) (move : QueueMove) (h : QueueInv json calls x) :
    QueueInv json calls (x.step json calls move) := by
  cases move with
  | advance i => exact (kept_advance h i).inv
  | skip i => exact (kept_skip h i).inv
  | abort i error => exact (kept_abort h i error).inv
  | tick micros => exact queueInv_tick h micros

/-- What a step of a call does to a job that is there: nothing, or the update
that the call has written. -/
theorem Stepped.row (h : QueueInv json calls x) (hs : Stepped calls x i x')
    {row : JobRow} (hget : x.jobs.get? id = some row) :
    x'.jobs.get? id = some row ∨ ∃ now row', x'.jobs.get? id = some row' ∧ now ≤ x.clock ∧
      Updates json (calls i) now id row row' := by
  have hrelies := h.relies i
  cases hs with
  | quiet hq =>
    rw [hq.jobs]
    exact .inl hget
  | insert hphase =>
    rename_i id₀ row₀ reply
    rw [hphase] at hrelies
    refine .inl ?_
    change (x.jobs.set id₀ row₀).get? id = some row
    rw [get?_set_ne, hget]
    rintro rfl
    cases hrelies.1.2.symm.trans hget
  | update hphase hworker hkind =>
    rename_i now id₀ row₀ reply workerId kind
    rw [hphase] at hrelies
    obtain ⟨hnow, -, old, hold, hupdates⟩ := hrelies
    change (x.jobs.set id₀ row₀).get? id = some row ∨ ∃ now row',
      (x.jobs.set id₀ row₀).get? id = some row' ∧ now ≤ x.clock ∧
        Updates json (calls i) now id row row'
    rw [get?_set]
    split
    · rename_i heq
      subst heq
      cases hold.symm.trans hget
      exact .inr ⟨now, row₀, rfl, hnow, hupdates⟩
    · exact .inl hget

theorem JobRow.claimable_cases {row : JobRow} (h : row.claimable now = true) :
    row.status = .pending ∨
      row.status = .running ∧ ∃ expiry, row.leaseExpiresAt = some expiry ∧ expiry ≤ now := by
  simp only [claimable, Bool.or_eq_true, Bool.and_eq_true, decide_eq_true_eq, any_eq_true] at h
  exact h.imp And.left fun ⟨hstatus, expiry, hsome, hle⟩ => ⟨hstatus, expiry, hsome, hle⟩

/-- A change that the history of the job allows: by a claim that found it
pending or its lease run out, or by the worker of its latest claim. -/
def Owned (json : JobJson) (calls : Nat → JobCall) (x : QueueTx) (i : Nat) (id : Int)
    (row row' : JobRow) : Prop :=
  (∃ workerId leaseSeconds, calls i = .claim workerId leaseSeconds ∧
    row'.leasedBy = some workerId ∧
    (row.status = .pending ∧
        (latest x.log id = none ∨ ∃ event, latest x.log id = some event ∧ event.kind = .failed) ∨
      row.status = .running ∧ ∃ expiry, row.leaseExpiresAt = some expiry ∧ expiry ≤ x.clock)) ∨
  ∃ update, (calls i).update? json = some update ∧ update.job.id = id ∧ row.status = .running ∧
    row.leasedBy = some update.workerId ∧ latestClaim x.log id = some update.workerId ∧
    (row'.leasedBy = some update.workerId ∨ row'.leasedBy = none)

theorem Updates.owned {row : JobRow} (h : Updates json (calls i) now id row row')
    (hrow : Consistent x.log id row) (hnow : now ≤ x.clock) : Owned json calls x i id row row' := by
  obtain ⟨workerId, leaseSeconds, hcall, hclaimable, rfl⟩ | ⟨update, hupdate, rfl, hheld, rfl⟩ := h
  · refine .inl ⟨workerId, leaseSeconds, hcall, rfl, ?_⟩
    obtain hpending | ⟨hrunning, expiry, hexpiry, hle⟩ := claimable_cases hclaimable
    · exact .inl ⟨hpending, (hrow.pending hpending).2⟩
    · exact .inr ⟨hrunning, expiry, hexpiry, le_trans hle hnow⟩
  · obtain ⟨hrunning, hleased⟩ := held_iff.mp hheld
    refine .inr ⟨update, hupdate, rfl, hrunning, hleased, ?_, ?_⟩
    · rw [← (hrow.running hrunning).1, hleased]
    · cases hcall : calls i <;> rw [hcall] at hupdate <;> cases hupdate
      · exact .inl hleased
      · exact .inr rfl
      · exact .inr rfl

theorem Owned.live {row : JobRow} (h : Owned json calls x i id row row') :
    row.status ≠ .succeeded ∧ row.status ≠ .deadLetter := by
  have hstatus : row.status = .pending ∨ row.status = .running := by
    obtain ⟨_, _, -, -, ⟨hpending, -⟩ | ⟨hrunning, -⟩⟩ | ⟨_, -, -, hrunning, -⟩ := h
    · exact .inl hpending
    · exact .inr hrunning
    · exact .inr hrunning
  rcases hstatus with hstatus | hstatus <;> rw [hstatus] <;> exact ⟨nofun, nofun⟩

@[simp] theorem QueueTx.jobs_skip (x : QueueTx) (i : Nat) : (x.skip i).jobs = x.jobs := by
  unfold skip
  split <;> rfl

@[simp] theorem QueueTx.jobs_abort (x : QueueTx) (i : Nat) (error : PyError) :
    (x.abort i error).jobs = x.jobs := by
  unfold abort
  split <;> rfl

end

/-! ## Runs -/

/-- **Main result.** After any moves of any number of calls: a tenant has at
most one job under an idempotency key; and the next move, whatever it is,
leaves a job as it is unless the job is neither succeeded nor a dead letter and
the move is a step of a call that may change it (`Owned`). -/
theorem jobs_changed_by_owner (json : JobJson) (calls : Nat → JobCall) (clock : Int)
    (moves : List QueueMove) :
    (∀ id id' row row', (QueueTx.after json calls clock moves).jobs.get? id = some row →
        (QueueTx.after json calls clock moves).jobs.get? id' = some row' →
        row.tenantId = row'.tenantId → row.idempotencyKey = row'.idempotencyKey → id = id') ∧
      ∀ move id row, (QueueTx.after json calls clock moves).jobs.get? id = some row →
        ∃ row', (QueueTx.after json calls clock (moves ++ [move])).jobs.get? id = some row' ∧
          (row' = row ∨
            row.status ≠ .succeeded ∧ row.status ≠ .deadLetter ∧
              ∃ i, move = .advance i ∧
                Owned json calls (QueueTx.after json calls clock moves) i id row row') := by
  have hinv : QueueInv json calls (after json calls clock moves) :=
    run_invariant queueInv_step moves _ (queueInv_init json calls clock)
  refine ⟨?_, ?_⟩
  · intro id id' row row' hget hget' htenant hkey
    exact hinv.unique id id' row row' hget hget' (Prod.ext htenant hkey)
  · intro move id row hget
    rw [after, run_append]
    change ∃ row', ((after json calls clock moves).step json calls move).jobs.get? id =
      some row' ∧ _
    cases move with
    | advance i =>
      have hstepped := (kept_advance hinv i).stepped
      obtain hsame | ⟨now, row', hget', hnow, hupdates⟩ := hstepped.row hinv hget
      · exact ⟨row, hsame, .inl rfl⟩
      · have howned := hupdates.owned (hinv.consistent id row hget) hnow
        exact ⟨row', hget', .inr ⟨howned.live.1, howned.live.2, i, rfl, howned⟩⟩
    | skip i => exact ⟨row, by rwa [step, jobs_skip], .inl rfl⟩
    | abort i error => exact ⟨row, by rwa [step, jobs_abort], .inl rfl⟩
    | tick micros => exact ⟨row, hget, .inl rfl⟩

end ComputeWeaver.Jobs
