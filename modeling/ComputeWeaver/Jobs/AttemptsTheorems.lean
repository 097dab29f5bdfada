/-
Jobs.AttemptsTheorems — how often a job is handed out.

`max_attempts` is looked at in one place, `fail`, and there on the job that the
worker passes. `claim` does not look at it: it takes over a job whose lease has
run out whatever its attempt is. So a worker that holds the last attempt of a
job and never reports makes every later claim one too many.

What is asked for is that reports are on time (`MoveOnTime`): no time passes in
which the lease of a last attempt runs out, no such lease is written when it is
already over, and a `fail` that takes effect passes the job as the worker's latest
claim returned it, which is what the loop of the worker does. Then the attempt of a
row counts its claims (`CountedRow.claims`), a row that is pending has one left, and
a last attempt has a lease that goes on until it is reported (`Live`).
-/
import ComputeWeaver.Jobs.QueueTheorems

namespace ComputeWeaver.Jobs

open Lib Persistence JobRow QueueTx Function

/-! ## Reports on time -/

def latestClaimBy (log : List JobEvent) (workerId : String) : Option JobEvent :=
  (log.filter fun event => event.workerId = workerId ∧ event.kind = .claimed).getLast?

def Returned (log : List JobEvent) (workerId : String) (job : DurableJob) : Prop :=
  ∃ event, latestClaimBy log workerId = some event ∧ event.jobId = job.id ∧
    event.row.attempt = job.attempt ∧ event.row.maxAttempts = job.maxAttempts

instance (log : List JobEvent) (workerId : String) (job : DurableJob) :
    Decidable (Returned log workerId job) :=
  decidable_of_iff ((latestClaimBy log workerId).any fun event => event.jobId = job.id ∧
    event.row.attempt = job.attempt ∧ event.row.maxAttempts = job.maxAttempts)
    (by simp [Returned, Option.any_eq_true])

/-- If the row is at its last attempt, the lease of its holder goes on. -/
def Live (clock : Int) (row : JobRow) : Prop :=
  row.status = .running → row.maxAttempts ≤ row.attempt →
    row.leaseExpiresAt.any (clock < ·) = true

instance (clock : Int) (row : JobRow) : Decidable (Live clock row) :=
  inferInstanceAs (Decidable (_ → _ → _))

/-- The next step of a call commits no lease that is over, for a last attempt, and
reports the failure of no job but the one the worker was last given. -/
def OnTime (x : QueueTx) : JobCall → JobPhase → Prop
  | .claim _ _, .written _ _ row => Live x.clock row
  | .heartbeat _ _ _, .written _ _ row => Live x.clock row
  | .fail job workerId _, .matched _ => ∀ row, x.jobs.get? job.id = some row →
      row.held workerId = true → Returned x.log workerId job
  | _, _ => True

instance (x : QueueTx) (call : JobCall) (phase : JobPhase) : Decidable (OnTime x call phase) := by
  unfold OnTime
  split <;> infer_instance

/-- A move is on time; in particular, while time passes no lease of a last attempt
runs out. -/
def MoveOnTime (calls : Nat → JobCall) (x : QueueTx) : QueueMove → Prop
  | .advance i => OnTime x (calls i) (x.phase i)
  | .tick micros => ∀ entry ∈ x.jobs.entries, Live (x.clock + micros) entry.2
  | _ => True

instance (calls : Nat → JobCall) (x : QueueTx) :
    (move : QueueMove) → Decidable (MoveOnTime calls x move)
  | .advance i => inferInstanceAs (Decidable (OnTime x (calls i) (x.phase i)))
  | .skip _ => isTrue trivial
  | .abort _ _ => isTrue trivial
  | .tick micros =>
      inferInstanceAs (Decidable (∀ entry ∈ x.jobs.entries, Live (x.clock + micros) entry.2))

/-! ## The invariant -/

/-- What a call that is under way may write. -/
def Sound : JobCall → JobPhase → Prop
  | .enqueue args, .begun _ => 1 ≤ args.maxAttempts
  | .enqueue args, .absent => 1 ≤ args.maxAttempts
  | .enqueue args, .numbered _ => 1 ≤ args.maxAttempts
  | .enqueue args, .inserted _ _ => 1 ≤ args.maxAttempts
  | .claim _ _, .written _ _ row => (row.attempt : Int) ≤ row.maxAttempts
  | .fail job _ _, .written _ _ row =>
      job.attempt = row.attempt ∧ job.maxAttempts = row.maxAttempts
  | _, _ => True

/-- What is known of a committed row. -/
structure CountedRow (log : List JobEvent) (id : Int) (row : JobRow) : Prop where
  claims : (claimsOf log id).length = row.attempt
  bound : (row.attempt : Int) ≤ row.maxAttempts
  pending : row.status = .pending → (row.attempt : Int) < row.maxAttempts
  status : row.status ≠ .failed
  returned : ∀ workerId event, row.status = .running → row.leasedBy = some workerId →
    latestClaimBy log workerId = some event → event.jobId = id →
    event.row.attempt = row.attempt ∧ event.row.maxAttempts = row.maxAttempts

structure Counted (calls : Nat → JobCall) (x : QueueTx) : Prop where
  rows : ∀ id row, x.jobs.get? id = some row → CountedRow x.log id row
  live : ∀ id row, x.jobs.get? id = some row → Live x.clock row
  sound : ∀ i, Sound (calls i) (x.phase i)

theorem counted_init (calls : Nat → JobCall) (clock : Int) : Counted calls (.init clock) where
  rows _ _ h := by cases h
  live _ _ h := by cases h
  sound i := by
    cases calls i <;> trivial

/-! ## What a step writes -/

section

variable (x : QueueTx) (i : Nat)

@[simp] theorem QueueTx.phase_goto (phase : JobPhase) : (x.goto i phase).phase i = phase :=
  update_self ..

@[simp] theorem QueueTx.phase_finish (reply : Except PyError JobReply) :
    (x.finish i reply).phase i = .ended reply :=
  update_self ..

@[simp] theorem QueueTx.phase_commit (id : Int) (row : JobRow) (events : List JobEvent)
    (reply : JobReply) : (x.commit i id row events reply).phase i = .ended (.ok reply) :=
  update_self ..

@[simp] theorem QueueTx.phase_lockRow (id : Int) (phase : JobPhase) :
    (x.lockRow i id phase).phase i = phase :=
  update_self ..

@[simp] theorem QueueTx.phase_lockKey (key : String × String) (phase : JobPhase) :
    (x.lockKey i key phase).phase i = phase :=
  update_self ..

end

section

variable {json : JobJson} {calls : Nat → JobCall} {x : QueueTx} {i : Nat}

theorem sound_ended (call : JobCall) (reply : Except PyError JobReply) :
    Sound call (.ended reply) := by
  cases call <;> trivial

theorem sound_finish (call : JobCall) (x : QueueTx) (i : Nat) (reply : Except PyError JobReply) :
    Sound call ((x.finish i reply).phase i) := by
  rw [phase_finish]
  exact sound_ended call reply

theorem sound_enqueue {args : EnqueueArgs} (h : Sound (.enqueue args) (x.phase i)) :
    Sound (.enqueue args) ((x.advanceEnqueue json i args).phase i) := by
  unfold advanceEnqueue
  cases hphase : x.phase i with
  | idle =>
    simp only []
    split
    · exact sound_finish _ x i _
    rename_i hmax
    unfold QueueTx.checked
    split
    · exact sound_finish _ x i _
    · rw [phase_goto]
      exact Int.not_lt.mp hmax
  | begun now =>
    rw [hphase] at h
    cases hjob : x.jobOf args.key with
    | some entry =>
      simp only []
      split <;> exact sound_finish _ x i _
    | none =>
      rw [phase_goto]
      exact h
  | absent =>
    rw [hphase] at h
    change Sound _ ((x.goto i (.numbered x.nextId)).phase i)
    rw [phase_goto]
    exact h
  | numbered id =>
    simp only []
    split
    · split
      · exact sound_finish _ x i _
      · rw [hphase] at h
        rw [phase_lockKey]
        exact h
    · exact h
  | inserted id row =>
    rw [phase_commit]
    exact sound_ended _ _
  | _ => exact h

/-- A claim finds an attempt left. -/
theorem Counted.attempts_left (hcounted : Counted calls x) {now id : Int} {row : JobRow}
    (hnow : now ≤ x.clock) (hget : x.jobs.get? id = some row)
    (hclaimable : row.claimable now = true) : (row.attempt : Int) < row.maxAttempts := by
  obtain hpending | ⟨hrunning, expiry, hexpiry, hover⟩ := claimable_cases hclaimable
  · exact (hcounted.rows id row hget).pending hpending
  · by_contra hlast
    have hlive := hcounted.live id row hget hrunning (Int.not_lt.mp hlast)
    rw [hexpiry, Option.any_some, decide_eq_true_iff] at hlive
    omega

theorem sound_claim {workerId : String} {leaseSeconds : Int} (hcounted : Counted calls x)
    (hrelies : Relies json x i (.claim workerId leaseSeconds) (x.phase i))
    (h : Sound (.claim workerId leaseSeconds) (x.phase i)) :
    Sound (.claim workerId leaseSeconds) ((x.advanceClaim i workerId leaseSeconds).phase i) := by
  unfold advanceClaim
  cases hphase : x.phase i with
  | idle =>
    simp only []
    split
    · exact sound_finish _ x i _
    · rw [phase_goto]
      trivial
  | begun now =>
    rw [phase_goto]
    trivial
  | scanning now ids =>
    cases ids with
    | nil => exact sound_finish _ x i _
    | cons id rest =>
      simp only []
      cases hget : x.jobs.get? id with
      | none =>
        rw [phase_goto]
        trivial
      | some row =>
        simp only []
        split
        · rename_i htake
          rw [hphase] at hrelies
          have hleft : (row.attempt : Int) < row.maxAttempts :=
            hcounted.attempts_left hrelies hget (Bool.and_eq_true_iff.mp htake).2
          rw [phase_lockRow]
          change ((row.attempt + 1 : Nat) : Int) ≤ row.maxAttempts
          push_cast
          exact hleft
        · rw [phase_goto]
          trivial
  | written now id row =>
    rw [phase_commit]
    exact sound_ended _ _
  | _ => exact h

/-- An update writes the attempts as it found them, and a failure in time is
reported with these. -/
theorem sound_update (json : JobJson) {call : JobCall} {update : JobUpdate}
    (hcounted : Counted calls x)
    (hcall : call.update? json = some update) (htime : OnTime x call (x.phase i))
    (h : Sound call (x.phase i)) : Sound call ((x.advanceUpdate i update).phase i) := by
  have hunwritten : ∀ phase : JobPhase, (∀ now id row, phase ≠ .written now id row) →
      Sound call phase := by
    intro phase hphase
    cases call <;> cases hcall <;> cases phase <;>
      first | trivial | exact absurd rfl (hphase _ _ _)
  unfold advanceUpdate
  cases hphase : x.phase i with
  | idle =>
    unfold QueueTx.checked
    simp only []
    split
    · exact sound_finish _ x i _
    · rw [phase_goto]
      exact hunwritten _ (by simp)
  | begun now =>
    simp only []
    split
    · rw [phase_goto]
      exact hunwritten _ (by simp)
    · exact sound_finish _ x i _
  | matched now =>
    simp only []
    split
    · cases hget : x.jobs.get? update.job.id with
      | none => exact sound_finish _ x i _
      | some row =>
        simp only []
        split
        · rename_i hheld
          rw [phase_lockRow]
          rw [hphase] at htime
          cases call with
          | enqueue args => trivial
          | claim workerId leaseSeconds => cases hcall
          | heartbeat job workerId leaseSeconds => trivial
          | succeed job workerId result => trivial
          | fail job workerId error =>
            cases hcall
            obtain ⟨event, hlatest, hid, hattempt, hmax⟩ := htime row hget hheld
            obtain ⟨hrunning, hleased⟩ := held_iff.mp hheld
            obtain ⟨hattempt', hmax'⟩ := (hcounted.rows _ row hget).returned workerId event
              hrunning hleased hlatest hid
            exact ⟨hattempt.symm.trans hattempt', hmax.symm.trans hmax'⟩
        · exact sound_finish _ x i _
    · exact h
  | written now id row =>
    rw [phase_commit]
    exact sound_ended _ _
  | _ => exact h

end

/-! ## What a commit leaves behind -/

section

variable {json : JobJson} {call : JobCall} {now id : Int} {row row' : JobRow}
  {log : List JobEvent} {event : JobEvent}

theorem latestClaimBy_append (log : List JobEvent) (event : JobEvent) (workerId : String) :
    latestClaimBy (log ++ [event]) workerId =
      if event.workerId = workerId ∧ event.kind = .claimed then some event
      else latestClaimBy log workerId := by
  unfold latestClaimBy
  split
  · rename_i h
    simp [h]
  · rename_i h
    simp only [List.filter_append, List.filter_cons, h, decide_false, Bool.false_eq_true, if_false,
      List.filter_nil, List.append_nil]

theorem CountedRow.append_other (h : CountedRow log id row) (hne : event.jobId ≠ id) :
    CountedRow (log ++ [event]) id row where
  claims := by
    rw [claimsOf_append_other (by simpa using hne)]
    exact h.claims
  bound := h.bound
  pending := h.pending
  status := h.status
  returned workerId event' hrunning hleased hlatest hid := by
    rw [latestClaimBy_append] at hlatest
    split at hlatest
    · cases hlatest
      exact absurd hid hne
    · exact h.returned workerId event' hrunning hleased hlatest hid

theorem CountedRow.append_unclaimed (h : CountedRow log id row)
    (hattempt : row'.attempt = row.attempt) (hmax : row'.maxAttempts = row.maxAttempts)
    (hkind : event.kind ≠ .claimed) (hstatus : row'.status ≠ .failed)
    (hpending : row'.status = .pending → (row.attempt : Int) < row.maxAttempts)
    (hrunning : row'.status = .running → row.status = .running ∧ row'.leasedBy = row.leasedBy) :
    CountedRow (log ++ [event]) id row' where
  claims := by
    rw [claimsOf_append_unclaimed hkind, hattempt]
    exact h.claims
  bound := by
    rw [hattempt, hmax]
    exact h.bound
  pending := by
    rw [hattempt, hmax]
    exact hpending
  status := hstatus
  returned workerId event' hrunning' hleased hlatest hid := by
    obtain ⟨hrow, hleasedBy⟩ := hrunning hrunning'
    rw [latestClaimBy_append, if_neg fun h => hkind h.2] at hlatest
    rw [hattempt, hmax]
    exact h.returned workerId event' hrow (hleasedBy ▸ hleased) hlatest hid

theorem Updates.counted (h : Updates json call now id row row') (hrow : CountedRow log id row)
    (hsound : Sound call (.written now id row')) {workerId : String} {kind : EventKind}
    (hworker : call.worker? = some workerId) (hkind : call.kind? = some kind) :
    CountedRow (log ++ [⟨id, workerId, kind, row'⟩]) id row' := by
  obtain ⟨workerId', leaseSeconds, rfl, -, rfl⟩ | ⟨update, hupdate, -, hheld, rfl⟩ := h
  · cases hworker
    cases hkind
    refine ⟨?_, hsound, by simp [claim], by simp [claim], ?_⟩
    · rw [claimsOf_append_claim rfl, List.length_append, hrow.claims]
      rfl
    · intro workerId event hrunning hleased hlatest _
      cases hleased
      rw [latestClaimBy_append, if_pos ⟨rfl, rfl⟩] at hlatest
      cases hlatest
      exact ⟨rfl, rfl⟩
  · obtain ⟨hrunning, -⟩ := held_iff.mp hheld
    cases call with
    | enqueue args => cases hupdate
    | claim workerId' leaseSeconds => cases hupdate
    | heartbeat job workerId' leaseSeconds =>
      cases hupdate
      cases hkind
      refine hrow.append_unclaimed rfl rfl (by simp) hrow.status (fun hpending => ?_)
        fun _ => ⟨hrunning, rfl⟩
      cases hrunning.symm.trans hpending
    | succeed job workerId' result =>
      cases hupdate
      cases hkind
      exact hrow.append_unclaimed rfl rfl (by simp) (by simp [Jobs.succeed])
        (by simp [Jobs.succeed]) (by simp [Jobs.succeed])
    | fail job workerId' error =>
      cases hupdate
      cases hkind
      obtain ⟨hattempt, hmax⟩ : job.attempt = row.attempt ∧ job.maxAttempts = row.maxAttempts :=
        hsound
      refine hrow.append_unclaimed rfl rfl (by simp) ?_ ?_ ?_ <;>
        simp only [Jobs.fail, DurableJob.statusAfterFailure, hattempt, hmax]
      · split <;> simp
      · split
        · simp
        · rename_i hless
          exact fun _ => Int.not_le.mp hless
      · split <;> simp

theorem Updates.maxAttempts (h : Updates json call now id row row') :
    row'.maxAttempts = row.maxAttempts := by
  obtain ⟨workerId, leaseSeconds, -, -, rfl⟩ | ⟨update, hupdate, -, -, rfl⟩ := h
  · rfl
  · cases call <;> cases hupdate <;> rfl

end

/-! ## Steps -/

section

variable {json : JobJson} {calls : Nat → JobCall} {x x' : QueueTx} {i : Nat}

theorem Stepped.others (h : Stepped calls x i x') {j : Nat} (hj : j ≠ i) :
    x'.phase j = x.phase j := by
  cases h with
  | quiet hq => exact hq.others j hj
  | insert _ | update _ _ _ => exact update_of_ne hj _ _

theorem Stepped.counted (hinv : QueueInv json calls x) (hcounted : Counted calls x)
    (h : Stepped calls x i x')
    (hlive : ∀ id row, x'.jobs.get? id = some row → Live x'.clock row)
    (hsound : Sound (calls i) (x'.phase i)) : Counted calls x' where
  rows id row hget := by
    have hrelies := hinv.relies i
    have hsound' := hcounted.sound i
    cases h with
    | quiet hq =>
      rw [hq.jobs] at hget
      rw [hq.log]
      exact hcounted.rows id row hget
    | insert hphase =>
      rename_i id₀ row₀ reply
      rw [hphase] at hrelies hsound'
      obtain ⟨⟨-, hnone⟩, args, hcall, rfl, -⟩ := hrelies
      change (x.jobs.set id₀ (newRow json args)).get? id = some row at hget
      change CountedRow (x.log ++ []) id row
      rw [List.append_nil]
      rw [Dict.get?_set] at hget
      split at hget
      · rename_i heq
        cases hget
        rw [hcall] at hsound'
        have hclaims : claimsOf x.log id = [] := by
          rw [claimsOf, List.filter_eq_nil_iff]
          intro event hmem heq'
          obtain ⟨row, hrow⟩ := hinv.logged event hmem
          rw [(of_decide_eq_true heq').1, ← heq] at hrow
          cases hnone.symm.trans hrow
        have hmax : 1 ≤ args.maxAttempts := hsound'
        refine ⟨by rw [hclaims]; rfl, ?_, fun _ => ?_, by simp [newRow],
          fun _ _ hrunning => by cases hrunning⟩
        · exact Int.le_trans Int.one_nonneg hmax
        · exact Int.lt_of_lt_of_le Int.one_pos hmax
      · exact hcounted.rows id row hget
    | update hphase hworker hkind =>
      rename_i now id₀ row₀ reply workerId kind
      rw [hphase] at hrelies hsound'
      obtain ⟨-, -, old, hold, hupdates⟩ := hrelies
      change (x.jobs.set id₀ row₀).get? id = some row at hget
      change CountedRow (x.log ++ [⟨id₀, workerId, kind, row₀⟩]) id row
      rw [Dict.get?_set] at hget
      split at hget
      · rename_i heq
        cases hget
        rw [← heq]
        exact hupdates.counted (hcounted.rows id₀ old hold) hsound' hworker hkind
      · rename_i hne
        exact (hcounted.rows id row hget).append_other hne
  live := hlive
  sound j := by
    rcases eq_or_ne j i with rfl | hj
    · exact hsound
    · rw [h.others hj]
      exact hcounted.sound j

theorem sound_advance (hinv : QueueInv json calls x) (hcounted : Counted calls x)
    (htime : OnTime x (calls i) (x.phase i)) :
    Sound (calls i) ((x.advance json calls i).phase i) := by
  have h := hcounted.sound i
  have hrelies := hinv.relies i
  unfold advance
  cases hcall : calls i with
  | enqueue args => exact sound_enqueue (hcall ▸ h)
  | claim workerId leaseSeconds => exact sound_claim hcounted (hcall ▸ hrelies) (hcall ▸ h)
  | heartbeat job workerId leaseSeconds | succeed job workerId result | fail job workerId error =>
    exact sound_update json hcounted rfl (hcall ▸ htime) (hcall ▸ h)

/-- What a move on time is about to commit has a lease that goes on, or is not running. -/
theorem live_written (hinv : QueueInv json calls x) (htime : OnTime x (calls i) (x.phase i))
    {now id : Int} {row : JobRow} (hphase : x.phase i = .written now id row) :
    Live x.clock row := by
  have hrelies := hinv.relies i
  rw [hphase] at hrelies htime
  obtain ⟨-, -, old, -, hupdates⟩ := hrelies
  cases hcall : calls i with
  | claim workerId leaseSeconds | heartbeat job workerId leaseSeconds =>
    rw [hcall] at htime
    exact htime
  | enqueue args =>
    rw [hcall] at hupdates
    obtain ⟨_, _, h, -⟩ | ⟨_, h, -⟩ := hupdates <;> cases h
  | succeed job workerId result =>
    rw [hcall] at hupdates
    obtain ⟨_, _, h, -⟩ | ⟨update, h, -, -, rfl⟩ := hupdates <;> cases h
    exact fun hrunning => by cases hrunning
  | fail job workerId error =>
    rw [hcall] at hupdates
    obtain ⟨_, _, h, -⟩ | ⟨update, h, -, -, rfl⟩ := hupdates <;> cases h
    intro hrunning
    simp only [Jobs.fail, DurableJob.statusAfterFailure] at hrunning
    split at hrunning <;> cases hrunning

theorem Stepped.live (hinv : QueueInv json calls x) (hcounted : Counted calls x)
    (h : Stepped calls x i x') (htime : OnTime x (calls i) (x.phase i)) {id : Int} {row : JobRow}
    (hget : x'.jobs.get? id = some row) : Live x'.clock row := by
  have hrelies := hinv.relies i
  cases h with
  | quiet hq =>
    rw [hq.jobs] at hget
    rw [hq.clock]
    exact hcounted.live id row hget
  | insert hphase =>
    rename_i id₀ row₀ reply
    rw [hphase] at hrelies
    obtain ⟨-, args, -, rfl, -⟩ := hrelies
    change (x.jobs.set id₀ (newRow json args)).get? id = some row at hget
    rw [Dict.get?_set] at hget
    split at hget
    · cases hget
      exact fun hrunning => by cases hrunning
    · exact hcounted.live id row hget
  | update hphase hworker hkind =>
    rename_i now id₀ row₀ reply workerId kind
    change (x.jobs.set id₀ row₀).get? id = some row at hget
    rw [Dict.get?_set] at hget
    split at hget
    · cases hget
      exact live_written hinv htime hphase
    · exact hcounted.live id row hget

/-- **One step.** A move in time keeps the counts. -/
theorem counted_step (hinv : QueueInv json calls x) (hcounted : Counted calls x)
    (move : QueueMove) (htime : MoveOnTime calls x move) :
    Counted calls (x.step json calls move) := by
  cases move with
  | advance i =>
    have hsound : Sound (calls i) ((x.advance json calls i).phase i) :=
      sound_advance hinv hcounted htime
    have hstepped := (kept_advance hinv i).stepped
    exact hstepped.counted hinv hcounted (fun _ _ => hstepped.live hinv hcounted htime) hsound
  | skip i =>
    refine (kept_skip hinv i).stepped.counted hinv hcounted ?_ ?_
    · change ∀ id row, (x.skip i).jobs.get? id = some row → Live (x.skip i).clock row
      unfold skip
      split <;> exact hcounted.live
    have h := hcounted.sound i
    change Sound (calls i) ((x.skip i).phase i)
    unfold skip
    split
    · rw [phase_goto]
      cases calls i <;> trivial
    · exact h
  | abort i error =>
    refine (kept_abort hinv i error).stepped.counted hinv hcounted ?_ ?_
    · change ∀ id row, (x.abort i error).jobs.get? id = some row → Live (x.abort i error).clock row
      unfold abort
      split <;> exact hcounted.live
    have h := hcounted.sound i
    change Sound (calls i) ((x.abort i error).phase i)
    unfold abort
    split
    · exact h
    · exact h
    · exact sound_finish _ x i _
  | tick micros =>
    exact ⟨hcounted.rows, fun id row hget => htime (id, row) (Dict.mem_entries_iff.mpr hget),
      hcounted.sound⟩

/-- A step only adds to the log, and a job keeps its `max_attempts`. -/
theorem Stepped.extends (hinv : QueueInv json calls x) (h : Stepped calls x i x') :
    x.log <+: x'.log ∧ ∀ id row, x.jobs.get? id = some row →
      ∃ row', x'.jobs.get? id = some row' ∧ row'.maxAttempts = row.maxAttempts := by
  constructor
  · cases h with
    | quiet hq => exact hq.log ▸ List.prefix_rfl
    | insert _ | update _ _ _ => exact List.prefix_append _ _
  · intro id row hget
    obtain hsame | ⟨now, row', hget', -, hupdates⟩ := h.row hinv hget
    · exact ⟨row, hsame, rfl⟩
    · exact ⟨row', hget', hupdates.maxAttempts⟩

theorem step_extends (hinv : QueueInv json calls x) (move : QueueMove) :
    x.log <+: (x.step json calls move).log ∧ ∀ id row, x.jobs.get? id = some row →
      ∃ row', (x.step json calls move).jobs.get? id = some row' ∧
        row'.maxAttempts = row.maxAttempts := by
  cases move with
  | advance i => exact (kept_advance hinv i).stepped.extends hinv
  | skip i => exact (kept_skip hinv i).stepped.extends hinv
  | abort i error => exact (kept_abort hinv i error).stepped.extends hinv
  | tick micros => exact ⟨List.prefix_rfl, fun id row hget => ⟨row, hget, rfl⟩⟩

end

/-! ## Runs -/

section

variable {json : JobJson} {calls : Nat → JobCall}

theorem run_extends : ∀ (moves : List QueueMove) (x : QueueTx), QueueInv json calls x →
    x.log <+: (run (step json calls) x moves).log ∧
      ∀ id row, x.jobs.get? id = some row →
        ∃ row', (run (step json calls) x moves).jobs.get? id = some row' ∧
          row'.maxAttempts = row.maxAttempts
  | [], _, _ => ⟨List.prefix_rfl, fun _ row hget => ⟨row, hget, rfl⟩⟩
  | move :: rest, x, hinv => by
    obtain ⟨hlog, hrows⟩ := step_extends hinv move
    obtain ⟨hlog', hrows'⟩ := run_extends rest _ (queueInv_step x move hinv)
    refine ⟨hlog.trans hlog', fun id row hget => ?_⟩
    obtain ⟨row', hget', hmax⟩ := hrows id row hget
    obtain ⟨row'', hget'', hmax'⟩ := hrows' id row' hget'
    exact ⟨row'', hget'', hmax'.trans hmax⟩

variable {moves : List QueueMove} {x : QueueTx}

theorem counted_run (h : Guarded (step json calls) (MoveOnTime calls) x moves)
    (hinv : QueueInv json calls x) (hcounted : Counted calls x) :
    QueueInv json calls (run (step json calls) x moves) ∧
      Counted calls (run (step json calls) x moves) :=
  guarded_invariant (P := fun x => QueueInv json calls x ∧ Counted calls x)
    (fun x move htime hx => ⟨queueInv_step x move hx.1, counted_step hx.1 hx.2 move htime⟩)
    moves x h ⟨hinv, hcounted⟩

/-- The job is a dead letter or succeeded, or the lease of its holder goes on. -/
def Settled (clock : Int) (row : JobRow) : Prop :=
  row.status = .deadLetter ∨ row.status = .succeeded ∨
    row.status = .running ∧ row.leaseExpiresAt.any (clock < ·) = true

/-- A job that has been claimed as often as it may is not claimed again. -/
theorem claims_exhausted (h : Guarded (step json calls) (MoveOnTime calls) x moves)
    (hinv : QueueInv json calls x) (hcounted : Counted calls x) {id : Int} {row : JobRow}
    (hget : x.jobs.get? id = some row)
    (hall : ((claimsOf x.log id).length : Int) = row.maxAttempts) :
    claimsOf (run (step json calls) x moves).log id = claimsOf x.log id ∧
      ∃ row', (run (step json calls) x moves).jobs.get? id = some row' ∧
        Settled (run (step json calls) x moves).clock row' := by
  obtain ⟨-, hcounted'⟩ := counted_run h hinv hcounted
  obtain ⟨hlog, hrows⟩ := run_extends moves x hinv
  obtain ⟨row', hget', hmax⟩ := hrows id row hget
  have hrow := hcounted'.rows id row' hget'
  -- the claims so far are the first claims of the longer log, and there is no room for more
  have hsub : claimsOf x.log id <+: claimsOf (run (step json calls) x moves).log id :=
    hlog.filter _
  have hlength : (claimsOf (run (step json calls) x moves).log id).length ≤
      (claimsOf x.log id).length := by
    have hbound := hrow.bound
    rw [hmax, ← hall, ← hrow.claims] at hbound
    exact Int.ofNat_le.mp hbound
  have hsame := (hsub.eq_of_length_le hlength).symm
  refine ⟨hsame, row', hget', ?_⟩
  cases hstatus : row'.status with
  | pending =>
    have hless := hrow.pending hstatus
    rw [hmax, ← hall, ← hrow.claims, hsame] at hless
    exact absurd hless (lt_irrefl _)
  | running =>
    refine .inr (.inr ⟨hstatus, hcounted'.live id row' hget' hstatus ?_⟩)
    rw [hmax, ← hall, ← hrow.claims, hsame]
  | succeeded => exact .inr (.inl hstatus)
  | failed => exact absurd hstatus hrow.status
  | deadLetter => exact .inl hstatus

end

/-- **Main result.** In a run whose moves are all in time a job is claimed at
most `max_attempts` times. Once it has been claimed that often, no later claim
takes it, and unless it succeeds it is a dead letter by the end of its lease. -/
theorem claims_at_most_maxAttempts (json : JobJson) (calls : Nat → JobCall) (clock : Int)
    (moves later : List QueueMove)
    (h : Guarded (QueueTx.step json calls) (MoveOnTime calls) (.init clock) (moves ++ later))
    (id : Int) (row : JobRow)
    (hget : (QueueTx.after json calls clock moves).jobs.get? id = some row) :
    ((claimsOf (QueueTx.after json calls clock moves).log id).length : Int) ≤ row.maxAttempts ∧
      (((claimsOf (QueueTx.after json calls clock moves).log id).length : Int) = row.maxAttempts →
        claimsOf (QueueTx.after json calls clock (moves ++ later)).log id =
            claimsOf (QueueTx.after json calls clock moves).log id ∧
          ∃ row', (QueueTx.after json calls clock (moves ++ later)).jobs.get? id = some row' ∧
            Settled (QueueTx.after json calls clock (moves ++ later)).clock row') := by
  obtain ⟨hfirst, hlater⟩ := (guarded_append _ _ _).mp h
  obtain ⟨hinv, hcounted⟩ := counted_run hfirst (queueInv_init json calls clock)
    (counted_init calls clock)
  unfold after at hget ⊢
  have hrow := hcounted.rows id row hget
  rw [run_append]
  refine ⟨?_, claims_exhausted hlater hinv hcounted hget⟩
  rw [hrow.claims]
  exact hrow.bound

/-! ## A worker that never reports -/

def plainJson : JobJson := ⟨fun _ => "", id⟩

/-- The job that the first claim of the sample returns. -/
def sampleJob : DurableJob := ⟨1, "tenant-one", "heartbeat", [], "job-one", 1, 1, some 60000000⟩

/-- One job with a single attempt, two workers, and the report of the first. -/
def sampleCalls : Nat → JobCall
  | 0 => .enqueue ⟨"tenant-one", "heartbeat", [], "job-one", 1, 0⟩
  | 1 => .claim "worker-one" 60
  | 2 => .claim "worker-two" 60
  | _ => .fail sampleJob "worker-one" "RuntimeError: no handler"

def steps (count call : Nat) : List QueueMove := List.replicate count (.advance call)

/-- The job is enqueued, claimed, and its failure reported; then the lease
time passes and the second worker looks for a job. -/
def sampleMoves : List QueueMove := steps 5 0 ++ steps 4 1 ++ steps 4 3

def sampleLater : List QueueMove := .tick 60000000 :: steps 4 2

theorem claims_at_most_maxAttempts_sample :
    (claimsOf (QueueTx.after plainJson sampleCalls 0 (sampleMoves ++ sampleLater)).log 1).length =
        1 ∧
      ∃ row', (QueueTx.after plainJson sampleCalls 0 (sampleMoves ++ sampleLater)).jobs.get? 1 =
        some row' ∧ row'.status = .deadLetter := by
  have htime : Guarded (step plainJson sampleCalls) (MoveOnTime sampleCalls) (.init 0)
      (sampleMoves ++ sampleLater) := by decide +kernel
  have hmax : ((after plainJson sampleCalls 0 sampleMoves).jobs.get? 1).map
      maxAttempts = some 1 := by decide +kernel
  have hclaims :
      (claimsOf (after plainJson sampleCalls 0 sampleMoves).log 1).length = 1 := by
    decide +kernel
  have hended : ∀ row ∈ (after plainJson sampleCalls 0 (sampleMoves ++ sampleLater)).jobs.get? 1,
      row.status ≠ .succeeded ∧ row.leaseExpiresAt = none := by decide +kernel
  obtain ⟨row, hget, hrow⟩ := Option.map_eq_some_iff.mp hmax
  obtain ⟨-, hlater⟩ := claims_at_most_maxAttempts plainJson sampleCalls 0 sampleMoves sampleLater
    htime 1 row hget
  obtain ⟨hsame, row', hget', hdead | hsucceeded | ⟨-, hlease⟩⟩ :=
    hlater (by rw [hclaims, hrow]; rfl)
  · exact ⟨hsame ▸ hclaims, row', hget', hdead⟩
  · exact absurd hsucceeded (hended row' hget').1
  · rw [(hended row' hget').2] at hlease
    cases hlease

/-- The first worker stops after its claim. When the lease has run out the
second worker is given the job as well, its second attempt of one. -/
theorem expired_lease_claimed_again :
    ((QueueTx.after plainJson sampleCalls 0 (steps 5 0 ++ steps 4 1 ++ sampleLater)).jobs.get?
        1).map (fun row => (row.status, row.attempt, row.maxAttempts)) = some (.running, 2, 1) ∧
      (claimsOf (QueueTx.after plainJson sampleCalls 0
        (steps 5 0 ++ steps 4 1 ++ sampleLater)).log 1).map JobEvent.workerId =
          ["worker-one", "worker-two"] := by
  decide +kernel

end ComputeWeaver.Jobs
