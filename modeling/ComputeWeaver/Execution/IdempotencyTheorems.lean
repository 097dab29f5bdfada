/-
Execution.IdempotencyTheorems — what the in-memory
`IdempotencyStore` guarantees over every interleaving of calls.

`Effect` lists what one step can do, with the guards that let it happen;
`step_effect` is the only place that unfolds `step`. `Exclusive` holds in every
run: while an operation runs, its action's status is "started", and no second
operation of that action runs.

Two guarantees need more than the code checks.

* AT MOST ONCE PER KEY. Two calls that share a key but not an action
  pass both checks and both run. `KeyExclusive` rules out exactly these starts.
* NO CANCELLATION AFTER SUCCESS. `cancel` reads the action's one status
  entry. An operation that fails overwrites the "succeeded" that an earlier
  one left there. `NoFailureAfterSuccess` rules out exactly these failures.
-/
import ComputeWeaver.Execution.Idempotency

namespace ComputeWeaver.Execution

open Lib ExecutionState Dict IdempotencyStore Function

variable {ρ : Type} (env : PyEnv) (args : Nat → ExecuteArgs)

/-! ## What one step does -/

/-- The step of the concurrent calls, with the guards under which it is
made. -/
inductive Effect (x : ExecutionState ρ) : Move ρ → ExecutionState ρ → Prop
  | skip (m : Move ρ) : Effect x m x
  | refused (i : Nat) (e : PyError) (hidle : x.phase i = .idle) :
      Effect x (.start i) { x with phase := Function.update x.phase i (.raised e) }
  | replayed (i : Nat) (result : ρ) (hidle : x.phase i = .idle)
      (hresult : x.store.results.get? (args i).identity = some ((args i).digest env, result)) :
      Effect x (.start i) { x with phase := Function.update x.phase i (.replayed result) }
  | begun (i : Nat) (hidle : x.phase i = .idle)
      (hcancel : x.store.cancellations.get? ((args i).actionIdentity env) = none)
      (hresult : x.store.results.get? (args i).identity = none)
      (hstatus : x.store.actionStatus.get? ((args i).actionIdentity env) ≠ some .started) :
      Effect x (.start i)
        ⟨{ x.store with actionStatus :=
            x.store.actionStatus.set ((args i).actionIdentity env) .started },
          Function.update x.phase i .running⟩
  | finished (i : Nat) (result : ρ) (hrunning : x.phase i = .running) :
      Effect x (.finish i result)
        ⟨x.store.finish env (args i) result, Function.update x.phase i (.completed result)⟩
  | failed (i : Nat) (e : PyError) (hrunning : x.phase i = .running) :
      Effect x (.fail i e)
        ⟨x.store.fail env (args i), Function.update x.phase i (.raised e)⟩
  | cancelled (actionId tenantId actorId reason : String) (cancellation : Cancellation) :
      Effect x (.cancel actionId tenantId actorId reason)
        ⟨{ x.store with
            cancellations := x.store.cancellations.set (tenantId, actionId) cancellation },
          x.phase⟩

theorem start_cases (s : IdempotencyStore ρ) (a : ExecuteArgs) :
    (∃ e, s.start env a = (.error e, s)) ∨
    (∃ result, s.start env a = (.ok (some result), s) ∧
      s.cancellations.get? (a.actionIdentity env) = none ∧
      s.results.get? a.identity = some (a.digest env, result)) ∨
    (s.start env a = (.ok none,
        { s with actionStatus := s.actionStatus.set (a.actionIdentity env) .started }) ∧
      s.cancellations.get? (a.actionIdentity env) = none ∧
      s.results.get? a.identity = none ∧
      s.actionStatus.get? (a.actionIdentity env) ≠ some .started) := by
  unfold start
  split
  · exact .inl ⟨_, rfl⟩
  rename_i hcontains
  have hcancel : s.cancellations.get? (a.actionIdentity env) = none := by
    simpa [contains] using hcontains
  split
  · rename_i previousDigest result hget
    split
    · exact .inl ⟨_, rfl⟩
    · rename_i hdigest
      rw [Classical.not_not.mp hdigest] at hget
      exact .inr (.inl ⟨result, rfl, hcancel, hget⟩)
  · rename_i hget
    split
    · exact .inl ⟨_, rfl⟩
    · rename_i hstatus
      exact .inr (.inr ⟨rfl, hcancel, hget, hstatus⟩)

/-- `cancel`, by outcome: it raises and changes nothing, or it records the
cancellation of an action that is neither started nor succeeded. -/
theorem cancel_cases (s : IdempotencyStore ρ) (actionId tenantId actorId reason : String) :
    (∃ e, s.cancel actionId tenantId actorId reason = (.error e, s)) ∨
    (∃ cancellation, s.cancel actionId tenantId actorId reason = (.ok cancellation,
        { s with cancellations := s.cancellations.set (tenantId, actionId) cancellation }) ∧
      s.actionStatus.get? (tenantId, actionId) ≠ some .started ∧
      s.actionStatus.get? (tenantId, actionId) ≠ some .succeeded) := by
  unfold cancel
  split
  · exact .inl ⟨_, rfl⟩
  simp only
  split
  · exact .inl ⟨_, rfl⟩
  · exact .inl ⟨_, rfl⟩
  · rename_i hstarted hsucceeded
    split
    · split
      · exact .inl ⟨_, rfl⟩
      · exact .inr ⟨_, rfl, hstarted, hsucceeded⟩
    · exact .inr ⟨_, rfl, hstarted, hsucceeded⟩

theorem step_effect (x : ExecutionState ρ) (m : Move ρ) :
    Effect env args x m (x.step env args m) := by
  cases m with
  | start i =>
    simp only [step]
    split
    · rename_i hidle
      rcases start_cases env x.store (args i) with
        ⟨e, h⟩ | ⟨result, h, -, hresult⟩ | ⟨h, hcancel, hresult, hstatus⟩ <;> rw [h]
      · exact .refused i e hidle
      · exact .replayed i result hidle hresult
      · exact .begun i hidle hcancel hresult hstatus
    · exact .skip _
  | finish i result =>
    simp only [step]
    split
    · rename_i hrunning; exact .finished i result hrunning
    · exact .skip _
  | fail i e =>
    simp only [step]
    split
    · rename_i hrunning; exact .failed i e hrunning
    · exact .skip _
  | cancel actionId tenantId actorId reason =>
    simp only [step]
    rcases cancel_cases x.store actionId tenantId actorId reason with
      ⟨e, h⟩ | ⟨cancellation, h, -, -⟩ <;> rw [h]
    · exact .skip _
    · exact .cancelled actionId tenantId actorId reason cancellation

/-! ## One operation at a time for each action -/

/-- A running operation holds its action's status, alone. -/
structure Exclusive (x : ExecutionState ρ) : Prop where
  running_started : ∀ i, x.phase i = .running →
    x.store.actionStatus.get? ((args i).actionIdentity env) = some .started
  running_unique : ∀ i j, x.phase i = .running → x.phase j = .running →
    (args i).actionIdentity env = (args j).actionIdentity env → i = j

variable {x y : ExecutionState ρ} {i j : Nat} {m : Move ρ} {key : String × String}
  {p : CallPhase ρ} {entry : String × ρ} {result : ρ} {store : IdempotencyStore ρ}

/-- A call that does not run keeps the other running operations exclusive,
if it leaves their statuses alone. -/
theorem Exclusive.leave (hx : Exclusive env args x) (hp : p ≠ .running)
    (hstatus : ∀ k, k ≠ i → x.phase k = .running →
      store.actionStatus.get? ((args k).actionIdentity env) =
        x.store.actionStatus.get? ((args k).actionIdentity env)) :
    Exclusive env args ⟨store, update x.phase i p⟩ := by
  refine ⟨?_, ?_⟩
  · intro k hk
    obtain ⟨hki, hold⟩ := phase_of_update hk hp
    exact (hstatus k hki hold).trans (hx.running_started k hold)
  · intro k l hk hl
    exact hx.running_unique k l (phase_of_update hk hp).2 (phase_of_update hl hp).2

theorem Exclusive.effect (hx : Exclusive env args x) (h : Effect env args x m y) :
    Exclusive env args y := by
  cases h with
  | skip => exact hx
  | refused i e _ | replayed i result _ _ => exact hx.leave env args (by simp) fun _ _ _ => rfl
  | begun i _ _ _ hstatus =>
    -- a second operation of the action would have left its status "started"
    have hother : ∀ k, x.phase k = .running →
        (args k).actionIdentity env ≠ (args i).actionIdentity env := by
      intro k hk heq
      exact hstatus (heq ▸ hx.running_started k hk)
    refine ⟨?_, ?_⟩
    · intro k hk
      by_cases hki : k = i
      · subst hki; exact get?_set_self _ _ _
      · have hold := phase_update_ne hk hki
        exact (get?_set_ne _ _ (Ne.symm (hother k hold))).trans
          (hx.running_started k hold)
    · exact unique_of_others _ (fun k hki hk => phase_update_ne hk hki) hx.running_unique
        fun _ => hother
  | finished i result hi | failed i e hi =>
    exact hx.leave env args (by simp) fun k hki hk =>
      get?_set_ne _ _ fun heq => hki (hx.running_unique i k hi hk heq).symm
  | cancelled => exact ⟨hx.running_started, hx.running_unique⟩

theorem exclusive_init : Exclusive env args (init : ExecutionState ρ) :=
  ⟨fun i h => by simp [init] at h, fun i j h => by simp [init] at h⟩

/-! ## At most one completed operation for each key -/

/-- No call starts while an operation with its key, but for another action,
is in flight. -/
def KeyExclusive (x : ExecutionState ρ) : Move ρ → Prop
  | .start j => ∀ i, x.phase i = .running → (args i).identity = (args j).identity →
      (args i).actionIdentity env = (args j).actionIdentity env
  | _ => True

/-- What `results` knows of the calls: nothing of a key whose operation still
runs, and the one result of a key whose operation has completed. -/
structure Recorded (x : ExecutionState ρ) : Prop where
  running_fresh : ∀ i, x.phase i = .running → x.store.results.get? (args i).identity = none
  running_key_unique : ∀ i j, x.phase i = .running → x.phase j = .running →
    (args i).identity = (args j).identity → i = j
  returned : ∀ i result, x.phase i = .completed result ∨ x.phase i = .replayed result →
    x.store.results.get? (args i).identity = some ((args i).digest env, result)
  completed_unique : ∀ i j result result', x.phase i = .completed result →
    x.phase j = .completed result' → (args i).identity = (args j).identity → i = j

theorem recorded_init : Recorded env args (init : ExecutionState ρ) :=
  ⟨fun i h => by simp [init] at h,
   fun i j h => by simp [init] at h,
   fun i result h => by simp [init] at h,
   fun i j result result' h => by simp [init] at h⟩

/-- A call that ends without completing an operation leaves `results` in
agreement with the calls. -/
theorem Recorded.leave (hx : Recorded env args x) (hrun : p ≠ .running)
    (hdone : ∀ result, p ≠ .completed result)
    (hreplay : ∀ result, p = .replayed result →
      x.store.results.get? (args i).identity = some ((args i).digest env, result))
    (hresults : store.results = x.store.results) :
    Recorded env args ⟨store, update x.phase i p⟩ where
  running_fresh k hk := by
    simp only [hresults]
    exact hx.running_fresh k (phase_of_update hk hrun).2
  running_key_unique k l hk hl :=
    hx.running_key_unique k l (phase_of_update hk hrun).2 (phase_of_update hl hrun).2
  returned k result hk := by
    simp only [hresults]
    rcases hk with hk | hk
    · exact hx.returned k result (.inl (phase_of_update hk (hdone result)).2)
    by_cases hki : k = i
    · subst hki
      simp only [update_self] at hk
      exact hreplay result hk
    · exact hx.returned k result (.inr (phase_update_ne hk hki))
  completed_unique k l result result' hk hl :=
    hx.completed_unique k l result result' (phase_of_update hk (hdone result)).2
      (phase_of_update hl (hdone result')).2

theorem Recorded.finish (hx : Recorded env args x) (hi : x.phase i = .running) (result : ρ) :
    Recorded env args
      ⟨x.store.finish env (args i) result, update x.phase i (.completed result)⟩ := by
  -- nothing is recorded under the key yet, so no other call has returned for it
  have hfresh := hx.running_fresh i hi
  have hother : ∀ k r, x.phase k = .completed r ∨ x.phase k = .replayed r →
      (args i).identity ≠ (args k).identity := by
    intro k r hk heq
    have := hx.returned k r hk
    rw [← heq, hfresh] at this
    cases this
  refine ⟨?_, ?_, ?_, ?_⟩
  · intro k hk
    obtain ⟨hki, hold⟩ := phase_of_update hk (by simp)
    have hne : (args i).identity ≠ (args k).identity :=
      fun heq => hki (hx.running_key_unique i k hi hold heq).symm
    exact (get?_set_ne _ _ hne).trans (hx.running_fresh k hold)
  · intro k l hk hl
    exact hx.running_key_unique k l (phase_of_update hk (by simp)).2
      (phase_of_update hl (by simp)).2
  · intro k r hk
    by_cases hki : k = i
    · subst hki
      simp only [update_self, reduceCtorEq, or_false, CallPhase.completed.injEq] at hk
      subst hk
      exact get?_set_self _ _ _
    · simp only [update_of_ne hki] at hk
      exact (get?_set_ne _ _ (hother k r hk)).trans (hx.returned k r hk)
  · intro k l r r' hk hl heq
    by_cases hki : k = i
    · by_cases hli : l = i
      · rw [hki, hli]
      · exact absurd (hki ▸ heq) (hother l r' (.inl (phase_update_ne hl hli)))
    · by_cases hli : l = i
      · exact absurd (hli ▸ heq).symm (hother k r (.inl (phase_update_ne hk hki)))
      · exact hx.completed_unique k l r r' (phase_update_ne hk hki) (phase_update_ne hl hli) heq

theorem Recorded.effect (hex : Exclusive env args x) (hx : Recorded env args x)
    (hguard : KeyExclusive env args x m) (h : Effect env args x m y) : Recorded env args y := by
  cases h with
  | skip => exact hx
  | refused i e _ | failed i e hi => exact hx.leave env args (by simp) (by simp) (by simp) rfl
  | replayed i result _ hresult =>
    exact hx.leave env args (by simp) (by simp) (by simp_all) rfl
  | begun i _ _ hresult hstatus =>
    -- an operation in flight with this key would be for this action, and hold its status
    have hother : ∀ k, x.phase k = .running → (args k).identity ≠ (args i).identity := by
      intro k hk heq
      exact hstatus (hguard k hk heq ▸ hex.running_started k hk)
    refine ⟨?_, ?_, ?_, ?_⟩
    · intro k hk
      by_cases hki : k = i
      · subst hki; exact hresult
      · exact hx.running_fresh k (phase_update_ne hk hki)
    · exact unique_of_others _ (fun k hki hk => phase_update_ne hk hki) hx.running_key_unique
        fun _ => hother
    · intro k r hk
      rcases hk with hk | hk
      · exact hx.returned k r (.inl (phase_of_update hk (by simp)).2)
      · exact hx.returned k r (.inr (phase_of_update hk (by simp)).2)
    · intro k l r r' hk hl
      exact hx.completed_unique k l r r' (phase_of_update hk (by simp)).2
        (phase_of_update hl (by simp)).2
  | finished i result hi => exact hx.finish env args hi result
  | cancelled =>
    exact ⟨hx.running_fresh, hx.running_key_unique, hx.returned, hx.completed_unique⟩

theorem Recorded.results_kept (hx : Recorded env args x) (h : Effect env args x m y)
    (hentry : x.store.results.get? key = some entry) : y.store.results.get? key = some entry := by
  cases h with
  | finished i result hi =>
    have hne : (args i).identity ≠ key := by
      intro heq
      rw [← heq, hx.running_fresh i hi] at hentry
      cases hentry
    exact (get?_set_ne _ _ hne).trans hentry
  | _ => exact hentry

/-- A call for a recorded key and intent, on an action that is not cancelled,
returns the recorded result. -/
theorem start_replays (hidle : x.phase j = .idle)
    (hcancel : x.store.cancellations.contains ((args j).actionIdentity env) = false)
    (hresult : x.store.results.get? (args j).identity = some ((args j).digest env, result)) :
    (x.step env args (.start j)).phase j = .replayed result := by
  have hstart : x.store.start env (args j) = (.ok (some result), x.store) := by
    simp [start, hcancel, hresult]
  simp [step, hidle, hstart, phaseOf]

/-- In every run guarded by `KeyExclusive`, operations exclude one another by
action and `results` agrees with the calls. -/
theorem guarded_recorded (moves : List (Move ρ))
    (hg : Guarded (step env args) (KeyExclusive env args) .init moves) :
    Exclusive env args (run (step env args) .init moves) ∧
      Recorded env args (run (step env args) .init moves) := by
  refine guarded_invariant
    (P := fun x : ExecutionState ρ => Exclusive env args x ∧ Recorded env args x)
    (fun x m hguard hx => ?_) moves .init hg ⟨exclusive_init env args, recorded_init env args⟩
  have heffect := step_effect env args x m
  exact ⟨hx.1.effect env args heffect, hx.2.effect env args hx.1 hguard heffect⟩

theorem guarded_results_kept (pre post : List (Move ρ))
    (hg : Guarded (step env args) (KeyExclusive env args) .init (pre ++ post))
    (hentry : (run (step env args) .init pre).store.results.get? key = some entry) :
    (run (step env args) .init (pre ++ post)).store.results.get? key = some entry := by
  obtain ⟨hpre, hpost⟩ := (guarded_append _ _ _).mp hg
  rw [run_append]
  refine (guarded_invariant
    (P := fun x : ExecutionState ρ => (Exclusive env args x ∧ Recorded env args x) ∧
      x.store.results.get? key = some entry)
    (fun x m hguard hx => ?_) post _ hpost ⟨guarded_recorded env args pre hpre, hentry⟩).2
  have heffect := step_effect env args x m
  exact ⟨⟨hx.1.1.effect env args heffect, hx.1.2.effect env args hx.1.1 hguard heffect⟩,
    hx.1.2.results_kept env args heffect hx.2⟩

/-- **At most once per key.** In every interleaving in which no call starts
while an operation with its key but for another action is in flight, at most
one operation completes for each key, and once a call has returned a result,
every later call with its key and intent on an uncancelled action returns
that result. -/
theorem execute_once_at_most_once (pre post : List (Move ρ))
    (hg : Guarded (ExecutionState.step env args) (KeyExclusive env args) .init (pre ++ post)) :
    (∀ i j result result',
      (run (ExecutionState.step env args) .init (pre ++ post)).phase i = .completed result →
      (run (ExecutionState.step env args) .init (pre ++ post)).phase j = .completed result' →
      (args i).identity = (args j).identity → i = j) ∧
    (∀ i result,
      ((run (ExecutionState.step env args) .init pre).phase i = .completed result ∨
        (run (ExecutionState.step env args) .init pre).phase i = .replayed result) →
      ∀ j, (run (ExecutionState.step env args) .init (pre ++ post)).phase j = .idle →
        (args j).identity = (args i).identity → (args j).intent = (args i).intent →
        (run (ExecutionState.step env args) .init (pre ++ post)).store.cancellations.contains
          ((args j).actionIdentity env) = false →
        ((run (ExecutionState.step env args) .init (pre ++ post)).step env args
          (.start j)).phase j = .replayed result) := by
  refine ⟨(guarded_recorded env args _ hg).2.completed_unique, ?_⟩
  intro i result hreturned j hidle hkey hintent hcancel
  have hpre := ((guarded_append _ _ _).mp hg).1
  have hentry := (guarded_recorded env args pre hpre).2.returned i result hreturned
  refine start_replays env args hidle hcancel ?_
  have hdigest : (args j).digest env = (args i).digest env := by
    simp [ExecuteArgs.digest, hintent]
  rw [hkey, hdigest]
  exact guarded_results_kept env args pre post hg hentry

/-- Calls 0 and 2 share key, intent and action; call 1 has the same key for
another action. -/
def sharedKeyArgs (i : Nat) : ExecuteArgs where
  key := "key-one"
  intent := [("action", .str (if i = 1 then "action-two" else "action-one"))]
  tenantId := some "tenant-one"
  actionId := some (if i = 1 then "action-two" else "action-one")

theorem execute_once_at_most_once_sharedKeyArgs :
    ((run (ExecutionState.step .plain sharedKeyArgs) .init
        [Move.start 0, .finish 0 "accepted"]).step .plain sharedKeyArgs (.start 2)).phase 2 =
      .replayed "accepted" := by
  refine (execute_once_at_most_once .plain sharedKeyArgs [Move.start 0, .finish 0 "accepted"] []
    ?_).2 0 "accepted" (.inl rfl) 2 rfl rfl rfl rfl
  exact ⟨fun i hi => by simp [init] at hi, trivial, trivial⟩

/-- Both operations complete when the second call starts before the first
operation has finished. -/
theorem two_operations_complete_for_one_key :
    ¬ ∀ i j result result',
      (run (ExecutionState.step .plain sharedKeyArgs) .init
        [Move.start 0, .start 1, .finish 0 "accepted", .finish 1 "accepted"]).phase i =
          .completed result →
      (run (ExecutionState.step .plain sharedKeyArgs) .init
        [Move.start 0, .start 1, .finish 0 "accepted", .finish 1 "accepted"]).phase j =
          .completed result' →
      (sharedKeyArgs i).identity = (sharedKeyArgs j).identity → i = j := by
  intro h
  exact absurd (h 0 1 "accepted" "accepted" rfl rfl rfl) (by decide)

/-! ## No cancellation of an executed action -/

/-- No operation fails on an action on which another one has completed. -/
def NoFailureAfterSuccess (x : ExecutionState ρ) : Move ρ → Prop
  | .fail i _ => ∀ j result, x.phase j = .completed result →
      (args j).actionIdentity env ≠ (args i).actionIdentity env
  | _ => True

/-- A completed operation keeps its action out of `cancel`'s reach. -/
def Settled (x : ExecutionState ρ) : Prop :=
  ∀ j result, x.phase j = .completed result →
    x.store.actionStatus.get? ((args j).actionIdentity env) = some .started ∨
    x.store.actionStatus.get? ((args j).actionIdentity env) = some .succeeded

theorem Settled.set (hx : Settled env args x) {status : ActionStatus}
    (hstatus : status = .started ∨ status = .succeeded) (key : String × String)
    (hj : x.phase j = .completed result) :
    (x.store.actionStatus.set key status).get? ((args j).actionIdentity env) = some .started ∨
    (x.store.actionStatus.set key status).get? ((args j).actionIdentity env) = some .succeeded := by
  rw [get?_set]
  split
  · rcases hstatus with rfl | rfl <;> simp
  · exact hx j result hj

theorem Settled.effect (hx : Settled env args x) (hguard : NoFailureAfterSuccess env args x m)
    (h : Effect env args x m y) : Settled env args y := by
  cases h with
  | skip => exact hx
  | refused i e _ | replayed i r _ _ =>
    intro j result hj
    exact hx j result (phase_of_update hj (by simp)).2
  | begun i =>
    intro j result hj
    exact hx.set env args (.inl rfl) _ (phase_of_update hj (by simp)).2
  | finished i r =>
    intro j result hj
    by_cases hji : j = i
    · subst hji
      exact .inr (get?_set_self _ _ _)
    · exact hx.set env args (.inr rfl) _ (phase_update_ne hj hji)
  | failed i e =>
    intro j result hj
    have hold := (phase_of_update hj (by simp)).2
    have hne := hguard j result hold
    have hkeep : (x.store.actionStatus.set ((args i).actionIdentity env) .failed).get?
        ((args j).actionIdentity env) = x.store.actionStatus.get? ((args j).actionIdentity env) :=
      get?_set_ne _ _ (Ne.symm hne)
    exact (hx j result hold).imp hkeep.trans hkeep.trans
  | cancelled => exact hx

theorem Effect.cancellation_kept (h : Effect env args x m y)
    (hkey : x.store.cancellations.contains key = true) :
    y.store.cancellations.contains key = true := by
  cases h with
  | cancelled actionId tenantId actorId reason cancellation =>
    simp only [contains, get?_set] at hkey ⊢
    split
    · rfl
    · exact hkey
  | _ => exact hkey

/-- What a `cancel` that returns has found and recorded. -/
theorem cancel_returns {actionId tenantId actorId reason : String} {cancellation : Cancellation}
    (h : (x.store.cancel actionId tenantId actorId reason).1 = .ok cancellation) :
    (x.step env args (.cancel actionId tenantId actorId reason)).store.cancellations.contains
        (tenantId, actionId) = true ∧
      x.store.actionStatus.get? (tenantId, actionId) ≠ some .started ∧
      x.store.actionStatus.get? (tenantId, actionId) ≠ some .succeeded := by
  rcases cancel_cases x.store actionId tenantId actorId reason with
    ⟨e, hcase⟩ | ⟨c, hcase, hstarted, hsucceeded⟩
  · rw [hcase] at h; cases h
  · refine ⟨?_, hstarted, hsucceeded⟩
    simp [step, hcase, contains]

/-! Whole runs. -/

theorem run_exclusive (moves : List (Move ρ)) :
    Exclusive env args (run (step env args) .init moves) :=
  run_invariant (P := Exclusive env args)
    (fun x m hx => hx.effect env args (step_effect env args x m)) moves .init
    (exclusive_init env args)

theorem guarded_settled (moves : List (Move ρ))
    (hg : Guarded (step env args) (NoFailureAfterSuccess env args) .init moves) :
    Settled env args (run (step env args) .init moves) :=
  guarded_invariant (P := Settled env args)
    (fun x m hguard hx => hx.effect env args hguard (step_effect env args x m)) moves .init hg
    (fun j result hj => by simp [init] at hj)

theorem run_cancellation_kept (moves : List (Move ρ))
    (hkey : x.store.cancellations.contains key = true) :
    (run (step env args) x moves).store.cancellations.contains key = true :=
  run_invariant (P := fun x : ExecutionState ρ => x.store.cancellations.contains key = true)
    (fun x m hx => (step_effect env args x m).cancellation_kept env args hx) moves x hkey

/-- **Cancellation comes before execution.** In every interleaving in which
no operation fails on an action on which another has completed, a `cancel`
that returns finds no operation of the action in flight or completed, and no
call made afterwards starts one. -/
theorem cancel_only_before_execution (pre post : List (Move ρ))
    (actionId tenantId actorId reason : String) (cancellation : Cancellation)
    (hg : Guarded (ExecutionState.step env args) (NoFailureAfterSuccess env args) .init
      (pre ++ .cancel actionId tenantId actorId reason :: post))
    (hreturns : ((run (ExecutionState.step env args) .init pre).store.cancel actionId tenantId
      actorId reason).1 = .ok cancellation) :
    (∀ i, (args i).actionIdentity env = (tenantId, actionId) →
      (run (ExecutionState.step env args) .init pre).phase i ≠ .running ∧
      ∀ result, (run (ExecutionState.step env args) .init pre).phase i ≠ .completed result) ∧
    (∀ j, (args j).actionIdentity env = (tenantId, actionId) →
      (run (ExecutionState.step env args) .init
        (pre ++ .cancel actionId tenantId actorId reason :: post)).phase j = .idle →
      ((run (ExecutionState.step env args) .init
        (pre ++ .cancel actionId tenantId actorId reason :: post)).step env args
          (.start j)).phase j ≠ .running) := by
  have hpre := ((guarded_append _ _ _).mp hg).1
  have hexclusive := run_exclusive env args pre
  have hsettled := guarded_settled env args pre hpre
  obtain ⟨hrecorded, hstarted, hsucceeded⟩ := cancel_returns env args hreturns
  refine ⟨fun i hi => ⟨fun hrunning => ?_, fun result hdone => ?_⟩, fun j hj hidle => ?_⟩
  · exact hstarted (hi ▸ hexclusive.running_started i hrunning)
  · rcases hsettled i result hdone with hs | hs
    · exact hstarted (hi ▸ hs)
    · exact hsucceeded (hi ▸ hs)
  · rw [run_append, run_cons] at hidle ⊢
    have hkept := run_cancellation_kept env args post (x := step env args
      (run (step env args) .init pre)
      (.cancel actionId tenantId actorId reason)) hrecorded
    rw [← hj] at hkept
    rw [step, hidle]
    simp [start, hkept, phaseOf]

/-- Calls 0 and 1 are for one action under different keys. -/
def sharedActionArgs (i : Nat) : ExecuteArgs where
  key := if i = 0 then "key-one" else "key-two"
  intent := [("action", .str "action-one")]
  tenantId := some "tenant-one"
  actionId := some "action-one"

theorem cancel_only_before_execution_sharedActionArgs :
    ((run (ExecutionState.step .plain sharedActionArgs) .init
      [Move.start 0, .fail 0 (.runtimeError "provider unavailable"),
        .cancel "action-one" "tenant-one" "operator-one" "unsafe forecast"]).step
        (ρ := String) .plain sharedActionArgs (.start 1)).phase 1 ≠ .running := by
  refine (cancel_only_before_execution .plain sharedActionArgs
    [Move.start 0, .fail 0 (.runtimeError "provider unavailable")] []
    "action-one" "tenant-one" "operator-one" "unsafe forecast"
    ⟨"action-one", "tenant-one", "operator-one", "unsafe forecast"⟩ ?_ rfl).2 1 rfl rfl
  refine ⟨trivial, fun j result hj => ?_, trivial, trivial⟩
  by_cases h : j = 0
  · subst h; cases hj
  · have hidle := phase_update_ne hj h
    cases hidle

/-- After a success under one key and a failure under another, `cancel`
returns. -/
theorem cancel_returns_after_success :
    ¬ ∀ cancellation,
      ((run (ExecutionState.step .plain sharedActionArgs) .init
        [Move.start 0, .finish 0 "accepted", .start 1,
          .fail 1 (.runtimeError "provider unavailable")]).store.cancel
          "action-one" "tenant-one" "operator-one" "unsafe forecast").1 = .ok cancellation →
      ∀ i, (sharedActionArgs i).actionIdentity .plain = ("tenant-one", "action-one") →
        (run (ExecutionState.step .plain sharedActionArgs) .init
          [Move.start 0, .finish 0 "accepted", .start 1,
            .fail 1 (.runtimeError "provider unavailable")]).phase i ≠ .running ∧
        ∀ result, (run (ExecutionState.step .plain sharedActionArgs) .init
          [Move.start 0, .finish 0 "accepted", .start 1,
            .fail 1 (.runtimeError "provider unavailable")]).phase i ≠ .completed result := by
  intro h
  exact (h ⟨"action-one", "tenant-one", "operator-one", "unsafe forecast"⟩ rfl 0 rfl).2
    "accepted" rfl

/-! ## While an operation runs -/

/-- **Main result.** In every interleaving, while an operation runs no other one
of its action runs or can be started, under whatever key, and `cancel` of the
action raises. -/
theorem running_operation_excludes (moves : List (Move ρ)) (i : Nat)
    (h : (run (ExecutionState.step env args) .init moves).phase i = .running) :
    let x := run (ExecutionState.step env args) .init moves
    (∀ j, j ≠ i → (args j).actionIdentity env = (args i).actionIdentity env →
      x.phase j ≠ .running ∧ (x.step env args (.start j)).phase j ≠ .running) ∧
    ∀ actionId tenantId actorId reason, (args i).actionIdentity env = (tenantId, actionId) →
      ∃ e, (x.store.cancel actionId tenantId actorId reason).1 = .error e := by
  intro x
  have hx : Exclusive env args x := run_exclusive env args moves
  refine ⟨fun j hj haction => ⟨fun hrunning => ?_, fun hrunning => ?_⟩, ?_⟩
  · exact hj (hx.running_unique j i hrunning h haction)
  · have hstill : (x.step env args (.start j)).phase i = .running := by
      simp only [step]
      split
      · exact (update_of_ne (Ne.symm hj) _ _).trans h
      · exact h
    have hnext := hx.effect env args (step_effect env args x (.start j))
    exact hj (hnext.running_unique j i hrunning hstill haction)
  · intro actionId tenantId actorId reason haction
    rcases cancel_cases x.store actionId tenantId actorId reason with
      ⟨e, hcancel⟩ | ⟨_, _, hstarted, _⟩
    · exact ⟨e, by rw [hcancel]⟩
    · exact absurd (haction ▸ hx.running_started i h) hstarted

theorem running_operation_excludes_sharedActionArgs :
    ((run (ExecutionState.step .plain sharedActionArgs) .init [Move.start 0]).step
      (ρ := String) .plain sharedActionArgs (.start 1)).phase 1 ≠ .running :=
  ((running_operation_excludes .plain sharedActionArgs [Move.start 0] 0 rfl).1 1 (by decide) rfl).2

end ComputeWeaver.Execution
