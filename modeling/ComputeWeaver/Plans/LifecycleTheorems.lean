/-
Plans.LifecycleTheorems — what a plan has been through.

The history of a plan is the list of the calls about it that returned, each
with the plan it returned. `Follows` ties that history to the stored plan: the
version counts it, the expected versions in it increase, and the state says
which states are in it.
-/
import Mathlib.Data.List.Induction
import ComputeWeaver.Lib.Run
import ComputeWeaver.Plans.Lifecycle

namespace ComputeWeaver.Plans

open Lib List

namespace PlanLifecycle

variable {life : PlanLifecycle} {call : Transition} {plan stored : GovernedPlan} {planId : String}

/-! ## One call -/

/-- What the checks of a call establish. -/
structure Moves (plan : GovernedPlan) (call : Transition) : Prop where
  version : plan.version = call.expectedVersion
  allowed : call.target ∈ transitions plan.state
  clean : plan.hardViolations = [] ∨ call.target = .rejected
  current : call.target = .active → call.currentStateVersion = some plan.stateVersion

theorem checked_eq_ok (h : life.checked call = .ok plan) :
    life.plans.get? call.planId = some plan ∧ Moves plan call := by
  obtain ⟨found, hfound, h⟩ := bind_eq_ok.mp h
  split_ifs at h with hversion hallowed hclean hcurrent hstate
  cases h
  refine ⟨Dict.getItem_eq_ok.mp hfound, not_not.mp hversion, hallowed, ?_, ?_⟩
  · by_contra hne
    simp only [not_or] at hne
    exact hclean ⟨hne.1, by simpa using hne.2⟩
  · intro htarget
    by_contra hne
    exact hcurrent ⟨htarget, hne⟩

/-- **One call.** It raises and changes nothing, or it moves the plan it names. -/
theorem transition_cases (life : PlanLifecycle) (call : Transition) :
    (∃ e, life.transition call = (.error e, life)) ∨
      ∃ plan, life.plans.get? call.planId = some plan ∧ Moves plan call ∧
        life.transition call =
          (.ok (updated plan call), ⟨life.plans.set call.planId (updated plan call)⟩) := by
  unfold transition
  cases hchecked : life.checked call with
  | error e => exact .inl ⟨e, rfl⟩
  | ok plan =>
    obtain ⟨hget, hmoves⟩ := checked_eq_ok hchecked
    exact .inr ⟨plan, hget, hmoves, rfl⟩

/-! ## The history of a plan -/

theorem returned_append (planId : String) (pre : List Transition) (life : PlanLifecycle)
    (post : List Transition) : returned planId life (pre ++ post) =
      returned planId life pre ++ returned planId (run step life pre) post := by
  induction pre generalizing life with
  | nil => rfl
  | cons call rest ih =>
    simp only [cons_append, returned, run_cons, ih]
    split
    · split <;> rfl
    · rfl

/-- A plan is stored, and its history has reached it from a first version in
state DRAFT. -/
structure Follows (history : List (Transition × GovernedPlan)) (stored : GovernedPlan) : Prop where
  version : stored.version = 1 + history.length
  expected : ∀ past ∈ history, past.1.expectedVersion < stored.version
  nodup : (history.map fun past => past.1.expectedVersion).Nodup
  clean : stored.hardViolations ≠ [] → stored.state = .draft ∨ stored.state = .rejected
  validated : stored.state = .validated ∨ stored.state = .pendingApproval →
    ∃ past ∈ history, past.2.state = .validated
  approved : stored.state = .approved → ∃ pre past, history = pre ++ [past] ∧
    past.2.state = .approved ∧ ∃ earlier ∈ pre, earlier.2.state = .validated
  activated : stored.state = .active ∨ stored.state = .superseded →
    ∃ pre past post, history = pre ++ past :: post ∧
      past.1.currentStateVersion = some stored.stateVersion ∧ past.2.state = .active ∧
      [PlanState.validated, .approved].Sublist (pre.map fun earlier => earlier.2.state)

theorem Follows.initial (hstate : plan.state = .draft) (hversion : plan.version = 1) :
    Follows [] plan where
  version := by simp [hversion]
  expected := by simp
  nodup := by simp
  clean _ := .inl hstate
  validated h := by simp [hstate] at h
  approved h := by simp [hstate] at h
  activated h := by simp [hstate] at h

theorem transitions_inv {source target : PlanState} (h : target ∈ transitions source) :
    (source = .draft ∧ (target = .validated ∨ target = .rejected)) ∨
      (source = .validated ∧ (target = .pendingApproval ∨ target = .approved)) ∨
      (source = .pendingApproval ∧ (target = .approved ∨ target = .rejected)) ∨
      (source = .approved ∧ (target = .active ∨ target = .rejected)) ∨
      (source = .active ∧ target = .superseded) := by
  cases source <;> simp_all [transitions]

theorem Follows.move {history : List (Transition × GovernedPlan)} (h : Follows history stored)
    (hmoves : Moves stored call) : Follows (history ++ [(call, updated stored call)])
      (updated stored call) where
  version := by
    simp only [updated, h.version, length_append, length_singleton]
    omega
  expected := by
    intro past hpast
    rcases mem_append.mp hpast with hold | hnew
    · have := h.expected past hold
      simp only [updated]
      omega
    · rw [mem_singleton.mp hnew]
      simp only [updated, hmoves.version]
      omega
  nodup := by
    rw [map_append, nodup_append]
    refine ⟨h.nodup, by simp, ?_⟩
    -- the new call carries the stored version, the earlier ones carry less
    intro version hold version' hnew
    obtain ⟨past, hpast, rfl⟩ := mem_map.mp hold
    have hlt := h.expected past hpast
    simp only [map_cons, map_nil, mem_singleton] at hnew
    rw [hnew, ← hmoves.version]
    omega
  clean hne := .inr (hmoves.clean.resolve_left hne)
  validated htarget := by
    change call.target = _ ∨ call.target = _ at htarget
    rcases transitions_inv hmoves.allowed with
      ⟨-, ht | ht⟩ | ⟨hs, ht | ht⟩ | ⟨-, ht | ht⟩ | ⟨-, ht | ht⟩ | ⟨-, ht⟩
    · exact ⟨_, mem_append_right _ (mem_singleton_self _), ht⟩
    · simp [ht] at htarget
    · obtain ⟨past, hpast, hstate⟩ := h.validated (.inl hs)
      exact ⟨past, mem_append_left _ hpast, hstate⟩
    all_goals simp [ht] at htarget
  approved htarget := by
    change call.target = _ at htarget
    refine ⟨history, _, rfl, htarget, ?_⟩
    rcases transitions_inv hmoves.allowed with
      ⟨-, ht | ht⟩ | ⟨hs, ht | ht⟩ | ⟨hs, ht | ht⟩ | ⟨-, ht | ht⟩ | ⟨-, ht⟩
    · simp [ht] at htarget
    · simp [ht] at htarget
    · simp [ht] at htarget
    · exact h.validated (.inl hs)
    · exact h.validated (.inr hs)
    all_goals simp [ht] at htarget
  activated htarget := by
    change call.target = _ ∨ call.target = _ at htarget
    rcases transitions_inv hmoves.allowed with
      ⟨-, ht | ht⟩ | ⟨-, ht | ht⟩ | ⟨-, ht | ht⟩ | ⟨hs, ht | ht⟩ | ⟨hs, ht⟩
    any_goals simp [ht] at htarget
    · -- activation: the last entry is the approval, and the validation is before it
      obtain ⟨pre, past, hhistory, happroved, earlier, hearlier, hvalidated⟩ := h.approved hs
      refine ⟨history, _, [], rfl, hmoves.current ht, ht, ?_⟩
      rw [hhistory, map_append]
      have hfirst : [PlanState.validated].Sublist (pre.map fun earlier => earlier.2.state) :=
        singleton_sublist.mpr (mem_map.mpr ⟨earlier, hearlier, hvalidated⟩)
      exact hfirst.append (by simp [happroved])
    · obtain ⟨pre, past, post, hhistory, hcurrent, hactive, hstates⟩ := h.activated (.inl hs)
      exact ⟨pre, past, post ++ [(call, updated stored call)], by simp [hhistory], hcurrent,
        hactive, hstates⟩

theorem run_follows (hget : life.plans.get? planId = some plan) (hstate : plan.state = .draft)
    (hversion : plan.version = 1) (calls : List Transition) :
    ∃ stored, (run step life calls).plans.get? planId = some stored ∧
      Follows (returned planId life calls) stored := by
  induction calls using List.reverseRecOn with
  | nil => exact ⟨plan, hget, .initial hstate hversion⟩
  | append_singleton pre call ih =>
    obtain ⟨stored, hstored, hfollows⟩ := ih
    rw [returned_append, run_append]
    simp only [run_cons, run_nil, returned, step]
    rcases transition_cases (run step life pre) call with ⟨e, hraise⟩ | ⟨moved, hmoved, hmoves, hok⟩
    · simp only [hraise, append_nil]
      exact ⟨stored, hstored, hfollows⟩
    simp only [hok]
    by_cases hid : call.planId = planId
    · subst hid
      obtain rfl : moved = stored := Option.some.inj (hmoved.symm.trans hstored)
      simp only [if_true]
      exact ⟨_, Dict.get?_set_self _ _ _, hfollows.move hmoves⟩
    · simp only [if_neg hid, append_nil]
      exact ⟨stored, by rw [Dict.get?_set_ne _ _ hid, hstored], hfollows⟩

theorem run_final (hget : life.plans.get? planId = some stored)
    (hfinal : stored.state = .rejected ∨ stored.state = .superseded) (calls : List Transition) :
    (run step life calls).plans.get? planId = some stored := by
  refine run_invariant (P := fun life => life.plans.get? planId = some stored) ?_ calls life hget
  intro life call hget
  rcases transition_cases life call with ⟨e, hraise⟩ | ⟨moved, hmoved, hmoves, hok⟩
  · simp [step, hraise, hget]
  by_cases hid : call.planId = planId
  · subst hid
    obtain rfl : moved = stored := Option.some.inj (hmoved.symm.trans hget)
    rcases hfinal with hs | hs <;> simpa [hs, transitions] using hmoves.allowed
  · simp [step, hok, Dict.get?_set_ne _ _ hid, hget]

theorem create_get? {before : PlanLifecycle} (h : before.create plan = .ok life) :
    life.plans.get? plan.id = some plan := by
  unfold create at h
  split_ifs at h
  cases h
  exact Dict.get?_set_self _ _ _

/-- **Main result.** After any sequence of calls on a plan created as a first
draft, its version counts the transitions that returned, no two of these carried
the same version, a plan with hard violations is a draft or rejected, an active
or superseded one was validated, later approved and then activated on its own
state version, final states are final, and a call that raises changes nothing. -/
theorem transition_history (before life : PlanLifecycle) (plan : GovernedPlan)
    (hcreate : before.create plan = .ok life) (hstate : plan.state = .draft)
    (hversion : plan.version = 1) (calls : List Transition) :
    ∃ stored, (run step life calls).plans.get? plan.id = some stored ∧
      stored.version = 1 + (returned plan.id life calls).length ∧
      (∀ version, ((returned plan.id life calls).filter
        fun past => past.1.expectedVersion = version).length ≤ 1) ∧
      (stored.hardViolations ≠ [] → stored.state = .draft ∨ stored.state = .rejected) ∧
      (stored.state = .active ∨ stored.state = .superseded →
        ∃ pre past post, returned plan.id life calls = pre ++ past :: post ∧
          past.1.currentStateVersion = some stored.stateVersion ∧ past.2.state = .active ∧
          [PlanState.validated, .approved].Sublist (pre.map fun earlier => earlier.2.state)) ∧
      (stored.state = .rejected ∨ stored.state = .superseded → ∀ later,
        (run step life (calls ++ later)).plans.get? plan.id = some stored) ∧
      ∀ call e, ((run step life calls).transition call).1 = .error e →
        ((run step life calls).transition call).2 = run step life calls := by
  obtain ⟨stored, hstored, hfollows⟩ := run_follows (create_get? hcreate) hstate hversion calls
  refine ⟨stored, hstored, hfollows.version, ?_, hfollows.clean, hfollows.activated, ?_, ?_⟩
  · intro version
    have hcount := nodup_iff_count_le_one.mp hfollows.nodup version
    rw [List.count, countP_map, countP_eq_length_filter] at hcount
    exact hcount
  · intro hfinal later
    rw [run_append]
    exact run_final hstored hfinal later
  · intro call e hraise
    rcases transition_cases (run step life calls) call with ⟨_, h⟩ | ⟨_, -, -, h⟩
    · rw [h]
    · simp [h] at hraise

def draftPlan : GovernedPlan where
  id := "plan-1"
  tenantId := "tenant-1"
  siteId := "site-1"
  version := 1
  state := .draft
  stateVersion := "state-1"
  policyVersions := ["policy-1"]
  risk := .L2

/-- A plan is activated; the second of two approvals finds the version gone. -/
def activation : List Transition :=
  [⟨"plan-1", .validated, 1, none, none⟩, ⟨"plan-1", .approved, 2, none, none⟩,
   ⟨"plan-1", .approved, 2, none, none⟩, ⟨"plan-1", .active, 3, some "state-1", none⟩]

theorem transition_history_activation :
    ∃ stored, (run step ⟨PlanLifecycle.empty.plans.set "plan-1" draftPlan⟩ activation).plans.get?
        "plan-1" = some stored ∧ stored.version = 4 ∧ stored.state = .active ∧
      (returned "plan-1" ⟨PlanLifecycle.empty.plans.set "plan-1" draftPlan⟩ activation).length =
        3 := by
  obtain ⟨stored, hget, hversion, -⟩ := transition_history .empty
    ⟨PlanLifecycle.empty.plans.set "plan-1" draftPlan⟩ draftPlan rfl rfl rfl activation
  have hlength : (returned draftPlan.id ⟨PlanLifecycle.empty.plans.set "plan-1" draftPlan⟩
      activation).length = 3 := by decide +kernel
  have hstate : ((run step ⟨PlanLifecycle.empty.plans.set "plan-1" draftPlan⟩
      activation).plans.get? draftPlan.id).all (fun p => decide (p.state = .active)) = true := by
    decide +kernel
  rw [hget] at hstate
  exact ⟨stored, hget, by rw [hversion, hlength]; rfl, of_decide_eq_true hstate, hlength⟩

end PlanLifecycle

end ComputeWeaver.Plans
