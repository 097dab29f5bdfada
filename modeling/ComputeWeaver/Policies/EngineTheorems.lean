/-
Policies.EngineTheorems — which publications can change a
decision.

`publish` asks for the safety administrator when the NEW policy is hard, and
then writes it under its id and version whatever is there: a soft policy, or
one of another tenant, takes the place of a hard one. Where no publication
replaces a hard policy, a denial stays (`hard_policy_kept`). Where none replaces
a policy of one tenant by a policy of another, what a tenant sees of the store
is a run of its own publications (`view_run`), and so are its decisions.
-/
import ComputeWeaver.Policies.Engine

namespace ComputeWeaver.Policies

open Lib PolicyEngine List

variable {V : Type} [PyCompare V]

/-! ## When a decision allows -/

def Meets (facts : Dict String V) (policy : Policy V) : Prop :=
  policy.enforcement = .hard → evaluateRule policy.rule facts = .ok true

variable {findings findings' : Findings} {tenantId siteId : String} {facts : Dict String V}
  {policy : Policy V} {engine : PolicyEngine V} {call : PublishCall V}

theorem judge_hard (h : judge facts findings policy = .ok findings') :
    findings'.hard = [] ↔ findings.hard = [] ∧ Meets facts policy := by
  obtain ⟨matched, hmatched, h⟩ := bind_eq_ok.mp h
  rw [Meets, hmatched]
  cases matched with
  | true =>
    cases h
    simp
  | false =>
    by_cases hhard : policy.enforcement = .hard
    · simp only [Bool.false_eq_true, if_false, hhard, if_true] at h
      cases h
      simp [hhard]
    · simp only [Bool.false_eq_true, if_false, hhard] at h
      cases h
      simp [hhard]

theorem foldlM_judge {policies : List (Policy V)}
    (h : policies.foldlM (judge facts) findings = .ok findings') :
    findings'.hard = [] ↔ findings.hard = [] ∧ ∀ policy ∈ policies, Meets facts policy := by
  induction policies generalizing findings with
  | nil =>
    cases h
    simp
  | cons policy rest ih =>
    rw [foldlM_cons] at h
    obtain ⟨next, hnext, h⟩ := bind_eq_ok.mp h
    rw [ih h, judge_hard hnext, forall_mem_cons, and_assoc]

omit [PyCompare V] in
theorem mem_active :
    policy ∈ engine.active tenantId siteId ↔
      policy ∈ engine.tenantPolicies tenantId ∧ policy.activeAt tenantId siteId = true := by
  rw [active, mem_pySorted, mem_filter]

/-- A decision allows exactly if every hard policy that applies is met. -/
theorem evaluate_allowed_iff {decision : PolicyDecision}
    (h : engine.evaluate tenantId siteId facts = .ok decision) :
    decision.allowed = true ↔ ∀ policy ∈ engine.active tenantId siteId, Meets facts policy := by
  obtain ⟨findings, hfindings, h⟩ := bind_eq_ok.mp h
  cases h
  simpa using foldlM_judge hfindings

/-! ## Hard policies -/

omit [PyCompare V] in
theorem mem_tenantPolicies :
    policy ∈ engine.tenantPolicies tenantId ↔
      (∃ key, engine.policies.get? key = some policy) ∧ policy.tenantId = tenantId := by
  simp only [tenantPolicies, mem_filter, mem_map, Prod.exists,
    exists_eq_right, decide_eq_true_eq, Dict.mem_entries_iff]

/-- What a publication does to the store. -/
theorem step_cases (engine : PolicyEngine V) (call : PublishCall V) :
    (call.check (engine.tenantPolicies call.policy.tenantId) = .ok () ∧
      (engine.step call).policies =
        engine.policies.set call.policy.key { call.policy with published := true }) ∨
    ((∃ e, call.check (engine.tenantPolicies call.policy.tenantId) = .error e) ∧
      engine.step call = engine) := by
  unfold step publish
  cases hcheck : call.check (engine.tenantPolicies call.policy.tenantId) with
  | error e => exact .inr ⟨⟨e, rfl⟩, rfl⟩
  | ok _ => exact .inl ⟨rfl, rfl⟩

theorem check_ok {existing : List (Policy V)} (h : call.check existing = .ok ())
    (hroles : "safety_admin" ∉ call.actorRoles) :
    call.policy.enforcement = .soft ∧ validateAgainst call.policy existing = .ok () := by
  unfold PublishCall.check at h
  by_cases hhard : call.policy.enforcement = .hard
  · simp [hhard, hroles, bind, Except.bind, throw, throwThe, MonadExceptOf.throw] at h
  simp only [hhard, false_and, if_false] at h
  refine ⟨?_, h⟩
  cases henforcement : call.policy.enforcement with
  | hard => exact absurd henforcement hhard
  | soft => rfl

/-- A soft policy that would be accepted does not take the place of a hard
one. -/
def KeepsHard (engine : PolicyEngine V) (call : PublishCall V) : Prop :=
  call.policy.enforcement = .soft → engine.validatePublish call.policy = .ok () →
    ∀ other, engine.policies.get? call.policy.key = some other → other.enforcement ≠ .hard

instance (engine : PolicyEngine V) (call : PublishCall V) : Decidable (KeepsHard engine call) :=
  inferInstanceAs (Decidable (_ → _ → _))

/-- **One step.** -/
theorem hard_policy_kept (hroles : "safety_admin" ∉ call.actorRoles)
    (hkeeps : KeepsHard engine call) {key : String × Int} (hhard : policy.enforcement = .hard)
    (hget : engine.policies.get? key = some policy) :
    (engine.step call).policies.get? key = some policy := by
  rcases step_cases engine call with ⟨hcheck, hstep⟩ | ⟨-, hstep⟩
  · obtain ⟨hsoft, hvalid⟩ := check_ok hcheck hroles
    have hne : call.policy.key ≠ key := by
      rintro rfl
      exact hkeeps hsoft hvalid policy hget hhard
    rw [hstep, Dict.get?_set_ne _ _ hne]
    exact hget
  · rw [hstep]
    exact hget

/-- **Main result.** A denial by a hard policy is not lifted by publications of
others than the safety administrator, unless one of them takes the place of a
hard policy. -/
theorem hard_denial_kept {engine : PolicyEngine V} {calls : List (PublishCall V)}
    (hroles : ∀ call ∈ calls, "safety_admin" ∉ call.actorRoles)
    (hkeeps : Guarded PolicyEngine.step KeepsHard engine calls) {tenantId siteId : String}
    {facts : Dict String V} {before : PolicyDecision}
    (hbefore : engine.evaluate tenantId siteId facts = .ok before)
    (hdenied : before.allowed = false) :
    ∀ after, (run PolicyEngine.step engine calls).evaluate tenantId siteId facts = .ok after →
      after.allowed = false := by
  intro after hafter
  have hnot : ¬ ∀ policy ∈ engine.active tenantId siteId, Meets facts policy := by
    rw [← evaluate_allowed_iff hbefore, hdenied]
    exact Bool.false_ne_true
  simp only [not_forall] at hnot
  obtain ⟨policy, hactive, hviolated⟩ := hnot
  obtain ⟨hmem, hat⟩ := mem_active.mp hactive
  obtain ⟨⟨key, hget⟩, htenant⟩ := mem_tenantPolicies.mp hmem
  have hhard : policy.enforcement = .hard := by
    by_contra hsoft
    exact hviolated fun h => absurd h hsoft
  -- the violated policy is still there
  have hkept : (run step engine calls).policies.get? key = some policy := by
    refine guarded_invariant
      (C := fun engine call => call ∈ calls ∧ KeepsHard engine call)
      (P := fun engine => engine.policies.get? key = some policy) ?_ calls engine
      (guarded_mem hkeeps) hget
    exact fun engine call hcall h => hard_policy_kept (hroles call hcall.1) hcall.2 hhard h
  have hactive' : policy ∈ (run step engine calls).active tenantId siteId :=
    mem_active.mpr ⟨mem_tenantPolicies.mpr ⟨⟨key, hkept⟩, htenant⟩, hat⟩
  rw [← Bool.not_eq_true, evaluate_allowed_iff hafter]
  exact fun h => hviolated (h policy hactive')

/-- At most 100 kW, at every site of the tenant. -/
def powerCap (id tenantId : String) (enforcement : Enforcement) : Policy Int where
  id := id
  version := 1
  tenantId := tenantId
  siteIds := ∅
  rule := ⟨"power_kw", "lte", 100⟩
  enforcement := enforcement
  priority := 10
  owner := "owner-1"
  published := false

def byAdmin (policy : Policy Int) : PublishCall Int := ⟨policy, {"safety_admin"}⟩

def byOperator (policy : Policy Int) : PublishCall Int := ⟨policy, {"operator"}⟩

def overload : Dict String Int := Dict.empty.set "power_kw" 150

def capped : PolicyEngine Int :=
  run PolicyEngine.step .empty [byAdmin (powerCap "power-cap" "tenant-one" .hard)]

/-- What the hard policy says about the overload. -/
def denial : PolicyDecision where
  allowed := false
  hardViolations := ["power-cap"]
  warnings := []
  activePolicies := ["power-cap@1"]
  explanation := ["power-cap@1:failed"]

theorem evaluate_capped : capped.evaluate "tenant-one" "site-one" overload = .ok denial := by
  decide +kernel

/-- A soft policy with an id of its own adds a warning. -/
def warned : PolicyDecision where
  allowed := false
  hardViolations := ["power-cap"]
  warnings := ["site-cap"]
  activePolicies := ["power-cap@1", "site-cap@1"]
  explanation := ["power-cap@1:failed", "site-cap@1:failed"]

theorem hard_denial_kept_sample :
    (run PolicyEngine.step capped
        [byOperator (powerCap "site-cap" "tenant-one" .soft)]).evaluate "tenant-one" "site-one"
        overload = .ok warned ∧ warned.allowed = false := by
  have hkeeps : Guarded step KeepsHard capped
      [byOperator (powerCap "site-cap" "tenant-one" .soft)] := by decide +kernel
  have hafter : (run step capped
      [byOperator (powerCap "site-cap" "tenant-one" .soft)]).evaluate "tenant-one" "site-one"
      overload = .ok warned := by decide +kernel
  exact ⟨hafter, hard_denial_kept (by decide +kernel) hkeeps evaluate_capped rfl warned hafter⟩

/-- One with the id and version of the hard policy lifts it. -/
theorem soft_replaces_hard :
    capped.evaluate "tenant-one" "site-one" overload = .ok denial ∧
      "safety_admin" ∉
        (byOperator (powerCap "power-cap" "tenant-one" .soft)).actorRoles ∧
      (run PolicyEngine.step capped
        [byOperator (powerCap "power-cap" "tenant-one" .soft)]).evaluate "tenant-one" "site-one"
        overload = .ok ⟨true, [], ["power-cap"], ["power-cap@1"], ["power-cap@1:failed"]⟩ := by
  decide +kernel

/-! ## What a tenant sees -/

/-- The bindings of the store that are a tenant's own. -/
def PolicyEngine.view (tenantId : String) (engine : PolicyEngine V) :
    List ((String × Int) × Policy V) :=
  engine.policies.entries.filter fun entry => decide (entry.2.tenantId = tenantId)

omit [PyCompare V] in
theorem tenantPolicies_eq (engine : PolicyEngine V) (tenantId : String) :
    engine.tenantPolicies tenantId = (engine.view tenantId).map Prod.snd := by
  rw [tenantPolicies, view, List.filter_map]
  rfl

def viewStep (view : List ((String × Int) × Policy V)) (call : PublishCall V) :
    List ((String × Int) × Policy V) :=
  match call.check (view.map Prod.snd) with
  | .error _ => view
  | .ok () => assocSet view call.policy.key { call.policy with published := true }

/-- A policy that would be accepted does not take the place of one of another
tenant, as far as `tenantId` is concerned. -/
def Separate (tenantId : String) (engine : PolicyEngine V) (call : PublishCall V) : Prop :=
  call.check (engine.tenantPolicies call.policy.tenantId) = .ok () →
    ∀ other, engine.policies.get? call.policy.key = some other →
      (other.tenantId = tenantId ↔ call.policy.tenantId = tenantId)

instance (tenantId : String) (engine : PolicyEngine V) (call : PublishCall V) :
    Decidable (Separate tenantId engine call) := inferInstanceAs (Decidable (_ → _))

section

variable {tenantId : String} {engine : PolicyEngine V} {call : PublishCall V}

theorem view_step_own (hseparate : Separate tenantId engine call)
    (hown : call.policy.tenantId = tenantId) :
    (engine.step call).view tenantId = viewStep (engine.view tenantId) call := by
  unfold viewStep
  rw [← tenantPolicies_eq, ← hown]
  rcases step_cases engine call with ⟨hcheck, hstep⟩ | ⟨⟨e, hcheck⟩, hstep⟩
  · rw [hcheck, view, hstep]
    refine (filter_assocSet fun other hother => ?_).trans (if_pos (by simp))
    exact decide_eq_decide.mpr (hown ▸ hseparate hcheck other hother)
  · rw [hcheck, hstep]

theorem view_step_other (hseparate : Separate tenantId engine call)
    (hother : call.policy.tenantId ≠ tenantId) :
    (engine.step call).view tenantId = engine.view tenantId := by
  rcases step_cases engine call with ⟨hcheck, hstep⟩ | ⟨-, hstep⟩
  · rw [view, hstep]
    refine (filter_assocSet fun other hget => ?_).trans (if_neg (by simpa using hother))
    exact decide_eq_decide.mpr (hseparate hcheck other hget)
  · rw [hstep]

theorem view_run (calls : List (PublishCall V))
    (hseparate : Guarded step (Separate tenantId) engine calls) :
    (run step engine calls).view tenantId =
      run viewStep (engine.view tenantId)
        (calls.filter fun call => decide (call.policy.tenantId = tenantId)) :=
  guarded_view
    (fun _ _ hcall hkeep => view_step_own hcall (of_decide_eq_true hkeep))
    (fun _ _ hcall hkeep => view_step_other hcall (of_decide_eq_false hkeep)) calls engine hseparate

end

/-- **Main result.** Two series of publications with the same publications of a
tenant give it the same decisions and validations, if no policy of the tenant
and policy of another one take each other's place. -/
theorem tenant_noninterference {tenantId : String} {calls calls' : List (PublishCall V)}
    (hsame : calls.filter (fun call => decide (call.policy.tenantId = tenantId)) =
      calls'.filter fun call => decide (call.policy.tenantId = tenantId))
    (hseparate : Guarded PolicyEngine.step (Separate tenantId) .empty calls)
    (hseparate' : Guarded PolicyEngine.step (Separate tenantId) .empty calls') :
    (∀ siteId facts,
      (run PolicyEngine.step .empty calls).evaluate tenantId siteId facts =
        (run PolicyEngine.step .empty calls').evaluate tenantId siteId facts) ∧
    ∀ policy : Policy V, policy.tenantId = tenantId →
      (run PolicyEngine.step .empty calls).validatePublish policy =
        (run PolicyEngine.step .empty calls').validatePublish policy := by
  have hpolicies : (run step .empty calls).tenantPolicies tenantId =
      (run step .empty calls').tenantPolicies tenantId := by
    rw [tenantPolicies_eq, tenantPolicies_eq, view_run calls hseparate,
      view_run calls' hseparate', hsame]
  refine ⟨fun siteId facts => by rw [evaluate, evaluate, active, active, hpolicies], ?_⟩
  rintro policy rfl
  rw [validatePublish, validatePublish, hpolicies]

/-- Another tenant's policy with an id of its own makes no difference. -/
theorem tenant_noninterference_sample :
    capped.evaluate "tenant-one" "site-one" overload =
      (run PolicyEngine.step .empty
        [byAdmin (powerCap "power-cap" "tenant-one" .hard),
          byOperator (powerCap "site-cap" "tenant-two" .soft)]).evaluate "tenant-one" "site-one"
        overload :=
  (tenant_noninterference (by rfl) (by decide +kernel) (by decide +kernel)).1 _ _

/-- One with the id and version of the tenant's hard policy removes it. -/
theorem other_tenant_replaces :
    let own := byAdmin (powerCap "power-cap" "tenant-one" .hard)
    let other := byOperator (powerCap "power-cap" "tenant-two" .soft)
    [own].filter (fun call => decide (call.policy.tenantId = "tenant-one")) = [own] ∧
      [own, other].filter (fun call => decide (call.policy.tenantId = "tenant-one")) = [own] ∧
      (run PolicyEngine.step .empty [own]).evaluate "tenant-one" "site-one" overload = .ok denial ∧
      (run PolicyEngine.step .empty [own, other]).evaluate "tenant-one" "site-one" overload =
        .ok ⟨true, [], [], [], []⟩ := by
  refine ⟨rfl, rfl, evaluate_capped, ?_⟩
  decide +kernel

end ComputeWeaver.Policies
