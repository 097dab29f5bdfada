/-
Policies.ConflictTheorems — policies that cannot both be met.

`publish` refuses a policy that asks for another value than a published one of
the same field and priority, where the two name a common site. `evaluate` takes
a policy that names NO site for one of every site, and such a policy has no
site in common with any other as the check sees it.
-/
import ComputeWeaver.Policies.EngineTheorems

namespace ComputeWeaver.Policies

open Lib

variable {V : Type} [PyCompare V]

/-! ## Conflicts -/

/-- Two values differ, whichever is asked. -/
def Differ (a b : V) : Prop := PyCompare.ne a b = .ok true ∧ PyCompare.ne b a = .ok true

instance (a b : V) : Decidable (Differ a b) := inferInstanceAs (Decidable (_ ∧ _))

namespace Policy

/-- Two policies ask for different values of one field, with the same
priority. -/
def Opposes (a b : Policy V) : Prop :=
  a.rule.operator = "eq" ∧ b.rule.operator = "eq" ∧ a.rule.field = b.rule.field ∧
    a.priority = b.priority ∧ Differ a.rule.value b.rule.value

instance (a b : Policy V) : Decidable (Opposes a b) := inferInstanceAs (Decidable (_ ∧ _))

theorem Opposes.symm {a b : Policy V} (h : a.Opposes b) : b.Opposes a := by
  obtain ⟨ha, hb, hfield, hpriority, hvalues⟩ := h
  exact ⟨hb, ha, hfield.symm, hpriority.symm, hvalues.symm⟩

omit [PyCompare V] in
theorem activeAt_eq_true {policy : Policy V} {tenantId siteId : String} :
    policy.activeAt tenantId siteId = true ↔
      policy.published = true ∧ policy.tenantId = tenantId ∧
        (policy.siteIds = ∅ ∨ siteId ∈ policy.siteIds) := by
  simp [activeAt, and_assoc]

end Policy

/-- No two policies that apply to a site oppose each other. -/
def ConflictFree (engine : PolicyEngine V) : Prop :=
  ∀ tenantId siteId key key' a b, key ≠ key' →
    engine.policies.get? key = some a → engine.policies.get? key' = some b →
      a.activeAt tenantId siteId = true → b.activeAt tenantId siteId = true → ¬ a.Opposes b

/-- A policy that would be accepted, or a published one of its tenant, does not
leave its sites open while the two oppose each other. -/
def OpenSitesAgree (engine : PolicyEngine V) (call : PublishCall V) : Prop :=
  call.check (engine.tenantPolicies call.policy.tenantId) = .ok () →
    ∀ key other, key ≠ call.policy.key → engine.policies.get? key = some other →
      other.published = true → other.tenantId = call.policy.tenantId →
        other.siteIds = ∅ ∨ call.policy.siteIds = ∅ → ¬ other.Opposes call.policy

/-! ## One publication -/

theorem check_validates {call : PublishCall V} {existing : List (Policy V)}
    (h : call.check existing = .ok ()) :
    ∀ other ∈ existing, checkConflict call.policy other = .ok () := by
  unfold PublishCall.check at h
  by_cases hroles : call.policy.enforcement = .hard ∧ "safety_admin" ∉ call.actorRoles
  · simp [hroles] at h
  · rw [if_neg hroles] at h
    exact forM_eq_ok.mp h

section

variable {engine : PolicyEngine V} {call : PublishCall V}

/-- The new policy against one that was there. -/
theorem not_opposes_published {tenantId siteId : String} {key : String × Int} {other : Policy V}
    (hcheck : call.check (engine.tenantPolicies call.policy.tenantId) = .ok ())
    (hagree : OpenSitesAgree engine call) (hkey : key ≠ call.policy.key)
    (hget : engine.policies.get? key = some other)
    (hother : other.activeAt tenantId siteId = true)
    (hnew : { call.policy with published := true }.activeAt tenantId siteId = true) :
    ¬ other.Opposes call.policy := by
  obtain ⟨hpublished, htenant, hsites⟩ := Policy.activeAt_eq_true.mp hother
  obtain ⟨-, htenant', hsites'⟩ := Policy.activeAt_eq_true.mp hnew
  have hsame : other.tenantId = call.policy.tenantId := htenant.trans htenant'.symm
  rcases hsites with hopen | hsite
  · exact hagree hcheck key other hkey hget hpublished hsame (.inl hopen)
  rcases hsites' with hopen | hsite'
  · exact hagree hcheck key other hkey hget hpublished hsame (.inr hopen)
  -- both name the site, so the check has compared the two
  have hcommon : other.siteIds ∩ call.policy.siteIds ≠ ∅ :=
    Finset.ne_empty_of_mem (Finset.mem_inter.mpr ⟨hsite, hsite'⟩)
  have hok := check_validates hcheck other (mem_tenantPolicies.mpr ⟨⟨key, hget⟩, hsame⟩)
  rintro ⟨hrequires, hrequires', hfield, hpriority, hdiffer, -⟩
  simp [checkConflict, hpublished, hsame, hcommon, hfield, hpriority, hrequires, hrequires',
    hdiffer] at hok

omit [PyCompare V] in
/-- Two policies of which one leaves its sites open have a site in common. -/
theorem exists_common_site {a b : Policy V} (ha : a.published = true) (hb : b.published = true)
    (htenant : a.tenantId = b.tenantId) (hopen : a.siteIds = ∅ ∨ b.siteIds = ∅) :
    ∃ siteId, a.activeAt b.tenantId siteId = true ∧ b.activeAt b.tenantId siteId = true := by
  simp only [Policy.activeAt_eq_true, ha, hb, htenant, true_and]
  rcases hopen with hopen | hopen
  · rcases b.siteIds.eq_empty_or_nonempty with hb | ⟨siteId, hsite⟩
    · exact ⟨"", .inl hopen, .inl hb⟩
    · exact ⟨siteId, .inl hopen, .inr hsite⟩
  · rcases a.siteIds.eq_empty_or_nonempty with ha | ⟨siteId, hsite⟩
    · exact ⟨"", .inl ha, .inl hopen⟩
    · exact ⟨siteId, .inr hsite, .inl hopen⟩

theorem conflictFree_step (hfree : ConflictFree engine) (hagree : OpenSitesAgree engine call) :
    ConflictFree (engine.step call) := by
  rcases step_cases engine call with ⟨hcheck, hstep⟩ | ⟨-, hstep⟩
  · intro tenantId siteId key key' a b hkeys ha hb haAt hbAt hopposes
    rw [hstep, Dict.get?_set] at ha hb
    split at ha
    · rename_i hkey
      subst hkey
      cases ha
      rw [if_neg hkeys] at hb
      exact not_opposes_published hcheck hagree hkeys.symm hb hbAt haAt hopposes.symm
    · rename_i hkey
      split at hb
      · rename_i hkey'
        subst hkey'
        cases hb
        exact not_opposes_published hcheck hagree hkeys ha haAt hbAt hopposes
      · exact hfree tenantId siteId key key' a b hkeys ha hb haAt hbAt hopposes
  · rw [hstep]
    exact hfree

theorem openSitesAgree_of_step (hfree : ConflictFree (engine.step call)) :
    OpenSitesAgree engine call := by
  intro hcheck key other hkey hget hpublished htenant hopen hopposes
  rcases step_cases engine call with ⟨-, hstep⟩ | ⟨⟨e, herror⟩, -⟩
  · obtain ⟨siteId, hother, hnew⟩ := exists_common_site
      (b := { call.policy with published := true }) hpublished rfl htenant hopen
    refine hfree _ siteId key call.policy.key other _ hkey ?_ ?_ hother hnew hopposes
    · rw [hstep, Dict.get?_set_ne _ _ hkey.symm, hget]
    · rw [hstep, Dict.get?_set_self]
  · rw [herror] at hcheck
    cases hcheck

/-- **One step.** A publication keeps the store free of conflicts exactly where
open sites agree. -/
theorem conflictFree_step_iff (hfree : ConflictFree engine) :
    ConflictFree (engine.step call) ↔ OpenSitesAgree engine call :=
  ⟨openSitesAgree_of_step, conflictFree_step hfree⟩

end

/-! ## Every run -/

/-- **Main result.** The store is free of conflicts after each of a series of
publications exactly if none of them is accepted against an opposing policy
where one of the two leaves its sites open. -/
theorem conflictFree_run_iff (calls : List (PublishCall V)) :
    (∀ pre, pre <+: calls → ConflictFree (run PolicyEngine.step .empty pre)) ↔
      Guarded PolicyEngine.step OpenSitesAgree (.empty : PolicyEngine V) calls := by
  have hstep : ∀ (engine : PolicyEngine V) (call : PublishCall V), ConflictFree engine →
      (ConflictFree (engine.step call) ↔ OpenSitesAgree engine call) :=
    fun _ _ => conflictFree_step_iff
  have hempty : ConflictFree (.empty : PolicyEngine V) := by
    intro tenantId siteId key key' a b _ ha
    cases ha
  exact guarded_iff hstep calls .empty hempty

/-- The field `mode` has the value. -/
def modeIs (id : String) (siteIds : Finset String) (value : Int) : Policy Int where
  id := id
  version := 1
  tenantId := "tenant-one"
  siteIds := siteIds
  rule := ⟨"mode", "eq", value⟩
  enforcement := .soft
  priority := 10
  owner := "owner-1"
  published := false

/-- Two values are required at one site, one of them by a policy of every
site. -/
theorem open_sites_conflict :
    (run PolicyEngine.step .empty
        [byOperator (modeIs "everywhere" ∅ 1), byOperator (modeIs "at-site" {"site-one"} 2)]).active
        "tenant-one" "site-one" =
      [{ modeIs "at-site" {"site-one"} 2 with published := true },
        { modeIs "everywhere" ∅ 1 with published := true }] ∧
    ¬ ConflictFree (run PolicyEngine.step .empty
        [byOperator (modeIs "everywhere" ∅ 1), byOperator (modeIs "at-site" {"site-one"} 2)]) := by
  refine ⟨by decide +kernel, fun hfree => ?_⟩
  refine hfree "tenant-one" "site-one" ("everywhere", 1) ("at-site", 1)
    { modeIs "everywhere" ∅ 1 with published := true }
    { modeIs "at-site" {"site-one"} 2 with published := true } ?_ ?_ ?_ ?_ ?_ ?_ <;>
  decide +kernel

end ComputeWeaver.Policies
