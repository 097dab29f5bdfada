/-
Certification.CertifyTheorems — which gate results certify a
release (`certify_release` of `packages/certification/service.py`).

The results are collected in a dictionary by name, so of several results for a
gate only the last one is looked at (`certified_iff`); a failed result before a
passing one is not seen (`failed_gate_certified`).
-/
import ComputeWeaver.Certification.Service

namespace ComputeWeaver.Certification

open Lib Dict List

/-- The arguments of `certify_release`; an absent dictionary is an empty one. -/
structure ReleaseArgs where
  releaseId : String
  commit : String
  generatedAt : Timestamp
  gateResults : List GateResult
  acceptedRisks : List String := []
  evidenceHashes : Dict String String := .empty
  artifacts : Dict String String := .empty
  testSummary : Document := []
  scenarioMetrics : Document := []
  approvals : List Document := []
  signature : Option String := none

/-- `dict(sorted(texts.items()))`. -/
def sortedItems (texts : Dict String String) : Dict String String :=
  .ofList (pySorted (fun a b => decide (a.1 ≤ b.1)) texts.entries)

/-- `by_name.get(name, …)`. -/
def declaredGate (results : List GateResult) (name : String) : GateResult :=
  ((Dict.ofList (results.map fun gate => (gate.name, gate))).get? name).getD
    ⟨name, false, [], some "mandatory evidence missing"⟩

/-- The gate has evidence, and a content hash for all of it. -/
def GateResult.bound (hashes : Dict String String) (gate : GateResult) : Bool :=
  !gate.evidence.isEmpty && gate.evidence.all fun item => hashes.contains item

def checkedGate (hashes : Dict String String) (gate : GateResult) : GateResult :=
  if gate.passed && !gate.bound hashes then
    ⟨gate.name, false, gate.evidence, some "evidence content hash is missing"⟩
  else gate

/-- The result before its content hash is known. -/
def uncertified (args : ReleaseArgs) : CertificationResult :=
  let hashes := sortedItems args.evidenceHashes
  let gates := mandatoryGates.map fun name =>
    checkedGate hashes (declaredGate args.gateResults name)
  { releaseId := args.releaseId, commit := args.commit, generatedAt := args.generatedAt
    expiresAt := { args.generatedAt with micros := args.generatedAt.micros + validity }
    status := if gates.all GateResult.passed then "CERTIFIED" else "NOT_CERTIFIED"
    gates, risks := args.acceptedRisks, evidenceHashes := hashes, certificateHash := ""
    artifacts := sortedItems (if args.artifacts.entries.isEmpty then hashes else args.artifacts)
    testSummary := args.testSummary, scenarioMetrics := args.scenarioMetrics
    approvals := args.approvals, signature := args.signature }

/-- The checks of `certify_release`. -/
def checkHashes (result : CertificationResult) : Except PyError Unit :=
  if result.generatedAt.isNaive then
    throw (.valueError "certificate generation time must be timezone-aware")
  else if result.evidenceHashes.entries.any fun item => !isSha256 item.2 then
    throw (.valueError "evidence hashes must be lowercase SHA-256 digests")
  else if result.artifacts.entries.any fun item => !isSha256 item.2 then
    throw (.valueError "artifact hashes must be lowercase SHA-256 digests")
  else if result.evidenceHashes.entries.any fun item =>
      result.artifacts.get? item.1 ≠ some item.2 then
    throw (.valueError "artifact hashes must include every evidence hash unchanged")
  else pure ()

def certifyRelease (env : CertEnv) (args : ReleaseArgs) : Except PyError CertificationResult := do
  let result := uncertified args
  checkHashes result
  let digest ← strictDigest env (certificateBody env result)
  pure { result with certificateHash := digest }

def GateResult.Backed (hashes : Dict String String) (gate : GateResult) : Prop :=
  gate.passed = true ∧ gate.evidence ≠ [] ∧ ∀ item ∈ gate.evidence, hashes.contains item = true

/-- The result that counts for a name: the last one. -/
def lastResult (results : List GateResult) (name : String) : Option GateResult :=
  results.reverse.find? fun gate => gate.name = name

/-- Certified only with a result for every mandatory gate, and all of these backed. -/
def FailsClosed (args : ReleaseArgs) (result : CertificationResult) : Prop :=
  result.status = "CERTIFIED" → ∀ name ∈ mandatoryGates,
    (∃ gate ∈ args.gateResults, gate.name = name) ∧
    ∀ gate ∈ args.gateResults, gate.name = name → gate.Backed args.evidenceHashes

/-- No result that is not backed stands before last results that are. -/
def NoneOverruled (args : ReleaseArgs) : Prop :=
  (∀ name ∈ mandatoryGates, ∃ gate,
    lastResult args.gateResults name = some gate ∧ gate.Backed args.evidenceHashes) →
  ∀ gate ∈ args.gateResults, gate.name ∈ mandatoryGates → gate.Backed args.evidenceHashes

/-! ## The last result counts -/

theorem get?_foldl_results (results : List GateResult) (d : Dict String GateResult)
    (name : String) :
    ((results.map fun gate => (gate.name, gate)).foldl (fun d kv => d.set kv.1 kv.2) d).get? name =
      (lastResult results name).or (d.get? name) := by
  induction results generalizing d with
  | nil => rfl
  | cons gate rest ih =>
    rw [map_cons, foldl_cons, ih, get?_set, lastResult, lastResult, reverse_cons, find?_append]
    cases rest.reverse.find? fun gate => gate.name = name with
    | some last => rfl
    | none => by_cases hname : gate.name = name <;> simp [hname]

theorem contains_sortedItems (texts : Dict String String) (k : String) :
    (sortedItems texts).contains k = texts.contains k := by
  have hperm := pySorted_perm (fun a b : String × String => decide (a.1 ≤ b.1)) texts.entries
  have hnodup := (hperm.map Prod.fst).nodup_iff.mpr texts.nodup
  rw [Bool.eq_iff_iff, contains_eq_true, contains_eq_true]
  refine exists_congr fun v => ?_
  rw [← mem_entries_iff, ← mem_entries_iff, sortedItems, entries_ofList hnodup, mem_pySorted]

theorem passed_checkedGate {hashes : Dict String String} {results : List GateResult}
    {name : String} :
    (checkedGate (sortedItems hashes) (declaredGate results name)).passed = true ↔
      ∃ gate, lastResult results name = some gate ∧ gate.Backed hashes := by
  have hget : (ofList (results.map fun gate => (gate.name, gate))).get? name =
      lastResult results name := by
    rw [ofList, get?_foldl_results, get?_empty, Option.or_none]
  rw [declaredGate, hget]
  cases lastResult results name with
  | none => simp [checkedGate]
  | some gate =>
    have hbound : gate.bound (sortedItems hashes) = true ↔
        gate.evidence ≠ [] ∧ ∀ item ∈ gate.evidence, hashes.contains item = true := by
      simp [GateResult.bound, contains_sortedItems]
    simp only [Option.getD_some, Option.some.injEq, exists_eq_left', GateResult.Backed, ← hbound,
      checkedGate]
    cases hpassed : gate.passed <;> cases gate.bound (sortedItems hashes) <;> simp [hpassed]

/-- **One call.** The status of a release, from the last result of each gate. -/
theorem certified_iff {env : CertEnv} {args : ReleaseArgs} {result : CertificationResult}
    (h : certifyRelease env args = .ok result) :
    result.status = "CERTIFIED" ↔ ∀ name ∈ mandatoryGates,
      ∃ gate, lastResult args.gateResults name = some gate ∧ gate.Backed args.evidenceHashes := by
  obtain ⟨-, -, h⟩ := bind_eq_ok.mp h
  obtain ⟨digest, -, h⟩ := bind_eq_ok.mp h
  cases h
  simp only [← passed_checkedGate]
  have hstatus : (uncertified args).status =
      if (uncertified args).gates.all GateResult.passed then "CERTIFIED" else "NOT_CERTIFIED" := rfl
  rw [hstatus, uncertified]
  split <;> simp_all

/-- **Main result.** Certification fails closed exactly where no unbacked result
of a mandatory gate is overruled by a later one. -/
theorem failsClosed_iff (env : CertEnv) (args : ReleaseArgs) (result : CertificationResult)
    (h : certifyRelease env args = .ok result) : FailsClosed args result ↔ NoneOverruled args := by
  rw [FailsClosed, NoneOverruled, certified_iff h]
  refine imp_congr_right fun hlast => ⟨?_, ?_⟩
  · exact fun hall gate hgate hname => (hall gate.name hname).2 gate hgate rfl
  · intro hall name hname
    obtain ⟨gate, hgate, -⟩ := hlast name hname
    refine ⟨⟨gate, ?_, by simpa using find?_some hgate⟩, ?_⟩
    · exact mem_reverse.mp (mem_of_find?_eq_some hgate)
    · rintro other hother rfl
      exact hall other hother hname

def passingGates : List GateResult := mandatoryGates.map fun name => ⟨name, true, ["report"], none⟩

def releaseArgs (results : List GateResult) : ReleaseArgs :=
  { releaseId := "release-1", commit := "abcdef0", generatedAt := ⟨0, some 0⟩
    gateResults := results
    evidenceHashes := .ofList [("report", String.ofList (List.replicate 64 'a'))] }

theorem failsClosed_iff_passing :
    ∃ result, certifyRelease .plain (releaseArgs passingGates) = .ok result ∧
      (FailsClosed (releaseArgs passingGates) result ↔
        NoneOverruled (releaseArgs passingGates)) := by
  have hok : (certifyRelease .plain (releaseArgs passingGates)).toOption.isSome = true := by
    decide +kernel
  obtain ⟨result, hresult⟩ := Option.isSome_iff_exists.mp hok
  rw [toOption_eq_some] at hresult
  exact ⟨result, hresult, failsClosed_iff .plain _ result hresult⟩

/-- A failed security gate before a passing one. -/
theorem failed_gate_certified :
    let results := ⟨"security", false, [], none⟩ :: passingGates
    ((certifyRelease .plain (releaseArgs results)).toOption.any fun result =>
      result.status = "CERTIFIED") = true ∧
    ∃ gate ∈ results, gate.name ∈ mandatoryGates ∧ gate.passed = false := by
  decide +kernel

end ComputeWeaver.Certification
