/-
Certification.RepositoryTheorems — what the certification
repository keeps over any series of its calls.

Saved runs, certificates and revocations are written once: a call writes one of
them only when it has found none, and writes a sidecar only for the document
beside it (`json_step`, `sidecar_step`). `Sound` says what every stored
certificate, revocation and event log is. It is an invariant of single writes,
so it also holds of the files that a stopped call leaves.
-/
import ComputeWeaver.Certification.ChainTheorems
import ComputeWeaver.Lib.Run

namespace ComputeWeaver.Certification

open Lib Prog Dict

/-! ## Documents that are written once -/

/-- Runs, certificates and revocations. -/
def EvidencePath.writtenOnce : EvidencePath → Bool
  | release .events _ => false
  | release _ _ => true
  | registry => false

section

variable {env : CertEnv} {published : CertificationResult → String → Prop} {s : Files}
  {write : EvidenceFile × Content} {path : EvidencePath}

theorem json_step (hwrite : Allowed env published s write) (honce : path.writtenOnce = true)
    {content : Content} (h : s.get? (.json path) = some content) :
    (s.set write.1 write.2).get? (.json path) = some content := by
  by_cases hfile : write.1 = .json path
  · cases hwrite with
    | run _ _ habsent | certificate _ _ _ _ _ _ _ _ _ habsent | revocation _ _ _ _ _ _ _ habsent =>
      cases hfile
      cases habsent.symm.trans h
    | event | registry =>
      cases hfile
      cases honce
    | sidecar => cases hfile
    | report => cases hfile
  · rw [get?_set_ne _ _ hfile, h]

variable {document : Document}

section

variable (hwrite : Allowed env published s write)
include hwrite

theorem sidecar_step (h : Loadable env s path document) :
    (s.set write.1 write.2).get? (.sidecar path) = s.get? (.sidecar path) := by
  by_cases hfile : write.1 = .sidecar path
  · cases hwrite with
    | sidecar other written hjson =>
      cases hfile
      cases hjson.symm.trans h.json
      rw [get?_set_self, h.sidecar]
    | _ => cases hfile
  · exact get?_set_ne _ _ hfile

theorem load_step (honce : path.writtenOnce = true) (h : load env s path = .ok document) :
    load env (s.set write.1 write.2) path = .ok document := by
  have hload := load_eq_ok.mp h
  exact load_eq_ok.mpr ⟨json_step hwrite honce hload.json,
    (sidecar_step hwrite hload).trans hload.sidecar, hload.metadata⟩

theorem certificateAt_step (honce : path.writtenOnce = true) {certificate : CertificationResult}
    (h : certificateAt env s path = .ok certificate) :
    certificateAt env (s.set write.1 write.2) path = .ok certificate := by
  obtain ⟨document, hload, hcertificate⟩ := bind_eq_ok.mp h
  rw [certificateAt, load_step hwrite honce hload]
  exact hcertificate

end

end

/-! ## What is stored -/

/-- A certificate that was published with a verified token, from the saved run
with the same hash. -/
structure Certified (env : CertEnv) (published : CertificationResult → String → Prop) (s : Files)
    (result saved : CertificationResult) (publicKey : String) : Prop where
  published : published result publicKey
  verified : publishable env result publicKey = .ok ()
  fromRun : certificateAt env s (.release .runs result.releaseId) = .ok saved
  hash : saved.certificateHash = result.certificateHash

structure Sound (env : CertEnv) (published : CertificationResult → String → Prop) (s : Files) :
    Prop where
  certificates : ∀ releaseId content,
    s.get? (.json (.release .certificates releaseId)) = some content →
      ∃ result saved publicKey written, result.releaseId = releaseId ∧
        content = .document (storedDocument env (resultDocument env result) "certify release"
          written) ∧ Certified env published s result saved publicKey
  revocations : ∀ releaseId content,
    s.get? (.json (.release .revocations releaseId)) = some content →
      ∃ certificate actorId reason revokedAt written,
        content = .document (storedDocument env
          (revocationDocument env releaseId certificate.certificateHash revokedAt actorId reason)
          "certify revoke" written) ∧
        certificateAt env s (.release .certificates releaseId) = .ok certificate
  logs : ∀ releaseId, ∃ events, LogHolds env s releaseId events ∧ Log env events

theorem docGetD_storedRevocation (env : CertEnv) (releaseId certificateHash : String)
    (revokedAt : Timestamp) (actorId reason : String) (written : Timestamp) :
    docGetD (storedDocument env
      (revocationDocument env releaseId certificateHash revokedAt actorId reason)
      "certify revoke" written) "certificate_hash" .none = .str certificateHash := by
  have hvalue : assocGet (revocationDocument env releaseId certificateHash revokedAt actorId reason)
      "certificate_hash" = some (.str certificateHash) := by
    simp [revocationDocument, assocGet]
  exact docGetD_storedDocument env _ written .none (by decide) hvalue

section

variable {env : CertEnv} {published : CertificationResult → String → Prop} {s : Files}

theorem sound_empty : Sound env published .empty where
  certificates := fun _ _ h => by cases h
  revocations := fun _ _ h => by cases h
  logs := fun _ => ⟨[], .absent rfl, trivial, by simp⟩

variable {write : EvidenceFile × Content}

theorem Certified.step {result saved : CertificationResult} {publicKey : String}
    (hwrite : Allowed env published s write)
    (h : Certified env published s result saved publicKey) :
    Certified env published (s.set write.1 write.2) result saved publicKey :=
  { h with fromRun := certificateAt_step hwrite rfl h.fromRun }

/-- **One write.** -/
theorem Sound.step (hwrite : Allowed env published s write) (h : Sound env published s) :
    Sound env published (s.set write.1 write.2) where
  certificates := by
    intro releaseId content hcontent
    by_cases hfile : write.1 = .json (.release .certificates releaseId)
    · rw [hfile, get?_set_self] at hcontent
      have hcertified := hwrite
      cases hwrite with
      | certificate result saved publicKey written hpublished hpublishable hsaved hhash =>
        cases hfile
        cases hcontent
        refine ⟨result, saved, publicKey, written, rfl, rfl, ?_⟩
        exact Certified.step hcertified ⟨hpublished, hpublishable, hsaved, hhash⟩
      | _ => cases hfile
    · rw [get?_set_ne _ _ hfile] at hcontent
      obtain ⟨result, saved, publicKey, written, hid, hdocument, hcertified⟩ :=
        h.certificates releaseId content hcontent
      exact ⟨result, saved, publicKey, written, hid, hdocument, hcertified.step hwrite⟩
  revocations := by
    intro releaseId content hcontent
    by_cases hfile : write.1 = .json (.release .revocations releaseId)
    · rw [hfile, get?_set_self] at hcontent
      have hcertificate := hwrite
      cases hwrite with
      | revocation releaseId' actorId reason certificate revokedAt written hat =>
        cases hfile
        cases hcontent
        refine ⟨certificate, actorId, reason, revokedAt, written, rfl, ?_⟩
        exact certificateAt_step hcertificate rfl hat
      | _ => cases hfile
    · rw [get?_set_ne _ _ hfile] at hcontent
      obtain ⟨certificate, actorId, reason, revokedAt, written, hdocument, hat⟩ :=
        h.revocations releaseId content hcontent
      exact ⟨certificate, actorId, reason, revokedAt, written, hdocument,
        certificateAt_step hwrite rfl hat⟩
  logs := by
    intro releaseId
    obtain ⟨events, hholds, hlog⟩ := h.logs releaseId
    obtain ⟨added, hholds, hlog⟩ := log_step hwrite hholds hlog
    exact ⟨events ++ added, hholds, hlog⟩

end

/-! ## Series of calls -/

section

variable {env : CertEnv} {s : Files}

/-- What the publications of a series have for `published`. -/
def publishedBy (calls : List CertCall) (result : CertificationResult) (publicKey : String) :
    Prop :=
  ∃ actorId clock, CertCall.publish result actorId publicKey clock ∈ calls

variable {published : CertificationResult → String → Prop} {I : Files → Prop}

theorem step_invariant
    (hkeep : ∀ s write, Allowed env published s write → I s → I (s.set write.1 write.2))
    {call : CertCall}
    (hpublished : ∀ result actorId publicKey clock,
      call = .publish result actorId publicKey clock → published result publicKey) (h : I s) :
    I (s.step env call) :=
  (call_writes hpublished s).applied hkeep h List.prefix_rfl

theorem Sound.mono {published' : CertificationResult → String → Prop} (h : Sound env published s)
    (hsub : ∀ result publicKey, published result publicKey → published' result publicKey) :
    Sound env published' s where
  certificates := by
    intro releaseId content hcontent
    obtain ⟨result, saved, publicKey, written, hid, hdocument, hcertified⟩ :=
      h.certificates releaseId content hcontent
    exact ⟨result, saved, publicKey, written, hid, hdocument,
      { hcertified with published := hsub _ _ hcertified.published }⟩
  revocations := h.revocations
  logs := h.logs

theorem sound_run (env : CertEnv) (calls : List CertCall) :
    Sound env (publishedBy calls) (run (Files.step env) .empty calls) := by
  induction calls using List.reverseRecOn with
  | nil => exact sound_empty
  | append_singleton calls call ih =>
    rw [run_append]
    refine step_invariant (fun _ _ => Sound.step) ?_ (ih.mono ?_)
    · rintro result actorId publicKey clock rfl
      exact ⟨actorId, clock, by simp⟩
    · rintro result publicKey ⟨actorId, clock, hmem⟩
      exact ⟨actorId, clock, List.mem_append_left _ hmem⟩

theorem complete_run (env : CertEnv) (calls : List CertCall) :
    Complete env (run (Files.step env) .empty calls) := by
  refine run_invariant (P := Complete env) (fun s call hs => ?_) calls .empty ?_
  · exact (call_touches env call).keeps ((stableUnder_complete env).mono fun _ _ => trivial) s hs
  · intro path content h
    cases h

theorem load_run (env : CertEnv) (calls later : List CertCall) {path : EvidencePath}
    (honce : path.writtenOnce = true) {content : Content}
    (h : (run (Files.step env) .empty calls).get? (.json path) = some content) :
    ∃ document, content = .document document ∧
      load env (run (Files.step env) .empty (calls ++ later)) path = .ok document := by
  obtain ⟨document, hloadable⟩ := complete_run env calls path content h
  refine ⟨document, Option.some.inj (h.symm.trans hloadable.json), ?_⟩
  rw [run_append]
  exact run_invariant (P := fun s => load env s path = .ok document)
    (fun _ _ => step_invariant
      (fun _ _ (hwrite : Allowed env (fun _ _ => True) _ _) => load_step hwrite honce)
      fun _ _ _ _ _ => trivial)
    later _ (load_eq_ok.mpr hloadable)

end

/-! ## Publications -/

section

variable {env : CertEnv} {result : CertificationResult} {publicKey : String}

theorem publishable_eq_ok (h : publishable env result publicKey = .ok ()) :
    result.status = "CERTIFIED" ∧ ∃ token claims, result.signature = some token ∧ token ≠ "" ∧
      verifyReleaseToken env token publicKey (some result) = .ok claims := by
  unfold publishable at h
  split at h
  · rename_i token hsignature
    split at h
    · cases h
    rename_i hchecks
    rw [not_or, not_not] at hchecks
    obtain ⟨claims, hclaims, _⟩ := bind_eq_ok.mp h
    exact ⟨hchecks.1, token, claims, hsignature, hchecks.2, hclaims⟩
  · cases h

variable {document : Document}

theorem publish_revoked (env : CertEnv) (s : Files) (result : CertificationResult)
    (actorId publicKey : String) (clock : Clock)
    (h : load env s (.release .revocations result.releaseId) = .ok document) :
    ∃ e, (publish env result actorId publicKey clock).exec s = (.error e, []) := by
  let Q := fun out : Except PyError EvidencePath × List (EvidenceFile × Content) =>
    ∃ e, out = (.error e, [])
  have herror : ∀ e, Q (.error e, []) := fun e => ⟨e, rfl⟩
  refine exec_bind_quiet_elim (Q := Q) (exec_ofExcept _ s) herror fun _ _ => ?_
  refine exec_bind_quiet_elim (exec_loadRun env s _) herror fun _ hrun => ?_
  refine exec_bind_quiet_elim (exec_require _ _ s) herror fun _ _ => ?_
  refine exec_bind_quiet_elim (exec_revocation env s _) herror fun revoked hrevoked => ?_
  refine exec_bind_quiet_elim (exec_require _ _ s) herror fun _ hnone => ?_
  have habsent := absent_of_revocationAt env s hrevoked (require_eq_ok hnone)
  cases habsent.symm.trans (load_eq_ok.mp h).json

/-- The digests of the two documents do not collide. -/
def NoCollision (env : CertEnv) (document other : Document) : Prop :=
  env.digest (.dict document) = env.digest (.dict other) → Value.Same (.dict document) (.dict other)

theorem digest_of_verifyCertificate (h : verifyCertificate env result = .ok true) :
    env.digest (.dict (certificateBody env result)) = result.certificateHash := by
  obtain ⟨digest, hdigest, h⟩ := bind_eq_ok.mp h
  unfold strictDigest at hdigest
  split at hdigest
  · cases hdigest
    simpa using h
  · cases hdigest

theorem accepted_of_verifyReleaseToken {token : String} {claims : Document}
    (h : verifyReleaseToken env token publicKey (some result) = .ok claims) :
    env.decodeToken token publicKey = .ok claims ∧ verifyCertificate env result = .ok true ∧
      (claim claims "certificate_hash").isStr result.certificateHash = true := by
  obtain ⟨decoded, hdecoded, h⟩ := bind_eq_ok.mp h
  dsimp only at h
  split at h
  · cases h
  split at h
  · cases h
  obtain ⟨verified, hverified, h⟩ := bind_eq_ok.mp h
  cases verified with
  | false => cases h
  | true =>
    split at h
    · cases h
    split at h
    · cases h
    rename_i hexpected
    split at h
    · cases h
    cases h
    simp only [Bool.not_eq_true', Bool.not_eq_false, Bool.and_eq_true] at hexpected
    exact ⟨hdecoded, hverified, hexpected.2⟩

theorem checked_of_certificateFromDocument (h : certificateFromDocument env document = .ok result) :
    result.generatedAt.isNaive = false ∧ result.expiresAt.isNaive = false ∧
      verifyCertificate env result = .ok true := by
  obtain ⟨parsed, -, h⟩ := bind_eq_ok.mp h
  obtain ⟨_, hcheck, h⟩ := bind_eq_ok.mp h
  obtain ⟨verified, hverified, h⟩ := bind_eq_ok.mp h
  cases verified with
  | false => cases h
  | true =>
    cases h
    unfold checkResult at hcheck
    by_cases hnaive : (result.generatedAt.isNaive || result.expiresAt.isNaive) = true
    · rw [if_pos hnaive] at hcheck
      cases hcheck
    · simpa [hverified] using hnaive

theorem status_eq_of_hash {saved : CertificationResult}
    (hsaved : verifyCertificate env saved = .ok true)
    (hresult : verifyCertificate env result = .ok true)
    (hhash : saved.certificateHash = result.certificateHash)
    (hcollision : NoCollision env (certificateBody env saved) (certificateBody env result)) :
    saved.status = result.status := by
  have hsame := hcollision (by
    rw [digest_of_verifyCertificate hsaved, digest_of_verifyCertificate hresult, hhash])
  rw [Value.same_fields (by rfl)] at hsame
  -- the fifth field of the body
  obtain ⟨⟨status, hstatus, hrel⟩, _⟩ := hsame.2.2.2.2
  cases hstatus
  exact Value.rel_str.mp hrel

end

/-! ## The lifecycle of a release -/

/-- **Main result.** After any series of calls, with `s` the files and `s'` those
after any further calls:

* a saved run is still the one that was saved;
* a stored certificate is a result of the series that was published with status
  CERTIFIED and a token verified with the key of that call, and the saved run
  has its hash (and so its status, unless two bodies collide);
* a stored certificate is still the one that was stored;
* a revocation is that of a stored certificate and has its hash;
* a release with a revocation cannot be published any more;
* `verify_event_chain` returns true. -/
theorem release_lifecycle (env : CertEnv) (calls later : List CertCall) :
    let s := run (Files.step env) .empty calls
    let s' := run (Files.step env) .empty (calls ++ later)
    (∀ releaseId content, s.get? (.json (.release .runs releaseId)) = some content →
      ∃ document, content = .document document ∧
        load env s' (.release .runs releaseId) = .ok document) ∧
    (∀ releaseId content, s.get? (.json (.release .certificates releaseId)) = some content →
      ∃ result saved publicKey token claims written,
        content = .document (storedDocument env (resultDocument env result) "certify release"
          written) ∧
        publishedBy calls result publicKey ∧ result.releaseId = releaseId ∧
        result.status = "CERTIFIED" ∧ result.signature = some token ∧
        verifyReleaseToken env token publicKey (some result) = .ok claims ∧
        certificateAt env s (.release .runs releaseId) = .ok saved ∧
        saved.certificateHash = result.certificateHash ∧
        (NoCollision env (certificateBody env saved) (certificateBody env result) →
          saved.status = "CERTIFIED")) ∧
    (∀ releaseId content, s.get? (.json (.release .certificates releaseId)) = some content →
      ∃ document, content = .document document ∧
        load env s' (.release .certificates releaseId) = .ok document) ∧
    (∀ releaseId content, s.get? (.json (.release .revocations releaseId)) = some content →
      ∃ document certificate, content = .document document ∧
        certificateAt env s (.release .certificates releaseId) = .ok certificate ∧
        docGetD document "certificate_hash" .none = .str certificate.certificateHash) ∧
    (∀ result content, s.get? (.json (.release .revocations result.releaseId)) = some content →
      ∀ actorId publicKey clock,
        ∃ e, (publish env result actorId publicKey clock).exec s' = (.error e, [])) ∧
    ∀ releaseId, isReleaseId releaseId = true →
      (verifyEventChain env releaseId).exec s = (.ok true, []) := by
  intro s s'
  have hsound : Sound env (publishedBy calls) s := sound_run env calls
  refine ⟨?_, ?_, ?_, ?_, ?_, ?_⟩
  · exact fun releaseId content h => load_run env calls later rfl h
  · intro releaseId content h
    obtain ⟨result, saved, publicKey, written, rfl, hdocument, hcertified⟩ :=
      hsound.certificates releaseId content h
    obtain ⟨hstatus, token, claims, hsignature, _, hclaims⟩ :=
      publishable_eq_ok hcertified.verified
    refine ⟨result, saved, publicKey, token, claims, written, hdocument, hcertified.published, rfl,
      hstatus, hsignature, hclaims, hcertified.fromRun, hcertified.hash, fun hcollision => ?_⟩
    rw [← hstatus]
    obtain ⟨_, -, hsaved⟩ := bind_eq_ok.mp hcertified.fromRun
    exact status_eq_of_hash (checked_of_certificateFromDocument hsaved).2.2
      (accepted_of_verifyReleaseToken hclaims).2.1 hcertified.hash hcollision
  · exact fun releaseId content h => load_run env calls later rfl h
  · intro releaseId content h
    obtain ⟨certificate, actorId, reason, revokedAt, written, hdocument, hat⟩ :=
      hsound.revocations releaseId content h
    exact ⟨_, certificate, hdocument, hat, docGetD_storedRevocation env _ _ _ _ _ _⟩
  · intro result content h actorId publicKey clock
    obtain ⟨document, _, hload⟩ := load_run env calls later rfl h
    exact publish_revoked env s' result actorId publicKey clock hload
  · intro releaseId hid
    obtain ⟨events, hholds, hlog⟩ := hsound.logs releaseId
    rw [exec_verifyEventChain, hholds.verified hlog (complete_run env calls) hid]

end ComputeWeaver.Certification
