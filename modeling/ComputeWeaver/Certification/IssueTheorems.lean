/-
Certification.IssueTheorems — what an issued attestation says
(`issue_attestation` of `packages/certification/attestations.py`).

The caller's claims are merged over the fixed part of the payload, so a claim
named like a fixed field replaces it (`issued_fields_iff`).
-/
import ComputeWeaver.Certification.Service

namespace ComputeWeaver.Certification

open Lib

/-- The arguments of `issue_attestation`, with the mode and the content of the
key file; `validFor` is in microseconds. -/
structure AttestationArgs where
  kind : String
  issuer : String
  subject : String
  releaseId : String
  sourceRevision : String
  requestSha256 : String
  artifactSha256 : String
  claims : Dict String Value
  issuedAt : Timestamp
  validFor : Int
  mode : Nat
  key : String
  keyId : Option String

/-- The fixed part of the payload; a datetime is encoded as whole seconds. -/
def fixedFields (env : CertEnv) (sha256 : String → String) (args : AttestationArgs) : Document :=
  [("iss", .str args.issuer), ("aud", .str "computeweaver-release-gate"),
    ("sub", .str args.subject), ("iat", .int (args.issuedAt.micros / 1000000)),
    ("exp", .int ((args.issuedAt.micros + args.validFor) / 1000000)),
    ("jti", .str (sha256 (args.issuer ++ ":" ++ args.subject ++ ":" ++ args.kind ++ ":" ++
      args.releaseId ++ ":" ++ args.requestSha256 ++ ":" ++ env.isoformat args.issuedAt))),
    ("kind", .str args.kind), ("release_id", .str args.releaseId),
    ("source_revision", .str args.sourceRevision), ("request_sha256", .str args.requestSha256),
    ("artifact_sha256", .str args.artifactSha256), ("status", .str "PASS")]

/-- `{…, **claims}`: what is signed. -/
def attestationPayload (env : CertEnv) (sha256 : String → String) (args : AttestationArgs) :
    Dict String Value :=
  (Dict.ofList (fixedFields env sha256 args)).update args.claims

/-- The claims that a kind of attestation must have. -/
def checkClaims (args : AttestationArgs) : Except PyError Unit :=
  let claim := fun key => (args.claims.get? key).getD .none
  if args.kind = "penetration_test" then
    match claim "open_findings" with
    | .dict _ => pure ()
    | _ => throw (.valueError "penetration test finding summary is required")
  else if args.kind = "human_acceptance_vote" then
    match claim "role" with
    | .list _ | .dict _ => throw .typeError
    | role =>
      if !(["product_owner", "security_owner", "operations_owner"].any role.isStr) ||
          !(claim "decision").isStr "ACCEPT" then
        throw (.valueError "human acceptance vote requires an approved owner role and ACCEPT")
      else if !(claim "actor").isStr args.subject then
        throw (.permissionError "human acceptance vote actor must match signing subject")
      else pure ()
  else pure ()

/-- `issue_attestation`; `encode` is `jwt.encode`. -/
def issueAttestation (env : CertEnv) (sha256 : String → String)
    (encode : Dict String Value → String → Option String → Except PyError String)
    (args : AttestationArgs) : Except PyError String :=
  if args.issuedAt.isNaive then
    throw (.valueError "attestation issue time must be timezone-aware")
  else if !isImmutableRevision args.sourceRevision then
    throw (.valueError "attestations require an immutable source revision")
  else if args.kind ∉ ["penetration_test", "human_acceptance", "human_acceptance_vote"] then
    throw (.valueError "unsupported attestation kind")
  else if args.issuer = "" ∨ args.subject = "" ∨ args.releaseId = "" then
    throw (.valueError "attestation identity and release fields are required")
  else if !isSha256 args.requestSha256 || !isSha256 args.artifactSha256 then
    throw (.valueError "attestation evidence digests are invalid")
  else if args.validFor ≤ 0 ∨ validity < args.validFor then
    throw (.valueError "attestation validity must be within 30 days")
  else if args.mode &&& 0o077 ≠ 0 then
    throw (.permissionError "attestation private key must not be group/world accessible")
  else do
    checkClaims args
    encode (attestationPayload env sha256 args) args.key (args.keyId.filter (· ≠ ""))

/-- The fields of the payload that the checked arguments determine: all of the
fixed part but the issue time and the identifier. -/
def reservedFields (env : CertEnv) (sha256 : String → String) (args : AttestationArgs) :
    Document :=
  (fixedFields env sha256 args).filter fun field => field.1 ∉ ["iat", "jti"]

/-- Every reserved field of the payload is the one the arguments determine. -/
def SaysWhatWasChecked (env : CertEnv) (sha256 : String → String) (args : AttestationArgs) : Prop :=
  ∀ field ∈ reservedFields env sha256 args,
    (attestationPayload env sha256 args).get? field.1 = some field.2

def ClaimsAgree (env : CertEnv) (sha256 : String → String) (args : AttestationArgs) : Prop :=
  ∀ field ∈ reservedFields env sha256 args, ∀ value,
    args.claims.get? field.1 = some value → value = field.2

theorem saysWhatWasChecked_iff (env : CertEnv) (sha256 : String → String) (args : AttestationArgs) :
    SaysWhatWasChecked env sha256 args ↔ ClaimsAgree env sha256 args := by
  refine forall₂_congr fun field hfield => ?_
  have hnodup : ((fixedFields env sha256 args).map Prod.fst).Nodup := by simp [fixedFields]
  rw [attestationPayload, Dict.get?_update, Dict.get?_ofList hnodup (List.mem_of_mem_filter hfield)]
  cases args.claims.get? field.1 <;> simp

/-- **Main result.** What an issued attestation signs is valid for at most thirty
days by its arguments, and has the fields that were checked exactly when no
claim gives one of them another value. -/
theorem issued_fields_iff (env : CertEnv) (sha256 : String → String)
    (encode : Dict String Value → String → Option String → Except PyError String)
    (args : AttestationArgs) (token : String)
    (h : issueAttestation env sha256 encode args = .ok token) :
    encode (attestationPayload env sha256 args) args.key (args.keyId.filter (· ≠ "")) = .ok token ∧
      0 < args.validFor ∧ args.validFor ≤ validity ∧
      (SaysWhatWasChecked env sha256 args ↔ ClaimsAgree env sha256 args) := by
  unfold issueAttestation at h
  iterate 5
    split at h
    · cases h
  split at h
  · cases h
  rename_i hvalid
  split at h
  · cases h
  · obtain ⟨-, -, hencode⟩ := bind_eq_ok.mp h
    exact ⟨hencode, by omega, by omega, saysWhatWasChecked_iff env sha256 args⟩

/-- A penetration test with one more claim than it needs. -/
def penetrationTest (claim : String) : AttestationArgs :=
  let digest := String.ofList (List.replicate 64 'a')
  { kind := "penetration_test", issuer := "lab", subject := "tester", releaseId := "release-1"
    sourceRevision := "abcdef0", requestSha256 := digest, artifactSha256 := digest
    claims := .ofList [("open_findings", .dict []), (claim, .str "other")]
    issuedAt := ⟨0, some 0⟩, validFor := validity, mode := 0o600, key := "key", keyId := none }

theorem issued_fields_iff_note :
    issueAttestation .plain id (fun _ _ _ => .ok "token") (penetrationTest "note") = .ok "token" ∧
      (SaysWhatWasChecked .plain id (penetrationTest "note") ↔
        ClaimsAgree .plain id (penetrationTest "note")) := by
  have h : issueAttestation .plain id (fun _ _ _ => .ok "token") (penetrationTest "note") =
      .ok "token" := by decide +kernel
  exact ⟨h, (issued_fields_iff .plain id _ _ "token" h).2.2.2⟩

/-- The claim `sub` replaces the subject that was checked. -/
theorem issued_for_other_subject :
    issueAttestation .plain id (fun _ _ _ => .ok "token") (penetrationTest "sub") = .ok "token" ∧
      (((attestationPayload .plain id (penetrationTest "sub")).get? "sub").any fun value =>
        value.isStr "other" && !value.isStr (penetrationTest "sub").subject) = true := by
  decide +kernel

end ComputeWeaver.Certification
