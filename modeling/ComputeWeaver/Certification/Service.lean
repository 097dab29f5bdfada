/-
Certification.Service — certification results, their content
hash, and release tokens (`packages/certification/service.py`,
`packages/certification/signing.py`).

A result is bound to its content by `certificate_hash`, the digest of a body
with every other field but the signature.
-/
import ComputeWeaver.Certification.Evidence

namespace ComputeWeaver.Certification

open Lib

structure GateResult where
  name : String
  passed : Bool
  evidence : List String
  reason : Option String := none
  deriving DecidableEq

structure CertificationResult where
  releaseId : String
  commit : String
  generatedAt : Timestamp
  expiresAt : Timestamp
  status : String
  gates : List GateResult
  risks : List String
  evidenceHashes : Dict String String
  certificateHash : String
  artifacts : Dict String String
  testSummary : Document
  scenarioMetrics : Document
  approvals : List Document
  signature : Option String := none

def mandatoryGates : List String :=
  ["build", "tests", "contracts", "security", "scenarios", "performance", "backup_restore",
    "external_integrations", "acceptance"]

/-- `_is_sha256`. -/
def isSha256 (text : String) : Bool :=
  text.length = 64 && text.toList.all fun c => c ∈ "0123456789abcdef".toList

/-- `IMMUTABLE_REVISION.fullmatch(text)`. -/
def isImmutableRevision (text : String) : Bool :=
  let isHex := fun cs : List Char => cs.all fun c => c ∈ "0123456789abcdef".toList
  (7 ≤ text.length && text.length ≤ 64 && isHex text.toList) ||
    ("sha256:".toList.isPrefixOf text.toList && text.length = 71 && isHex (text.toList.drop 7))

/-! ## Documents -/

def textOrNone : Option String → Value
  | some text => .str text
  | none => .none

/-- `asdict(gate)`. -/
def GateResult.document (gate : GateResult) : Document :=
  [("name", .str gate.name), ("passed", .bool gate.passed),
    ("evidence", .list (gate.evidence.map .str)), ("reason", textOrNone gate.reason)]

def textDict (texts : Dict String String) : Value :=
  .dict (texts.entries.map fun item => (item.1, .str item.2))

section

variable (env : CertEnv)

/-- What the certificate hash is the digest of. -/
def certificateBody (result : CertificationResult) : Document :=
  [("release_id", .str result.releaseId), ("commit", .str result.commit),
    ("generated_at", .str (env.isoformat result.generatedAt)),
    ("expires_at", .str (env.isoformat result.expiresAt)), ("status", .str result.status),
    ("gates", .list (result.gates.map fun gate => .dict gate.document)),
    ("risks", .list (result.risks.map .str)), ("evidence_hashes", textDict result.evidenceHashes),
    ("artifacts", textDict result.artifacts), ("test_summary", .dict result.testSummary),
    ("scenario_metrics", .dict result.scenarioMetrics),
    ("approvals", .list (result.approvals.map .dict))]

/-- `json.loads(json.dumps(asdict(result), default=str))`. -/
def resultDocument (result : CertificationResult) : Document :=
  Value.jsonSafeItems env.toPyEnv
    [("release_id", .str result.releaseId), ("commit", .str result.commit),
      ("generated_at", .str (env.strTime result.generatedAt)),
      ("expires_at", .str (env.strTime result.expiresAt)), ("status", .str result.status),
      ("gates", .list (result.gates.map fun gate => .dict gate.document)),
      ("risks", .list (result.risks.map .str)),
      ("evidence_hashes", textDict result.evidenceHashes),
      ("certificate_hash", .str result.certificateHash), ("artifacts", textDict result.artifacts),
      ("test_summary", .dict result.testSummary),
      ("scenario_metrics", .dict result.scenarioMetrics),
      ("approvals", .list (result.approvals.map .dict)),
      ("signature", textOrNone result.signature)]

/-- `sha256(json.dumps(document, sort_keys=True).encode()).hexdigest()`. -/
def strictDigest (document : Document) : Except PyError String :=
  if (Value.dict document).serializable then pure (env.digest (.dict document))
  else throw .typeError

/-- `verify_certificate`. -/
def verifyCertificate (result : CertificationResult) : Except PyError Bool := do
  pure (decide ((← strictDigest env (certificateBody env result)) = result.certificateHash))

/-! ## Reading a result back -/

/-- `datetime.fromisoformat(str(document[key]))`. -/
def timeField (document : Document) (key : String) : Except PyError Timestamp := do
  match env.fromIso (env.str (← docItem document key)) with
  | some t => pure t
  | none => throw (.valueError "Invalid isoformat string")

/-- `tuple(str(item) for item in document.get(key, []))`. -/
def textsField (document : Document) (key : String) : Except PyError (List String) := do
  pure ((← PyEnv.list (docGetD document key (.list []))).map env.str)

/-- `{str(key): str(value) for key, value in dict(document.get(key, {})).items()}`. -/
def textDictField (document : Document) (key : String) : Except PyError (Dict String String) := do
  let items ← PyEnv.dict (docGetD document key (.dict []))
  pure (items.foldl (fun texts item => texts.set item.1 (env.str item.2)) .empty)

/-- The items of `document.get(key, [])` that are dictionaries. -/
def dictsField (document : Document) (key : String) : Except PyError (List Document) := do
  pure ((← PyEnv.list (docGetD document key (.list []))).filterMap fun item =>
    match item with
    | .dict items => some items
    | _ => none)

def gateFromDocument (item : Document) : Except PyError GateResult := do
  let name := env.str (← docItem item "name")
  let passed := (← docItem item "passed").truthy
  let evidence ← textsField env item "evidence"
  let reason := match docGetD item "reason" .none with
    | .none => none
    | value => some (env.str value)
  pure ⟨name, passed, evidence, reason⟩

/-- The `CertificationResult` of a document, before it is checked. -/
def parseResult (document : Document) : Except PyError CertificationResult := do
  let gates ← (← dictsField document "gates").mapM (gateFromDocument env)
  let releaseId := env.str (← docItem document "release_id")
  let commit := env.str (← docItem document "commit")
  let generatedAt ← timeField env document "generated_at"
  let expiresAt ← timeField env document "expires_at"
  let status := env.str (← docItem document "status")
  let risks ← textsField env document "risks"
  let evidenceHashes ← textDictField env document "evidence_hashes"
  let certificateHash := env.str (← docItem document "certificate_hash")
  let artifacts ← textDictField env document "artifacts"
  let testSummary ← PyEnv.dict (docGetD document "test_summary" (.dict []))
  let scenarioMetrics ← PyEnv.dict (docGetD document "scenario_metrics" (.dict []))
  let approvals ← dictsField document "approvals"
  let signature ← if (docGetD document "signature" .none).truthy then do
      pure (some (env.str (← docItem document "signature")))
    else pure none
  pure { releaseId, commit, generatedAt, expiresAt, status, gates, risks, evidenceHashes
         certificateHash, artifacts, testSummary, scenarioMetrics, approvals, signature }

/-- Thirty days in microseconds. -/
def validity : Int := 30 * 24 * 60 * 60 * 1000000

/-- The checks of `certificate_from_document` before the content hash. -/
def checkResult (result : CertificationResult) : Except PyError Unit := do
  if result.generatedAt.isNaive || result.expiresAt.isNaive then
    throw (.valueError "certificate timestamps must be timezone-aware")
  if result.expiresAt.micros ≠ result.generatedAt.micros + validity then
    throw (.valueError "certificate validity period must be exactly 30 days")
  if result.gates.map GateResult.name ≠ mandatoryGates then
    throw (.valueError "certificate mandatory gate set is invalid")
  let expectedStatus :=
    if result.gates.all GateResult.passed then "CERTIFIED" else "NOT_CERTIFIED"
  if result.status ≠ expectedStatus then
    throw (.valueError "certificate status does not match its mandatory gates")
  if result.status = "CERTIFIED" ∧ !isImmutableRevision result.commit then
    throw (.valueError "certified releases require an immutable source revision")
  if result.evidenceHashes.entries.any fun item => !isSha256 item.2 then
    throw (.valueError "certificate evidence hash is invalid")
  if result.artifacts.entries.any fun item => !isSha256 item.2 then
    throw (.valueError "certificate artifact hash is invalid")
  if result.evidenceHashes.entries.any fun item => result.artifacts.get? item.1 ≠ some item.2 then
    throw (.valueError "certificate artifact set does not cover its evidence hashes")
  if result.gates.any fun gate => gate.passed &&
      (gate.evidence.isEmpty ||
        gate.evidence.any fun reference => !result.evidenceHashes.contains reference) then
    throw (.valueError "a passing certificate gate has unbound evidence")

/-- `certificate_from_document`. -/
def certificateFromDocument (document : Document) : Except PyError CertificationResult := do
  let result ← parseResult env document
  checkResult result
  if !(← verifyCertificate env result) then
    throw (.valueError "certificate content hash is invalid")
  pure result

/-! ## Release tokens -/

/-- `claims.get(key)`. -/
def claim (claims : Document) (key : String) : Value := docGetD claims key .none

/-- `verify_release_token`, called without `now`. -/
def verifyReleaseToken (token publicKey : String) (expected : Option CertificationResult) :
    Except PyError Document := do
  let claims ← env.decodeToken token publicKey
  if !(claim claims "status").isStr "CERTIFIED" then
    throw (.valueError "release token is not certified")
  if !(claim claims "jti").pyEq (claim claims "certificate_hash") then
    throw (.valueError "release token identifier does not match its certificate")
  match expected with
  | none => pure ()
  | some certificate => do
      if !(← verifyCertificate env certificate) then
        throw (.valueError "expected release certificate is invalid")
      if !((claim claims "release_id").isStr certificate.releaseId &&
          (claim claims "commit").isStr certificate.commit &&
          (claim claims "certificate_hash").isStr certificate.certificateHash) then
        throw (.valueError "release token does not match the expected certificate")
      if !(claim claims "artifact_set_hash").isStr
          (env.digest (textDict certificate.artifacts)) then
        throw (.valueError "release token artifact set does not match the certificate")
  pure claims

end

end ComputeWeaver.Certification
