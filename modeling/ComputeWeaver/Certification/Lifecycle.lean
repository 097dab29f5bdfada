/-
Certification.Lifecycle — the certification repository
(`packages/certification/lifecycle.py`, `CertificationRepository`).

Four families of evidence documents, one of each for a release: the saved run,
the published certificate, the revocation, and the event log, which is a hash
chain. One more document, the registry, repeats all revocations; the release
gate reads nothing else.

A call is a program over the files (`Prog`), with every access of the source in
its place: `path.exists()` is one, and loading a document is six. The lock of
an instance keeps its own calls apart and nothing else, so it has no part in a
program. The readings a call takes of the clock are an input (`Clock`), in the
order it takes them.
-/
import Mathlib.Data.Finset.Image
import ComputeWeaver.Certification.Service

namespace ComputeWeaver.Certification

open Lib

/-! ## Release ids and paths -/

def isAsciiAlphanumeric (c : Char) : Bool :=
  ('a' ≤ c && c ≤ 'z') || ('A' ≤ c && c ≤ 'Z') || ('0' ≤ c && c ≤ '9')

/-- `RELEASE_ID.fullmatch(text)`. -/
def isReleaseId (text : String) : Bool :=
  match text.toList with
  | [] => false
  | first :: rest => isAsciiAlphanumeric first && rest.length ≤ 127 &&
      rest.all fun c => isAsciiAlphanumeric c || c = '.' || c = '_' || c = '-'

def eventTypes : List String :=
  ["CertificationStarted", "GateFailed", "ReleaseCertified", "CertificationRevoked"]

/-- `_validate_release_id`. -/
def validateReleaseId (releaseId : String) : EvidenceProg Unit :=
  Prog.require (isReleaseId releaseId) (.valueError "release_id contains unsupported characters")

/-- `_path`. -/
def evidencePath (category : Category) (releaseId : String) : EvidenceProg EvidencePath := do
  validateReleaseId releaseId
  pure (.release category releaseId)

/-! ## Events -/

structure CertificationEvent where
  eventType : String
  releaseId : String
  occurredAt : Timestamp
  actorId : String
  payload : Document
  previousHash : String
  eventHash : String

/-- The readings of `datetime.now(UTC)` of one call. -/
structure Clock where
  now : Nat → Timestamp
  utc : ∀ n, (now n).offset = some 0

instance : CoeFun Clock fun _ => Nat → Timestamp := ⟨Clock.now⟩

theorem Clock.aware (clock : Clock) (n : Nat) : (clock n).isNaive = false := by
  rw [Timestamp.isNaive, clock.utc n]
  rfl

section

variable (env : CertEnv)

def eventBody (eventType releaseId : String) (occurredAt : Timestamp) (actorId : String)
    (payload : Document) (previousHash : String) : Document :=
  [("event_type", .str eventType), ("release_id", .str releaseId),
    ("occurred_at", .str (env.isoformat occurredAt)), ("actor_id", .str actorId),
    ("payload", .dict payload), ("previous_hash", .str previousHash)]

/-- `json.loads(json.dumps(asdict(event), default=str))`. -/
def CertificationEvent.document (event : CertificationEvent) : Document :=
  Value.jsonSafeItems env.toPyEnv
    [("event_type", .str event.eventType), ("release_id", .str event.releaseId),
      ("occurred_at", .str (env.strTime event.occurredAt)), ("actor_id", .str event.actorId),
      ("payload", .dict event.payload), ("previous_hash", .str event.previousHash),
      ("event_hash", .str event.eventHash)]

/-- `_load_verified`. -/
def loadVerified (path : EvidencePath) : EvidenceProg Document := do
  match ← verifyEvidence env path with
  | some error =>
      Prog.raise (.valueError ("certification repository integrity check failed: " ++ error))
  | none =>
      match ← readDocument path with
      | some document => pure document
      | none => Prog.raise .fileNotFoundError

/-- The items of `document.get("events", [])` that are dictionaries. -/
def loggedEvents (document : Document) : Except PyError (List Document) :=
  dictsField document "events"

/-- The events that `append_event` finds in the log. -/
def readEvents (path : EvidencePath) : EvidenceProg (List Document) := do
  if ← fileExists (.json path) then Prog.ofExcept (loggedEvents (← loadVerified env path))
  else pure []

/-- `str(events[-1]["event_hash"]) if events else "GENESIS"`. -/
def lastHash (events : List Document) : Except PyError String :=
  match events.getLast? with
  | some event => do pure (env.str (← docItem event "event_hash"))
  | none => pure "GENESIS"

/-- The event that `append_event` adds to a log. -/
def nextEvent (eventType releaseId : String) (occurredAt : Timestamp) (actorId : String)
    (payload : Document) (events : List Document) : Except PyError CertificationEvent := do
  let previousHash ← lastHash env events
  let eventHash ← strictDigest env
    (eventBody env eventType releaseId occurredAt actorId payload previousHash)
  pure { eventType, releaseId, occurredAt, actorId, payload, previousHash, eventHash }

def logDocument (releaseId : String) (events : List Document) : Document :=
  [("status", .str "PASS"), ("release_id", .str releaseId), ("events", .list (events.map .dict))]

/-- `append_event` at an `occurred_at`; `written` is read when the log is
written. -/
def appendEventAt (eventType releaseId actorId : String) (payload : Document)
    (occurredAt written : Timestamp) : EvidenceProg CertificationEvent := do
  Prog.require (eventType ∈ eventTypes)
    (.valueError "unsupported certification lifecycle event")
  validateReleaseId releaseId
  Prog.require (!occurredAt.isNaive)
    (.valueError "certification event timestamp must be timezone-aware")
  let path ← evidencePath .events releaseId
  let events ← readEvents env path
  let event ← Prog.ofExcept (nextEvent env eventType releaseId occurredAt actorId payload events)
  writeEvidence env path (logDocument releaseId (events ++ [event.document env]))
    ("certify event " ++ eventType) written
  pure event

/-- `append_event`. -/
def appendEvent (eventType releaseId actorId : String) (payload : Document)
    (occurredAt : Option Timestamp) (clock : Clock) : EvidenceProg CertificationEvent :=
  match occurredAt with
  | some t => appendEventAt env eventType releaseId actorId payload t (clock 0)
  | none => appendEventAt env eventType releaseId actorId payload (clock 0) (clock 1)

/-- `events`. -/
def eventFromDocument (item : Document) : Except PyError CertificationEvent := do
  let eventType := env.str (← docItem item "event_type")
  let releaseId := env.str (← docItem item "release_id")
  let occurredAt ← timeField env item "occurred_at"
  let actorId := env.str (← docItem item "actor_id")
  let payload ← PyEnv.dict (docGetD item "payload" (.dict []))
  let previousHash := env.str (← docItem item "previous_hash")
  let eventHash := env.str (← docItem item "event_hash")
  pure { eventType, releaseId, occurredAt, actorId, payload, previousHash, eventHash }

def parseEvents (document : Document) : Except PyError (List CertificationEvent) := do
  (← loggedEvents document).mapM (eventFromDocument env)

def events (releaseId : String) : EvidenceProg (List CertificationEvent) := do
  let path ← evidencePath .events releaseId
  if ← fileExists (.json path) then Prog.ofExcept (parseEvents env (← loadVerified env path))
  else pure []

/-- The loop of `verify_event_chain`. -/
def chainVerified (previous : String) : List CertificationEvent → Except PyError Bool
  | [] => pure true
  | event :: rest => do
      let digest ← strictDigest env (eventBody env event.eventType event.releaseId
        event.occurredAt event.actorId event.payload event.previousHash)
      if event.previousHash ≠ previous ∨ event.eventHash ≠ digest then pure false
      else chainVerified event.eventHash rest

/-- `verify_event_chain`. -/
def verifyEventChain (releaseId : String) : EvidenceProg Bool := do
  Prog.ofExcept (chainVerified env "GENESIS" (← events env releaseId))

/-! ## Runs and certificates -/

/-- `certificate_from_document(self._load_verified(path))`. -/
def loadCertificate (path : EvidencePath) : EvidenceProg CertificationResult := do
  Prog.ofExcept (certificateFromDocument env (← loadVerified env path))

/-- The loop of `save_run` over the gates, from reading `n` of the clock on. -/
def appendFailures (result : CertificationResult) (actorId : String) (clock : Clock) :
    Nat → List GateResult → EvidenceProg Unit
  | _, [] => pure ()
  | n, gate :: rest =>
      if gate.passed then appendFailures result actorId clock n rest
      else do
        let _ ← appendEventAt env "GateFailed" result.releaseId actorId
          [("gate", .str gate.name), ("reason", textOrNone gate.reason),
            ("evidence", .list (gate.evidence.map .str))] result.generatedAt (clock n)
        appendFailures result actorId clock (n + 1) rest

def certificatePayload (result : CertificationResult) : Document :=
  [("commit", .str result.commit), ("certificate_hash", .str result.certificateHash)]

/-- `save_run`. -/
def saveRun (result : CertificationResult) (actorId : String) (clock : Clock) :
    EvidenceProg EvidencePath := do
  let path ← evidencePath .runs result.releaseId
  let certificatePath ← evidencePath .certificates result.releaseId
  if ← fileExists (.json certificatePath) then
    Prog.raise (.fileExistsError "a published release cannot be recertified in place")
  else if ← fileExists (.json path) then do
    let existing ← loadCertificate env path
    Prog.require (existing.certificateHash = result.certificateHash)
      (.fileExistsError "a different certification run already exists for this release")
    pure path
  else do
    let _ ← appendEventAt env "CertificationStarted" result.releaseId actorId
      (certificatePayload result) result.generatedAt (clock 0)
    appendFailures env result actorId clock 1 result.gates
    writeEvidence env path (resultDocument env result) "certify run"
      (clock (1 + (result.gates.filter fun gate => !gate.passed).length))
    pure path

/-- `load_run`. -/
def loadRun (releaseId : String) : EvidenceProg CertificationResult := do
  loadCertificate env (← evidencePath .runs releaseId)

/-- `revocation`. -/
def revocation (releaseId : String) : EvidenceProg (Option Document) := do
  let path ← evidencePath .revocations releaseId
  if ← fileExists (.json path) then do
    pure (some (← loadVerified env path))
  else pure none

/-- The checks of `publish` before it takes the lock: the token, if the result
may be published. -/
def publishable (result : CertificationResult) (publicKey : String) : Except PyError Unit :=
  match result.signature with
  | some token =>
      if result.status ≠ "CERTIFIED" ∨ token = "" then
        throw (.valueError "publishing requires a signed CERTIFIED result")
      else do
        let _ ← verifyReleaseToken env token publicKey (some result)
        pure ()
  | none => throw (.valueError "publishing requires a signed CERTIFIED result")

/-- `publish`; `publicKey` is the content of the key file. -/
def publish (result : CertificationResult) (actorId publicKey : String) (clock : Clock) :
    EvidenceProg EvidencePath := do
  Prog.ofExcept (publishable env result publicKey)
  let run ← loadRun env result.releaseId
  Prog.require (run.certificateHash = result.certificateHash)
    (.valueError "published certificate does not match the saved certification run")
  -- a loaded revocation has its metadata, so it is true
  let revoked ← revocation env result.releaseId
  Prog.require revoked.isNone (.valueError "a revoked release cannot be republished")
  let path ← evidencePath .certificates result.releaseId
  if ← fileExists (.json path) then do
    let existing ← loadCertificate env path
    Prog.require (existing.certificateHash = result.certificateHash)
      (.fileExistsError "a different certificate already exists for this release")
    pure path
  else do
    writeEvidence env path (resultDocument env result) "certify release" (clock 0)
    let _ ← appendEventAt env "ReleaseCertified" result.releaseId actorId
      (certificatePayload result) (clock 1) (clock 2)
    pure path

/-! ## Revocations -/

/-- The revocation documents, `*.json`. -/
def isRevocation : EvidenceFile → Bool
  | .json (.release .revocations _) => true
  | _ => false

def EvidenceFile.releaseId : EvidenceFile → String
  | .json (.release _ releaseId) => releaseId
  | _ => ""

/-- `sorted(….glob("*.json"))`: in the order of the file names. -/
def sortedRevocations (files : Finset EvidenceFile) : List EvidencePath :=
  (pySorted (fun a b => decide (a ++ ".json" ≤ b ++ ".json"))
    (pySortedSet (files.image EvidenceFile.releaseId))).map (.release .revocations)

/-- The loop of `_write_revocation_registry`. -/
def loadAll : List EvidencePath → EvidenceProg (List Document)
  | [] => pure []
  | path :: rest => do
      let entry ← loadVerified env path
      pure (entry :: (← loadAll rest))

def registryDocument (entries : List Document) : Document :=
  [("status", .str "PASS"), ("revocations", .list (entries.map .dict))]

/-- `_write_revocation_registry`. -/
def writeRevocationRegistry (written : Timestamp) : EvidenceProg Unit := do
  let entries ← loadAll env (sortedRevocations (← Prog.list isRevocation))
  writeEvidence env .registry (registryDocument entries) "certify revocation-registry" written

def revocationDocument (releaseId certificateHash : String) (revokedAt : Timestamp)
    (actorId reason : String) : Document :=
  [("status", .str "REVOKED"), ("release_id", .str releaseId),
    ("certificate_hash", .str certificateHash), ("revoked_at", .str (env.isoformat revokedAt)),
    ("actor_id", .str actorId), ("reason", .str reason)]

/-- The published certificate that `revoke` starts from. -/
def certificateToRevoke (releaseId : String) : EvidenceProg CertificationResult := do
  let certificatePath ← evidencePath .certificates releaseId
  let published ← fileExists (.json certificatePath)
  Prog.require published (.valueError "only a published certificate can be revoked")
  let certificate ← loadCertificate env certificatePath
  Prog.require (certificate.status = "CERTIFIED" ∧ certificate.signature.any (· ≠ ""))
    (.valueError "only a signed CERTIFIED release can be revoked")
  pure certificate

/-- `revoke` after it has found no revocation of the release. -/
def revokeNow (releaseId : String) (certificate : CertificationResult) (actorId reason : String)
    (clock : Clock) : EvidenceProg Document := do
  let path := EvidencePath.release .revocations releaseId
  writeEvidence env path
    (revocationDocument env releaseId certificate.certificateHash (clock 0) actorId reason)
    "certify revoke" (clock 1)
  let _ ← appendEventAt env "CertificationRevoked" releaseId actorId
    [("certificate_hash", .str certificate.certificateHash), ("reason", .str reason)]
    (clock 2) (clock 3)
  writeRevocationRegistry env (clock 4)
  loadVerified env path

/-- `revoke`. -/
def revoke (releaseId actorId reason : String) (clock : Clock) : EvidenceProg Document := do
  Prog.require (pyStrip reason ≠ "") (.valueError "revocation reason is required")
  let certificate ← certificateToRevoke env releaseId
  let path ← evidencePath .revocations releaseId
  if ← fileExists (.json path) then do
    let existing ← loadVerified env path
    Prog.require ((docGetD existing "certificate_hash" .none).isStr certificate.certificateHash)
      (.valueError "revocation does not match the current certificate")
    pure existing
  else revokeNow env releaseId certificate actorId (pyStrip reason) clock

end

/-! ## Calls -/

inductive CertCall where
  | appendEvent (eventType releaseId actorId : String) (payload : Document)
      (occurredAt : Option Timestamp) (clock : Clock)
  | saveRun (result : CertificationResult) (actorId : String) (clock : Clock)
  | publish (result : CertificationResult) (actorId publicKey : String) (clock : Clock)
  | revoke (releaseId actorId reason : String) (clock : Clock)
  | verifyEventChain (releaseId : String)

inductive CertReply where
  | event (event : CertificationEvent)
  | path (path : EvidencePath)
  | revocation (document : Document)
  | verified (verified : Bool)

def CertCall.prog (env : CertEnv) : CertCall → EvidenceProg CertReply
  | appendEvent eventType releaseId actorId payload occurredAt clock => do
      pure (.event (← Certification.appendEvent env eventType releaseId actorId payload occurredAt
        clock))
  | saveRun result actorId clock => do
      pure (.path (← Certification.saveRun env result actorId clock))
  | publish result actorId publicKey clock => do
      pure (.path (← Certification.publish env result actorId publicKey clock))
  | revoke releaseId actorId reason clock => do
      pure (.revocation (← Certification.revoke env releaseId actorId reason clock))
  | verifyEventChain releaseId => do
      pure (.verified (← Certification.verifyEventChain env releaseId))

/-- The files after a call that runs to its end, alone. -/
def Files.step (env : CertEnv) (s : Files) (call : CertCall) : Files := (call.prog env).after s

end ComputeWeaver.Certification
