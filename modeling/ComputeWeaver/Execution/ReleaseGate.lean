/-
Execution.ReleaseGate — the gate in front of external writes
(`packages/execution/external.py`, `ReleaseGate`).

`validate` admits the token of the running release: the settings have to allow
external writes, the token has to verify, and the registry of revocations must
not have its certificate. Of the settings only those of the gate are kept. The
key file is a parameter, by its path; the registry is the file that
`release_revocations_file` names.
-/
import ComputeWeaver.Certification.Service

namespace ComputeWeaver.Execution

open Lib Certification

structure GateSettings where
  externalWriteEnabled : Bool
  executionMode : String
  environment : String
  releaseCertificate : Option String
  releasePublicKeyFile : Option String
  releaseRevocationsFile : Option String
  releaseCommit : Option String

/-- `bool(text)` for a text or `None`. -/
def isSet (text : Option String) : Bool := text.any (· ≠ "")

/-- `external_writes_allowed`. -/
def GateSettings.externalWritesAllowed (settings : GateSettings) : Bool :=
  settings.externalWriteEnabled && settings.executionMode = "guarded" &&
    isSet settings.releaseCertificate && isSet settings.releasePublicKeyFile &&
    isSet settings.releaseRevocationsFile && isSet settings.releaseCommit &&
    settings.environment = "production"

/-- `except (jwt.PyJWTError, OSError, ValueError)`; `PermissionError` and the
errors of missing files are `OSError`s. -/
def isTokenError : PyError → Bool
  | .jwtError _ => true
  | .valueError _ => true
  | .permissionError _ => true
  | .fileExistsError _ => true
  | .fileNotFoundError => true
  | _ => false

def releaseClaims (env : CertEnv) (settings : GateSettings) (publicKey : String) :
    Except PyError Document :=
  let claims : Except PyError Document := match settings.releaseCertificate with
    | none => throw (.permissionError "release certification token is unavailable")
    | some token => verifyReleaseToken env token publicKey none
  match claims with
  | .ok claims => pure claims
  | .error e =>
      if isTokenError e then throw (.permissionError "release certification token is invalid")
      else throw e

/-- `isinstance(entry, dict) and entry.get("certificate_hash") == …`. -/
def revokes (certificateHash : Value) : Value → Bool
  | .dict entry => (docGetD entry "certificate_hash" .none).pyEq certificateHash
  | _ => false

/-- `validate` after the registry was verified. -/
def validateToken (env : CertEnv) (settings : GateSettings) (publicKey : String) :
    EvidenceProg Document := do
  let claims ← Prog.ofExcept (releaseClaims env settings publicKey)
  Prog.require ((claim claims "status").isStr "CERTIFIED")
    (.permissionError "release is not certified")
  Prog.require ((claim claims "commit").pyEq (textOrNone settings.releaseCommit))
    (.permissionError "release certificate does not match running commit")
  match ← readDocument .registry with
  | none => Prog.raise (.permissionError "release revocation registry cannot be read")
  | some revocations => do
      let entries ← Prog.ofExcept (PyEnv.list (docGetD revocations "revocations" (.list [])))
      Prog.require (!entries.any (revokes (claim claims "certificate_hash")))
        (.permissionError "release certificate has been revoked")
      pure claims

/-- `ReleaseGate.validate`. -/
def validate (env : CertEnv) (settings : GateSettings) (keyFile : String → Option String) :
    EvidenceProg Document := do
  Prog.require settings.externalWritesAllowed
    (.permissionError "external execution feature gate is closed")
  match keyFile (settings.releasePublicKeyFile.getD "") with
  | none => Prog.raise (.permissionError "release certification public key is unavailable")
  | some publicKey => do
      match ← verifyEvidence env .registry with
      | some error =>
          Prog.raise (.permissionError
            ("release revocation registry is unavailable or invalid: " ++ error))
      | none => validateToken env settings publicKey

end ComputeWeaver.Execution
