/-
Certification.Evidence — evidence files and their SHA-256
sidecars (`packages/certification/evidence.py`).

An evidence file is a JSON document with two files beside it: a sidecar with
the document's digest, and a JUnit report. `write_evidence` writes the three
one after the other, each of them atomically; `verify_evidence` reads the
sidecar once and the document twice.

A file holds what reading it yields. For a document that is its JSON value;
`canonical_json` sorts the keys, and no reader depends on their order. Nobody
reads a JUnit report, so its content is left out.

`CertEnv` has the library functions of this package whose results no statement
depends on. Two laws are assumed: a digest is 64 characters long, and the text
of an aware `datetime` parses as this `datetime`.
-/
import ComputeWeaver.Lib.FileProgram
import ComputeWeaver.Lib.Json

namespace ComputeWeaver.Certification

open Lib

/-- A `datetime`: microseconds, and the UTC offset of an aware one. -/
structure Timestamp where
  micros : Int
  offset : Option Int
  deriving DecidableEq, Repr

/-- `t.tzinfo is None`. -/
def Timestamp.isNaive (t : Timestamp) : Bool := t.offset.isNone

structure CertEnv extends PyEnv where
  /-- `platform.python_version()` -/
  pythonVersion : String
  /-- `sha256(content).hexdigest()` of the document with this content -/
  contentSha256 : Document → String
  contentSha256_length : ∀ document, (contentSha256 document).length = 64
  /-- `t.isoformat()` -/
  isoformat : Timestamp → String
  /-- `str(t)` -/
  strTime : Timestamp → String
  /-- `datetime.fromisoformat(text)` -/
  fromIso : String → Option Timestamp
  fromIso_strTime : ∀ t : Timestamp, t.isNaive = false → fromIso (strTime t) = some t
  /-- `jwt.decode(token, key, …)` with the options of `verify_release_token` -/
  decodeToken : String → String → Except PyError Document

/-! ## An environment for concrete runs -/

def intText (i : Int) : List Char := (if i < 0 then '-' else '+') :: Nat.toDigits 10 i.natAbs

def parseIntText : List Char → Option Int
  | '+' :: digits => some (Nat.ofDigitChars 10 digits 0)
  | '-' :: digits => some (-(Nat.ofDigitChars 10 digits 0))
  | _ => none

theorem parseIntText_intText (i : Int) : parseIntText (intText i) = some i := by
  unfold intText
  split
  · rw [parseIntText, Nat.ofDigitChars_ten_toDigits]
    congr 1
    omega
  · rw [parseIntText, Nat.ofDigitChars_ten_toDigits]
    congr 1
    omega

theorem zone_not_mem_intText {i : Int} {c : Char} (h : c ∈ intText i) : c ≠ 'Z' := by
  rintro rfl
  rw [intText, List.mem_cons] at h
  rcases h with h | h
  · split at h <;> cases h
  · have hdigit := Nat.isDigit_of_mem_toDigits (by decide) (by decide) h
    cases hdigit

def timeText (t : Timestamp) : String :=
  String.ofList (intText t.micros ++ (t.offset.elim [] fun offset => 'Z' :: intText offset))

def parseTimeText (text : String) : Option Timestamp := do
  let micros ← parseIntText (text.toList.takeWhile (· ≠ 'Z'))
  match text.toList.dropWhile (· ≠ 'Z') with
  | [] => pure ⟨micros, none⟩
  | _ :: zone => do pure ⟨micros, some (← parseIntText zone)⟩

theorem parseTimeText_timeText (t : Timestamp) (haware : t.isNaive = false) :
    parseTimeText (timeText t) = some t := by
  obtain ⟨micros, offset⟩ := t
  cases offset with
  | none => cases haware
  | some offset =>
    have hzone : ∀ c ∈ intText micros, decide (c ≠ 'Z') = true :=
      fun c hc => decide_eq_true (zone_not_mem_intText hc)
    have htext :
        (timeText ⟨micros, some offset⟩).toList = intText micros ++ 'Z' :: intText offset :=
      String.toList_ofList
    rw [parseTimeText, htext, List.takeWhile_append_of_pos hzone,
      List.dropWhile_append_of_pos hzone]
    simp [parseIntText_intText]

/-- 64 characters for a document: its checksum, filled up. -/
def checksumText (document : Document) : String :=
  String.ofList ((Nat.toDigits 10 (Value.dict document).checksum ++ List.replicate 64 '0').take 64)

/-- An environment for concrete runs, in which no token decodes. -/
def CertEnv.plain : CertEnv where
  toPyEnv := { PyEnv.plain with
    digest := fun value => String.ofList (Nat.toDigits 10 value.checksum) }
  pythonVersion := "3.12.0"
  contentSha256 := checksumText
  contentSha256_length := by
    intro document
    rw [checksumText, String.length_ofList, List.length_take, List.length_append,
      List.length_replicate]
    omega
  isoformat := timeText
  strTime := timeText
  fromIso := parseTimeText
  fromIso_strTime := parseTimeText_timeText
  decodeToken := fun _ _ => .error (.jwtError "DecodeError")

/-! ## Files -/

inductive Category where
  | runs | certificates | revocations | events
  deriving DecidableEq, Repr

/-- The path of an evidence document under `B20`. -/
inductive EvidencePath where
  | release (category : Category) (releaseId : String)
  | registry
  deriving DecidableEq, Repr

/-- `path.name`. -/
def EvidencePath.name : EvidencePath → String
  | release _ releaseId => releaseId ++ ".json"
  | registry => "revocations.json"

inductive EvidenceFile where
  | json (path : EvidencePath)
  | sidecar (path : EvidencePath)
  | junit (path : EvidencePath)
  deriving DecidableEq, Repr

inductive Content where
  | document (document : Document)
  | digest (digest filename : String)
  | report

def Content.document? : Content → Option Document
  | .document content => some content
  | _ => none

def Content.digest? : Content → Option (String × String)
  | .digest expected filename => some (expected, filename)
  | _ => none

abbrev Files := Dict EvidenceFile Content

abbrev EvidenceProg (α : Type) := Prog EvidenceFile Content α

section

/-- `path.exists()`, and `path.is_file()`. -/
def fileExists (file : EvidenceFile) : EvidenceProg Bool := do
  pure (← Prog.get file).isSome

def readDocument (path : EvidencePath) : EvidenceProg (Option Document) := do
  pure ((← Prog.get (.json path)).bind Content.document?)

def readSidecar (path : EvidencePath) : EvidenceProg (Option (String × String)) := do
  pure ((← Prog.get (.sidecar path)).bind Content.digest?)

end

variable (env : CertEnv)

/-! ## Writing evidence -/

/-- The fields that `write_evidence` sets. -/
def evidenceFields (document : Document) (command : String) (timestamp : Timestamp) : Document :=
  [("batch", docGetD document "batch" (.str "B20")),
    ("git_commit", docGetD document "git_commit" (docGetD document "source_revision" .none)),
    ("generated_at", docGetD document "generated_at" (.str (env.isoformat timestamp))),
    ("command", docGetD document "command" (.str command)),
    ("result", docGetD document "result" (docGetD document "status" (.str "FAIL"))),
    ("tool_versions", docGetD document "tool_versions"
      (.dict [("python", .str env.pythonVersion), ("computeweaver", .str "0.1.0")])),
    ("evidence_meta", .dict [("schema_version", .str "1.0.0"),
      ("generated_at", .str (env.isoformat timestamp)), ("command", .str command)])]

/-- The document that is written, as it reads back. -/
def storedDocument (document : Document) (command : String) (timestamp : Timestamp) : Document :=
  Value.jsonSafeItems env.toPyEnv
    (docUpdate document (evidenceFields env document command timestamp))

/-- The three files of an evidence document, in the order they are written. -/
def evidenceWrites (path : EvidencePath) (stored : Document) : List (EvidenceFile × Content) :=
  [(.json path, .document stored), (.sidecar path, .digest (env.contentSha256 stored) path.name),
    (.junit path, .report)]

/-- `write_evidence`; `timestamp` is `datetime.now(UTC)`. -/
def writeEvidence (path : EvidencePath) (document : Document) (command : String)
    (timestamp : Timestamp) : EvidenceProg Unit := do
  let stored := storedDocument env document command timestamp
  Prog.put (.json path) (.document stored)
  Prog.put (.sidecar path) (.digest (env.contentSha256 stored) path.name)
  Prog.put (.junit path) .report

/-! ## Verifying evidence -/

/-- `metadata.get("schema_version") == "1.0.0"` for a dictionary. -/
def hasMetadata (document : Document) : Bool :=
  match docGetD document "evidence_meta" .none with
  | .dict metadata => (docGetD metadata "schema_version" .none).isStr "1.0.0"
  | _ => false

/-- The part of `verify_evidence` after the two files were found. -/
def verifyContent (path : EvidencePath) : EvidenceProg (Option String) := do
  match ← readSidecar path with
  | none => pure (some "evidence document could not be parsed")
  | some (expected, filename) =>
      if filename ≠ path.name ∨ expected.length ≠ 64 then
        pure (some "evidence SHA-256 sidecar is malformed")
      else
        match ← readDocument path with
        | none => pure (some "evidence document could not be parsed")
        | some content =>
            if env.contentSha256 content ≠ expected then pure (some "evidence SHA-256 mismatch")
            else
              match ← readDocument path with
              | none => pure (some "evidence document could not be parsed")
              | some document =>
                  if hasMetadata document then pure none
                  else pure (some "evidence metadata is missing")

/-- `verify_evidence`: the error, if there is one. -/
def verifyEvidence (path : EvidencePath) : EvidenceProg (Option String) := do
  if ← fileExists (.json path) then
    if ← fileExists (.sidecar path) then verifyContent env path
    else pure (some "evidence document or SHA-256 sidecar is missing")
  else pure (some "evidence document or SHA-256 sidecar is missing")

end ComputeWeaver.Certification
