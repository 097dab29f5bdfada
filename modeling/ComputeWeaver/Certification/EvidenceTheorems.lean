/-
Certification.EvidenceTheorems — what loading an evidence
document depends on, and what writing one leaves.

`load_eq_ok` is the only place that unfolds `verify_evidence`: a document loads
when it is there, has its metadata, and the sidecar beside it has its digest.
`Complete` says that every document loads.
-/
import ComputeWeaver.Certification.Lifecycle

namespace ComputeWeaver.Certification

open Lib Prog List

variable (env : CertEnv)

/-! ## Stored documents -/

/-- The names of the fields that `write_evidence` sets. -/
def evidenceKeys : List String :=
  ["batch", "git_commit", "generated_at", "command", "result", "tool_versions", "evidence_meta"]

variable {key : String} {document : Document} {s : Files} {touched : EvidencePath → Prop}

theorem docGetD_storedDocument (command : String) (timestamp : Timestamp) {value : Value}
    (default : Value) (h : key ∉ evidenceKeys) (hvalue : assocGet document key = some value) :
    docGetD (storedDocument env document command timestamp) key default =
      value.jsonSafe env.toPyEnv := by
  rw [docGetD, storedDocument, Value.assocGet_jsonSafeItems, assocGet_docUpdate_of_not_mem, hvalue]
  · rfl
  · exact h

theorem dictsField_storedDocument (command : String) (timestamp : Timestamp) {items : List Document}
    (h : key ∉ evidenceKeys) (hitems : assocGet document key = some (.list (items.map .dict)))
    (hserializable : ∀ item ∈ items, Value.serializableItems item = true) :
    dictsField (storedDocument env document command timestamp) key = .ok items := by
  have hlist : Value.serializableList (items.map .dict) = true := by
    clear hitems
    induction items with
    | nil => rfl
    | cons item rest ih =>
      rw [forall_mem_cons] at hserializable
      simp only [map_cons, Value.serializableList, Value.serializable, hserializable.1,
        ih hserializable.2, Bool.and_self]
  have hfield : docGetD (storedDocument env document command timestamp) key (.list []) =
      .list (items.map .dict) := by
    rw [docGetD_storedDocument env command timestamp (.list []) h hitems]
    exact Value.jsonSafe_of_serializable env.toPyEnv _ hlist
  rw [dictsField, hfield]
  simp [PyEnv.list, filterMap_map]

theorem hasMetadata_storedDocument (document : Document) (command : String)
    (timestamp : Timestamp) :
    hasMetadata (storedDocument env document command timestamp) = true := by
  have hmeta : assocGet (storedDocument env document command timestamp) "evidence_meta" =
      some (.dict [("schema_version", .str "1.0.0"),
        ("generated_at", .str (env.isoformat timestamp)), ("command", .str command)]) := by
    rw [storedDocument, Value.assocGet_jsonSafeItems, evidenceFields]
    simp [docUpdate, assocGet_docWith, Value.jsonSafe, Value.jsonSafeItems]
  simp [hasMetadata, docGetD, hmeta, assocGet]

/-! ## Loading -/

/-- The error that `verify_evidence` returns on these files. -/
def verifyError (s : Files) (path : EvidencePath) : Option String :=
  match s.get? (.json path), s.get? (.sidecar path) with
  | some content, some sidecar =>
      match sidecar.digest?, content.document? with
      | some (expected, filename), document =>
          if filename ≠ path.name ∨ expected.length ≠ 64 then
            some "evidence SHA-256 sidecar is malformed"
          else match document with
            | some document =>
                if env.contentSha256 document ≠ expected then some "evidence SHA-256 mismatch"
                else if hasMetadata document then none
                else some "evidence metadata is missing"
            | none => some "evidence document could not be parsed"
      | none, _ => some "evidence document could not be parsed"
  | _, _ => some "evidence document or SHA-256 sidecar is missing"

theorem exec_verifyEvidence (s : Files) (path : EvidencePath) :
    (verifyEvidence env path).exec s = (.ok (verifyError env s path), []) := by
  unfold verifyEvidence fileExists verifyError
  simp only [bind_assoc, pure_bind, exec_get_bind]
  cases hjson : s.get? (.json path) with
  | none => rfl
  | some content =>
    simp only [Option.isSome_some, if_true, exec_get_bind]
    cases hsidecar : s.get? (.sidecar path) with
    | none => rfl
    | some sidecar =>
      simp only [Option.isSome_some, if_true, verifyContent, readSidecar, readDocument, bind_assoc,
        pure_bind, exec_get_bind, hsidecar, Option.bind_some]
      cases sidecar.digest? with
      | none => rfl
      | some expected =>
        dsimp only
        split
        · rfl
        simp only [exec_get_bind, hjson, Option.bind_some]
        cases hdocument : content.document? with
        | none => rfl
        | some document =>
          dsimp only
          split
          · rfl
          · simp only [exec_get_bind, hjson, Option.bind_some, hdocument]
            split <;> rfl

/-- What `_load_verified` returns on these files. -/
def load (s : Files) (path : EvidencePath) : Except PyError Document :=
  match verifyError env s path with
  | some error =>
      .error (.valueError ("certification repository integrity check failed: " ++ error))
  | none => match (s.get? (.json path)).bind Content.document? with
      | some document => .ok document
      | none => .error .fileNotFoundError

theorem exec_loadVerified (s : Files) (path : EvidencePath) :
    (loadVerified env path).exec s = (load env s path, []) := by
  unfold loadVerified readDocument load
  rw [exec_bind_quiet (exec_verifyEvidence env s path)]
  cases verifyError env s path with
  | some error => rfl
  | none =>
    simp only [bind_assoc, pure_bind, exec_get_bind]
    cases (s.get? (.json path)).bind Content.document? <;> rfl

structure Loadable (s : Files) (path : EvidencePath) (document : Document) : Prop where
  json : s.get? (.json path) = some (.document document)
  sidecar : s.get? (.sidecar path) = some (.digest (env.contentSha256 document) path.name)
  metadata : hasMetadata document = true

variable {env} {stored : Document}

theorem verifyError_eq_none {path : EvidencePath} (h : verifyError env s path = none) :
    ∃ document, Loadable env s path document := by
  unfold verifyError at h
  split at h
  · rename_i content sidecar hjson hsidecar
    split at h
    · rename_i expected filename hdigest
      split at h
      · cases h
      rename_i hname
      split at h
      · rename_i document hdocument
        split at h
        · cases h
        rename_i hsha
        split at h
        · rename_i hmetadata
          cases content with
          | document content =>
            cases hdocument
            cases sidecar with
            | digest expected filename =>
              cases hdigest
              rw [not_or, not_not, not_not] at hname
              rw [not_not] at hsha
              exact ⟨document, hjson, by rw [hsidecar, hsha, hname.1], hmetadata⟩
            | _ => cases hdigest
          | _ => cases hdocument
        · cases h
      · cases h
    · cases h
  · cases h

theorem load_eq_ok {path : EvidencePath} :
    load env s path = .ok document ↔ Loadable env s path document := by
  constructor
  · intro h
    unfold load at h
    split at h
    · cases h
    rename_i hverified
    obtain ⟨loaded, hloaded⟩ := verifyError_eq_none hverified
    rw [hloaded.json] at h
    cases h
    exact hloaded
  · rintro ⟨hjson, hsidecar, hmetadata⟩
    simp [load, verifyError, hjson, hsidecar, Content.digest?, Content.document?,
      env.contentSha256_length, hmetadata]

theorem load_congr {s' : Files} {path : EvidencePath}
    (hjson : s.get? (.json path) = s'.get? (.json path))
    (hsidecar : s.get? (.sidecar path) = s'.get? (.sidecar path)) :
    load env s path = load env s' path := by
  simp only [load, verifyError, hjson, hsidecar]

/-! ## Writing -/

def EvidenceFile.path : EvidenceFile → EvidencePath
  | .json path => path
  | .sidecar path => path
  | .junit path => path

theorem exec_writeEvidence (env : CertEnv) (path : EvidencePath) (document : Document)
    (command : String) (timestamp : Timestamp) (s : Files) :
    (writeEvidence env path document command timestamp).exec s =
      (.ok (), evidenceWrites env path (storedDocument env document command timestamp)) := rfl

theorem get?_evidenceWrites_ne (env : CertEnv) {path : EvidencePath} (stored : Document)
    (file : EvidenceFile) (h : file.path ≠ path) (s : Files) :
    (applyWrites s (evidenceWrites env path stored)).get? file = s.get? file := by
  refine get?_applyWrites_of_not_mem ?_ s
  simp only [evidenceWrites, map_cons, map_nil, mem_cons, not_mem_nil, or_false, not_or]
  exact ⟨fun hfile => h (hfile ▸ rfl), fun hfile => h (hfile ▸ rfl), fun hfile => h (hfile ▸ rfl)⟩

theorem loadable_evidenceWrites (env : CertEnv) (path : EvidencePath)
    (hmetadata : hasMetadata stored = true) (s : Files) :
    Loadable env (applyWrites s (evidenceWrites env path stored)) path stored where
  json := by simp [evidenceWrites, Dict.get?_set]
  sidecar := by simp [evidenceWrites, Dict.get?_set]
  metadata := hmetadata

/-! ## What evidence writes keep -/

/-- `I` is kept when evidence is written to one of the `touched` paths. -/
def StableUnder (env : CertEnv) (touched : EvidencePath → Prop) (I : Files → Prop) : Prop :=
  ∀ path stored s, touched path → hasMetadata stored = true → I s →
    I (applyWrites s (evidenceWrites env path stored))

variable {I : Files → Prop} {write : EvidenceFile × Content} {env : CertEnv}

theorem StableUnder.mono {touched' : EvidencePath → Prop}
    (h : StableUnder env touched I) (hsub : ∀ path, touched' path → touched path) :
    StableUnder env touched' I :=
  fun path stored s hpath => h path stored s (hsub path hpath)

def EvidenceBlock (env : CertEnv) (touched : EvidencePath → Prop)
    (block : List (EvidenceFile × Content)) : Prop :=
  ∃ path stored, touched path ∧ hasMetadata stored = true ∧ block = evidenceWrites env path stored

/-- The program writes whole evidence documents, at touched paths. -/
abbrev Touches (env : CertEnv) (touched : EvidencePath → Prop) {α : Type} (p : EvidenceProg α) :
    Prop :=
  p.WritesBlocks (EvidenceBlock env touched)

theorem touches_writeEvidence (env : CertEnv) {path : EvidencePath} (hpath : touched path)
    (document : Document) (command : String) (timestamp : Timestamp) :
    Touches env touched (writeEvidence env path document command timestamp) :=
  fun _ => ⟨[evidenceWrites env path (storedDocument env document command timestamp)],
    by simpa using ⟨path, _, hpath, hasMetadata_storedDocument env document command timestamp, rfl⟩,
    by simp [exec_writeEvidence]⟩

theorem Touches.keeps {α : Type} {p : EvidenceProg α} (h : Touches env touched p)
    (hI : StableUnder env touched I) : p.Keeps I := by
  refine Prog.WritesBlocks.keeps h ?_
  rintro block s ⟨path, stored, hpath, hmetadata, rfl⟩ hs
  exact hI path stored s hpath hmetadata hs

theorem path_evidenceWrites {path : EvidencePath}
    (h : write ∈ evidenceWrites env path stored) : write.1.path = path := by
  simp only [evidenceWrites, mem_cons, not_mem_nil, or_false] at h
  rcases h with rfl | rfl | rfl <;> rfl

theorem Touches.path {α : Type} {p : EvidenceProg α} (h : Touches env touched p)
    (hmem : write ∈ (p.exec s).2) : touched write.1.path := by
  obtain ⟨_, ⟨path, stored, hpath, _, rfl⟩, hwrite⟩ := Prog.WritesBlocks.mem h hmem
  rwa [path_evidenceWrites hwrite]

theorem stableUnder_get? (env : CertEnv) (touched : EvidencePath → Prop) (file : EvidenceFile)
    (h : ¬ touched file.path) (content : Option Content) :
    StableUnder env touched fun s => s.get? file = content := by
  intro path stored s hpath _ hs
  rw [get?_evidenceWrites_ne env stored file (fun hfile => h (hfile ▸ hpath)), hs]

/-- Every document loads. -/
def Complete (env : CertEnv) (s : Files) : Prop :=
  ∀ path content, s.get? (.json path) = some content → ∃ document, Loadable env s path document

theorem stableUnder_complete (env : CertEnv) : StableUnder env (fun _ => True) (Complete env) := by
  intro path stored s _ hmetadata hs other content hcontent
  by_cases hpath : other = path
  · subst hpath
    exact ⟨_, loadable_evidenceWrites env other hmetadata s⟩
  rw [get?_evidenceWrites_ne env _ (.json other) hpath] at hcontent
  obtain ⟨loaded, hloaded⟩ := hs other content hcontent
  have hsame : load env _ other = load env s other :=
    load_congr (get?_evidenceWrites_ne env stored (.json other) hpath s)
      (get?_evidenceWrites_ne env stored (.sidecar other) hpath s)
  exact ⟨loaded, load_eq_ok.mp (hsame.trans (load_eq_ok.mpr hloaded))⟩

end ComputeWeaver.Certification
