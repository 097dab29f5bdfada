/-
Certification.RevocationTheorems — when a revocation that was
reported as done is in force.

`revoke` makes nine writes: three for the revocation, three for the event log,
three for the registry, which is all that the release gate reads. A call that
is stopped leaves the first few of its writes. If a revocation is stopped after
its second write and before its seventh, the revocation can be loaded and is
not in the registry, and the next `revoke` of the release finds it and returns:
the gate goes on to admit the release.

If no revocation of the release ends like that, every revocation of it that
returns is in the registry from then on. The invariant is `InRegistry`.
-/
import ComputeWeaver.Certification.RepositoryTheorems
import ComputeWeaver.Execution.ReleaseGate
import ComputeWeaver.Lib.Itertools

namespace ComputeWeaver.Certification

open Lib Execution Dict List
open Prog hiding pure bind write get

/-! ## Calls that may be stopped -/

/-- A call, stopped after `limit` of its writes if there is a limit. -/
structure StoppableCall where
  call : CertCall
  limit : Option Nat := none

def StoppableCall.writes (env : CertEnv) (s : Files) (op : StoppableCall) :
    List (EvidenceFile × Content) :=
  let writes := ((op.call.prog env).exec s).2
  match op.limit with
  | some n => writes.take n
  | none => writes

def Files.stoppableStep (env : CertEnv) (s : Files) (op : StoppableCall) : Files :=
  applyWrites s (op.writes env s)

theorem StoppableCall.writes_prefix (env : CertEnv) (s : Files) (op : StoppableCall) :
    op.writes env s <+: ((op.call.prog env).exec s).2 := by
  unfold StoppableCall.writes
  cases op.limit with
  | none => exact prefix_rfl
  | some n => exact take_prefix n _

/-- A call that ends as a revocation of the release has not made its second
write, or it has made its seventh. -/
def NotTorn (env : CertEnv) (releaseId : String) (s : Files) (op : StoppableCall) : Prop :=
  match op.call with
  | .revoke id _ _ _ =>
      id = releaseId → (op.writes env s).length < 2 ∨ 6 < (op.writes env s).length
  | _ => True

instance (env : CertEnv) (releaseId : String) (s : Files) (op : StoppableCall) :
    Decidable (NotTorn env releaseId s op) :=
  match h : op.call with
  | .revoke id _ _ _ => decidable_of_iff
      (id = releaseId → (op.writes env s).length < 2 ∨ 6 < (op.writes env s).length)
      (by simp only [NotTorn, h])
  | .appendEvent .. => isTrue (by simp only [NotTorn, h])
  | .saveRun .. => isTrue (by simp only [NotTorn, h])
  | .publish .. => isTrue (by simp only [NotTorn, h])
  | .verifyEventChain .. => isTrue (by simp only [NotTorn, h])

/-! ## The registry -/

def registryEntries (s : Files) : List Document :=
  match (s.get? (.json .registry)).bind Content.document? with
  | some document => (dictsField document "revocations").toOption.getD []
  | none => []

section

variable {env : CertEnv} {published : CertificationResult → String → Prop} {s s' : Files}
  {releaseId : String} {content : Content}

theorem registryEntries_congr (h : s'.get? (.json .registry) = s.get? (.json .registry)) :
    registryEntries s' = registryEntries s := by
  rw [registryEntries, registryEntries, h]

theorem mem_sortedRevocations
    (h : s.get? (.json (.release .revocations releaseId)) = some content) :
    .release .revocations releaseId ∈ sortedRevocations (listing s isRevocation) := by
  have hkey : EvidenceFile.json (.release .revocations releaseId) ∈ s.keys :=
    mem_keys_iff.mpr ⟨content, h⟩
  refine mem_map.mpr ⟨releaseId, ?_, rfl⟩
  rw [mem_pySorted, mem_pySortedSet, Finset.mem_image]
  refine ⟨.json (.release .revocations releaseId), ?_, rfl⟩
  rw [listing, Finset.mem_filter, mem_toFinset]
  exact ⟨hkey, rfl⟩

variable {entries : List Document}

/-- What is loaded as a revocation was stored as evidence. -/
theorem serializable_revocationsAt (hsound : Sound env published s)
    (h : revocationsAt env s = .ok entries) :
    ∀ entry ∈ entries, Value.serializableItems entry = true := by
  intro entry hentry
  obtain ⟨path, hpath, hload⟩ := mem_of_mapM_eq_ok h hentry
  obtain ⟨id, _, rfl⟩ := mem_map.mp hpath
  obtain ⟨certificate, actorId, reason, revokedAt, written, hcontent, _⟩ :=
    hsound.revocations id _ (load_eq_ok.mp hload).json
  injection hcontent with hcontent
  rw [hcontent]
  exact Value.serializable_jsonSafeItems env.toPyEnv _

/-- **The invariant.** A revocation of the release that loads is registered. -/
def InRegistry (env : CertEnv) (releaseId : String) (s : Files) : Prop :=
  ∀ document, load env s (.release .revocations releaseId) = .ok document →
    document ∈ registryEntries s

theorem inRegistry_of_registry (hsound : Sound env published s)
    (hwrite : Allowed env published s (.json .registry, content)) :
    InRegistry env releaseId (s.set (.json .registry) content) := by
  intro document hload
  cases hwrite with
  | registry entries written hentries =>
    have hfield : dictsField (storedDocument env (registryDocument entries)
        "certify revocation-registry" written) "revocations" = .ok entries :=
      dictsField_storedDocument env _ written (by decide) rfl
        (serializable_revocationsAt hsound hentries)
    rw [registryEntries, get?_set_self, Option.bind_some]
    simp only [Content.document?, hfield]
    rw [load_congr (get?_set_ne _ _ (by simp)) (get?_set_ne _ _ (by simp))] at hload
    obtain ⟨entry, hentry, hok⟩ :=
      exists_of_mapM_eq_ok hentries (mem_sortedRevocations (load_eq_ok.mp hload).json)
    rw [hload] at hok
    injection hok with hok
    exact hok ▸ hentry

variable {write : EvidenceFile × Content}

theorem inRegistry_step (hsound : Sound env published s) (hwrite : Allowed env published s write)
    (hpath : write.1.path ≠ .release .revocations releaseId) (h : InRegistry env releaseId s) :
    InRegistry env releaseId (s.set write.1 write.2) := by
  by_cases hregistry : write.1 = .json .registry
  · obtain ⟨file, content⟩ := write
    obtain rfl : file = .json .registry := hregistry
    exact inRegistry_of_registry hsound hwrite
  have hne : ∀ file : EvidenceFile, file.path = .release .revocations releaseId →
      write.1 ≠ file := fun file hfile heq => hpath (heq ▸ hfile)
  intro document hload
  rw [load_congr (get?_set_ne _ _ (hne _ rfl)) (get?_set_ne _ _ (hne _ rfl))] at hload
  rw [registryEntries_congr (get?_set_ne _ _ hregistry)]
  exact h document hload

/-- A sidecar has its document beside it. -/
def Paired (s : Files) : Prop :=
  ∀ path content, s.get? (.sidecar path) = some content → ∃ json, s.get? (.json path) = some json

theorem paired_step (hwrite : Allowed env published s write) (h : Paired s) :
    Paired (s.set write.1 write.2) := by
  intro path content hcontent
  have hjson : ∃ json, s.get? (.json path) = some json := by
    by_cases hfile : write.1 = .sidecar path
    · cases hwrite with
      | sidecar other document hjson =>
        cases hfile
        exact ⟨_, hjson⟩
      | _ => cases hfile
    · rw [get?_set_ne _ _ hfile] at hcontent
      exact h path content hcontent
  obtain ⟨json, hjson⟩ := hjson
  by_cases hfile : write.1 = .json path
  · rw [hfile]
    exact ⟨_, get?_set_self _ _ _⟩
  · rw [get?_set_ne _ _ hfile]
    exact ⟨json, hjson⟩

end

/-! ## One call -/

/-- What holds between the calls. -/
structure Registered (env : CertEnv) (releaseId : String) (s : Files) : Prop where
  sound : Sound env (fun _ _ => True) s
  paired : Paired s
  registered : InRegistry env releaseId s

section

variable {env : CertEnv} {s : Files} {releaseId : String}

theorem call_allowed (env : CertEnv) (call : CertCall) (s : Files) :
    (call.prog env).Writes (Allowed env fun _ _ => True) s :=
  call_writes (fun _ _ _ _ _ => trivial) s

theorem sound_prefix (h : Sound env (fun _ _ => True) s) {call : CertCall}
    {writes : List (EvidenceFile × Content)} (hinitial : writes <+: ((call.prog env).exec s).2) :
    Sound env (fun _ _ => True) (applyWrites s writes) :=
  (call_allowed env call s).applied (fun _ _ => Sound.step) h hinitial

variable {op : StoppableCall} {actorId reason : String} {clock : Clock}

theorem inRegistry_other (hother : ¬ op.call.touched (.release .revocations releaseId))
    (h : Registered env releaseId s) : InRegistry env releaseId (s.stoppableStep env op) := by
  let I := fun t : Files => Sound env (fun _ _ => True) t ∧ InRegistry env releaseId t
  have hkeep : ∀ t write, write ∈ ((op.call.prog env).exec s).2 →
      Allowed env (fun _ _ => True) t write → I t → I (t.set write.1 write.2) := by
    intro t write hmem hwrite ⟨hsound, hregistered⟩
    refine ⟨hsound.step hwrite, inRegistry_step hsound hwrite ?_ hregistered⟩
    intro hpath
    exact hother (hpath ▸ (call_touches env op.call).path hmem)
  exact ((call_allowed env op.call s).applied_after (I := I) (nil_append _).symm hkeep
    ⟨h.sound, h.registered⟩ (op.writes_prefix env s)).2

theorem inRegistry_applyWrites (h : InRegistry env releaseId s)
    {writes : List (EvidenceFile × Content)}
    (hfiles : ∀ write ∈ writes, write.1 = .sidecar .registry ∨ write.1 = .junit .registry) :
    InRegistry env releaseId (applyWrites s writes) := by
  have hget : ∀ file : EvidenceFile, file ≠ .sidecar .registry → file ≠ .junit .registry →
      (applyWrites s writes).get? file = s.get? file := by
    intro file hsidecar hjunit
    refine get?_applyWrites_of_not_mem ?_ s
    intro hmem
    obtain ⟨write, hwrite, rfl⟩ := mem_map.mp hmem
    exact (hfiles write hwrite).elim hsidecar hjunit
  intro document hload
  rw [load_congr (hget _ (by simp) (by simp)) (hget _ (by simp) (by simp))] at hload
  rw [registryEntries_congr (hget _ (by simp) (by simp))]
  exact h document hload

/-- The first few of the nine writes, if they are none, one, or those up to the
registry's document and more. -/
theorem revocationWrites_prefix {revocation log registry : Document}
    {writes : List (EvidenceFile × Content)}
    (hinitial : writes <+: revocationWrites env releaseId revocation log registry)
    (hwhole : writes.length < 2 ∨ 6 < writes.length) :
    writes = [] ∨ writes = [(.json (.release .revocations releaseId), .document revocation)] ∨
      ∃ before rest, writes = before ++ (.json .registry, .document registry) :: rest ∧
        ∀ write ∈ rest, write.1 = .sidecar .registry ∨ write.1 = .junit .registry := by
  rcases hwhole with hfew | hmany
  · match writes, hfew, hinitial with
    | [], _, _ => exact .inl rfl
    | [write], _, hinitial =>
      obtain ⟨rfl, _⟩ := cons_prefix_cons.mp hinitial
      exact .inr (.inl rfl)
  · let six := evidenceWrites env (.release .revocations releaseId) revocation ++
      evidenceWrites env (.release .events releaseId) log
    rw [revocationWrites, ← append_assoc] at hinitial
    have hsix : six <+: writes :=
      prefix_of_prefix_length_le (prefix_append _ _) hinitial (Nat.le_of_lt hmany)
    obtain ⟨rest, rfl⟩ := hsix
    rw [prefix_append_right_inj] at hinitial
    match rest, hinitial with
    | [], _ => exact absurd hmany (by simp [six, evidenceWrites])
    | write :: rest, hinitial =>
      obtain ⟨rfl, hrest⟩ := cons_prefix_cons.mp hinitial
      refine .inr (.inr ⟨six, rest, rfl, fun write hwrite => ?_⟩)
      have hmem := hrest.subset hwrite
      simp only [mem_cons, not_mem_nil, or_false] at hmem
      exact hmem.imp (congrArg Prod.fst) (congrArg Prod.fst)

theorem inRegistry_revoke {writes : List (EvidenceFile × Content)}
    (h : Registered env releaseId s)
    (hinitial : writes <+: (((CertCall.revoke releaseId actorId reason clock).prog env).exec s).2)
    (hwhole : writes.length < 2 ∨ 6 < writes.length) :
    InRegistry env releaseId (applyWrites s writes) := by
  have hshape := exec_revoke_writes env s releaseId actorId reason clock
  have hallowed := call_allowed env (.revoke releaseId actorId reason clock) s
  have hcall : (((CertCall.revoke releaseId actorId reason clock).prog env).exec s).2 =
      ((revoke env releaseId actorId reason clock).exec s).2 := by
    rw [CertCall.prog, exec_bind_pure]
  rw [← hcall] at hshape
  generalize (CertCall.revoke releaseId actorId reason clock).prog env = p at *
  rcases hshape with hnone | ⟨habsent, revocation, log, registry, hnine⟩
  · rw [hnone, prefix_nil] at hinitial
    rw [hinitial]
    exact h.registered
  rcases revocationWrites_prefix (hinitial.trans hnine) hwhole with
    rfl | rfl | ⟨before, rest, rfl, hrest⟩
  · exact h.registered
  · -- after its first write a revocation does not load
    intro document hload
    have hsidecar := (load_eq_ok.mp hload).sidecar
    rw [applyWrites_cons, applyWrites_nil, get?_set_ne _ _ (by simp)] at hsidecar
    obtain ⟨json, hjson⟩ := h.paired _ _ hsidecar
    cases habsent.symm.trans hjson
  · -- the registry's document is written, and only its companions follow
    obtain ⟨last, hlast⟩ := hinitial
    rw [append_assoc] at hlast
    have hsound := hallowed.applied (fun _ _ => Sound.step) h.sound ⟨_, hlast⟩
    rw [applyWrites_append, applyWrites_cons]
    exact inRegistry_applyWrites
      (inRegistry_of_registry hsound (hallowed.of_split hlast.symm)) hrest

/-- **One call.** -/
theorem Registered.step (hwhole : NotTorn env releaseId s op) (h : Registered env releaseId s) :
    Registered env releaseId (s.stoppableStep env op) where
  sound := sound_prefix h.sound (op.writes_prefix env s)
  paired := (call_allowed env op.call s).applied (fun _ _ => paired_step) h.paired
    (op.writes_prefix env s)
  registered := by
    by_cases htouched : op.call.touched (.release .revocations releaseId)
    · obtain ⟨call, limit⟩ := op
      cases call with
      | revoke id actorId reason clock =>
        obtain rfl : id = releaseId := by simpa [CertCall.touched, eq_comm] using htouched
        exact inRegistry_revoke h (StoppableCall.writes_prefix env s _) (hwhole rfl)
      | _ => simp [CertCall.touched] at htouched
    · exact inRegistry_other htouched h

theorem registered_run {ops : List StoppableCall}
    (hguard : Guarded (Files.stoppableStep env) (NotTorn env releaseId) .empty ops) :
    Registered env releaseId (run (Files.stoppableStep env) .empty ops) := by
  refine guarded_invariant (P := Registered env releaseId) (fun s op hwhole h => h.step hwhole)
    ops .empty hguard ⟨?_, ?_, ?_⟩
  · exact sound_empty
  · intro path content h
    cases h
  · intro document h
    cases (load_eq_ok.mp h).json

theorem load_of_revoke {document : Document} {writes : List (EvidenceFile × Content)}
    (h : (revoke env releaseId actorId reason clock).exec s = (.ok document, writes)) :
    load env (applyWrites s writes) (.release .revocations releaseId) = .ok document := by
  have houtcome := revoke_outcome env s releaseId actorId reason clock
  generalize (revoke env releaseId actorId reason clock).exec s = out at houtcome h
  cases houtcome with
  | quiet x hload =>
    cases h
    exact hload document rfl
  | revoked certificate =>
    obtain ⟨_, first, rest₁, _, h, hwrites₁⟩ := exec_bind_eq_ok h
    obtain ⟨_, second, rest₂, _, h, hwrites₂⟩ := exec_bind_eq_ok h
    obtain ⟨_, third, rest₃, _, h, hwrites₃⟩ := exec_bind_eq_ok h
    rw [exec_loadVerified] at h
    obtain ⟨hload, hnil⟩ := Prod.mk.inj h
    rwa [hwrites₁, hwrites₂, hwrites₃, ← hnil, append_nil, applyWrites_append, applyWrites_append]

end

/-! ## The release gate -/

section

variable {env : CertEnv} {s : Files}

theorem validate_rejects {entry : Document} {certificateHash : String}
    (hentry : entry ∈ registryEntries s)
    (hhash : docGetD entry "certificate_hash" .none = .str certificateHash)
    {settings : GateSettings} {keyFile : String → Option String} {claims : Document}
    {writes : List (EvidenceFile × Content)}
    (h : (validate env settings keyFile).exec s = (.ok claims, writes)) :
    claim claims "certificate_hash" ≠ .str certificateHash := by
  obtain ⟨_, _, h⟩ := exec_bind_quiet_eq_ok (exec_require _ _ s) h
  cases hkey : keyFile (settings.releasePublicKeyFile.getD "") with
  | none =>
    rw [hkey] at h
    cases h
  | some publicKey =>
    rw [hkey] at h
    obtain ⟨error, _, h⟩ := exec_bind_quiet_eq_ok (exec_verifyEvidence env s _) h
    cases error with
    | some error => cases h
    | none =>
      obtain ⟨found, _, h⟩ := exec_bind_quiet_eq_ok (exec_ofExcept _ s) h
      obtain ⟨_, _, h⟩ := exec_bind_quiet_eq_ok (exec_require _ _ s) h
      obtain ⟨_, _, h⟩ := exec_bind_quiet_eq_ok (exec_require _ _ s) h
      obtain ⟨registry, hregistry, h⟩ := exec_bind_quiet_eq_ok (s := s) rfl h
      cases registry with
      | none => cases h
      | some registry =>
        obtain ⟨entries, hentries, h⟩ := exec_bind_quiet_eq_ok (exec_ofExcept _ s) h
        obtain ⟨_, hclear, h⟩ := exec_bind_quiet_eq_ok (exec_require _ _ s) h
        cases h
        injection hregistry with hregistry
        have hdict : Value.dict entry ∈ entries := by
          simp only [registryEntries, hregistry, dictsField, hentries, ok_bind, except_pure,
            Except.toOption, Option.getD_some, mem_filterMap] at hentry
          obtain ⟨value, hvalue, hsome⟩ := hentry
          cases value with
          | dict items =>
            cases hsome
            exact hvalue
          | _ => cases hsome
        intro hclaim
        have hnone := require_eq_ok hclear
        simp only [Bool.not_eq_true', any_eq_false] at hnone
        refine hnone _ hdict ?_
        rw [revokes, hhash, hclaim]
        simp [Value.pyEq, Value.leafEq]

end

/-! ## Revocations that were reported as done -/

/-- **Main result.** Take any series of calls, each of which may be stopped
between two writes, and in it a revocation that returned. If no revocation of
this release ended torn, then after the series the registry has the hash of the
release's certificate, and the gate admits no token with this hash. -/
theorem revocation_registered (env : CertEnv) (releaseId actorId reason : String) (clock : Clock)
    (before later : List StoppableCall) (document : Document)
    (hguard : Guarded (Files.stoppableStep env) (NotTorn env releaseId) .empty
      (before ++ ⟨.revoke releaseId actorId reason clock, none⟩ :: later))
    (hreturned : ((revoke env releaseId actorId reason clock).exec
      (run (Files.stoppableStep env) .empty before)).1 = .ok document) :
    let s := run (Files.stoppableStep env) .empty
      (before ++ ⟨.revoke releaseId actorId reason clock, none⟩ :: later)
    ∃ certificate entry, certificateAt env s (.release .certificates releaseId) = .ok certificate ∧
      entry ∈ registryEntries s ∧
      docGetD entry "certificate_hash" .none = .str certificate.certificateHash ∧
      ∀ settings keyFile claims writes,
        (validate env settings keyFile).exec s = (.ok claims, writes) →
        claim claims "certificate_hash" ≠ .str certificate.certificateHash := by
  intro s
  have hregistered : Registered env releaseId s := registered_run hguard
  -- it loads when the call returns, and from then on
  have hload : load env s (.release .revocations releaseId) = .ok document := by
    have hstep : ∀ t op, load env t (.release .revocations releaseId) = .ok document →
        load env (t.stoppableStep env op) (.release .revocations releaseId) = .ok document :=
      fun t op hload => (call_allowed env op.call t).applied
        (I := fun t => load env t (.release .revocations releaseId) = .ok document)
        (fun _ _ hwrite => load_step hwrite rfl) hload (op.writes_prefix env t)
    show load env (run _ _ _) _ = _
    rw [run_append, run_cons]
    refine run_invariant (P := fun t => load env t (.release .revocations releaseId) =
      .ok document) hstep later _ ?_
    rw [Files.stoppableStep, StoppableCall.writes]
    generalize run (Files.stoppableStep env) .empty before = t at hreturned
    simp only [CertCall.prog, exec_bind_pure]
    generalize hexec : (revoke env releaseId actorId reason clock).exec t = out at hreturned
    obtain ⟨outcome, writes⟩ := out
    obtain rfl : outcome = .ok document := hreturned
    exact load_of_revoke hexec
  obtain ⟨certificate, actorId', reason', revokedAt, written, hcontent, hat⟩ :=
    hregistered.sound.revocations releaseId _ (load_eq_ok.mp hload).json
  injection hcontent with hcontent
  have hentry := hregistered.registered document hload
  have hhash : docGetD document "certificate_hash" .none = .str certificate.certificateHash := by
    rw [hcontent]
    exact docGetD_storedRevocation env _ _ _ _ _ _
  exact ⟨certificate, document, hat, hentry, hhash,
    fun _ _ _ _ hvalidate => validate_rejects hentry hhash hvalidate⟩

/-! ## A concrete series -/

/-- A certified result whose gates rest on one report. -/
def sampleResult (releaseId token : String) : CertificationResult :=
  let report := "0000000000000000000000000000000000000000000000000000000000000000"
  let result : CertificationResult :=
    { releaseId, commit := "abcdef0", generatedAt := ⟨0, some 0⟩, expiresAt := ⟨validity, some 0⟩
      status := "CERTIFIED", risks := [], certificateHash := ""
      gates := mandatoryGates.map fun name => ⟨name, true, ["report"], none⟩
      evidenceHashes := .ofList [("report", report)], artifacts := .ofList [("report", report)]
      testSummary := [], scenarioMetrics := [], approvals := [], signature := some token }
  { result with
    certificateHash := CertEnv.plain.digest (.dict (certificateBody CertEnv.plain result)) }

def sampleClaims (releaseId token : String) : Document :=
  let result := sampleResult releaseId token
  [("status", .str "CERTIFIED"), ("jti", .str result.certificateHash),
    ("certificate_hash", .str result.certificateHash), ("release_id", .str releaseId),
    ("commit", .str result.commit),
    ("artifact_set_hash", .str (CertEnv.plain.digest (textDict result.artifacts)))]

/-- Two tokens decode. -/
def sampleEnv : CertEnv :=
  { CertEnv.plain with
    decodeToken := fun token _ =>
      if token = "token-1" then .ok (sampleClaims "release-1" "token-1")
      else .ok (sampleClaims "release-10" "token-10") }

def sampleClock : Clock := ⟨fun n => ⟨n, some 0⟩, fun _ => rfl⟩

def sampleSettings : GateSettings where
  externalWriteEnabled := true
  executionMode := "guarded"
  environment := "production"
  releaseCertificate := some "token-1"
  releasePublicKeyFile := some "release.pem"
  releaseRevocationsFile := some "revocations.json"
  releaseCommit := some "abcdef0"

def certified (releaseId token : String) : List StoppableCall :=
  [⟨.saveRun (sampleResult releaseId token) "alice" sampleClock, none⟩,
    ⟨.publish (sampleResult releaseId token) "alice" "key" sampleClock, none⟩]

def revokeSample (releaseId : String) : CertCall := .revoke releaseId "bob" "leak" sampleClock

/-- A revocation is stopped after its seventh write, the registry's document; the
second attempt returns. -/
theorem revocation_registered_sample :
    let before := certified "release-1" "token-1" ++ [⟨revokeSample "release-1", some 7⟩]
    let later : List StoppableCall := []
    let s := run (Files.stoppableStep sampleEnv) .empty
      (before ++ ⟨revokeSample "release-1", none⟩ :: later)
    ∃ certificate entry,
      certificateAt sampleEnv s (.release .certificates "release-1") = .ok certificate ∧
      entry ∈ registryEntries s ∧
      docGetD entry "certificate_hash" .none = .str certificate.certificateHash ∧
      ∀ settings keyFile claims writes,
        (validate sampleEnv settings keyFile).exec s = (.ok claims, writes) →
          claim claims "certificate_hash" ≠ .str certificate.certificateHash := by
  intro before later s
  have hreturned : ((revoke sampleEnv "release-1" "bob" "leak" sampleClock).exec
      (run (Files.stoppableStep sampleEnv) .empty before)).1.toOption.isSome = true := by
    decide +kernel
  obtain ⟨document, hdocument⟩ := Option.isSome_iff_exists.mp hreturned
  exact revocation_registered sampleEnv "release-1" "bob" "leak" sampleClock before later document
    (by decide +kernel) (toOption_eq_some.mp hdocument)

/-- One release is revoked; the revocation of the other is stopped after its third
write. -/
def tornOps : List StoppableCall :=
  certified "release-10" "token-10" ++ [⟨revokeSample "release-10", none⟩] ++
    certified "release-1" "token-1" ++ [⟨revokeSample "release-1", some 3⟩]

/-- The second attempt returns, the registry does not have the release, and the
gate admits its token. -/
theorem stopped_revocation_not_registered :
    let s := run (Files.stoppableStep sampleEnv) .empty tornOps
    let s' := run (Files.stoppableStep sampleEnv) s [⟨revokeSample "release-1", none⟩]
    let hash := (sampleResult "release-1" "token-1").certificateHash
    (((revoke sampleEnv "release-1" "bob" "leak" sampleClock).exec s).1.toOption.any fun document =>
      (docGetD document "certificate_hash" .none).isStr hash) = true ∧
    (registryEntries s').all (fun entry =>
      !(docGetD entry "certificate_hash" .none).isStr hash) = true ∧
    (((validate sampleEnv sampleSettings fun _ => some "key").exec s').1.toOption.any fun claims =>
      (claim claims "certificate_hash").isStr hash) = true := by
  decide +kernel

end ComputeWeaver.Certification
