/-
Certification.WriteTheorems — what a single write of the
certification repository can be.

`Allowed` lists the writes with what the call that makes one has found out, in
the files as they are before the write. `call_writes` says that every write of
every call is on the list, from any files; every result about the repository
is derived from it, one case for each kind of write.
-/
import ComputeWeaver.Certification.EvidenceTheorems

namespace ComputeWeaver.Certification

open Lib Prog.Writes Prog.WritesBlocks List
open Prog hiding pure bind

/-! ## Calls that only read -/

section

variable (env : CertEnv) (s : Files)

/-- `_path` as a computation. -/
def pathOf (category : Category) (releaseId : String) : Except PyError EvidencePath :=
  if isReleaseId releaseId then .ok (.release category releaseId)
  else .error (.valueError "release_id contains unsupported characters")

variable {releaseId : String}

theorem pathOf_eq_ok {category : Category} {path : EvidencePath} :
    pathOf category releaseId = .ok path ↔
      isReleaseId releaseId = true ∧ path = .release category releaseId := by
  unfold pathOf
  split
  · rename_i h
    simp [h, eq_comm]
  · rename_i h
    simp [h]

theorem exec_validateReleaseId (releaseId : String) :
    (validateReleaseId releaseId).exec s = (if isReleaseId releaseId then .ok ()
      else .error (.valueError "release_id contains unsupported characters"), []) :=
  exec_require _ _ s

theorem exec_evidencePath (category : Category) (releaseId : String) :
    (evidencePath category releaseId).exec s = (pathOf category releaseId, []) := by
  unfold evidencePath validateReleaseId require pathOf
  split <;> rfl

/-- What `append_event` finds in the log of a release. -/
def loggedAt (releaseId : String) : Except PyError (List Document) :=
  if s.contains (.json (.release .events releaseId)) then do
    loggedEvents (← load env s (.release .events releaseId))
  else .ok []

theorem exec_fileExists (file : EvidenceFile) :
    (fileExists file).exec s = (.ok (s.contains file), []) := rfl

theorem exec_readEvents (releaseId : String) :
    (readEvents env (.release .events releaseId)).exec s = (loggedAt env s releaseId, []) := by
  unfold readEvents loggedAt
  rw [exec_bind_quiet (exec_fileExists s _)]
  cases s.contains (.json (.release .events releaseId)) with
  | true => exact exec_bind_ofExcept (exec_loadVerified env s _)
  | false => rfl

/-- `certificate_from_document(self._load_verified(path))` as a computation. -/
def certificateAt (path : EvidencePath) : Except PyError CertificationResult := do
  certificateFromDocument env (← load env s path)

theorem exec_loadCertificate (path : EvidencePath) :
    (loadCertificate env path).exec s = (certificateAt env s path, []) :=
  exec_bind_ofExcept (exec_loadVerified env s path)

theorem exec_loadAll (paths : List EvidencePath) :
    (loadAll env paths).exec s = (paths.mapM (load env s), []) := by
  induction paths with
  | nil => rfl
  | cons path rest ih =>
    rw [loadAll, mapM_cons]
    cases hload : load env s path with
    | error e =>
      rw [exec_bind_of_error ((exec_loadVerified env s _).trans (by rw [hload]))]
      rfl
    | ok document =>
      rw [exec_bind_quiet ((exec_loadVerified env s _).trans (by rw [hload]))]
      cases hrest : rest.mapM (load env s) with
      | error e =>
        rw [exec_bind_of_error (ih.trans (by rw [hrest]))]
        rfl
      | ok documents =>
        rw [exec_bind_quiet (ih.trans (by rw [hrest]))]
        rfl

theorem exec_evidencePath_bind {β : Type} {category : Category} {f : EvidencePath → EvidenceProg β}
    {x : Except PyError β} (h : (f (.release category releaseId)).exec s = (x, [])) :
    (evidencePath category releaseId >>= f).exec s =
      (pathOf category releaseId >>= fun _ => x, []) := by
  cases hpath : pathOf category releaseId with
  | error e => exact exec_bind_of_error ((exec_evidencePath s _ _).trans (by rw [hpath]))
  | ok path =>
    rw [exec_bind_quiet ((exec_evidencePath s _ _).trans (by rw [hpath])),
      (pathOf_eq_ok.mp hpath).2, h]
    rfl

theorem exec_loadRun (releaseId : String) :
    (loadRun env releaseId).exec s =
      (pathOf .runs releaseId >>= fun _ => certificateAt env s (.release .runs releaseId), []) :=
  exec_evidencePath_bind s (exec_loadCertificate env s _)

/-- `revocation` as a computation. -/
def revocationAt (releaseId : String) : Except PyError (Option Document) := do
  let _ ← pathOf .revocations releaseId
  if s.contains (.json (.release .revocations releaseId)) then do
    pure (some (← load env s (.release .revocations releaseId)))
  else .ok none

theorem exec_revocation (releaseId : String) :
    (revocation env releaseId).exec s = (revocationAt env s releaseId, []) := by
  refine exec_evidencePath_bind s ?_
  rw [exec_bind_quiet (exec_fileExists s _)]
  cases s.contains (.json (.release .revocations releaseId)) with
  | false => rfl
  | true =>
    show (loadVerified env (.release .revocations releaseId) >>= fun document =>
      pure (some document)).exec s = _
    cases hload : load env s (.release .revocations releaseId) with
    | error e =>
      rw [exec_bind_of_error ((exec_loadVerified env s _).trans (by rw [hload]))]
      rfl
    | ok document =>
      rw [exec_bind_quiet ((exec_loadVerified env s _).trans (by rw [hload]))]
      rfl

theorem absent_of_revocationAt {revoked : Option Document}
    (h : revocationAt env s releaseId = .ok revoked) (hnone : revoked.isNone = true) :
    s.get? (.json (.release .revocations releaseId)) = none := by
  obtain ⟨_, _, h⟩ := bind_eq_ok.mp h
  split at h
  · obtain ⟨_, _, h⟩ := bind_eq_ok.mp h
    cases h
    cases hnone
  · rename_i habsent
    simpa [Dict.contains] using habsent

/-- `certificateToRevoke` as a computation. -/
def revocableAt (releaseId : String) : Except PyError CertificationResult := do
  let _ ← pathOf .certificates releaseId
  if s.contains (.json (.release .certificates releaseId)) then do
    let certificate ← certificateAt env s (.release .certificates releaseId)
    if certificate.status = "CERTIFIED" ∧ certificate.signature.any (· ≠ "") then .ok certificate
    else .error (.valueError "only a signed CERTIFIED release can be revoked")
  else .error (.valueError "only a published certificate can be revoked")

theorem exec_certificateToRevoke (releaseId : String) :
    (certificateToRevoke env releaseId).exec s = (revocableAt env s releaseId, []) := by
  refine exec_evidencePath_bind s ?_
  rw [exec_bind_quiet (exec_fileExists s _)]
  cases s.contains (.json (.release .certificates releaseId)) with
  | false => rfl
  | true =>
    show (loadCertificate env (.release .certificates releaseId) >>= fun certificate =>
      require (certificate.status = "CERTIFIED" ∧ certificate.signature.any (· ≠ ""))
        (.valueError "only a signed CERTIFIED release can be revoked") >>= fun _ =>
          pure certificate).exec s = _
    cases hcertificate : certificateAt env s (.release .certificates releaseId) with
    | error e =>
      exact exec_bind_of_error ((exec_loadCertificate env s _).trans (by rw [hcertificate]))
    | ok certificate =>
      refine (exec_bind_quiet ((exec_loadCertificate env s _).trans
        (by rw [hcertificate]))).trans ?_
      by_cases hsigned : certificate.status = "CERTIFIED" ∧ certificate.signature.any (· ≠ "")
      · rw [decide_eq_true hsigned]
        simp only [ok_bind, if_true, if_pos hsigned]
        rfl
      · rw [decide_eq_false hsigned]
        simp only [ok_bind, if_true, if_neg hsigned]
        rfl

theorem certificateAt_of_revocableAt {certificate : CertificationResult}
    (h : revocableAt env s releaseId = .ok certificate) :
    certificateAt env s (.release .certificates releaseId) = .ok certificate := by
  obtain ⟨_, _, h⟩ := bind_eq_ok.mp h
  split at h
  · obtain ⟨found, hfound, h⟩ := bind_eq_ok.mp h
    split at h
    · cases h
      exact hfound
    · cases h
  · cases h

/-- The entries that `_write_revocation_registry` collects. -/
def revocationsAt : Except PyError (List Document) :=
  (sortedRevocations (Prog.listing s isRevocation)).mapM (load env s)

/-- `events` as a computation. -/
def eventsAt (releaseId : String) : Except PyError (List CertificationEvent) := do
  let _ ← pathOf .events releaseId
  if s.contains (.json (.release .events releaseId)) then do
    parseEvents env (← load env s (.release .events releaseId))
  else .ok []

theorem exec_events (releaseId : String) :
    (events env releaseId).exec s = (eventsAt env s releaseId, []) := by
  refine exec_evidencePath_bind s ?_
  rw [exec_bind_quiet (exec_fileExists s _)]
  cases s.contains (.json (.release .events releaseId)) with
  | true => exact exec_bind_ofExcept (exec_loadVerified env s _)
  | false => rfl

/-- `verify_event_chain` as a computation. -/
def verifiedAt (releaseId : String) : Except PyError Bool := do
  chainVerified env "GENESIS" (← eventsAt env s releaseId)

theorem exec_verifyEventChain (releaseId : String) :
    (verifyEventChain env releaseId).exec s = (verifiedAt env s releaseId, []) :=
  exec_bind_ofExcept (exec_events env s releaseId)

end

/-! ## What a call touches -/

/-- The evidence documents that a call may write. -/
def CertCall.touched : CertCall → EvidencePath → Prop
  | appendEvent _ releaseId _ _ _ _, path => path = .release .events releaseId
  | saveRun result _ _, path =>
      path = .release .events result.releaseId ∨ path = .release .runs result.releaseId
  | publish result _ _ _, path =>
      path = .release .certificates result.releaseId ∨ path = .release .events result.releaseId
  | revoke releaseId _ _ _, path =>
      path = .release .revocations releaseId ∨ path = .release .events releaseId ∨ path = .registry
  | verifyEventChain _, _ => False

section

variable (env : CertEnv) {touched : EvidencePath → Prop}

theorem touches_pure {α : Type} (a : α) : Touches env touched (pure a : EvidenceProg α) :=
  writesBlocks_of_exec fun s => exec_pure a s

theorem touches_require_bind {β : Type} {condition : Bool} {e : PyError}
    {f : Unit → EvidenceProg β} (h : Touches env touched (f ())) :
    Touches env touched (require condition e >>= f) :=
  writesBlocks_bind_quiet (fun s => exec_require condition e s) fun _ => h

variable {releaseId : String} {result : CertificationResult}

theorem touches_evidencePath_bind {β : Type} {category : Category}
    {f : EvidencePath → EvidenceProg β} (h : Touches env touched (f (.release category releaseId)))
    : Touches env touched (evidencePath category releaseId >>= f) := by
  refine bind
    (writesBlocks_of_exec fun s => exec_evidencePath s category releaseId) ?_
  rintro path ⟨s, hpath⟩
  rw [exec_evidencePath] at hpath
  rw [(pathOf_eq_ok.mp hpath).2]
  exact h

theorem touches_appendEventAt (hevents : touched (.release .events releaseId))
    (eventType actorId : String) (payload : Document) (occurredAt written : Timestamp) :
    Touches env touched
      (appendEventAt env eventType releaseId actorId payload occurredAt written) := by
  refine touches_require_bind env (touches_require_bind env (touches_require_bind env ?_))
  refine touches_evidencePath_bind env ?_
  refine writesBlocks_bind_quiet (fun s => exec_readEvents env s _) fun _ => ?_
  refine writesBlocks_bind_quiet (fun s => exec_ofExcept _ s) fun _ => ?_
  exact (touches_writeEvidence env hevents _ _ _).bind fun _ _ => touches_pure env _

theorem touches_appendFailures (hevents : touched (.release .events result.releaseId))
    (actorId : String) (clock : Clock) (n : Nat) (gates : List GateResult) :
    Touches env touched (appendFailures env result actorId clock n gates) := by
  induction gates generalizing n with
  | nil => exact touches_pure env _
  | cons gate rest ih =>
    rw [appendFailures]
    split
    · exact ih n
    · exact (touches_appendEventAt env hevents _ _ _ _ _).bind fun _ _ => ih (n + 1)

theorem touches_saveRun (hevents : touched (.release .events result.releaseId))
    (hruns : touched (.release .runs result.releaseId)) (actorId : String) (clock : Clock) :
    Touches env touched (saveRun env result actorId clock) := by
  refine touches_evidencePath_bind env (touches_evidencePath_bind env ?_)
  refine writesBlocks_bind_quiet (fun s => exec_fileExists s _) fun published => ?_
  cases published with
  | true => exact writesBlocks_of_exec fun s => exec_raise _ s
  | false =>
    refine writesBlocks_bind_quiet (fun s => exec_fileExists s _) fun saved => ?_
    cases saved with
    | true =>
      refine writesBlocks_bind_quiet (fun s => exec_loadCertificate env s _) fun _ => ?_
      exact touches_require_bind env (touches_pure env _)
    | false =>
      refine (touches_appendEventAt env hevents _ _ _ _ _).bind fun _ _ => ?_
      refine (touches_appendFailures env hevents _ _ _ _).bind fun _ _ => ?_
      exact (touches_writeEvidence env hruns _ _ _).bind fun _ _ => touches_pure env _

theorem touches_publish (hcertificates : touched (.release .certificates result.releaseId))
    (hevents : touched (.release .events result.releaseId)) (actorId publicKey : String)
    (clock : Clock) : Touches env touched (publish env result actorId publicKey clock) := by
  refine writesBlocks_bind_quiet (fun s => exec_ofExcept _ s) fun _ => ?_
  refine writesBlocks_bind_quiet (fun s => exec_loadRun env s _) fun _ => ?_
  refine touches_require_bind env ?_
  refine writesBlocks_bind_quiet (fun s => exec_revocation env s _) fun _ => ?_
  refine touches_require_bind env (touches_evidencePath_bind env ?_)
  refine writesBlocks_bind_quiet (fun s => exec_fileExists s _) fun found => ?_
  cases found with
  | true =>
    refine writesBlocks_bind_quiet (fun s => exec_loadCertificate env s _) fun _ => ?_
    exact touches_require_bind env (touches_pure env _)
  | false =>
    refine (touches_writeEvidence env hcertificates _ _ _).bind fun _ _ => ?_
    exact (touches_appendEventAt env hevents _ _ _ _ _).bind fun _ _ => touches_pure env _

theorem touches_registry (hregistry : touched .registry) (written : Timestamp)
    (path : EvidencePath) : Touches env touched (do
      writeRevocationRegistry env written
      loadVerified env path) := by
  refine bind ?_ fun _ _ =>
    writesBlocks_of_exec fun s => exec_loadVerified env s _
  refine writesBlocks_bind_quiet (fun s => exec_list _ s) fun _ => ?_
  refine writesBlocks_bind_quiet (fun s => exec_loadAll env s _) fun _ => ?_
  exact touches_writeEvidence env hregistry _ _ _

theorem touches_revoke (hrevocations : touched (.release .revocations releaseId))
    (hevents : touched (.release .events releaseId)) (hregistry : touched .registry)
    (actorId reason : String) (clock : Clock) :
    Touches env touched (revoke env releaseId actorId reason clock) := by
  refine touches_require_bind env ?_
  refine writesBlocks_bind_quiet (fun s => exec_certificateToRevoke env s _) fun _ => ?_
  refine touches_evidencePath_bind env ?_
  refine writesBlocks_bind_quiet (fun s => exec_fileExists s _) fun found => ?_
  cases found with
  | true =>
    refine writesBlocks_bind_quiet (fun s => exec_loadVerified env s _) fun _ => ?_
    exact touches_require_bind env (touches_pure env _)
  | false =>
    refine (touches_writeEvidence env hrevocations _ _ _).bind fun _ _ => ?_
    exact (touches_appendEventAt env hevents _ _ _ _ _).bind fun _ _ =>
      touches_registry env hregistry _ _

theorem call_touches (call : CertCall) : Touches env call.touched (call.prog env) := by
  cases call with
  | appendEvent eventType releaseId actorId payload occurredAt clock =>
    have hevents : (CertCall.appendEvent eventType releaseId actorId payload occurredAt
      clock).touched (.release .events releaseId) := rfl
    refine bind ?_ fun _ _ => touches_pure env _
    cases occurredAt with
    | some t | none => exact touches_appendEventAt env hevents _ _ _ _ _
  | saveRun result actorId clock =>
    exact (touches_saveRun env (.inl rfl) (.inr rfl) _ _).bind fun _ _ => touches_pure env _
  | publish result actorId publicKey clock =>
    exact (touches_publish env (.inl rfl) (.inr rfl) _ _ _).bind fun _ _ => touches_pure env _
  | revoke releaseId actorId reason clock =>
    exact (touches_revoke env (.inl rfl) (.inr (.inl rfl)) (.inr (.inr rfl)) _ _ _).bind
      fun _ _ => touches_pure env _
  | verifyEventChain releaseId =>
    exact writesBlocks_bind_quiet (fun s => exec_verifyEventChain env s _)
      fun _ => touches_pure env _

end

/-! ## Allowed writes -/

/-- The allowed writes, where `published` has the results that are published and
the keys they are published with. -/
inductive Allowed (env : CertEnv) (published : CertificationResult → String → Prop) (s : Files) :
    EvidenceFile × Content → Prop
  | run (result : CertificationResult) (written : Timestamp)
      (habsent : s.get? (.json (.release .runs result.releaseId)) = none) :
      Allowed env published s (.json (.release .runs result.releaseId),
        .document (storedDocument env (resultDocument env result) "certify run" written))
  | certificate (result saved : CertificationResult) (publicKey : String) (written : Timestamp)
      (hpublished : published result publicKey)
      (hpublishable : publishable env result publicKey = .ok ())
      (hsaved : certificateAt env s (.release .runs result.releaseId) = .ok saved)
      (hhash : saved.certificateHash = result.certificateHash)
      (hrevoked : s.get? (.json (.release .revocations result.releaseId)) = none)
      (habsent : s.get? (.json (.release .certificates result.releaseId)) = none) :
      Allowed env published s (.json (.release .certificates result.releaseId),
        .document (storedDocument env (resultDocument env result) "certify release" written))
  | revocation (releaseId actorId reason : String) (certificate : CertificationResult)
      (revokedAt written : Timestamp)
      (hcertificate : certificateAt env s (.release .certificates releaseId) = .ok certificate)
      (habsent : s.get? (.json (.release .revocations releaseId)) = none) :
      Allowed env published s (.json (.release .revocations releaseId),
        .document (storedDocument env
          (revocationDocument env releaseId certificate.certificateHash revokedAt actorId reason)
          "certify revoke" written))
  | event (event : CertificationEvent) (logged : List Document) (written : Timestamp)
      (hlogged : loggedAt env s event.releaseId = .ok logged)
      (hevent : nextEvent env event.eventType event.releaseId event.occurredAt event.actorId
        event.payload logged = .ok event)
      (haware : event.occurredAt.isNaive = false) :
      Allowed env published s (.json (.release .events event.releaseId),
        .document (storedDocument env
          (logDocument event.releaseId (logged ++ [event.document env]))
          ("certify event " ++ event.eventType) written))
  | registry (entries : List Document) (written : Timestamp)
      (hentries : revocationsAt env s = .ok entries) :
      Allowed env published s (.json .registry, .document (storedDocument env
        (registryDocument entries) "certify revocation-registry" written))
  | sidecar (path : EvidencePath) (document : Document)
      (hjson : s.get? (.json path) = some (.document document)) :
      Allowed env published s (.sidecar path, .digest (env.contentSha256 document) path.name)
  | report (path : EvidencePath) : Allowed env published s (.junit path, .report)

/-! ## What a call writes -/

section

variable (env : CertEnv) (s : Files)

/-- `append_event` raises, or writes the log. -/
theorem exec_appendEventAt (eventType releaseId actorId : String) (payload : Document)
    (occurredAt written : Timestamp) :
    let out := (appendEventAt env eventType releaseId actorId payload occurredAt written).exec s
    (∃ e, out = (.error e, [])) ∨
      ∃ event stored,
        out = (.ok event, evidenceWrites env (.release .events releaseId) stored) := by
  let Q := fun out : Except PyError CertificationEvent × List (EvidenceFile × Content) =>
    (∃ e, out = (.error e, [])) ∨
      ∃ event stored, out = (.ok event, evidenceWrites env (.release .events releaseId) stored)
  have herror : ∀ e, Q (.error e, []) := fun e => .inl ⟨e, rfl⟩
  refine exec_bind_quiet_elim (Q := Q) (exec_require _ _ s) herror fun _ _ => ?_
  refine exec_bind_quiet_elim (exec_validateReleaseId s _) herror fun _ _ => ?_
  refine exec_bind_quiet_elim (exec_require _ _ s) herror fun _ _ => ?_
  refine exec_bind_quiet_elim (exec_evidencePath s _ _) herror fun path hpath => ?_
  obtain ⟨_, rfl⟩ := pathOf_eq_ok.mp hpath
  refine exec_bind_quiet_elim (exec_readEvents env s _) herror fun logged _ => ?_
  refine exec_bind_quiet_elim (exec_ofExcept _ s) herror fun event _ => ?_
  right
  rw [exec_bind_of_ok (exec_writeEvidence env _ _ _ _ s), exec_pure, append_nil]
  exact ⟨event, _, rfl⟩

variable {env s} in
/-- What an `append_event` that returned has written. -/
theorem appendEventAt_eq_ok {eventType releaseId actorId : String} {payload : Document}
    {occurredAt written : Timestamp} {event : CertificationEvent}
    {writes : List (EvidenceFile × Content)}
    (h : (appendEventAt env eventType releaseId actorId payload occurredAt written).exec s =
      (.ok event, writes)) :
    ∃ logged, loggedAt env s releaseId = .ok logged ∧
      nextEvent env eventType releaseId occurredAt actorId payload logged = .ok event ∧
      writes = evidenceWrites env (.release .events releaseId) (storedDocument env
        (logDocument releaseId (logged ++ [event.document env])) ("certify event " ++ eventType)
        written) := by
  obtain ⟨_, _, h⟩ := exec_bind_quiet_eq_ok (exec_require _ _ s) h
  obtain ⟨_, _, h⟩ := exec_bind_quiet_eq_ok (exec_validateReleaseId s _) h
  obtain ⟨_, _, h⟩ := exec_bind_quiet_eq_ok (exec_require _ _ s) h
  obtain ⟨path, hpath, h⟩ := exec_bind_quiet_eq_ok (exec_evidencePath s _ _) h
  obtain ⟨_, rfl⟩ := pathOf_eq_ok.mp hpath
  obtain ⟨logged, hlogged, h⟩ := exec_bind_quiet_eq_ok (exec_readEvents env s _) h
  obtain ⟨next, hnext, h⟩ := exec_bind_quiet_eq_ok (exec_ofExcept _ s) h
  rw [exec_bind_of_ok (exec_writeEvidence env _ _ _ _ s), exec_pure, append_nil] at h
  cases h
  exact ⟨logged, hlogged, hnext, rfl⟩

/-- `_write_revocation_registry` raises, or writes the registry. -/
theorem exec_writeRevocationRegistry (written : Timestamp) :
    let out := (writeRevocationRegistry env written).exec s
    (∃ e, out = (.error e, [])) ∨
      ∃ stored, out = (.ok (), evidenceWrites env .registry stored) := by
  let Q := fun out : Except PyError Unit × List (EvidenceFile × Content) =>
    (∃ e, out = (.error e, [])) ∨ ∃ stored, out = (.ok (), evidenceWrites env .registry stored)
  have herror : ∀ e, Q (.error e, []) := fun e => .inl ⟨e, rfl⟩
  refine exec_bind_quiet_elim (Q := Q) (exec_list _ s) herror fun _ _ => ?_
  refine exec_bind_quiet_elim (exec_loadAll env s _) herror fun entries _ => ?_
  exact .inr ⟨_, exec_writeEvidence env _ _ _ _ s⟩

/-- The nine writes of `revoke`: the revocation, the event, the registry. -/
def revocationWrites (releaseId : String) (revocation log registry : Document) :
    List (EvidenceFile × Content) :=
  evidenceWrites env (.release .revocations releaseId) revocation ++
    (evidenceWrites env (.release .events releaseId) log ++ evidenceWrites env .registry registry)

theorem exec_revokeNow_writes (releaseId : String) (certificate : CertificationResult)
    (actorId reason : String) (clock : Clock) :
    ∃ revocation log registry,
      ((revokeNow env releaseId certificate actorId reason clock).exec s).2 <+:
        revocationWrites env releaseId revocation log registry := by
  unfold revokeNow
  rw [exec_bind_of_ok (exec_writeEvidence env _ _ _ _ s)]
  generalize storedDocument env (revocationDocument env releaseId _ _ _ _) _ _ = revocation
  generalize applyWrites s _ = s₁
  -- each part raises without a write or makes all of its own
  rcases exec_appendEventAt env s₁ "CertificationRevoked" releaseId actorId
    [("certificate_hash", .str certificate.certificateHash), ("reason", .str reason)]
    (clock 2) (clock 3) with ⟨e, hevent⟩ | ⟨event, log, hevent⟩
  · rw [exec_bind_of_error hevent]
    exact ⟨revocation, [], [], (prefix_append_right_inj _).mpr nil_prefix⟩
  rw [exec_bind_of_ok hevent]
  generalize applyWrites s₁ _ = s₂
  rcases exec_writeRevocationRegistry env s₂ (clock 4) with ⟨e, hregistry⟩ | ⟨registry, hregistry⟩
  · rw [exec_bind_of_error hregistry]
    refine ⟨revocation, log, [], (prefix_append_right_inj _).mpr ?_⟩
    exact (prefix_append_right_inj _).mpr nil_prefix
  · rw [exec_bind_of_ok hregistry, exec_loadVerified, append_nil]
    exact ⟨revocation, log, registry, prefix_rfl⟩

/-- `revoke` ends without a write, having found the revocation if it returns, or it finds
none and revokes. -/
inductive RevokeOutcome (releaseId actorId reason : String) (clock : Clock) :
    Except PyError Document × List (EvidenceFile × Content) → Prop
  | quiet (x : Except PyError Document) (h : ∀ document, x = .ok document →
      load env s (.release .revocations releaseId) = .ok document) :
      RevokeOutcome releaseId actorId reason clock (x, [])
  | revoked (certificate : CertificationResult) (hid : isReleaseId releaseId = true)
      (hcertificate : revocableAt env s releaseId = .ok certificate)
      (habsent : s.get? (.json (.release .revocations releaseId)) = none) :
      RevokeOutcome releaseId actorId reason clock
        ((revokeNow env releaseId certificate actorId (pyStrip reason) clock).exec s)

theorem revoke_outcome (releaseId actorId reason : String) (clock : Clock) :
    RevokeOutcome env s releaseId actorId reason clock
      ((revoke env releaseId actorId reason clock).exec s) := by
  let Q := RevokeOutcome env s releaseId actorId reason clock
  have herror : ∀ e, Q (.error e, []) := fun e => .quiet _ fun _ h => by cases h
  refine exec_bind_quiet_elim (Q := Q) (exec_require _ _ s) herror fun _ _ => ?_
  refine exec_bind_quiet_elim (exec_certificateToRevoke env s _) herror
    fun certificate hcertificate => ?_
  refine exec_bind_quiet_elim (exec_evidencePath s _ _) herror fun path hpath => ?_
  obtain ⟨hid, rfl⟩ := pathOf_eq_ok.mp hpath
  refine exec_bind_quiet_elim (exec_fileExists s _) herror fun found hfound => ?_
  cases found with
  | true =>
    refine exec_bind_quiet_elim (exec_loadVerified env s _) herror fun existing hload => ?_
    exact exec_bind_quiet_elim (exec_require _ _ s) herror
      fun _ _ => .quiet _ fun _ h => h ▸ hload
  | false => exact .revoked certificate hid hcertificate (by simpa [Dict.contains] using hfound)

/-- `revoke` writes nothing, or it has found no revocation and makes the first
few of nine writes. -/
theorem exec_revoke_writes (releaseId actorId reason : String) (clock : Clock) :
    let writes := ((revoke env releaseId actorId reason clock).exec s).2
    writes = [] ∨ s.get? (.json (.release .revocations releaseId)) = none ∧
      ∃ revocation log registry,
        writes <+: revocationWrites env releaseId revocation log registry := by
  have houtcome := revoke_outcome env s releaseId actorId reason clock
  generalize (revoke env releaseId actorId reason clock).exec s = out at houtcome ⊢
  cases houtcome with
  | quiet x _ => exact .inl rfl
  | revoked certificate _ _ habsent =>
    exact .inr ⟨habsent, exec_revokeNow_writes env s _ _ _ _ _⟩

end

section

variable {env : CertEnv} {published : CertificationResult → String → Prop} {s : Files}

theorem writes_writeEvidence {path : EvidencePath} {document : Document} {command : String}
    {timestamp : Timestamp}
    (h : Allowed env published s
      (.json path, .document (storedDocument env document command timestamp))) :
    (writeEvidence env path document command timestamp).Writes (Allowed env published) s :=
  .write h (.write (.sidecar path _ (Dict.get?_set_self _ _ _)) (.write (.report path) .pure))

theorem nextEvent_fields {eventType releaseId actorId : String} {occurredAt : Timestamp}
    {payload : Document} {logged : List Document} {event : CertificationEvent}
    (h : nextEvent env eventType releaseId occurredAt actorId payload logged = .ok event) :
    event.eventType = eventType ∧ event.releaseId = releaseId ∧ event.occurredAt = occurredAt ∧
      event.actorId = actorId ∧ event.payload = payload := by
  obtain ⟨previousHash, _, h⟩ := bind_eq_ok.mp h
  obtain ⟨eventHash, _, h⟩ := bind_eq_ok.mp h
  cases h
  exact ⟨rfl, rfl, rfl, rfl, rfl⟩

theorem writes_appendEventAt (eventType releaseId actorId : String) (payload : Document)
    (occurredAt written : Timestamp) (s : Files) :
    (appendEventAt env eventType releaseId actorId payload occurredAt written).Writes
      (Allowed env published) s := by
  refine bind_quiet (exec_require _ _ s) fun _ _ => ?_
  refine bind_quiet (exec_validateReleaseId s _) fun _ _ => ?_
  refine bind_quiet (exec_require _ _ s) fun _ haware => ?_
  refine bind_quiet (exec_evidencePath s _ _) fun path hpath => ?_
  obtain ⟨_, rfl⟩ := pathOf_eq_ok.mp hpath
  refine bind_quiet (exec_readEvents env s _) fun logged hlogged => ?_
  refine bind_quiet (exec_ofExcept _ s) fun event hevent => ?_
  obtain ⟨rfl, rfl, rfl, rfl, rfl⟩ := nextEvent_fields hevent
  have hallowed : Allowed env published s _ := .event event logged written hlogged hevent
    (by simpa using require_eq_ok haware)
  exact bind (writes_writeEvidence hallowed) fun _ _ _ => .pure

theorem writes_appendFailures (result : CertificationResult) (actorId : String) (clock : Clock)
    (n : Nat) (gates : List GateResult) (s : Files) :
    (appendFailures env result actorId clock n gates).Writes (Allowed env published) s := by
  induction gates generalizing n s with
  | nil => exact .pure
  | cons gate rest ih =>
    rw [appendFailures]
    split
    · exact ih n s
    · exact bind (writes_appendEventAt _ _ _ _ _ _ s) fun _ _ _ => ih (n + 1) _

theorem writes_saveRun (result : CertificationResult) (actorId : String) (clock : Clock)
    (s : Files) : (saveRun env result actorId clock).Writes (Allowed env published) s := by
  refine bind_quiet (exec_evidencePath s _ _) fun path hpath => ?_
  obtain ⟨_, rfl⟩ := pathOf_eq_ok.mp hpath
  refine bind_quiet (exec_evidencePath s _ _) fun certificatePath _ => ?_
  refine bind_quiet (exec_fileExists s _) fun published _ => ?_
  cases published with
  | true => exact .raise
  | false =>
    refine bind_quiet (exec_fileExists s _) fun saved hsaved => ?_
    cases saved with
    | true =>
      refine bind_quiet (exec_loadCertificate env s _) fun _ _ => ?_
      exact bind_quiet (exec_require _ _ s) fun _ _ => .pure
    | false =>
      have hnone : s.get? (.json (.release .runs result.releaseId)) = none := by
        simpa [Dict.contains] using hsaved
      -- the events are in other files
      let touched : EvidencePath → Prop := fun path => path = .release .events result.releaseId
      have hevents : touched (.release .events result.releaseId) := rfl
      have hstable := stableUnder_get? env touched (.json (.release .runs result.releaseId))
        (by simp [touched, EvidenceFile.path]) none
      refine bind_keeping (writes_appendEventAt _ _ _ _ _ _ s)
        ((touches_appendEventAt env hevents _ _ _ _ _).keeps hstable) hnone fun _ s hnone => ?_
      refine bind_keeping (writes_appendFailures _ _ _ _ _ s)
        ((touches_appendFailures env hevents _ _ _ _).keeps hstable) hnone fun _ s hnone => ?_
      exact bind (writes_writeEvidence (.run result _ hnone)) fun _ _ _ => .pure

theorem writes_publish {result : CertificationResult} {publicKey : String}
    (hpublished : published result publicKey) (actorId : String) (clock : Clock) (s : Files) :
    (publish env result actorId publicKey clock).Writes (Allowed env published) s := by
  refine bind_quiet (exec_ofExcept _ s) fun _ hpublishable => ?_
  refine bind_quiet (exec_loadRun env s _) fun saved hsaved => ?_
  refine bind_quiet (exec_require _ _ s) fun _ hhash => ?_
  refine bind_quiet (exec_revocation env s _) fun revoked hrevoked => ?_
  refine bind_quiet (exec_require _ _ s) fun _ hnone => ?_
  refine bind_quiet (exec_evidencePath s _ _) fun path hpath => ?_
  obtain ⟨_, rfl⟩ := pathOf_eq_ok.mp hpath
  refine bind_quiet (exec_fileExists s _) fun found hfound => ?_
  cases found with
  | true =>
    refine bind_quiet (exec_loadCertificate env s _) fun _ _ => ?_
    exact bind_quiet (exec_require _ _ s) fun _ _ => .pure
  | false =>
    obtain ⟨_, _, hsaved⟩ := bind_eq_ok.mp hsaved
    have hallowed : Allowed env published s _ :=
      .certificate result saved publicKey (clock 0) hpublished hpublishable hsaved
        (by simpa using require_eq_ok hhash)
      (absent_of_revocationAt env s hrevoked (require_eq_ok hnone))
      (by simpa [Dict.contains] using hfound)
    refine bind (writes_writeEvidence hallowed) fun _ _ _ => ?_
    exact bind (writes_appendEventAt _ _ _ _ _ _ _) fun _ _ _ => .pure

theorem writes_revokeNow {releaseId : String} {certificate : CertificationResult}
    (actorId reason : String) (clock : Clock)
    (hcertificate : certificateAt env s (.release .certificates releaseId) = .ok certificate)
    (habsent : s.get? (.json (.release .revocations releaseId)) = none) :
    (revokeNow env releaseId certificate actorId reason clock).Writes
      (Allowed env published) s := by
  have hallowed : Allowed env published s _ :=
    .revocation releaseId actorId reason certificate (clock 0) (clock 1) hcertificate habsent
  refine bind (writes_writeEvidence hallowed) fun _ _ _ => ?_
  refine bind (writes_appendEventAt _ _ _ _ _ _ _) fun _ writes _ => ?_
  refine bind ?_ fun _ _ _ => writes_of_exec (exec_loadVerified env _ _)
  refine bind_quiet (exec_list _ _) fun files hfiles => ?_
  cases hfiles
  refine bind_quiet (exec_loadAll env _ _) fun entries hentries => ?_
  exact writes_writeEvidence (.registry entries _ hentries)

theorem writes_revoke (releaseId actorId reason : String) (clock : Clock) (s : Files) :
    (revoke env releaseId actorId reason clock).Writes (Allowed env published) s := by
  refine bind_quiet (exec_require _ _ s) fun _ _ => ?_
  refine bind_quiet (exec_certificateToRevoke env s _) fun certificate hrevocable => ?_
  refine bind_quiet (exec_evidencePath s _ _) fun path hpath => ?_
  obtain ⟨_, rfl⟩ := pathOf_eq_ok.mp hpath
  refine bind_quiet (exec_fileExists s _) fun found hfound => ?_
  cases found with
  | true =>
    refine bind_quiet (exec_loadVerified env s _) fun _ _ => ?_
    exact bind_quiet (exec_require _ _ s) fun _ _ => .pure
  | false =>
    exact writes_revokeNow _ _ _ (certificateAt_of_revocableAt env s hrevocable)
      (by simpa [Dict.contains] using hfound)

/-- **Every write is on the list.** -/
theorem call_writes {call : CertCall}
    (h : ∀ result actorId publicKey clock, call = .publish result actorId publicKey clock →
      published result publicKey) (s : Files) :
    (call.prog env).Writes (Allowed env published) s := by
  cases call with
  | appendEvent eventType releaseId actorId payload occurredAt clock =>
    refine bind ?_ fun _ _ _ => .pure
    cases occurredAt with
    | some t | none => exact writes_appendEventAt _ _ _ _ _ _ s
  | saveRun result actorId clock =>
    exact bind (writes_saveRun result actorId clock s) fun _ _ _ => .pure
  | publish result actorId publicKey clock =>
    exact bind (writes_publish (h result actorId publicKey clock rfl) _ _ s)
      fun _ _ _ => .pure
  | revoke releaseId actorId reason clock =>
    exact bind (writes_revoke releaseId actorId reason clock s) fun _ _ _ => .pure
  | verifyEventChain releaseId =>
    exact bind_quiet (exec_verifyEventChain env s releaseId) fun _ _ => .pure

end

end ComputeWeaver.Certification
