/-
Certification.ConcurrencyTheorems — several processes on one
evidence directory.

Nothing keeps the calls of two processes apart. Two calls of `append_event`
that both read the log before one of them writes it lose an event, and the
registry has the same gap.

When the calls are in no conflict over a file (`Interleaving.NoConflict`), the
interleaving is a serial execution, and between the calls of such an execution
every log is a chain, every document loads and every revocation is in the
registry (`Settled`).
-/
import Mathlib.Data.Fintype.Basic
import ComputeWeaver.Certification.RevocationTheorems
import ComputeWeaver.Lib.FileInterleaving

namespace ComputeWeaver.Certification

open Lib Interleaving Prog List

/-! ## Revocations that are not stopped -/

section

variable {env : CertEnv} {s : Files} {releaseId : String}
  {eventType : String} {occurredAt : Timestamp} {events : List CertificationEvent}

/-- When every document loads, `append_event` returns. -/
theorem appendEventAt_ok (htype : eventType ∈ eventTypes) (hid : isReleaseId releaseId = true)
    (haware : occurredAt.isNaive = false) {payload : Document}
    (hpayload : Value.serializableItems payload = true)
    (hholds : LogHolds env s releaseId events) (hlog : Log env events)
    (hcomplete : Complete env s) (actorId : String) (written : Timestamp) :
    ∃ event stored,
      (appendEventAt env eventType releaseId actorId payload occurredAt written).exec s =
        (.ok event, evidenceWrites env (.release .events releaseId) stored) := by
  have hdigest : strictDigest env (eventBody env eventType releaseId occurredAt actorId payload
      (chainHead "GENESIS" events)) = .ok (env.digest (.dict (eventBody env eventType releaseId
        occurredAt actorId payload (chainHead "GENESIS" events)))) := by
    unfold strictDigest
    rw [if_pos]
    · rfl
    · simp [Value.serializable, eventBody, Value.serializableItems, hpayload]
  unfold appendEventAt
  rw [decide_eq_true htype, haware, exec_bind_quiet (exec_require _ _ s),
    exec_bind_quiet ((exec_validateReleaseId s releaseId).trans (by rw [if_pos hid])),
    exec_bind_quiet (exec_require _ _ s),
    exec_bind_quiet ((exec_evidencePath s _ _).trans (by rw [pathOf_eq_ok.mpr ⟨hid, rfl⟩])),
    exec_bind_quiet ((exec_readEvents env s releaseId).trans
      (by rw [hholds.loggedAt hcomplete])),
    exec_bind_quiet ((exec_ofExcept _ s).trans
      (by rw [nextEvent, lastHash_documents hlog.recordable, ok_bind, hdigest]; rfl)),
    exec_bind_of_ok (exec_writeEvidence env _ _ _ _ s), exec_pure, append_nil]
  exact ⟨_, _, rfl⟩

theorem isRevocation_eq_true {file : EvidenceFile} (h : isRevocation file = true) :
    ∃ releaseId, file = .json (.release .revocations releaseId) := by
  unfold isRevocation at h
  split at h
  · exact ⟨_, rfl⟩
  · cases h

theorem stored_of_mem_sortedRevocations {path : EvidencePath}
    (h : path ∈ sortedRevocations (listing s isRevocation)) :
    ∃ content, s.get? (.json path) = some content := by
  obtain ⟨releaseId, hid, rfl⟩ := mem_map.mp h
  rw [mem_pySorted, mem_pySortedSet, Finset.mem_image] at hid
  obtain ⟨file, hfile, hid⟩ := hid
  rw [listing, Finset.mem_filter, mem_toFinset] at hfile
  obtain ⟨hkey, hrevocation⟩ := hfile
  obtain ⟨id, rfl⟩ := isRevocation_eq_true hrevocation
  cases hid
  exact Dict.mem_keys_iff.mp hkey

theorem writeRevocationRegistry_ok (hcomplete : Complete env s) (written : Timestamp) :
    ∃ stored, (writeRevocationRegistry env written).exec s =
      (.ok (), evidenceWrites env .registry stored) := by
  have hloads : ∀ path ∈ sortedRevocations (listing s isRevocation),
      ∃ document, load env s path = .ok document := by
    intro path hpath
    obtain ⟨content, hcontent⟩ := stored_of_mem_sortedRevocations hpath
    obtain ⟨document, hdocument⟩ := hcomplete path content hcontent
    exact ⟨document, load_eq_ok.mpr hdocument⟩
  obtain ⟨entries, hentries⟩ := mapM_ok _ hloads
  unfold writeRevocationRegistry
  rw [exec_bind_quiet (exec_list _ s),
    exec_bind_quiet ((exec_loadAll env s _).trans (by rw [hentries]))]
  exact ⟨_, exec_writeEvidence env _ _ _ _ s⟩

theorem revokeNow_whole (hid : isReleaseId releaseId = true)
    (hholds : LogHolds env s releaseId events)
    (hlog : Log env events) (hcomplete : Complete env s) (certificate : CertificationResult)
    (actorId reason : String) (clock : Clock) :
    ((revokeNow env releaseId certificate actorId reason clock).exec s).2.length = 9 := by
  let payload : Document :=
    [("certificate_hash", .str certificate.certificateHash), ("reason", .str reason)]
  have hpayload : Value.serializableItems payload = true := by
    simp [payload, Value.serializableItems, Value.serializable]
  unfold revokeNow
  rw [exec_bind_of_ok (exec_writeEvidence env _ _ _ _ s)]
  have hmetadata := hasMetadata_storedDocument env (revocationDocument env releaseId
    certificate.certificateHash (clock 0) actorId reason) "certify revoke" (clock 1)
  generalize storedDocument env (revocationDocument env releaseId _ _ _ _) _ _ = revocation
    at hmetadata
  have hcomplete₁ := stableUnder_complete env (.release .revocations releaseId) revocation s trivial
    hmetadata hcomplete
  have hpath : (EvidenceFile.json (.release .events releaseId)).path ≠
      .release .revocations releaseId := by simp [EvidenceFile.path]
  have hholds₁ := hholds.congr (get?_evidenceWrites_ne env revocation _ hpath s)
  generalize applyWrites s _ = s₁ at hcomplete₁ hholds₁
  have htype : "CertificationRevoked" ∈ eventTypes := by decide
  obtain ⟨event, log, hevent⟩ := appendEventAt_ok htype hid (clock.aware 2) hpayload hholds₁ hlog
    hcomplete₁ actorId (clock 3)
  have htouches : Touches env (fun _ => True) (appendEventAt env "CertificationRevoked" releaseId
    actorId payload (clock 2) (clock 3)) := touches_appendEventAt env trivial _ _ _ _ _
  have hcomplete₂ := htouches.keeps (stableUnder_complete env) s₁ hcomplete₁
  rw [Prog.after, hevent] at hcomplete₂
  rw [exec_bind_of_ok hevent]
  generalize applyWrites s₁ _ = s₂ at hcomplete₂
  obtain ⟨registry, hregistry⟩ := writeRevocationRegistry_ok hcomplete₂ (clock 4)
  rw [exec_bind_of_ok hregistry, exec_loadVerified]
  rfl

end

/-! ## Between the calls -/

/-- What holds between calls that run to their end. -/
structure Settled (env : CertEnv) (s : Files) : Prop where
  complete : Complete env s
  registered : ∀ releaseId, Registered env releaseId s

section

variable {env : CertEnv} {s : Files}

theorem Settled.sound (h : Settled env s) : Sound env (fun _ _ => True) s :=
  (h.registered "").sound

theorem settled_empty : Settled env .empty where
  complete := fun _ _ h => by cases h
  registered := by
    intro releaseId
    have hguard : Guarded (Files.stoppableStep env) (NotTorn env releaseId) .empty [] := trivial
    exact registered_run hguard

theorem Settled.step (h : Settled env s) (call : CertCall) :
    Settled env ((call.prog env).after s) where
  complete := (call_touches env call).keeps
    ((stableUnder_complete env).mono fun _ _ => trivial) s h.complete
  registered := by
    intro releaseId
    have hwhole : NotTorn env releaseId s ⟨call, none⟩ := by
      cases call with
      | revoke id actorId reason clock =>
        intro _
        simp only [StoppableCall.writes, CertCall.prog, exec_bind_pure]
        -- it writes nothing or all
        have houtcome := revoke_outcome env s id actorId reason clock
        generalize (revoke env id actorId reason clock).exec s = out at houtcome ⊢
        cases houtcome with
        | quiet x _ => exact .inl (by simp)
        | revoked certificate hid _ _ =>
          obtain ⟨events, hholds, hlog⟩ := h.sound.logs id
          exact .inr (by rw [revokeNow_whole hid hholds hlog h.complete]; decide)
      | _ => trivial
    exact Registered.step hwhole (h.registered releaseId)

theorem settled_serial {ι : Type} (env : CertEnv) (calls : ι → CertCall) (order : List ι) :
    Settled env (serialStore (fun i => (calls i).prog env) .empty order) :=
  run_invariant (P := Settled env) (fun _ i h => h.step (calls i)) order _ settled_empty

/-! ## What stays -/

/-- These events are the first ones of the log. -/
structure LoggedFirst (env : CertEnv) (releaseId : String) (logged : List Document) (s : Files) :
    Prop where
  sound : Sound env (fun _ _ => True) s
  first : logged <+: logDocuments s releaseId

variable {releaseId : String} {write : EvidenceFile × Content}

theorem LoggedFirst.step {logged : List Document} (hwrite : Allowed env (fun _ _ => True) s write)
    (h : LoggedFirst env releaseId logged s) :
    LoggedFirst env releaseId logged (s.set write.1 write.2) where
  sound := h.sound.step hwrite
  first := by
    obtain ⟨events, hholds, hlog⟩ := h.sound.logs releaseId
    obtain ⟨added, hholds', _⟩ := log_step hwrite hholds hlog
    have hfirst := h.first
    rw [hholds.logDocuments] at hfirst
    rw [hholds'.logDocuments, map_append]
    exact hfirst.trans (prefix_append _ _)

/-- A revocation loads and is in the registry. -/
structure InForce (env : CertEnv) (releaseId : String) (document : Document) (s : Files) :
    Prop where
  sound : Sound env (fun _ _ => True) s
  loads : load env s (.release .revocations releaseId) = .ok document
  entry : document ∈ registryEntries s

theorem InForce.step {document : Document} (hwrite : Allowed env (fun _ _ => True) s write)
    (h : InForce env releaseId document s) :
    InForce env releaseId document (s.set write.1 write.2) where
  sound := h.sound.step hwrite
  loads := load_step hwrite rfl h.loads
  entry := by
    by_cases hregistry : write.1 = .json .registry
    · obtain ⟨file, content⟩ := write
      obtain rfl : file = .json .registry := hregistry
      exact inRegistry_of_registry h.sound hwrite document (load_step hwrite rfl h.loads)
    · rw [registryEntries_congr (Dict.get?_set_ne _ _ hregistry)]
      exact h.entry

end

/-! ## Interleavings -/

/-- The calls, each in a process of its own, from an empty directory. -/
def concurrentCalls {ι : Type} (env : CertEnv) (calls : ι → CertCall) :
    State ι EvidenceFile Content CertReply :=
  start .empty fun i => (calls i).prog env

section

variable {ι : Type} {env : CertEnv} {calls : ι → CertCall} {order before after : List ι} {i : ι}
  {x : State ι EvidenceFile Content CertReply}

/-- What every write keeps holds at the end of the serial execution, and of what is
found in the files. -/
theorem kept_view (hserial : Serial (fun i => (calls i).prog env) .empty order x)
    {I Q : Files → Prop} (file : EvidenceFile)
    (hkeep : ∀ s write, Allowed env (fun _ _ => True) s write → I s → I (s.set write.1 write.2))
    (hQ : ∀ s, x.store.get? file = s.get? file → I s → Q x.store)
    (horder : order = before ++ i :: after)
    (h : I (serialStore (fun i => (calls i).prog env) .empty (before ++ [i]))) : Q x.store := by
  have hend : I (serialStore (fun i => (calls i).prog env) .empty order) := by
    rw [horder, append_cons, serialStore, run_append]
    exact run_invariant (P := I) (fun s i hs => (call_allowed env (calls i) s).applied hkeep hs
      prefix_rfl) after _ h
  obtain ⟨writes, hwrites, hget⟩ := hserial.view file
  refine hQ _ hget ?_
  rcases hwrites with rfl | ⟨j, hinitial⟩
  · exact hend
  · exact (call_allowed env (calls j) _).applied hkeep hend hinitial

variable {writes : List (EvidenceFile × Content)} {releaseId : String}
  {document : Document} {actorId : String} {clock : Clock} {s : Files}

section

variable (hserial : Serial (fun i => (calls i).prog env) .empty order x)
include hserial

theorem logged_view {outcome : Except PyError CertReply}
    (hdone : x.phase i = .done outcome writes) {logged : List Document}
    (hwrite : (.json (.release .events releaseId), .document document) ∈ writes)
    (hlogged : loggedEvents document = .ok logged) : logged <+: logDocuments x.store releaseId := by
  obtain ⟨before, after, horder, hexec⟩ := hserial.ended i outcome writes hdone
  have hsettled := settled_serial env calls before
  refine kept_view (I := LoggedFirst env releaseId logged)
    (Q := fun s => logged <+: logDocuments s releaseId) hserial (.json (.release .events releaseId))
    (fun _ _ => LoggedFirst.step) ?_ horder ?_
  · intro s hget h
    rw [logDocuments, hget]
    exact h.first
  · rw [serialStore_snoc, Prog.after, hexec]
    generalize serialStore (fun i => (calls i).prog env) .empty before = t at hsettled hexec
    have hwrites : (((calls i).prog env).exec t).2 = writes := by rw [hexec]
    obtain ⟨first, rest, hsplit⟩ := append_of_mem hwrite
    rw [append_cons] at hsplit
    -- from the write of the log on
    rw [hsplit]
    refine (call_allowed env (calls i) t).applied_after (hwrites.trans hsplit)
      (fun _ _ _ => LoggedFirst.step) ⟨?_, ?_⟩ prefix_rfl
    · exact sound_prefix hsettled.sound (by rw [hwrites, hsplit]; exact prefix_append _ _)
    · rw [applyWrites_append, logDocuments, applyWrites_cons, applyWrites_nil, Dict.get?_set_self]
      simp [Content.document?, hlogged, Except.toOption]

/-- An event that `append_event` returned is still in the log. -/
theorem event_view {eventType : String} {payload : Document} {occurredAt : Option Timestamp}
    (hcall : calls i = .appendEvent eventType releaseId actorId payload occurredAt clock)
    {event : CertificationEvent} (hdone : x.phase i = .done (.ok (.event event)) writes) :
    event.document env ∈ logDocuments x.store releaseId := by
  obtain ⟨before, after, horder, hexec⟩ := hserial.ended i _ writes hdone
  have hsettled := settled_serial env calls before
  generalize serialStore (fun i => (calls i).prog env) .empty before = t at hsettled hexec
  have hat : ∃ t₁ t₂, (appendEventAt env eventType releaseId actorId payload t₁ t₂).exec t =
      (.ok event, writes) := by
    rw [hcall, CertCall.prog] at hexec
    obtain ⟨found, hevent, heq⟩ := exec_bind_pure_eq_ok hexec
    cases heq
    cases occurredAt with
    | some t₁ => exact ⟨t₁, clock 0, hevent⟩
    | none => exact ⟨clock 0, clock 1, hevent⟩
  obtain ⟨t₁, t₂, hat⟩ := hat
  obtain ⟨logged, hlogged, -, hwrites⟩ := appendEventAt_eq_ok hat
  obtain ⟨events, hholds, hlog⟩ := hsettled.sound.logs releaseId
  obtain rfl := hholds.logged hlogged
  have hstored : loggedEvents (storedDocument env (logDocument releaseId
      (events.map (·.document env) ++ [event.document env])) ("certify event " ++ eventType) t₂) =
      .ok ((events ++ [event]).map (·.document env)) := by
    rw [← loggedEvents_storedDocument releaseId _ t₂, map_append]
    rfl
  have hview := logged_view hserial hdone (by rw [hwrites]; exact mem_cons_self) hstored
  exact hview.subset (by simp)

/-- A revocation that `revoke` returned is still in the registry. -/
theorem revocation_view {reason : String}
    (hcall : calls i = .revoke releaseId actorId reason clock)
    (hdone : x.phase i = .done (.ok (.revocation document)) writes) :
    document ∈ registryEntries x.store := by
  obtain ⟨before, after, horder, hexec⟩ := hserial.ended i _ writes hdone
  refine kept_view (I := InForce env releaseId document)
    (Q := fun s => document ∈ registryEntries s) hserial (.json .registry)
    (fun _ _ => InForce.step) ?_ horder ?_
  · intro s hget h
    rw [registryEntries_congr hget]
    exact h.entry
  · have hsettled := settled_serial env calls (before ++ [i])
    have hload : load env (serialStore (fun i => (calls i).prog env) .empty (before ++ [i]))
        (.release .revocations releaseId) = .ok document := by
      rw [serialStore_snoc, Prog.after, hexec]
      rw [hcall, CertCall.prog] at hexec
      obtain ⟨found, hrevoke, heq⟩ := exec_bind_pure_eq_ok hexec
      cases heq
      exact load_of_revoke hrevoke
    exact ⟨hsettled.sound, hload, (hsettled.registered releaseId).registered document hload⟩

end

/-- `verify_event_chain` between the calls. -/
theorem Settled.verified (h : Settled env s) (hid : isReleaseId releaseId = true) :
    verifiedAt env s releaseId = .ok true := by
  obtain ⟨events, hholds, hlog⟩ := h.sound.logs releaseId
  exact hholds.verified hlog h.complete hid

end

/-- **Main result.** Take any interleaving of calls that are in no conflict over a
file. At each of its states:

* the log of a release goes on from every log of it that an ended call has
  written, and an event that `append_event` returned is in it;
* every `verify_event_chain` that has ended returned true, and it would return
  true now unless a call is about to write the log;
* a revocation that `revoke` returned is in the registry. -/
theorem concurrent_calls {ι : Type} [DecidableEq ι] (env : CertEnv) (calls : ι → CertCall)
    (steps : List ι) (hguard : Guarded step NoConflict (concurrentCalls env calls) steps) :
    let x := run step (concurrentCalls env calls) steps
    (∀ i outcome writes releaseId document logged, x.phase i = .done outcome writes →
      (.json (.release .events releaseId), .document document) ∈ writes →
      loggedEvents document = .ok logged → logged <+: logDocuments x.store releaseId) ∧
    (∀ i eventType releaseId actorId payload occurredAt clock event writes,
      calls i = .appendEvent eventType releaseId actorId payload occurredAt clock →
      x.phase i = .done (.ok (.event event)) writes →
        event.document env ∈ logDocuments x.store releaseId) ∧
    (∀ i releaseId outcome writes, calls i = .verifyEventChain releaseId →
      isReleaseId releaseId = true → x.phase i = .done outcome writes →
        outcome = .ok (.verified true)) ∧
    (∀ releaseId, isReleaseId releaseId = true →
      (∀ i rest accessed writes, x.phase i = .active rest accessed writes →
        ∀ file ∈ writes.map Prod.fst, file.path ≠ .release .events releaseId) →
      (verifyEventChain env releaseId).exec x.store = (.ok true, [])) ∧
    ∀ i releaseId actorId reason clock document writes,
      calls i = .revoke releaseId actorId reason clock →
      x.phase i = .done (.ok (.revocation document)) writes →
      document ∈ registryEntries x.store := by
  intro x
  obtain ⟨order, hserial⟩ := serial_run _ _ steps hguard
  refine ⟨?_, ?_, ?_, ?_, ?_⟩
  · intro i outcome writes releaseId document logged hdone hwrite hlogged
    exact logged_view hserial hdone hwrite hlogged
  · intro i eventType releaseId actorId payload occurredAt clock event writes hcall hdone
    exact event_view hserial hcall hdone
  · intro i releaseId outcome writes hcall hid hdone
    obtain ⟨before, after, -, hexec⟩ := hserial.ended i outcome writes hdone
    rw [hcall, CertCall.prog, exec_bind_pure, exec_verifyEventChain,
      (settled_serial env calls before).verified hid] at hexec
    exact (Prod.mk.inj hexec).1.symm
  · intro releaseId hid hidle
    have hget : ∀ file : EvidenceFile, file.path = .release .events releaseId →
        x.store.get? file = (serialStore (fun i => (calls i).prog env) .empty order).get? file := by
      intro file hpath
      refine hserial.untouched file fun i rest accessed writes hi hfile => ?_
      exact hidle i rest accessed writes hi file hfile hpath
    have hverified := (settled_serial env calls order).verified hid
    rw [verifiedAt, eventsAt, Dict.contains] at hverified
    rw [exec_verifyEventChain, verifiedAt, eventsAt, load_congr (hget _ rfl) (hget _ rfl),
      Dict.contains, hget _ rfl, hverified]
  · intro i releaseId actorId reason clock document writes hcall hdone
    exact revocation_view hserial hcall hdone

/-! ## Two processes -/

def sampleAppend (releaseId : Fin 2 → String) (i : Fin 2) : CertCall :=
  .appendEvent "CertificationStarted" (releaseId i) (if i = 0 then "alice" else "bob") [] none
    sampleClock

def CertReply.event? : CertReply → Option CertificationEvent
  | .event returned => some returned
  | _ => none

def returnedEvent (x : State (Fin 2) EvidenceFile Content CertReply) (i : Fin 2) :
    Option CertificationEvent :=
  ((x.phase i).outcome?.bind Except.toOption).bind CertReply.event?

/-- Two processes that take turns, each with a release of its own. -/
theorem concurrent_calls_sample :
    let calls := sampleAppend fun i => if i = 0 then "release-1" else "release-2"
    let x := run step (concurrentCalls .plain calls) [0, 1, 0, 1, 0, 1, 0, 1, 0, 1]
    (∃ event writes, x.phase 0 = .done (.ok (.event event)) writes ∧
      event.document .plain ∈ logDocuments x.store "release-1") ∧
    (verifyEventChain .plain "release-1").exec x.store = (.ok true, []) := by
  intro calls x
  have hguard : Guarded step NoConflict (concurrentCalls .plain calls)
    [0, 1, 0, 1, 0, 1, 0, 1, 0, 1] := by decide +kernel
  obtain ⟨-, hevents, -, hverified, -⟩ := concurrent_calls .plain calls _ hguard
  have hreturned : ∀ i, (returnedEvent x i).isSome = true := by decide +kernel
  have hdone : ∀ i, ∃ event writes, x.phase i = .done (.ok (.event event)) writes := by
    intro i
    obtain ⟨event, hevent⟩ := Option.isSome_iff_exists.mp (hreturned i)
    obtain ⟨reply, hreply, hevent⟩ := Option.bind_eq_some_iff.mp hevent
    obtain ⟨outcome, houtcome, hreply⟩ := Option.bind_eq_some_iff.mp hreply
    obtain ⟨writes, hphase⟩ := Phase.outcome?_eq_some.mp houtcome
    rw [toOption_eq_some.mp hreply] at hphase
    cases reply with
    | event event => exact ⟨event, writes, hphase⟩
    | _ => cases hevent
  constructor
  · obtain ⟨event, writes, hphase⟩ := hdone 0
    exact ⟨event, writes, hphase, hevents 0 _ _ _ _ _ _ event writes rfl hphase⟩
  · refine hverified "release-1" (by decide) fun i rest accessed writes hi => ?_
    obtain ⟨event, writes, hphase⟩ := hdone i
    cases hi.symm.trans hphase

/-- Two processes that read the log of one release before they write it: the event
that the first one returned is not in the log. -/
theorem concurrent_event_lost :
    let x := run step (concurrentCalls .plain (sampleAppend fun _ => "release-1"))
      [0, 1, 0, 0, 0, 0, 1, 1, 1, 1]
    ((returnedEvent x 0).any fun event => (logDocuments x.store "release-1").all fun logged =>
      !(docGetD logged "event_hash" .none).isStr event.eventHash) = true := by
  decide +kernel

end ComputeWeaver.Certification
