/-
Certification.RetryTheorems — how often an event is logged.

`save_run` logs its events before it writes the run, `publish` and `revoke` log
theirs after the document. A `save_run` that stops in between logs its events
once more when it is repeated; a `publish` or `revoke` that stops in between
finds its document when it is repeated, and never logs the event.

If every attempt that writes at all gets past these points (`Reaches`), the log of
a release is what its documents say: `Told`. What a call may still write after them
are sidecars, reports and the registry, so it keeps `Told` wherever it stops.
-/
import ComputeWeaver.Certification.RevocationTheorems

namespace ComputeWeaver.Certification

open Lib Prog CertCall
open List hiding after

variable {env : CertEnv} {s s' : Files} {releaseId actorId : String}
  {events : List CertificationEvent} {writes : List (EvidenceFile × Content)}
  {result : CertificationResult}

/-! ## One event -/

/-- What an event says: its type, and the gate if it names one. -/
def CertificationEvent.entry (event : CertificationEvent) : String × Value :=
  (event.eventType, docGetD event.payload "gate" .none)

theorem not_mem_of_touches {α : Type} {p : EvidenceProg α} {touched : EvidencePath → Prop}
    (h : Touches env touched p) {file : EvidenceFile} (hfile : ¬ touched file.path) :
    file ∉ (p.exec s).2.map Prod.fst := by
  intro hmem
  obtain ⟨write, hwrite, rfl⟩ := mem_map.mp hmem
  exact hfile (h.path hwrite)

variable {eventType : String} {occurredAt : Timestamp} {clock : Clock} {category : Category}
  {path : EvidencePath} {document : Document} {payload : Document}

/-- **One event.** -/
theorem logHolds_append {written : Timestamp} {event : CertificationEvent}
    (h : (appendEventAt env eventType releaseId actorId payload occurredAt written).exec s =
      (.ok event, writes)) (hlog : LogHolds env s releaseId events) :
    event.entry = (eventType, docGetD payload "gate" .none) ∧
      LogHolds env (applyWrites s writes) releaseId (events ++ [event]) := by
  obtain ⟨logged, hlogged, hnext, rfl⟩ := appendEventAt_eq_ok h
  obtain ⟨htype, -, -, -, hpayload⟩ := nextEvent_fields hnext
  obtain rfl := hlog.logged hlogged
  refine ⟨by rw [CertificationEvent.entry, htype, hpayload], ?_⟩
  refine .stored (loadable_evidenceWrites env _
    (hasMetadata_storedDocument env _ _ _) s).json ?_
  rw [← loggedEvents_storedDocument releaseId _ written, map_append]
  rfl

def failureEntries (gates : List GateResult) : List (String × Value) :=
  (gates.filter fun gate => !gate.passed).map fun gate => ("GateFailed", .str gate.name)

theorem logHolds_failures {n : Nat} {gates : List GateResult}
    (h : (appendFailures env result actorId clock n gates).exec s = (.ok (), writes))
    (hlog : LogHolds env s result.releaseId events) :
    ∃ added, added.map CertificationEvent.entry = failureEntries gates ∧
      LogHolds env (applyWrites s writes) result.releaseId (events ++ added) := by
  induction gates generalizing n s writes events with
  | nil =>
    cases h
    exact ⟨[], rfl, by simpa using hlog⟩
  | cons gate rest ih =>
    unfold appendFailures at h
    cases hpassed : gate.passed with
    | true =>
      rw [hpassed, if_pos rfl] at h
      obtain ⟨added, hentries, hlog⟩ := ih h hlog
      exact ⟨added, by simp [hentries, failureEntries, hpassed], hlog⟩
    | false =>
      rw [hpassed, if_neg (by simp)] at h
      obtain ⟨event, first, others, hfirst, hothers, rfl⟩ := exec_bind_eq_ok h
      obtain ⟨hentry, hlog⟩ := logHolds_append hfirst hlog
      obtain ⟨added, hentries, hlog⟩ := ih hothers hlog
      refine ⟨event :: added, ?_, by simpa [applyWrites_append] using hlog⟩
      rw [map_cons, hentry, hentries]
      simp [failureEntries, hpassed, docGetD, assocGet]

/-! ## The log of a release -/

def runEntries (result : CertificationResult) : List (String × Value) :=
  ("CertificationStarted", .none) :: failureEntries result.gates

def entryIf (stored : Bool) (eventType : String) : List (String × Value) :=
  if stored then [(eventType, .none)] else []

def hasDocument (s : Files) (category : Category) (releaseId : String) : Bool :=
  s.contains (.json (.release category releaseId))

inductive Told (env : CertEnv) (s : Files) (releaseId : String) : Prop
  | nothing (hrun : hasDocument s .runs releaseId = false)
      (hcertificate : hasDocument s .certificates releaseId = false)
      (hrevocation : hasDocument s .revocations releaseId = false)
      (hlog : LogHolds env s releaseId [])
  | run (result : CertificationResult) (written : Timestamp) (events : List CertificationEvent)
      (hrun : s.get? (.json (.release .runs releaseId)) = some (.document
        (storedDocument env (resultDocument env result) "certify run" written)))
      (hlog : LogHolds env s releaseId events)
      (hentries : events.map CertificationEvent.entry = runEntries result ++
        entryIf (hasDocument s .certificates releaseId) "ReleaseCertified" ++
        entryIf (hasDocument s .revocations releaseId) "CertificationRevoked")
      (horder : hasDocument s .certificates releaseId = false →
        hasDocument s .revocations releaseId = false)

theorem hasDocument_congr
    (h : s'.get? (.json (.release category releaseId)) =
      s.get? (.json (.release category releaseId))) :
    hasDocument s' category releaseId = hasDocument s category releaseId := by
  simp [hasDocument, Dict.contains, h]

theorem Told.congr (h : Told env s releaseId) (hsame : ∀ category,
    s'.get? (.json (.release category releaseId)) = s.get? (.json (.release category releaseId))) :
    Told env s' releaseId := by
  have hhas := fun category => hasDocument_congr (hsame category)
  cases h with
  | nothing hrun hcertificate hrevocation hlog =>
    exact .nothing (by rw [hhas, hrun]) (by rw [hhas, hcertificate]) (by rw [hhas, hrevocation])
      (hlog.congr (hsame _))
  | run result written events hrun hlog hentries horder =>
    exact .run result written events (by rw [hsame, hrun]) (hlog.congr (hsame _))
      (by rw [hhas, hhas, hentries]) (by rw [hhas, hhas]; exact horder)

def Kept (call : CertCall) (s s' : Files) (releaseId : String) : Prop :=
  ∀ category, ¬ call.touched (.release category releaseId) →
    s'.get? (.json (.release category releaseId)) = s.get? (.json (.release category releaseId))

theorem kept_of_stopped {call : CertCall} (h : writes <+: ((call.prog env).exec s).2) :
    Kept call s (applyWrites s writes) releaseId := by
  intro category hcategory
  have hnot : .json (.release category releaseId) ∉ ((call.prog env).exec s).2.map Prod.fst :=
    not_mem_of_touches (call_touches env call) hcategory
  exact get?_applyWrites_of_not_mem (fun hmem => hnot ((h.map Prod.fst).subset hmem)) s

theorem hasDocument_of_get? {content : Content}
    (h : s.get? (.json (.release category releaseId)) = some content) :
    hasDocument s category releaseId = true := by
  simp [hasDocument, h]

/-! ## How far a call gets -/

/-- With all of its writes a call tells what it did, and once `file` is written it
writes nothing more of the release. -/
structure Settles (env : CertEnv) (s : Files) (releaseId : String) (file : EvidenceFile)
    (writes : List (EvidenceFile × Content)) : Prop where
  told : Told env (applyWrites s writes) releaseId
  last : ∃ before content after, writes = before ++ (file, content) :: after ∧
    file ∉ before.map Prod.fst ∧
    ∀ category, .json (.release category releaseId) ∉ after.map Prod.fst

/-- A call that stops when `file` is written, or later. -/
theorem Settles.stopped {file : EvidenceFile} {all : List (EvidenceFile × Content)}
    (h : Settles env s releaseId file all) (hstopped : writes <+: all)
    (hfile : file ∈ writes.map Prod.fst) : Told env (applyWrites s writes) releaseId := by
  obtain ⟨before, content, after, rfl, hbefore, hafter⟩ := h.last
  rcases prefix_or_prefix_of_prefix hstopped (prefix_append before _) with hshort | ⟨rest, rfl⟩
  · exact absurd ((hshort.map Prod.fst).subset hfile) hbefore
  cases rest with
  | nil => exact absurd (by simpa using hfile) hbefore
  | cons write more =>
    obtain ⟨rfl, hmore⟩ := cons_prefix_cons.mp ((prefix_append_right_inj before).mp hstopped)
    refine h.told.congr fun category => ?_
    rw [applyWrites_append, applyWrites_append, applyWrites_cons, applyWrites_cons,
      get?_applyWrites_of_not_mem (hafter category),
      get?_applyWrites_of_not_mem fun hmem => hafter category ((hmore.map Prod.fst).subset hmem)]

/-! ## One call -/

/-- A `save_run` that writes the run. -/
theorem settles_saveRun {x : Except PyError EvidencePath}
    (hexec : (saveRun env result actorId clock).exec s = (x, writes))
    (hreached : .json (.release .runs result.releaseId) ∈ writes.map Prod.fst)
    (hkept : Kept (.saveRun result actorId clock) s (applyWrites s writes) result.releaseId)
    (htold : Told env s result.releaseId) :
    Settles env s result.releaseId (.json (.release .runs result.releaseId)) writes := by
  obtain ⟨path, hpath, h⟩ := exec_bind_quiet_reaches (exec_evidencePath s _ _) hexec hreached
  obtain ⟨-, rfl⟩ := pathOf_eq_ok.mp hpath
  obtain ⟨path, hpath, h⟩ := exec_bind_quiet_reaches (exec_evidencePath s _ _) h hreached
  obtain ⟨-, rfl⟩ := pathOf_eq_ok.mp hpath
  obtain ⟨published, -, h⟩ := exec_bind_quiet_reaches (exec_fileExists s _) h hreached
  cases published with
  | true =>
    cases h
    cases hreached
  | false =>
    obtain ⟨saved, hsaved, h⟩ := exec_bind_quiet_reaches (exec_fileExists s _) h hreached
    injection hsaved with hsaved
    cases saved with
    | true =>
      obtain ⟨existing, -, h⟩ := exec_bind_quiet_reaches (exec_loadCertificate env s _) h hreached
      obtain ⟨_, -, h⟩ := exec_bind_quiet_reaches (exec_require _ _ s) h hreached
      cases h
      cases hreached
    | false =>
      have hevents : ∀ s, .json (.release .runs result.releaseId) ∉
          ((appendEventAt env "CertificationStarted" result.releaseId actorId
            (certificatePayload result) result.generatedAt (clock 0)).exec s).2.map Prod.fst :=
        fun _ => not_mem_of_touches
          (@touches_appendEventAt env (.release .events result.releaseId = ·) _ rfl _ _ _ _ _)
          (by simp [EvidenceFile.path])
      have hfailures : ∀ s, .json (.release .runs result.releaseId) ∉
          ((appendFailures env result actorId clock 1 result.gates).exec s).2.map Prod.fst :=
        fun _ => not_mem_of_touches
          (@touches_appendFailures env (.release .events result.releaseId = ·) _ rfl _ _ _ _)
          (by simp [EvidenceFile.path])
      obtain ⟨started, first, rest, hfirst, hrest, rfl, hlater⟩ :=
        exec_bind_reaches h hreached (hevents s)
      obtain ⟨_, second, third, hsecond, hthird, rfl, -⟩ :=
        exec_bind_reaches hrest hlater (hfailures _)
      rw [exec_bind_of_ok (exec_writeEvidence env _ _ _ _ _), exec_pure, append_nil] at hthird
      obtain ⟨-, rfl⟩ := Prod.mk.inj hthird
      constructor
      · cases htold with
        | run _ _ _ hrun => cases hsaved.symm.trans (hasDocument_of_get? hrun)
        | nothing hrun hcertificate hrevocation hlog =>
          rw [← hasDocument_congr (hkept _ (by simp [touched]))] at hcertificate hrevocation
          obtain ⟨hentry, hlog⟩ := logHolds_append hfirst hlog
          obtain ⟨added, hadded, hlog⟩ := logHolds_failures hsecond hlog
          refine .run result (clock (1 + (result.gates.filter fun gate => !gate.passed).length)) _
            ?_ (hlog.congr ?_) ?_ (fun _ => hrevocation)
          · rw [applyWrites_append, applyWrites_append]
            exact (loadable_evidenceWrites env _ (hasMetadata_storedDocument env _ _ _) _).json
          · rw [applyWrites_append, applyWrites_append]
            exact get?_evidenceWrites_ne env _ _ (by simp [EvidenceFile.path]) _
          · rw [hcertificate, hrevocation, map_append, nil_append, map_singleton,
              hentry, hadded]
            simp [runEntries, entryIf, certificatePayload, docGetD, assocGet]
      · refine ⟨first ++ second, _, _, (append_assoc first second _).symm, ?_, by simp⟩
        rw [map_append, mem_append, not_or]
        have hstarted := hevents s
        have hfailed := hfailures (applyWrites s first)
        rw [hfirst] at hstarted
        rw [hsecond] at hfailed
        exact ⟨hstarted, hfailed⟩

/-- A document of the release is written, then an event is logged; only the registry may follow. -/
theorem logHolds_document {α : Type} {command : String} {x : Except PyError α}
    {timestamp written : Timestamp} {f : CertificationEvent → EvidenceProg α}
    (h : (writeEvidence env (.release category releaseId) document command timestamp >>= fun _ =>
      appendEventAt env eventType releaseId actorId payload occurredAt written >>= f).exec s =
        (x, writes)) (hf : ∀ event, Touches env (EvidencePath.registry = ·) (f event))
    (hcategory : category ≠ .events)
    (hreached : .json (.release .events releaseId) ∈ writes.map Prod.fst)
    (hlog : LogHolds env s releaseId events) :
    hasDocument (applyWrites s writes) category releaseId = true ∧
      (∃ event, event.entry = (eventType, docGetD payload "gate" .none) ∧
        LogHolds env (applyWrites s writes) releaseId (events ++ [event])) ∧
      ∃ before content after,
        writes = before ++ (.json (.release .events releaseId), content) :: after ∧
        .json (.release .events releaseId) ∉ before.map Prod.fst ∧
        ∀ category, .json (.release category releaseId) ∉ after.map Prod.fst := by
  have hne : (EvidencePath.release .events releaseId) ≠ .release category releaseId := by
    simpa using hcategory.symm
  rw [exec_bind_of_ok (exec_writeEvidence env _ _ _ _ s)] at h
  obtain ⟨hx, rfl⟩ := Prod.mk.inj h
  set first := evidenceWrites env (.release category releaseId)
    (storedDocument env document command timestamp) with hfirst
  have hbefore : .json (.release .events releaseId) ∉ first.map Prod.fst := by
    simpa [hfirst, evidenceWrites] using hcategory.symm
  rw [map_append, mem_append] at hreached
  obtain ⟨event, stored, hevent⟩ : ∃ event stored,
      (appendEventAt env eventType releaseId actorId payload occurredAt written).exec
        (applyWrites s first) = (.ok event, evidenceWrites env (.release .events releaseId)
          stored) := by
    rcases exec_appendEventAt env (applyWrites s first) eventType releaseId actorId payload
      occurredAt written with ⟨e, hevent⟩ | hevent
    · rw [exec_bind_of_error hevent] at hreached
      exact absurd (hreached.resolve_left hbefore) not_mem_nil
    · exact hevent
  rw [exec_bind_of_ok hevent]
  obtain ⟨hentry, hlogged⟩ := logHolds_append hevent (hlog.congr
    (get?_evidenceWrites_ne env (storedDocument env document command timestamp) (.json _) hne s))
  set s' := applyWrites (applyWrites s first)
    (evidenceWrites env (.release .events releaseId) stored) with hs'
  have hregistry : ∀ category, .json (.release category releaseId) ∉
      ((f event).exec s').2.map Prod.fst :=
    fun _ => not_mem_of_touches (hf event) (by simp [EvidenceFile.path])
  have hafter : ∀ category, (applyWrites s (first ++ (evidenceWrites env
      (.release .events releaseId) stored ++ ((f event).exec s').2))).get?
        (.json (.release category releaseId)) = s'.get? (.json (.release category releaseId)) := by
    intro category
    rw [applyWrites_append, applyWrites_append]
    exact get?_applyWrites_of_not_mem (hregistry category) s'
  refine ⟨?_, ⟨event, hentry, hlogged.congr (hafter .events)⟩,
    first, _, _, rfl, hbefore, fun category => ?_⟩
  · rw [hasDocument_congr (hafter category), hasDocument_congr
      (get?_evidenceWrites_ne env stored (.json _) hne.symm (applyWrites s first))]
    exact hasDocument_of_get?
      (loadable_evidenceWrites env _ (hasMetadata_storedDocument env _ _ _) s).json
  · simpa using hregistry category

/-- A `publish` that writes the log. -/
theorem settles_publish {publicKey : String} {x : Except PyError EvidencePath}
    (hexec : (publish env result actorId publicKey clock).exec s = (x, writes))
    (hreached : .json (.release .events result.releaseId) ∈ writes.map Prod.fst)
    (hkept : Kept (.publish result actorId publicKey clock) s (applyWrites s writes)
      result.releaseId) (htold : Told env s result.releaseId) :
    Settles env s result.releaseId (.json (.release .events result.releaseId)) writes := by
  obtain ⟨_, -, h⟩ := exec_bind_quiet_reaches (exec_ofExcept _ s) hexec hreached
  obtain ⟨run, hloaded, h⟩ := exec_bind_quiet_reaches (exec_loadRun env s _) h hreached
  obtain ⟨_, -, h⟩ := exec_bind_quiet_reaches (exec_require _ _ s) h hreached
  obtain ⟨_, -, h⟩ := exec_bind_quiet_reaches (exec_revocation env s _) h hreached
  obtain ⟨_, -, h⟩ := exec_bind_quiet_reaches (exec_require _ _ s) h hreached
  obtain ⟨path, hpath, h⟩ := exec_bind_quiet_reaches (exec_evidencePath s _ _) h hreached
  obtain ⟨-, rfl⟩ := pathOf_eq_ok.mp hpath
  obtain ⟨found, hfound, h⟩ := exec_bind_quiet_reaches (exec_fileExists s _) h hreached
  injection hfound with hfound
  cases found with
  | true =>
    obtain ⟨existing, -, h⟩ := exec_bind_quiet_reaches (exec_loadCertificate env s _) h hreached
    obtain ⟨_, -, h⟩ := exec_bind_quiet_reaches (exec_require _ _ s) h hreached
    cases h
    cases hreached
  | false =>
    cases htold with
    | nothing hrun =>
      obtain ⟨_, -, hloaded⟩ := bind_eq_ok.mp hloaded
      obtain ⟨_, hloaded, -⟩ := bind_eq_ok.mp hloaded
      cases hrun.symm.trans (hasDocument_of_get? (load_eq_ok.mp hloaded).json)
    | run saved written events hrun hlog hentries horder =>
      have hcertificate : hasDocument s .certificates result.releaseId = false := hfound
      have hrevocation := horder hcertificate
      obtain ⟨hstored, ⟨event, hentry, hlog⟩, hlast⟩ :=
        logHolds_document h (fun _ => touches_pure env _) (by decide) hreached hlog
      rw [hcertificate, hrevocation] at hentries
      rw [← hasDocument_congr (hkept .revocations (by simp [touched]))] at hrevocation
      refine ⟨.run saved written _ (hkept .runs (by simp [touched]) ▸ hrun) hlog ?_
        fun _ => hrevocation, hlast⟩
      rw [map_append, hentries, map_singleton, hentry, hstored, hrevocation]
      simp [entryIf, certificatePayload, docGetD, assocGet]

/-- A `revoke` that writes the log. -/
theorem settles_revoke {reason : String} {x : Except PyError Document}
    (hexec : (revoke env releaseId actorId reason clock).exec s = (x, writes))
    (hreached : .json (.release .events releaseId) ∈ writes.map Prod.fst)
    (hkept : Kept (.revoke releaseId actorId reason clock) s (applyWrites s writes) releaseId)
    (htold : Told env s releaseId) :
    Settles env s releaseId (.json (.release .events releaseId)) writes := by
  have houtcome := revoke_outcome env s releaseId actorId reason clock
  generalize (revoke env releaseId actorId reason clock).exec s = out at houtcome hexec
  cases houtcome with
  | quiet x _ =>
    cases hexec
    cases hreached
  | revoked certificate _ hcertificate habsent =>
    have hpublished : hasDocument s .certificates releaseId = true := by
      obtain ⟨_, -, hcertificate⟩ := bind_eq_ok.mp hcertificate
      split at hcertificate
      · assumption
      · cases hcertificate
    cases htold with
    | nothing _ hcertificate => cases hcertificate.symm.trans hpublished
    | run saved written events hrun hlog hentries horder =>
      obtain ⟨hstored, ⟨event, hentry, hlog⟩, hlast⟩ :=
        logHolds_document hexec (fun _ => touches_registry env rfl _ _) (by decide) hreached hlog
      have hrevocation : hasDocument s .revocations releaseId = false := by
        simpa [hasDocument, Dict.contains] using habsent
      rw [hpublished, hrevocation] at hentries
      rw [← hasDocument_congr (hkept .certificates (by simp [touched]))] at hpublished
      refine ⟨.run saved written _ (hkept .runs (by simp [touched]) ▸ hrun) hlog ?_
        fun hnone => (by cases hnone.symm.trans hpublished), hlast⟩
      rw [map_append, hentries, map_singleton, hentry, hstored, hpublished]
      simp [entryIf, docGetD, assocGet]

/-! ## Retries -/

/-- The document of the release with which a call has done what a retry will not do
again: the run for `save_run`, the log for `publish` and `revoke`. -/
def CertCall.settling : CertCall → Option EvidenceFile
  | saveRun result _ _ => some (.json (.release .runs result.releaseId))
  | publish result _ _ _ => some (.json (.release .events result.releaseId))
  | revoke releaseId _ _ _ => some (.json (.release .events releaseId))
  | verifyEventChain _ => none
  | appendEvent .. => none

/-- The attempt stops before its first write, or not before its settling one: a
`save_run` has written the run, a `publish` or `revoke` the log. -/
def Reaches (env : CertEnv) (s : Files) (op : StoppableCall) : Prop :=
  op.writes env s = [] ∨
    ∃ file ∈ op.call.settling, file ∈ (op.writes env s).map Prod.fst

instance (env : CertEnv) (s : Files) (op : StoppableCall) : Decidable (Reaches env s op) :=
  inferInstanceAs (Decidable (_ = [] ∨ ∃ file ∈ op.call.settling, _))

/-- A call that is stopped once it is settled. -/
theorem Told.call {call : CertCall} {file : EvidenceFile} (hfile : file ∈ call.settling)
    (hstopped : writes <+: ((call.prog env).exec s).2) (hreached : file ∈ writes.map Prod.fst)
    (h : Told env s releaseId) : Told env (applyWrites s writes) releaseId := by
  have hkept : ∀ {releaseId}, Kept call s (applyWrites s ((call.prog env).exec s).2) releaseId :=
    kept_of_stopped prefix_rfl
  have hall := (hstopped.map Prod.fst).subset hreached
  by_cases htouched : ∃ category, call.touched (.release category releaseId)
  · obtain ⟨category, htouched⟩ := htouched
    cases call with
    | appendEvent eventType id actorId payload occurredAt clock => cases hfile
    | verifyEventChain id => cases hfile
    | saveRun result actorId clock =>
      obtain rfl : releaseId = result.releaseId := by
        rcases htouched with heq | heq <;> cases heq <;> rfl
      cases hfile
      simp only [prog, exec_bind_pure] at hstopped hall hkept
      exact (settles_saveRun Prod.mk.eta.symm hall hkept h).stopped hstopped hreached
    | publish result actorId publicKey clock =>
      obtain rfl : releaseId = result.releaseId := by
        rcases htouched with heq | heq <;> cases heq <;> rfl
      cases hfile
      simp only [prog, exec_bind_pure] at hstopped hall hkept
      exact (settles_publish Prod.mk.eta.symm hall hkept h).stopped hstopped hreached
    | revoke id actorId reason clock =>
      obtain rfl : releaseId = id := by
        rcases htouched with heq | heq | heq <;> cases heq <;> rfl
      cases hfile
      simp only [prog, exec_bind_pure] at hstopped hall hkept
      exact (settles_revoke Prod.mk.eta.symm hall hkept h).stopped hstopped hreached
  · exact h.congr fun category => kept_of_stopped hstopped category
      fun hcategory => htouched ⟨category, hcategory⟩

/-- **One attempt.** -/
theorem Told.step {op : StoppableCall} (hreaches : Reaches env s op) (h : Told env s releaseId) :
    Told env (s.stoppableStep env op) releaseId := by
  rcases hreaches with hnone | ⟨file, hfile, hreached⟩
  · rw [Files.stoppableStep, hnone]
    exact h
  · exact h.call hfile (op.writes_prefix env s) hreached

def gatesOf (events : List CertificationEvent) (eventType : String) : List Value :=
  ((events.map CertificationEvent.entry).filter (·.1 = eventType)).map Prod.snd

theorem filter_failureEntries (gates : List GateResult) (eventType : String) :
    (failureEntries gates).filter (·.1 = eventType) =
      if "GateFailed" = eventType then failureEntries gates else [] := by
  by_cases h : "GateFailed" = eventType
  · rw [if_pos h, filter_eq_self]
    intro entry hentry
    obtain ⟨gate, -, rfl⟩ := mem_map.mp hentry
    simpa using h
  · rw [if_neg h, filter_eq_nil_iff]
    intro entry hentry
    obtain ⟨gate, -, rfl⟩ := mem_map.mp hentry
    simpa using h

theorem failureNames (gates : List GateResult) : (failureEntries gates).map Prod.snd =
    (gates.filter fun gate => !gate.passed).map fun gate => .str gate.name := by
  simp [failureEntries]

/-- **Main result.** Take any series of attempts to save, publish and revoke, each
of which may stop after any of its writes but not between the document and its events.
A release without a run has an empty log and no other document. The log of a release
with a run has one `CertificationStarted`, one `GateFailed` for each gate that failed,
one `ReleaseCertified` if and only if the certificate is stored, and one
`CertificationRevoked` if and only if the revocation is. -/
theorem retried_log (env : CertEnv) (ops : List StoppableCall)
    (hguard : Guarded (Files.stoppableStep env) (Reaches env) .empty ops) (releaseId : String) :
    let s := run (Files.stoppableStep env) .empty ops
    ∃ events, LogHolds env s releaseId events ∧
      if hasDocument s .runs releaseId then
        ∃ result written, s.get? (.json (.release .runs releaseId)) = some (.document
          (storedDocument env (resultDocument env result) "certify run" written)) ∧
        (gatesOf events "CertificationStarted").length = 1 ∧
        gatesOf events "GateFailed" =
          (result.gates.filter fun gate => !gate.passed).map (fun gate => .str gate.name) ∧
        (gatesOf events "ReleaseCertified").length =
          (if hasDocument s .certificates releaseId then 1 else 0) ∧
        (gatesOf events "CertificationRevoked").length =
          (if hasDocument s .revocations releaseId then 1 else 0)
      else events = [] ∧ hasDocument s .certificates releaseId = false ∧
        hasDocument s .revocations releaseId = false := by
  intro s
  have htold : Told env s releaseId :=
    guarded_invariant (P := fun s => Told env s releaseId) (fun _ _ hreaches h => h.step hreaches)
      ops .empty hguard (.nothing rfl rfl rfl (.absent rfl))
  cases htold with
  | nothing hrun hcertificate hrevocation hlog =>
    exact ⟨[], hlog, by simp [hrun, hcertificate, hrevocation]⟩
  | run result written events hrun hlog hentries =>
    refine ⟨events, hlog, ?_⟩
    rw [if_pos (hasDocument_of_get? hrun)]
    refine ⟨result, written, hrun, ?_⟩
    simp only [gatesOf, hentries]
    cases hasDocument s .certificates releaseId <;> cases hasDocument s .revocations releaseId <;>
      simp [runEntries, entryIf, filter_failureEntries, failureNames]

/-- A release is certified, with an attempt at each call that is stopped before. -/
def retriedOps (saved published : Nat) : List StoppableCall :=
  let saveRun := CertCall.saveRun (sampleResult "release-1" "token-1") "alice" sampleClock
  let publish := CertCall.publish (sampleResult "release-1" "token-1") "alice" "key" sampleClock
  [⟨saveRun, some saved⟩, ⟨saveRun, none⟩, ⟨publish, some published⟩, ⟨publish, none⟩]

/-- Each call is stopped in the middle, and the release is revoked too. -/
def revokedOps : List StoppableCall :=
  let revoke := CertCall.revoke "release-1" "alice" "broken" sampleClock
  retriedOps 5 5 ++ [⟨revoke, some 0⟩, ⟨revoke, some 4⟩, ⟨revoke, none⟩]

theorem retried_log_revokedOps :
    ∃ events, LogHolds sampleEnv (run (Files.stoppableStep sampleEnv) .empty revokedOps)
        "release-1" events ∧
      (gatesOf events "CertificationStarted").length = 1 ∧
      (gatesOf events "ReleaseCertified").length = 1 ∧
      (gatesOf events "CertificationRevoked").length = 1 := by
  have hguard : Guarded (Files.stoppableStep sampleEnv) (Reaches sampleEnv) .empty
      revokedOps := by decide +kernel
  have hlog := retried_log sampleEnv revokedOps hguard "release-1"
  have hstored : ∀ category ∈ [Category.runs, .certificates, .revocations], hasDocument
      (run (Files.stoppableStep sampleEnv) .empty revokedOps) category "release-1" = true := by
    decide +kernel
  generalize run (Files.stoppableStep sampleEnv) .empty revokedOps = s at hlog hstored ⊢
  obtain ⟨events, hlog, h⟩ := hlog
  rw [if_pos (hstored .runs (by simp)), if_pos (hstored .certificates (by simp)),
    if_pos (hstored .revocations (by simp))] at h
  obtain ⟨result, written, -, hstarted, -, hcertified, hrevoked⟩ := h
  exact ⟨events, hlog, hstarted, hcertified, hrevoked⟩

def loggedCount (s : Files) (releaseId eventType : String) : Nat :=
  (logDocuments s releaseId).countP fun event => (docGetD event "event_type" .none).isStr eventType

/-- A `save_run` is stopped after its first event, a `publish` before its event; each
is repeated and returns. The log has two `CertificationStarted` and no
`ReleaseCertified`, and the certificate is stored. -/
theorem retried_log_wrong :
    let saveRun := CertCall.saveRun (sampleResult "release-1" "token-1") "alice" sampleClock
    let stopped := run (Files.stoppableStep sampleEnv) .empty [⟨saveRun, some 3⟩]
    let saved := run (Files.stoppableStep sampleEnv) stopped [⟨saveRun, none⟩]
    let published := run (Files.stoppableStep sampleEnv) .empty (retriedOps 0 3)
    ((saveRun.prog sampleEnv).exec stopped).1.isOk = true ∧
      loggedCount saved "release-1" "CertificationStarted" = 2 ∧
      hasDocument published .certificates "release-1" = true ∧
      loggedCount published "release-1" "ReleaseCertified" = 0 := by
  decide +kernel

end ComputeWeaver.Certification
