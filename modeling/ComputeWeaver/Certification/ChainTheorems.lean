/-
Certification.ChainTheorems — the event log of a release is a
hash chain from GENESIS, and `verify_event_chain` accepts it.

The log is read and written as a document, so the events pass through JSON each
time. `eventFromDocument_document` says what that does to an event with an
aware time and a payload that `json.dumps` takes: nothing. `append_event` makes
no other events (`recordable_of_nextEvent`).
-/
import ComputeWeaver.Certification.WriteTheorems

namespace ComputeWeaver.Certification

open Lib Dict

/-! ## Events as documents -/

/-- Events that survive the round trip through JSON. -/
structure Recordable (event : CertificationEvent) : Prop where
  aware : event.occurredAt.isNaive = false
  payload : Value.serializableItems event.payload = true

section

variable {env : CertEnv} {event : CertificationEvent}

theorem document_eq (h : Recordable event) :
    event.document env = [("event_type", .str event.eventType),
      ("release_id", .str event.releaseId),
      ("occurred_at", .str (env.strTime event.occurredAt)), ("actor_id", .str event.actorId),
      ("payload", .dict event.payload), ("previous_hash", .str event.previousHash),
      ("event_hash", .str event.eventHash)] := by
  refine Value.jsonSafeItems_of_serializable env.toPyEnv _ ?_
  simp [Value.serializableItems, Value.serializable, h.payload]

theorem eventFromDocument_document (h : Recordable event) :
    eventFromDocument env (event.document env) = .ok event := by
  rw [document_eq h]
  simp [eventFromDocument, timeField, docItem, docGetD, assocGet, PyEnv.str, PyEnv.dict,
    env.fromIso_strTime _ h.aware]

theorem mapM_eventFromDocument {events : List CertificationEvent}
    (h : ∀ event ∈ events, Recordable event) :
    (events.map (·.document env)).mapM (eventFromDocument env) = .ok events := by
  have hmap : (events.map (·.document env)).mapM (eventFromDocument env) = .ok (events.map id) :=
    except_mapM_map id fun event hevent => eventFromDocument_document (h event hevent)
  rwa [List.map_id] at hmap

theorem loggedEvents_storedDocument (releaseId command : String) (written : Timestamp)
    (events : List CertificationEvent) :
    loggedEvents (storedDocument env (logDocument releaseId (events.map (·.document env))) command
      written) = .ok (events.map (·.document env)) := by
  refine dictsField_storedDocument env command written (by decide) rfl ?_
  intro item hitem
  obtain ⟨event, _, rfl⟩ := List.mem_map.mp hitem
  exact Value.serializable_jsonSafeItems env.toPyEnv _

end

/-! ## Chains -/

/-- Each event names the hash of the one before and has the hash of its own
body. -/
def Chain (env : CertEnv) : String → List CertificationEvent → Prop
  | _, [] => True
  | previous, event :: rest => event.previousHash = previous ∧
      strictDigest env (eventBody env event.eventType event.releaseId event.occurredAt
        event.actorId event.payload event.previousHash) = .ok event.eventHash ∧
      Chain env event.eventHash rest

def chainHead (previous : String) (events : List CertificationEvent) : String :=
  (events.getLast?.map CertificationEvent.eventHash).getD previous

theorem chainHead_cons (previous : String) (event : CertificationEvent)
    (rest : List CertificationEvent) :
    chainHead previous (event :: rest) = chainHead event.eventHash rest := by
  cases rest with
  | nil => rfl
  | cons second rest =>
    rw [chainHead, chainHead, List.getLast?_cons_cons]
    rfl

section

variable {env : CertEnv}

variable {events : List CertificationEvent} {event : CertificationEvent} {previous : String}

theorem Chain.snoc (h : Chain env previous events)
    (hprevious : event.previousHash = chainHead previous events)
    (hdigest : strictDigest env (eventBody env event.eventType event.releaseId event.occurredAt
      event.actorId event.payload event.previousHash) = .ok event.eventHash) :
    Chain env previous (events ++ [event]) := by
  induction events generalizing previous with
  | nil => exact ⟨hprevious, hdigest, trivial⟩
  | cons first rest ih =>
    rw [chainHead_cons] at hprevious
    exact ⟨h.1, h.2.1, ih h.2.2 hprevious⟩

theorem chainVerified_of_chain (h : Chain env previous events) :
    chainVerified env previous events = .ok true := by
  induction events generalizing previous with
  | nil => rfl
  | cons event rest ih =>
    obtain ⟨hprevious, hdigest, hrest⟩ := h
    rw [chainVerified, hdigest, ok_bind, if_neg (by simp [hprevious])]
    exact ih hrest

structure Log (env : CertEnv) (events : List CertificationEvent) : Prop where
  chain : Chain env "GENESIS" events
  recordable : ∀ event ∈ events, Recordable event

theorem lastHash_documents (h : ∀ event ∈ events, Recordable event) :
    lastHash env (events.map (·.document env)) = .ok (chainHead "GENESIS" events) := by
  rw [lastHash, List.getLast?_map]
  cases hlast : events.getLast? with
  | none => simp [chainHead, hlast]
  | some event =>
    simp [document_eq (h event (List.mem_of_getLast? hlast)), docItem, assocGet, chainHead, hlast,
      PyEnv.str]

theorem recordable_of_nextEvent {eventType releaseId actorId : String} {occurredAt : Timestamp}
    {payload : Document} {logged : List Document} (haware : event.occurredAt.isNaive = false)
    (h : nextEvent env eventType releaseId occurredAt actorId payload logged = .ok event) :
    Recordable event := by
  obtain ⟨previousHash, _, h⟩ := bind_eq_ok.mp h
  obtain ⟨eventHash, hdigest, h⟩ := bind_eq_ok.mp h
  cases h
  refine ⟨haware, ?_⟩
  unfold strictDigest at hdigest
  split at hdigest
  · rename_i hserializable
    simpa [eventBody, Value.serializable, Value.serializableItems] using hserializable
  · cases hdigest

/-- What `append_event` adds to a log makes a log. -/
theorem Log.snoc (h : Log env events) (haware : event.occurredAt.isNaive = false)
    (hevent : nextEvent env event.eventType event.releaseId event.occurredAt event.actorId
      event.payload (events.map (·.document env)) = .ok event) : Log env (events ++ [event]) := by
  have hrecordable : Recordable event := recordable_of_nextEvent haware hevent
  obtain ⟨previousHash, hprevious, hevent⟩ := bind_eq_ok.mp hevent
  obtain ⟨eventHash, hdigest, hevent⟩ := bind_eq_ok.mp hevent
  rw [lastHash_documents h.recordable] at hprevious
  obtain rfl : chainHead "GENESIS" events = previousHash := by injection hprevious
  injection hevent with hevent
  have hpreviousHash : event.previousHash = chainHead "GENESIS" events := by rw [← hevent]
  have heventHash : event.eventHash = eventHash := by rw [← hevent]
  refine ⟨h.chain.snoc hpreviousHash ?_, ?_⟩
  · rw [hpreviousHash, heventHash]
    exact hdigest
  · rw [List.forall_mem_append, List.forall_mem_singleton]
    exact ⟨h.recordable, hrecordable⟩

end

/-! ## The log of a release -/

/-- The events in the log document, as documents. -/
def logDocuments (s : Files) (releaseId : String) : List Document :=
  match (s.get? (.json (.release .events releaseId))).bind Content.document? with
  | some document => (loggedEvents document).toOption.getD []
  | none => []

inductive LogHolds (env : CertEnv) (s : Files) (releaseId : String) :
    List CertificationEvent → Prop
  | absent (h : s.get? (.json (.release .events releaseId)) = none) : LogHolds env s releaseId []
  | stored {document : Document} {events : List CertificationEvent}
      (h : s.get? (.json (.release .events releaseId)) = some (.document document))
      (hevents : loggedEvents document = .ok (events.map (·.document env))) :
      LogHolds env s releaseId events

section

variable {env : CertEnv} {s s' : Files} {releaseId : String} {events : List CertificationEvent}

section

variable (h : LogHolds env s releaseId events)
include h

theorem LogHolds.logDocuments : logDocuments s releaseId = events.map (·.document env) := by
  cases h with
  | absent h => simp [Certification.logDocuments, h]
  | stored h hevents =>
    simp [Certification.logDocuments, h, Content.document?, hevents, Except.toOption]

theorem LogHolds.congr
    (hjson : s'.get? (.json (.release .events releaseId)) =
      s.get? (.json (.release .events releaseId))) : LogHolds env s' releaseId events := by
  cases h with
  | absent h => exact .absent (hjson.trans h)
  | stored h hevents => exact .stored (hjson.trans h) hevents

/-- What `append_event` finds is what is there. -/
theorem LogHolds.logged {logged : List Document} (hlogged : loggedAt env s releaseId = .ok logged) :
    logged = events.map (·.document env) := by
  unfold loggedAt at hlogged
  cases h with
  | absent h =>
    rw [if_neg (by simp [contains, h])] at hlogged
    cases hlogged
    rfl
  | stored h hevents =>
    rw [if_pos (by simp [contains, h])] at hlogged
    obtain ⟨loaded, hloaded, hlogged⟩ := bind_eq_ok.mp hlogged
    cases h.symm.trans (load_eq_ok.mp hloaded).json
    rw [hevents] at hlogged
    injection hlogged with hlogged
    exact hlogged.symm

/-- When every document loads, `append_event` finds the log. -/
theorem LogHolds.loggedAt (hcomplete : Complete env s) :
    loggedAt env s releaseId = .ok (events.map (·.document env)) := by
  unfold Certification.loggedAt
  cases h with
  | absent h =>
    rw [if_neg (by simp [contains, h])]
    rfl
  | stored h hevents =>
    obtain ⟨loaded, hloaded⟩ := hcomplete _ _ h
    cases h.symm.trans hloaded.json
    rw [if_pos (by simp [contains, h]), load_eq_ok.mpr hloaded, ok_bind, hevents]

/-- **Main result.** When every document loads, `verify_event_chain` accepts a
log. -/
theorem LogHolds.verified (hlog : Log env events) (hcomplete : Complete env s)
    (hid : isReleaseId releaseId = true) : verifiedAt env s releaseId = .ok true := by
  have hevents : eventsAt env s releaseId = .ok events := by
    rw [eventsAt, pathOf_eq_ok.mpr ⟨hid, rfl⟩, ok_bind]
    cases h with
    | absent h => rw [if_neg (by simp [contains, h])]
    | stored h hevents =>
      obtain ⟨loaded, hloaded⟩ := hcomplete _ _ h
      cases h.symm.trans hloaded.json
      rw [if_pos (by simp [contains, h]), load_eq_ok.mpr hloaded, ok_bind, parseEvents,
        hevents, ok_bind, mapM_eventFromDocument hlog.recordable]
  rw [verifiedAt, hevents, ok_bind, chainVerified_of_chain hlog.chain]

end

/-- **One write.** A write keeps a log or extends it by one event. -/
theorem log_step {published : CertificationResult → String → Prop}
    {write : EvidenceFile × Content} (hwrite : Allowed env published s write)
    (h : LogHolds env s releaseId events) (hlog : Log env events) :
    ∃ added, LogHolds env (s.set write.1 write.2) releaseId (events ++ added) ∧
      Log env (events ++ added) := by
  by_cases hfile : write.1 = .json (.release .events releaseId)
  · cases hwrite with
    | event event logged written hlogged hevent haware =>
      obtain rfl : event.releaseId = releaseId := by simpa using hfile
      obtain rfl := h.logged hlogged
      have hlog' := hlog.snoc haware hevent
      refine ⟨[event], .stored (get?_set_self _ _ _) ?_, hlog'⟩
      rw [← loggedEvents_storedDocument event.releaseId _ written, List.map_append]
      rfl
    | _ => cases hfile
  · refine ⟨[], ?_, ?_⟩
    · rw [List.append_nil]
      exact h.congr (get?_set_ne _ _ hfile)
    · rwa [List.append_nil]

end

end ComputeWeaver.Certification
