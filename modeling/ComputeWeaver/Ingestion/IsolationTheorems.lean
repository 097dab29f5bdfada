/-
Ingestion.IsolationTheorems — what the batches of other tenants
do to those of one tenant.

The stores keep tenants apart: an append reads and writes under the tenant of
its event (`append_same`, `append_other`). The circuit breaker does not. It is
one for all tenants, its failures are counted across them and a success of any
of them resets it. So a tenant's view is the breaker and the tenant's own data,
and a batch of another tenant leaves it alone exactly where it does not move the
breaker (`Undisturbed`): the circuit is open when it comes, or the batch is
ingested while there is no failure to forget.
-/
import ComputeWeaver.Ingestion.ReplayTheorems
import ComputeWeaver.Lib.Run

namespace ComputeWeaver.Ingestion

open Lib TimeSeriesStore CircuitBreaker List NormalizeEnv

/-! ## Batches of tenants -/

/-- A batch with the readings of the clock it is ingested at. All its events are
of one tenant, as a connector delivers them. -/
structure Batch where
  tenantId : String
  events : List RawEvent
  now : ℚ
  failedAt : ℚ
  ownEvents : ∀ event ∈ events, event.tenantId = tenantId

def NormalizeEnv.receive (n : NormalizeEnv) (processor : IngestionProcessor) (batch : Batch) :
    Except PyError IngestionResult × IngestionProcessor :=
  n.ingest processor batch.events batch.now batch.failedAt

def NormalizeEnv.receiveAll (n : NormalizeEnv) (processor : IngestionProcessor)
    (batches : List Batch) : IngestionProcessor :=
  run (fun processor batch => (n.receive processor batch).2) processor batches

def Batch.isOf (tenantId : String) (batch : Batch) : Bool := batch.tenantId = tenantId

/-! ## The data of a tenant -/

structure SameFor (tenantId : String) (s t : Stores) : Prop where
  events : ∀ id, s.raw.events.get? (tenantId, id) = t.raw.events.get? (tenantId, id)
  ordered : s.raw.ordered.filter (fun key => key.1 = tenantId) =
    t.raw.ordered.filter (fun key => key.1 = tenantId)
  points : ∀ metric timestamp, s.points.lookup ((tenantId, metric), timestamp) =
    t.points.lookup ((tenantId, metric), timestamp)

section

variable {tenantId : String} {s t : Stores} {event : RawEvent}

theorem SameFor.refl (tenantId : String) (s : Stores) : SameFor tenantId s s :=
  ⟨fun _ => rfl, rfl, fun _ _ => rfl⟩

theorem SameFor.symm (h : SameFor tenantId s t) : SameFor tenantId t s :=
  ⟨fun id => (h.events id).symm, h.ordered.symm, fun metric timestamp =>
    (h.points metric timestamp).symm⟩

theorem SameFor.trans {u : Stores} (h : SameFor tenantId s t) (h' : SameFor tenantId t u) :
    SameFor tenantId s u :=
  ⟨fun id => (h.events id).trans (h'.events id), h.ordered.trans h'.ordered,
    fun metric timestamp => (h.points metric timestamp).trans (h'.points metric timestamp)⟩

theorem SameFor.query (h : SameFor tenantId s t) : s.raw.query tenantId = t.raw.query tenantId := by
  rw [RawLanding.query, RawLanding.query, h.ordered]
  refine filterMap_congr fun key hkey => ?_
  have htenant : key.1 = tenantId := by simpa using (mem_filter.mp hkey).2
  rw [show key = (tenantId, key.2) from Prod.ext htenant rfl]
  exact h.events key.2

theorem RawLanding.append_ordered {landing landing' : RawLanding}
    {accepted : Bool} (h : landing.append event = .ok (accepted, landing')) :
    landing'.ordered = if accepted then landing.ordered ++ [event.key] else landing.ordered := by
  unfold RawLanding.append at h
  split at h
  · split at h
    · cases h
    · cases h
      rfl
  · cases h
    rfl

theorem NormalizeEnv.normalize_tenantId {n : NormalizeEnv}
    {point : NormalizedPoint} (h : n.normalize event = .ok point) :
    point.tenantId = event.tenantId := by
  unfold normalize at h
  split at h
  · cases h
  split at h
  · cases h
  · obtain ⟨_, _, h⟩ := bind_eq_ok.mp h
    cases h
    rfl

end

/-! ## One append -/

def Append.event : Append → RawEvent
  | .raw event => event
  | .point event => event

@[simp] theorem Append.event_raw (event : RawEvent) : (Append.raw event).event = event := rfl

section

variable {n : NormalizeEnv} {tenantId : String} {s t s' : Stores} {event : RawEvent}
  {accepted : Bool}
  {a : Append}

theorem mem_appends {events : List RawEvent} (h : a ∈ appends events) : a.event ∈ events := by
  obtain ⟨event, hevent, ha⟩ := mem_flatMap.mp h
  rcases mem_cons.mp ha with rfl | ha
  · exact hevent
  · rw [mem_singleton.mp ha]
    exact hevent

theorem SameFor.landed (h : SameFor tenantId s t) (htenant : event.tenantId = tenantId)
    {raw : RawLanding} (hs : s.raw.append event = .ok (accepted, raw)) :
    ∃ raw', t.raw.append event = .ok (accepted, raw') ∧
      SameFor tenantId { s with raw := raw } { t with raw := raw' } := by
  subst htenant
  have hkey : s.raw.events.get? event.key = t.raw.events.get? event.key := h.events event.id
  rcases RawLanding.append_cases hs with ⟨stored, hstored, hhash, rfl, rfl⟩ | ⟨hnone, rfl, hevents⟩
  · exact ⟨t.raw, RawLanding.append_duplicate (hkey ▸ hstored) hhash, h⟩
  obtain ⟨raw', ht⟩ := RawLanding.append_new (hkey ▸ hnone)
  refine ⟨raw', ht, ?_, ?_, h.points⟩
  · rcases RawLanding.append_cases ht with ⟨_, _, _, hfalse, _⟩ | ⟨_, _, hevents'⟩
    · cases hfalse
    · intro id
      rw [hevents, hevents', Dict.get?_set, Dict.get?_set, h.events id]
  · rw [RawLanding.append_ordered hs, RawLanding.append_ordered ht, if_pos rfl, if_pos rfl,
      filter_append, filter_append, h.ordered]

theorem SameFor.pointed (h : SameFor tenantId s t) {point : NormalizedPoint}
    (htenant : point.tenantId = tenantId) {points : TimeSeriesStore}
    (hs : s.points.append point = .ok (accepted, points)) :
    ∃ points', t.points.append point = .ok (accepted, points') ∧
      SameFor tenantId { s with points := points } { t with points := points' } := by
  subst htenant
  have hplace : s.points.lookup point.place = t.points.lookup point.place :=
    h.points point.metric point.timestamp
  rcases append_cases hs with
    ⟨stored, hstored, hagrees, rfl, rfl⟩ | ⟨hnone, rfl, hlookup⟩
  · exact ⟨t.points, append_duplicate (hplace ▸ hstored) hagrees, h⟩
  obtain ⟨points', ht⟩ := append_new (hplace ▸ hnone)
  refine ⟨points', ht, h.events, h.ordered, ?_⟩
  rcases append_cases ht with ⟨_, _, _, hfalse, _⟩ | ⟨_, _, hlookup'⟩
  · cases hfalse
  · intro metric timestamp
    rw [hlookup, hlookup', h.points metric timestamp]

theorem SameFor.append_same (h : SameFor tenantId s t) (htenant : a.event.tenantId = tenantId)
    (hs : n.append s a = .ok (accepted, s')) :
    ∃ t', n.append t a = .ok (accepted, t') ∧ SameFor tenantId s' t' := by
  rcases append_effect hs with ⟨event, raw, rfl, happend, rfl⟩ |
    ⟨event, point, points, rfl, hnormalize, happend, rfl⟩
  · rw [Append.event_raw] at htenant
    obtain ⟨raw', ht, hsame⟩ := h.landed htenant happend
    refine ⟨{ t with raw := raw' }, ?_, hsame⟩
    rw [NormalizeEnv.append, ht]
    rfl
  · obtain ⟨points', ht, hsame⟩ :=
      h.pointed ((NormalizeEnv.normalize_tenantId hnormalize).trans htenant) happend
    refine ⟨{ t with points := points' }, ?_, hsame⟩
    rw [NormalizeEnv.append, hnormalize, ok_bind, ht]
    rfl

theorem append_other (htenant : a.event.tenantId ≠ tenantId)
    (h : n.append s a = .ok (accepted, s')) : SameFor tenantId s' s := by
  rcases append_effect h with ⟨event, raw, rfl, happend, rfl⟩ |
    ⟨event, point, points, rfl, hnormalize, happend, rfl⟩
  · refine ⟨fun id => ?_, ?_, fun _ _ => rfl⟩
    · rcases RawLanding.append_cases happend with ⟨_, _, _, _, rfl⟩ | ⟨_, _, hevents⟩
      · rfl
      · rw [hevents, Dict.get?_set_ne]
        exact fun heq => htenant (Prod.mk.inj heq).1
    · rw [RawLanding.append_ordered happend]
      cases accepted with
      | false => rfl
      | true =>
        rw [if_pos rfl, filter_append]
        simpa [RawEvent.key] using htenant
  · refine ⟨fun _ => rfl, rfl, fun metric timestamp => ?_⟩
    rcases append_cases happend with ⟨_, _, _, _, rfl⟩ | ⟨_, _, hlookup⟩
    · rfl
    rw [hlookup, if_neg]
    intro heq
    refine htenant ((normalize_tenantId hnormalize).symm.trans ?_)
    exact (Prod.mk.inj (Prod.mk.inj heq).1).1

theorem SameFor.append_error (h : SameFor tenantId s t) (htenant : a.event.tenantId = tenantId)
    {e : PyError} (hs : n.append s a = .error e) : ∃ e', n.append t a = .error e' := by
  cases ht : n.append t a with
  | error e' => exact ⟨e', rfl⟩
  | ok out =>
    obtain ⟨accepted, t'⟩ := out
    obtain ⟨_, hok, _⟩ := h.symm.append_same htenant ht
    cases hs.symm.trans hok

end

/-! ## One batch -/

section

variable {n : NormalizeEnv} {tenantId : String} {s t : Stores}

/-- The same flags and the same data, or an exception on both sides. -/
inductive SameRun (tenantId : String) :
    Except PyError (List Bool) × Stores → Except PyError (List Bool) × Stores → Prop
  | ok {flags : List Bool} {s t : Stores} (h : SameFor tenantId s t) :
      SameRun tenantId (.ok flags, s) (.ok flags, t)
  | error {e e' : PyError} {s t : Stores} (h : SameFor tenantId s t) :
      SameRun tenantId (.error e, s) (.error e', t)

variable {batch : List Append}

theorem SameFor.applyAll (h : SameFor tenantId s t)
    (htenant : ∀ a ∈ batch, a.event.tenantId = tenantId) :
    SameRun tenantId (Lib.applyAll n.append batch s) (Lib.applyAll n.append batch t) := by
  induction batch generalizing s t with
  | nil => exact .ok h
  | cons a rest ih =>
    obtain ⟨ha, hrest⟩ := forall_mem_cons.mp htenant
    rw [Lib.applyAll, Lib.applyAll]
    cases hs : n.append s a with
    | error e =>
      obtain ⟨e', ht⟩ := h.append_error ha hs
      rw [ht]
      exact .error h
    | ok out =>
      obtain ⟨accepted, s'⟩ := out
      obtain ⟨t', ht, hsame⟩ := h.append_same ha hs
      rw [ht]
      have hrun := ih hsame hrest
      simp only
      generalize Lib.applyAll n.append rest s' = left at hrun ⊢
      generalize Lib.applyAll n.append rest t' = right at hrun ⊢
      cases hrun with
      | ok hsame' => exact .ok hsame'
      | error hsame' => exact .error hsame'

theorem applyAll_other (htenant : ∀ a ∈ batch, a.event.tenantId ≠ tenantId) :
    SameFor tenantId (Lib.applyAll n.append batch s).2 s := by
  induction batch generalizing s with
  | nil => exact .refl tenantId s
  | cons a rest ih =>
    obtain ⟨ha, hrest⟩ := forall_mem_cons.mp htenant
    rw [Lib.applyAll]
    cases hs : n.append s a with
    | error e => exact .refl tenantId s
    | ok out =>
      obtain ⟨accepted, s'⟩ := out
      have hsame := (ih (s := s') hrest).trans (append_other ha hs)
      simp only
      cases hrun : Lib.applyAll n.append rest s' with
      | mk outcome s'' =>
        rw [hrun] at hsame
        cases outcome <;> exact hsame

/-- The view of a tenant: the breaker and its own data. -/
structure SameView (tenantId : String) (p q : IngestionProcessor) : Prop where
  breaker : p.breaker = q.breaker
  stores : SameFor tenantId p.stores q.stores

variable {p q : IngestionProcessor} {batch : Batch}

/-- **A batch of the tenant** is answered the same in the same view. -/
theorem SameView.receive (h : SameView tenantId p q)
    (hbatch : batch.tenantId = tenantId) :
    (n.receive p batch).1 = (n.receive q batch).1 ∧
      SameView tenantId (n.receive p batch).2 (n.receive q batch).2 := by
  obtain ⟨ps, breaker⟩ := p
  obtain ⟨qs, breaker'⟩ := q
  obtain ⟨rfl, hstores⟩ := h
  have hevents : ∀ a ∈ appends batch.events, a.event.tenantId = tenantId := fun a ha =>
    (batch.ownEvents _ (mem_appends ha)).trans hbatch
  have hrun := hstores.applyAll (n := n) hevents
  unfold receive ingest execute
  by_cases hopen : breaker.state batch.now = .opened
  · simp only [if_pos hopen]
    exact ⟨trivial, rfl, hstores⟩
  simp only [if_neg hopen, attempt, process_eq]
  generalize applyAll n.append (appends batch.events) ps = left at hrun ⊢
  generalize applyAll n.append (appends batch.events) qs = right at hrun ⊢
  cases hrun with
  | ok hsame => exact ⟨rfl, rfl, hsame⟩
  | error hsame =>
    simp only
    split
    · exact ⟨rfl, rfl, hsame⟩
    · exact ⟨rfl, rfl, hsame⟩

/-- A batch of another tenant does not move the breaker: the circuit is open, or
the batch is ingested while nothing has failed. -/
def Undisturbed (n : NormalizeEnv) (tenantId : String) (p : IngestionProcessor) (batch : Batch) :
    Prop :=
  batch.tenantId ≠ tenantId → p.breaker.state batch.now = .opened ∨
    (p.breaker.failures = 0 ∧ p.breaker.openedAt = none ∧
      ∃ result, (n.process batch.events .zero p.stores).1 = .ok result)

/-- **A batch of another tenant** that does not move the breaker is not noticed. -/
theorem SameView.other (h : SameView tenantId p q)
    (hguard : Undisturbed n tenantId p batch) (hbatch : batch.tenantId ≠ tenantId) :
    SameView tenantId (n.receive p batch).2 q := by
  obtain ⟨ps, breaker⟩ := p
  rcases hguard hbatch with hopen | ⟨hfailures, hopenedAt, result, hresult⟩
  · have hrefused : (n.receive ⟨ps, breaker⟩ batch).2 = ⟨ps, breaker⟩ := by
      unfold NormalizeEnv.receive NormalizeEnv.ingest execute
      simp only [if_pos (show breaker.state batch.now = .opened from hopen)]
    rw [hrefused]
    exact h
  · have hstate : breaker.state batch.now ≠ .opened := by
      have hnone : breaker.openedAt = none := hopenedAt
      simp only [state, hnone]
      split <;> simp
    have hclosed : breaker.closed = breaker := by
      cases breaker
      simp only [closed] at hfailures hopenedAt ⊢
      rw [hfailures, hopenedAt]
    have hprocess : n.process batch.events .zero ps =
        (.ok result, (n.process batch.events .zero ps).2) := Prod.ext hresult rfl
    have hreceive := ingest_eq_ok hstate batch.failedAt hprocess
    rw [NormalizeEnv.receive, hreceive, hclosed]
    refine ⟨h.breaker, SameFor.trans ?_ h.stores⟩
    show SameFor tenantId (n.process batch.events .zero ps).2 ps
    rw [process_stores]
    exact applyAll_other fun a ha heq =>
      hbatch ((batch.ownEvents _ (mem_appends ha)).symm.trans heq)

end

/-! ## Every run -/

def NormalizeEnv.answers (n : NormalizeEnv) (tenantId : String) (p : IngestionProcessor)
    (batches : List Batch) : List (Except PyError IngestionResult) :=
  keptOutputs n.receive (Batch.isOf tenantId) p batches

/-- **Every run** in which no other tenant moves the breaker is, for a tenant,
the run of its own batches. -/
theorem answers_own (n : NormalizeEnv) (tenantId : String) (p : IngestionProcessor)
    (batches : List Batch)
    (hguard : Guarded (fun p batch => (n.receive p batch).2) (Undisturbed n tenantId) p batches) :
    n.answers tenantId p batches =
        outputs n.receive p (batches.filter (Batch.isOf tenantId)) ∧
      SameView tenantId (n.receiveAll p batches)
        (n.receiveAll p (batches.filter (Batch.isOf tenantId))) := by
  refine keptOutputs_eq (R := SameView tenantId) (C := Undisturbed n tenantId) ?_ ?_ batches p p
    ⟨rfl, .refl tenantId p.stores⟩ hguard
  · intro p q batch h _ hkeep
    exact h.receive (by simpa [Batch.isOf] using hkeep)
  · intro p q batch h hundisturbed hkeep
    exact h.other hundisturbed (by simpa [Batch.isOf] using hkeep)

/-- **Main result.** Two sequences of batches with the same batches of a tenant,
in which no batch of another tenant moves the breaker: the tenant's batches are
answered the same, and the tenant has the same events and points afterwards. -/
theorem tenant_answers_eq (n : NormalizeEnv) (tenantId : String) (p : IngestionProcessor)
    (left right : List Batch)
    (hsame : left.filter (Batch.isOf tenantId) = right.filter (Batch.isOf tenantId))
    (hleft : Guarded (fun p batch => (n.receive p batch).2) (Undisturbed n tenantId) p left)
    (hright : Guarded (fun p batch => (n.receive p batch).2) (Undisturbed n tenantId) p right) :
    n.answers tenantId p left = n.answers tenantId p right ∧
      (n.receiveAll p left).stores.raw.query tenantId =
        (n.receiveAll p right).stores.raw.query tenantId ∧
      ∀ metric timestamp,
        (n.receiveAll p left).stores.points.lookup ((tenantId, metric), timestamp) =
          (n.receiveAll p right).stores.points.lookup ((tenantId, metric), timestamp) := by
  obtain ⟨hanswers, hview⟩ := answers_own n tenantId p left hleft
  obtain ⟨hanswers', hview'⟩ := answers_own n tenantId p right hright
  rw [← hsame] at hanswers' hview'
  have hstores := hview.stores.trans hview'.stores.symm
  exact ⟨hanswers.trans hanswers'.symm, hstores.query, hstores.points⟩

/-! ## Three malformed batches of another tenant -/

theorem ownEvents_sample (value : String) :
    ∀ event ∈ sampleBatch value, event.tenantId = "tenant-one" := by
  simp [sampleBatch, sampleEvent]

/-- Two good readings of the first tenant, at second one. -/
def goodBatch : Batch := ⟨"tenant-one", sampleBatch "7", 1, 1, ownEvents_sample "7"⟩

/-- A reading of the second tenant. -/
def otherEvent : RawEvent :=
  { sampleEvent "sensor-two:1" "2026-01-01T00:00:00+00:00" "7" with tenantId := "tenant-two" }

/-- The same without any payload. -/
def emptyEvent : RawEvent := { otherEvent with payload := [] }

theorem ownEvents_other : ∀ event ∈ [otherEvent], event.tenantId = "tenant-two" := by
  simp [otherEvent]

theorem ownEvents_empty : ∀ event ∈ [emptyEvent], event.tenantId = "tenant-two" := by
  simp [emptyEvent, otherEvent]

def otherBatch : Batch := ⟨"tenant-two", [otherEvent], 0, 0, ownEvents_other⟩

def badBatch : Batch := ⟨"tenant-two", [emptyEvent], 0, 0, ownEvents_empty⟩

theorem tenant_answers_eq_sample :
    sampleEnv.answers "tenant-one" ⟨.empty, {}⟩ [goodBatch] =
      sampleEnv.answers "tenant-one" ⟨.empty, {}⟩ [otherBatch, goodBatch] :=
  (tenant_answers_eq sampleEnv "tenant-one" ⟨.empty, {}⟩ [goodBatch] [otherBatch, goodBatch] rfl
    ⟨fun hne => absurd rfl hne, trivial⟩
    ⟨fun _ => .inr ⟨rfl, rfl, _, rfl⟩, fun hne => absurd rfl hne, trivial⟩).1

/-- The same batch of the first tenant is ingested alone, and refused after three
malformed ones of the second tenant. -/
theorem other_tenant_opens_circuit :
    sampleEnv.answers "tenant-one" ⟨.empty, {}⟩ [goodBatch] = [.ok ⟨2, 2, 0⟩] ∧
      sampleEnv.answers "tenant-one" ⟨.empty, {}⟩ [badBatch, badBatch, badBatch, goodBatch] =
        [.error (.connectionError "connector circuit is open")] :=
  ⟨rfl, by decide +kernel⟩

end ComputeWeaver.Ingestion
