/-
Ingestion.ReplayTheorems — ingesting a batch again after an
interruption.

The loop of `ingest` is the application of its single appends (`process_eq`),
and the appends settle in the sense of `Lib.Replay`: the first event of an id
and the first point of a place stay, and come again as duplicates. So a batch
that was cut off between any two appends can be ingested again.

One kind of point does not settle. A NaN is accepted where nothing is stored and
conflicts with itself ever after.
-/
import ComputeWeaver.Ingestion.Processor

namespace ComputeWeaver.Ingestion

open Lib TimeSeriesStore CircuitBreaker RawLanding IngestionResult NormalizeEnv List

/-! ## The two stores -/

section

variable {landing landing' : RawLanding} {event : RawEvent} {accepted : Bool} {stored : RawEvent}

theorem RawLanding.append_cases (h : landing.append event = .ok (accepted, landing')) :
    (∃ stored, landing.events.get? event.key = some stored ∧
        stored.payloadHash = event.payloadHash ∧ accepted = false ∧ landing' = landing) ∨
      (landing.events.get? event.key = none ∧ accepted = true ∧
        landing'.events = landing.events.set event.key event) := by
  unfold append at h
  split at h
  · rename_i stored hstored
    split at h
    · cases h
    · rename_i hhash
      cases h
      exact .inl ⟨stored, hstored, not_not.mp hhash, rfl, rfl⟩
  · rename_i hnone
    cases h
    exact .inr ⟨hnone, rfl, rfl⟩

theorem RawLanding.append_duplicate
    (h : landing.events.get? event.key = some stored)
    (hhash : stored.payloadHash = event.payloadHash) :
    landing.append event = .ok (false, landing) := by
  unfold append
  split
  · rename_i found hfound
    cases h.symm.trans hfound
    exact if_neg (not_not.mpr hhash)
  · rename_i hnone
    cases h.symm.trans hnone

theorem RawLanding.append_new (h : landing.events.get? event.key = none) :
    ∃ landing', landing.append event = .ok (true, landing') := by
  unfold append
  split
  · rename_i found hfound
    cases h.symm.trans hfound
  · exact ⟨_, rfl⟩

theorem RawLanding.append_get? (h : landing.append event = .ok (accepted, landing'))
    {key : String × String} (hstored : landing.events.get? key = some stored) :
    landing'.events.get? key = some stored := by
  rcases append_cases h with ⟨_, _, _, _, rfl⟩ | ⟨hnone, _, hevents⟩
  · exact hstored
  rw [hevents, Dict.get?_set_ne]
  · exact hstored
  · rintro rfl
    cases hnone.symm.trans hstored

variable {store store' : TimeSeriesStore} {point : NormalizedPoint} {stored : NormalizedPoint}

theorem TimeSeriesStore.lookup_set (store : TimeSeriesStore) (point : NormalizedPoint)
    (place : (String × String) × DateTime) :
    lookup ⟨store.points.set (point.tenantId, point.metric)
        ((store.series (point.tenantId, point.metric)).set point.timestamp point)⟩ place =
      if point.place = place then some point else store.lookup place := by
  obtain ⟨key, timestamp⟩ := place
  unfold lookup series NormalizedPoint.place
  rw [Dict.get?_set]
  by_cases hkey : (point.tenantId, point.metric) = key
  · subst hkey
    rw [if_pos rfl, Option.getD_some, Dict.get?_set]
    simp
  · rw [if_neg hkey, if_neg fun h => hkey (Prod.mk.inj h).1]

theorem TimeSeriesStore.append_cases (h : store.append point = .ok (accepted, store')) :
    (∃ stored, store.lookup point.place = some stored ∧ agrees stored point = true ∧
        accepted = false ∧ store' = store) ∨
      (store.lookup point.place = none ∧ accepted = true ∧
        ∀ place, store'.lookup place =
          if point.place = place then some point else store.lookup place) := by
  unfold append at h
  dsimp only at h
  split at h
  · rename_i stored hstored
    split at h
    · rename_i hagrees
      cases h
      exact .inl ⟨stored, hstored, hagrees, rfl, rfl⟩
    · cases h
  · rename_i hnone
    cases h
    exact .inr ⟨hnone, rfl, store.lookup_set point⟩

theorem TimeSeriesStore.append_duplicate
    (h : store.lookup point.place = some stored) (hagrees : agrees stored point = true) :
    store.append point = .ok (false, store) := by
  have hget : (store.series (point.tenantId, point.metric)).get? point.timestamp = some stored := h
  unfold append
  simp only [hget, hagrees, if_true]
  rfl

theorem TimeSeriesStore.append_new (h : store.lookup point.place = none) :
    ∃ store', store.append point = .ok (true, store') := by
  have hget : (store.series (point.tenantId, point.metric)).get? point.timestamp = none := h
  unfold append
  simp only [hget]
  exact ⟨_, rfl⟩

theorem TimeSeriesStore.append_lookup (h : store.append point = .ok (accepted, store'))
    {place : (String × String) × DateTime}
    (hstored : store.lookup place = some stored) : store'.lookup place = some stored := by
  rcases append_cases h with ⟨_, _, _, _, rfl⟩ | ⟨hnone, _, hlookup⟩
  · exact hstored
  rw [hlookup, if_neg]
  · exact hstored
  · rintro rfl
    cases hnone.symm.trans hstored

variable {d : PyDecimal}

/-- Only a NaN does not count as itself. -/
theorem decimalEq_self (h : d ≠ .nan) : decimalEq d d = true := by
  cases d with
  | finite q => simp [decimalEq]
  | infinity negative => simp [decimalEq]
  | nan => exact absurd rfl h

theorem ne_nan_of_decimalEq {e : PyDecimal} (h : decimalEq d e = true) : e ≠ .nan := by
  rintro rfl
  cases d <;> simp [decimalEq] at h

end

/-! ## The loop is its appends -/

section

variable (n : NormalizeEnv)

/-- The counters after the appends of whole events. -/
def tally : IngestionResult → List Bool → IngestionResult
  | result, landed :: pointed :: rest => tally ((result.landed landed).pointed pointed) rest
  | result, _ => result

theorem appends_cons (event : RawEvent) (rest : List RawEvent) :
    appends (event :: rest) = .raw event :: .point event :: appends rest := rfl

/-- **The loop is the application of its appends.** -/
theorem process_eq (events : List RawEvent) (result : IngestionResult) (s : Stores) :
    n.process events result s = match applyAll n.append (appends events) s with
      | (.error e, s') => (.error e, s')
      | (.ok flags, s') => (.ok (tally result flags), s') := by
  induction events generalizing result s with
  | nil => rfl
  | cons event rest ih =>
    rw [NormalizeEnv.process, appends_cons, applyAll, NormalizeEnv.append]
    cases hraw : s.raw.append event with
    | error e => rfl
    | ok out =>
      obtain ⟨landed, raw⟩ := out
      simp only [ok_bind, except_pure]
      rw [applyAll, NormalizeEnv.append]
      cases hpoint : n.normalize event with
      | error e => rfl
      | ok point =>
        simp only [ok_bind]
        cases hpoints : s.points.append point with
        | error e => rfl
        | ok out =>
          obtain ⟨pointed, points⟩ := out
          simp only [ok_bind, except_pure, ih]
          cases applyAll n.append (appends rest) ⟨raw, points⟩ with
          | mk outcome s' => cases outcome <;> rfl

variable {n} {events : List RawEvent} {s s' : Stores}

theorem process_stores (events : List RawEvent) (result : IngestionResult) (s : Stores) :
    (n.process events result s).2 = (applyAll n.append (appends events) s).2 := by
  rw [process_eq]
  cases applyAll n.append (appends events) s with
  | mk outcome s' => cases outcome <;> rfl

theorem process_eq_ok {result final : IngestionResult} :
    n.process events result s = (.ok final, s') ↔
      ∃ flags, applyAll n.append (appends events) s = (.ok flags, s') ∧
        final = tally result flags := by
  rw [process_eq]
  cases applyAll n.append (appends events) s with
  | mk outcome s'' =>
    cases outcome with
    | error e => simp
    | ok flags =>
      simp only [Prod.mk.injEq, Except.ok.injEq]
      constructor
      · rintro ⟨rfl, rfl⟩
        exact ⟨flags, ⟨rfl, rfl⟩, rfl⟩
      · rintro ⟨_, ⟨rfl, rfl⟩, rfl⟩
        exact ⟨rfl, rfl⟩

theorem tally_refused (events : List RawEvent) (result : IngestionResult) :
    tally result ((appends events).map fun _ => false) =
      { result with duplicates := result.duplicates + events.length } := by
  induction events generalizing result with
  | nil => rfl
  | cons event rest ih =>
    rw [appends_cons, map_cons, map_cons, tally, ih]
    simp only [landed, pointed, Bool.false_eq_true, if_false, length_cons]
    congr 1
    omega

end

/-! ## The appends settle -/

section

variable (n : NormalizeEnv)

/-- The event is stored with the append's payload; or a point is stored at the
place of its point, and the two compare. -/
def StoredAs (compare : NormalizedPoint → NormalizedPoint → Prop) (s : Stores) : Append → Prop
  | .raw event => ∃ stored, s.raw.events.get? event.key = some stored ∧
      stored.payloadHash = event.payloadHash
  | .point event => ∃ point stored, n.normalize event = .ok point ∧
      s.points.lookup point.place = some stored ∧ compare stored point

/-- The append would be a duplicate. -/
def Settled : Stores → Append → Prop :=
  StoredAs n fun stored point => TimeSeriesStore.agrees stored point = true

/-- What an append leaves: a NaN is stored, but does not agree with itself. -/
def Placed : Stores → Append → Prop :=
  StoredAs n fun stored point =>
    point.value ≠ .nan → TimeSeriesStore.agrees stored point = true

variable {n} {s s' : Stores} {accepted : Bool}
  {a : Append} {events : List RawEvent}

theorem append_effect (h : n.append s a = .ok (accepted, s')) :
    (∃ event raw, a = .raw event ∧ s.raw.append event = .ok (accepted, raw) ∧
        s' = { s with raw := raw }) ∨
      (∃ event point points, a = .point event ∧ n.normalize event = .ok point ∧
        s.points.append point = .ok (accepted, points) ∧ s' = { s with points := points }) := by
  cases a with
  | raw event =>
    obtain ⟨⟨flag, raw⟩, happend, h⟩ := bind_eq_ok.mp h
    cases h
    exact .inl ⟨event, raw, rfl, happend, rfl⟩
  | point event =>
    obtain ⟨point, hnormalize, h⟩ := bind_eq_ok.mp h
    obtain ⟨⟨flag, points⟩, happend, h⟩ := bind_eq_ok.mp h
    cases h
    exact .inr ⟨event, point, points, rfl, hnormalize, happend, rfl⟩

theorem append_keeps (h : n.append s a = .ok (accepted, s')) :
    (∀ key stored, s.raw.events.get? key = some stored →
        s'.raw.events.get? key = some stored) ∧
      ∀ place stored, s.points.lookup place = some stored →
        s'.points.lookup place = some stored := by
  rcases append_effect h with ⟨event, raw, _, happend, rfl⟩ |
    ⟨event, point, points, _, _, happend, rfl⟩
  · exact ⟨fun key stored => append_get? happend, fun _ _ hstored => hstored⟩
  · exact ⟨fun _ _ hstored => hstored, fun place stored => append_lookup happend⟩

theorem StoredAs.kept {compare : NormalizedPoint → NormalizedPoint → Prop} {b : Append}
    (hmark : StoredAs n compare s a) (h : n.append s b = .ok (accepted, s')) :
    StoredAs n compare s' a := by
  obtain ⟨hraw, hpoints⟩ := append_keeps h
  cases a with
  | raw event =>
    obtain ⟨stored, hstored, hhash⟩ := hmark
    exact ⟨stored, hraw _ _ hstored, hhash⟩
  | point event =>
    obtain ⟨point, stored, hnormalize, hstored, hcompare⟩ := hmark
    exact ⟨point, stored, hnormalize, hpoints _ _ hstored, hcompare⟩

theorem marking_placed (batch : List Append) : Marking n.append (Placed n) batch where
  marks := by
    intro a _ s accepted s' h
    rcases append_effect h with ⟨event, raw, rfl, happend, rfl⟩ |
      ⟨event, point, points, rfl, hnormalize, happend, rfl⟩
    · rcases append_cases happend with ⟨stored, hstored, hhash, _, rfl⟩ | ⟨_, _, hevents⟩
      · exact ⟨stored, hstored, hhash⟩
      · exact ⟨event, by rw [hevents, Dict.get?_set_self], rfl⟩
    rcases append_cases happend with
      ⟨stored, hstored, hagrees, _, rfl⟩ | ⟨_, _, hlookup⟩
    · exact ⟨point, stored, hnormalize, hstored, fun _ => hagrees⟩
    · refine ⟨point, point, hnormalize, by rw [hlookup, if_pos rfl], fun hvalue => ?_⟩
      simp [agrees, decimalEq_self hvalue]
  keeps := fun _ _ _ _ _ hplaced h => hplaced.kept h

def NanFree (n : NormalizeEnv) (events : List RawEvent) : Prop :=
  ∀ event ∈ events, ∀ point, n.normalize event = .ok point → point.value ≠ .nan

theorem mem_appends_point {event : RawEvent} :
    .point event ∈ appends events ↔ event ∈ events := by
  simp [appends]

theorem settling_appends (hnan : NanFree n events) :
    Settling n.append (Settled n) (appends events) where
  marks := by
    intro a ha s accepted s' h
    have hplaced := (marking_placed (n := n) _).marks a ha s accepted s' h
    cases a with
    | raw event => exact hplaced
    | point event =>
      obtain ⟨point, stored, hnormalize, hstored, hagrees⟩ := hplaced
      exact ⟨point, stored, hnormalize, hstored,
        hagrees (hnan event (mem_appends_point.mp ha) point hnormalize)⟩
  keeps := fun _ _ _ _ _ hsettled h => hsettled.kept h
  again := by
    intro s a hsettled
    cases a with
    | raw event =>
      obtain ⟨stored, hstored, hhash⟩ := hsettled
      rw [NormalizeEnv.append, append_duplicate hstored hhash]
      rfl
    | point event =>
      obtain ⟨point, stored, hnormalize, hstored, hagrees⟩ := hsettled
      rw [NormalizeEnv.append, hnormalize, ok_bind, append_duplicate hstored hagrees]
      rfl

end

/-! ## Batches that can be ingested -/

section

variable (n : NormalizeEnv)

/-- The payloads normalise, an id carries one payload, and no point conflicts
with another one or with what is stored. -/
structure Admissible (s : Stores) (events : List RawEvent) : Prop where
  normalises : ∀ event ∈ events, ∃ point, n.normalize event = .ok point
  payloads : events.Pairwise fun a b => a.key = b.key → a.payloadHash = b.payloadHash
  landed : ∀ event ∈ events, ∀ stored, s.raw.events.get? event.key = some stored →
    stored.payloadHash = event.payloadHash
  points : events.Pairwise fun a b => ∀ p q, n.normalize a = .ok p → n.normalize b = .ok q →
    p.place = q.place → TimeSeriesStore.agrees p q = true
  stored : ∀ event ∈ events, ∀ point stored, n.normalize event = .ok point →
    s.points.lookup point.place = some stored → TimeSeriesStore.agrees stored point = true

variable {n} {s : Stores} {events : List RawEvent} {event : RawEvent}

section

variable (h : Admissible n s (event :: events))
include h

theorem Admissible.raw : ∃ accepted raw, s.raw.append event = .ok (accepted, raw) := by
  cases hstored : s.raw.events.get? event.key with
  | some stored =>
    exact ⟨false, s.raw, append_duplicate hstored (h.landed event mem_cons_self stored hstored)⟩
  | none =>
    obtain ⟨raw, hraw⟩ := append_new hstored
    exact ⟨true, raw, hraw⟩

theorem Admissible.point {point : NormalizedPoint} (hpoint : n.normalize event = .ok point) :
    ∃ accepted points, s.points.append point = .ok (accepted, points) := by
  cases hstored : s.points.lookup point.place with
  | some stored =>
    exact ⟨false, s.points, append_duplicate hstored
      (h.stored event mem_cons_self point stored hpoint hstored)⟩
  | none =>
    obtain ⟨points, hpoints⟩ := append_new hstored
    exact ⟨true, points, hpoints⟩

theorem Admissible.tail {point : NormalizedPoint} (hpoint : n.normalize event = .ok point)
    {landed pointed : Bool} {raw : RawLanding} {points : TimeSeriesStore}
    (hraw : s.raw.append event = .ok (landed, raw))
    (hpoints : s.points.append point = .ok (pointed, points)) :
    Admissible n ⟨raw, points⟩ events := by
  obtain ⟨hfirst, hpayloads⟩ := pairwise_cons.mp h.payloads
  obtain ⟨hfirstPoint, hrestPoints⟩ := pairwise_cons.mp h.points
  refine ⟨fun other hother => h.normalises other (mem_cons_of_mem _ hother), hpayloads, ?_,
    hrestPoints, ?_⟩
  · intro other hother stored hstored
    have hlanded := h.landed other (mem_cons_of_mem _ hother)
    rcases append_cases hraw with ⟨_, _, _, _, rfl⟩ | ⟨_, _, hevents⟩
    · exact hlanded stored hstored
    rw [hevents, Dict.get?_set] at hstored
    split at hstored
    · rename_i hkey
      cases hstored
      exact hfirst other hother hkey
    · exact hlanded stored hstored
  · intro other hother q stored hq hstored
    have hold := h.stored other (mem_cons_of_mem _ hother) q
    rcases append_cases hpoints with ⟨_, _, _, _, rfl⟩ | ⟨_, _, hlookup⟩
    · exact hold stored hq hstored
    rw [hlookup] at hstored
    split at hstored
    · rename_i hplace
      cases hstored
      exact hfirstPoint other hother point q hpoint hq hplace
    · exact hold stored hq hstored

end

theorem Admissible.completes (h : Admissible n s events) :
    ∃ flags s', applyAll n.append (appends events) s = (.ok flags, s') := by
  induction events generalizing s with
  | nil => exact ⟨[], s, rfl⟩
  | cons event rest ih =>
    obtain ⟨point, hpoint⟩ := h.normalises event mem_cons_self
    obtain ⟨landed, raw, hraw⟩ := h.raw
    obtain ⟨pointed, points, hpoints⟩ := h.point hpoint
    obtain ⟨flags, s', hrest⟩ := ih (h.tail hpoint hraw hpoints)
    refine ⟨landed :: pointed :: flags, s', ?_⟩
    refine applyAll_cons_eq_ok.mpr ⟨landed, { s with raw := raw }, _, ?_,
      applyAll_cons_eq_ok.mpr ⟨pointed, ⟨raw, points⟩, flags, ?_, hrest, rfl⟩, rfl⟩
    · rw [NormalizeEnv.append, hraw]
      rfl
    · rw [NormalizeEnv.append, hpoint, ok_bind, hpoints]
      rfl

end

/-! ## Interruptions -/

section

variable {n : NormalizeEnv} {s s' : Stores} {events : List RawEvent}

/-- The breaker after a batch that was ingested. -/
def CircuitBreaker.closed (breaker : CircuitBreaker) : CircuitBreaker :=
  { breaker with failures := 0, openedAt := none }

theorem CircuitBreaker.closed_state (breaker : CircuitBreaker) (now : ℚ) :
    breaker.closed.state now ≠ .opened := by
  simp [closed, state]

variable {now : ℚ} {result : IngestionResult}

theorem ingest_eq_ok {breaker : CircuitBreaker} (hopen : breaker.state now ≠ .opened)
    (failedAt : ℚ) (h : n.process events .zero s = (.ok result, s')) :
    n.ingest ⟨s, breaker⟩ events now failedAt = (.ok result, ⟨s', breaker.closed⟩) := by
  simp only [ingest, execute, if_neg hopen, attempt, h, closed]

theorem process_of_ingest {processor processor' : IngestionProcessor} {failedAt : ℚ}
    (h : n.ingest processor events now failedAt = (.ok result, processor')) :
    n.process events .zero processor.stores = (.ok result, processor'.stores) := by
  unfold ingest execute at h
  split at h
  rename_i outcome breaker stores hexecute
  split at hexecute
  · cases hexecute
    cases h
  simp only [attempt] at hexecute
  split at hexecute
  · rename_i out s'' hprocess
    cases hexecute
    cases h
    exact hprocess
  · split at hexecute <;> cases hexecute <;> cases h

theorem ingest_stores (processor : IngestionProcessor) (events : List RawEvent) (now failedAt : ℚ) :
    (n.ingest processor events now failedAt).2.stores = processor.stores ∨
      (n.ingest processor events now failedAt).2.stores =
        (applyAll n.append (appends events) processor.stores).2 := by
  rw [← process_stores events .zero]
  unfold ingest execute
  by_cases hopen : processor.breaker.state now = .opened
  · simp only [if_pos hopen, true_or]
  refine .inr ?_
  simp only [if_neg hopen, attempt]
  cases n.process events .zero processor.stores with
  | mk outcome s' =>
    cases outcome with
    | ok result => rfl
    | error e =>
      simp only
      split <;> rfl

variable (n) in
/-- After an interruption anywhere, a run over the whole batch with the circuit
not open returns and leaves what an uninterrupted run leaves, and any further
run accepts nothing and changes nothing. -/
def Converges (s : Stores) (events : List RawEvent) : Prop :=
  ∀ (k : Nat) (breaker : CircuitBreaker) (now failedAt : ℚ), breaker.state now ≠ .opened →
    ∃ result processor,
      n.ingest ⟨n.interrupted events k s, breaker⟩ events now failedAt = (.ok result, processor) ∧
      processor.stores = (n.process events .zero s).2 ∧
      ∀ later laterFailed, n.ingest processor events later laterFailed =
        (.ok ⟨0, 0, events.length⟩, processor)

theorem converges_of_nanFree (h : Admissible n s events) (hnan : NanFree n events) :
    Converges n s events := by
  intro k breaker now failedAt hopen
  have hsettling := settling_appends hnan
  obtain ⟨flags, final, hrun⟩ := h.completes
  obtain ⟨flags', hrerun⟩ := hsettling.applyAll_take hrun k
  have hagain := hsettling.applyAll_again hrun
  have hprocess : n.process events .zero (n.interrupted events k s) =
      (.ok (tally .zero flags'), final) := process_eq_ok.mpr ⟨flags', hrerun, rfl⟩
  have huninterrupted : n.process events .zero s = (.ok (tally .zero flags), final) :=
    process_eq_ok.mpr ⟨flags, hrun, rfl⟩
  have hfurther : n.process events .zero final = (.ok ⟨0, 0, events.length⟩, final) := by
    refine process_eq_ok.mpr ⟨_, hagain, ?_⟩
    rw [tally_refused]
    simp [zero]
  refine ⟨_, _, ingest_eq_ok hopen failedAt hprocess, by rw [huninterrupted], ?_⟩
  intro later laterFailed
  exact ingest_eq_ok (breaker.closed_state later) laterFailed hfurther

/-- A NaN that has been stored conflicts with itself. -/
theorem nanFree_of_converges (h : Converges n s events) : NanFree n events := by
  intro event hevent point hpoint
  obtain ⟨result, processor, hrerun, _, hfurther⟩ := h 0 {} 0 0 (by simp [state])
  obtain ⟨_, hrun, _⟩ := process_eq_ok.mp (process_of_ingest hrerun)
  obtain ⟨_, hagain, _⟩ := process_eq_ok.mp (process_of_ingest (hfurther 0 0))
  have hmem := mem_appends_point.mpr hevent
  have hplaced := (marking_placed (appends events)).marksAll hrun _ hmem
  -- the further run comes to the point with one stored at its place
  obtain ⟨s', accepted, s'', ⟨p, stored, hp, hstored, _⟩, happend⟩ :=
    (marking_placed (appends events)).comes hplaced hmem hagain
  cases hpoint.symm.trans hp
  rcases append_effect happend with ⟨_, _, hraw, _⟩ | ⟨other, q, points, heq, hq, hpoints, _⟩
  · cases hraw
  cases heq
  cases hp.symm.trans hq
  rcases append_cases hpoints with ⟨found, hfound, hagrees, _, _⟩ | ⟨hnone, _, _⟩
  · exact ne_nan_of_decimalEq (Bool.and_eq_true _ _ ▸ hagrees).1
  · cases hstored.symm.trans hnone

/-- **Main result.** For every batch whose payloads normalise, whose ids carry
one payload each and whose points do not conflict, on any stores: ingesting it
again after an interruption between any two appends converges exactly if none
of its values is a NaN. -/
theorem converges_iff (n : NormalizeEnv) (s : Stores) (events : List RawEvent)
    (h : Admissible n s events) : Converges n s events ↔ NanFree n events :=
  ⟨nanFree_of_converges, converges_of_nanFree h⟩

end

/-! ## A sensor that reports no number -/

def sampleEnv : NormalizeEnv where
  env := { PyEnv.plain with
    parseDecimal := assocGet [("5", 5), ("7", 7)]
    parseTime := assocGet [("2026-01-01T00:00:00+00:00", .aware 1767225600000000),
      ("2026-01-01T00:15:00+00:00", .aware 1767226500000000)] }
  context := .exact

def sampleEvent (id timestamp value : String) : RawEvent where
  id := id
  tenantId := "tenant-one"
  source := "sensor-one"
  receivedAt := .aware 1767229200000000
  payload := [("metric", .str "hall.temperature"), ("timestamp", .str timestamp),
    ("value", .str value), ("unit", .str "degC"), ("meter_id", .str "sensor-one")]
  payloadHash := "hash of " ++ value

/-- Two readings of one sensor; the first has this value. -/
def sampleBatch (value : String) : List RawEvent :=
  [sampleEvent "sensor-one:1" "2026-01-01T00:00:00+00:00" value,
    sampleEvent "sensor-one:2" "2026-01-01T00:15:00+00:00" "5"]

def samplePoint (id : String) (micros : Int) (value : PyDecimal) (hash : String) :
    NormalizedPoint where
  id := "norm-" ++ id
  tenantId := "tenant-one"
  source := "sensor-one"
  metric := "hall.temperature"
  timestamp := .aware micros
  value := value
  unit := "degC"
  rawEventId := id
  rawPayloadHash := hash
  transformation := "degC->degC"

/-- Two readings at different times are admissible whatever the first one says. -/
theorem admissible_sampleBatch {value : String} {d : PyDecimal}
    (h : sampleEnv.normalize (sampleEvent "sensor-one:1" "2026-01-01T00:00:00+00:00" value) =
      .ok (samplePoint "sensor-one:1" 1767225600000000 d ("hash of " ++ value))) :
    Admissible sampleEnv .empty (sampleBatch value) := by
  have hsecond : sampleEnv.normalize
      (sampleEvent "sensor-one:2" "2026-01-01T00:15:00+00:00" "5") =
        .ok (samplePoint "sensor-one:2" 1767226500000000 (.finite 5) "hash of 5") := rfl
  refine ⟨?_, ?_, fun _ _ _ hnone => (by cases hnone), ?_, fun _ _ _ _ _ hnone => (by cases hnone)⟩
  · simp only [sampleBatch, forall_mem_cons, not_mem_nil, false_implies, implies_true,
      and_true]
    exact ⟨⟨_, h⟩, ⟨_, hsecond⟩⟩
  · simp [sampleBatch, RawEvent.key, sampleEvent]
  · simp only [sampleBatch, pairwise_cons, mem_singleton, forall_eq, not_mem_nil,
      false_implies, implies_true, List.Pairwise.nil, and_true]
    intro p q hp hq hplace
    cases h.symm.trans hp
    cases hsecond.symm.trans hq
    simp [NormalizedPoint.place, samplePoint] at hplace

theorem converges_iff_sample : Converges sampleEnv .empty (sampleBatch "7") := by
  refine (converges_iff sampleEnv .empty (sampleBatch "7")
    (admissible_sampleBatch (d := .finite 7) rfl)).mpr ?_
  intro event hevent point hpoint
  simp only [sampleBatch, mem_cons, not_mem_nil, or_false] at hevent
  rcases hevent with rfl | rfl <;> cases hpoint <;> simp

/-- The run is cut off after the first reading. Ingesting both again raises at
the first point, and the second reading never arrives; without the interruption
both are stored. -/
theorem nan_stops_replay :
    Admissible sampleEnv .empty (sampleBatch "NaN") ∧
      (sampleEnv.ingest ⟨sampleEnv.interrupted (sampleBatch "NaN") 2 .empty, {}⟩
        (sampleBatch "NaN") 0 0).1 = .error (.connectionError "connector operation failed") ∧
      ((sampleEnv.ingest ⟨sampleEnv.interrupted (sampleBatch "NaN") 2 .empty, {}⟩
        (sampleBatch "NaN") 0 0).2.stores.raw.query "tenant-one").map RawEvent.id =
          ["sensor-one:1"] ∧
      ((sampleEnv.process (sampleBatch "NaN") .zero .empty).2.raw.query "tenant-one").map
        RawEvent.id = ["sensor-one:1", "sensor-one:2"] :=
  ⟨admissible_sampleBatch (d := .nan) rfl, rfl, rfl, rfl⟩

end ComputeWeaver.Ingestion
