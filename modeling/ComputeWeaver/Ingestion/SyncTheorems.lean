/-
Ingestion.SyncTheorems — what has been ingested of a meter when a
watermark is committed.

A sync commits the end of its window as the watermark once ONE page of the
window is ingested, and the next sync starts at that watermark. If the window
was served in one page, all of it is ingested then, and the windows follow each
other without a gap (`Synced.step`). If pages remained, the watermark has
passed the intervals on them, and the cursor is sent along with another window.
-/
import ComputeWeaver.Api.TransitionsTheorems
import ComputeWeaver.Ingestion.Meters
import ComputeWeaver.Ingestion.ReplayTheorems

namespace ComputeWeaver.Ingestion

open Lib Api Persistence MeterApi Service List

/-! ## One request -/

section

variable {m : MeterApi} {x : ServiceState IngestionProcessor} {call : SyncCall}

/-- Everything that is in the stores stays in them. -/
def Keeps (m : MeterApi) (s s' : Stores) : Prop :=
  ∀ a, Placed m.normalizer s a → Placed m.normalizer s' a

theorem ingest_keeps (processor : IngestionProcessor) (events : List RawEvent) (now failedAt : ℚ) :
    Keeps m processor.stores (m.normalizer.ingest processor events now failedAt).2.stores := by
  intro a ha
  rcases ingest_stores (n := m.normalizer) processor events now failedAt with h | h
  · rw [h]
    exact ha
  · rw [h]
    exact (marking_placed (appends events)).keepsAll ha

/-- The request is not a retry, gets a page, and the page is ingested. -/
structure Commits (m : MeterApi) (x : ServiceState IngestionProcessor) (call : SyncCall)
    (r : Service.SyncRequest) (intervals : List Interval) (nextCursor : Option String)
    (processor : IngestionProcessor) : Prop where
  fresh : x.operations.get? (m.api.tenantId, call.context.idempotencyKey) = none
  request : m.service.syncRequest call.connectorId call.bodyId call.data x.stored = .ok r
  follows : r.start.micros < r.stop.micros
  served : (m.meters call.connectorId).serve r.start.micros r.stop.micros
    (r.offset.cursor.filter fun cursor => cursor ≠ "") = .ok (intervals, nextCursor)
  ingested : ∃ result, m.normalizer.ingest x.stored.ingested
    (intervals.map (m.event call.connectorId call.receivedAt)) call.now call.failedAt =
      (.ok result, processor)

theorem pull_eq_ok {configuration : Document} {start stop : DateTime} {cursor : Option String}
    {delivery : Delivery} {nextCursor : Option String}
    (h : m.pull call configuration start stop cursor = .ok (delivery, nextCursor)) :
    start.micros < stop.micros ∧ ∃ intervals,
      (m.meters call.connectorId).serve start.micros stop.micros
        (cursor.filter fun cursor => cursor ≠ "") = .ok (intervals, nextCursor) ∧
      delivery = ⟨intervals.map (m.event call.connectorId call.receivedAt), call.now,
        call.failedAt⟩ := by
  unfold pull at h
  split at h
  · cases h
  split at h
  · cases h
  rename_i hfollows
  obtain ⟨⟨intervals, next⟩, hserve, h⟩ := bind_eq_ok.mp h
  cases h
  exact ⟨not_le.mp hfollows, intervals, hserve, rfl⟩

/-- **One step.** A request leaves the offsets alone, or it commits. -/
theorem step_cases (m : MeterApi) (x : ServiceState IngestionProcessor) (call : SyncCall) :
    (∃ processor, (m.step x call).stored = { x.stored with ingested := processor } ∧
        Keeps m x.stored.ingested.stores processor.stores) ∨
      ∃ r intervals nextCursor processor, Commits m x call r intervals nextCursor processor ∧
        (m.step x call).stored =
          { x.stored with
            ingested := processor
            offsets := x.stored.offsets.set (m.api.tenantId, call.connectorId, r.stream)
              ⟨nextCursor, some r.stop⟩ } := by
  have hquiet : ∃ processor, x.stored = { x.stored with ingested := processor } ∧
      Keeps m x.stored.ingested.stores processor.stores :=
    ⟨x.stored.ingested, rfl, fun _ ha => ha⟩
  unfold step sync syncConnector
  cases hrequest : m.service.syncRequest call.connectorId call.bodyId call.data x.stored with
  | error e => exact .inl hquiet
  | ok r =>
    simp only [audited]
    rcases executeMemory_state m.service.env
      ⟨m.service.tenantId, call.context.idempotencyKey, "connector.sync", r.intent⟩
      (m.service.synchronize (m.pull call) call.connectorId r) x.operations x.stored with
      hstate | ⟨hfresh, hstate⟩
    · rw [hstate]
      exact .inl hquiet
    rw [hstate]
    unfold synchronize
    cases hpull : m.pull call r.configuration.body r.start.time r.stop.time r.offset.cursor with
    | error e => exact .inl hquiet
    | ok out =>
      obtain ⟨delivery, nextCursor⟩ := out
      obtain ⟨hfollows, intervals, hserve, rfl⟩ := pull_eq_ok hpull
      have hkeeps := ingest_keeps (m := m) x.stored.ingested
        (intervals.map (m.event call.connectorId call.receivedAt)) call.now call.failedAt
      simp only [service]
      cases hingest : m.normalizer.ingest x.stored.ingested
          (intervals.map (m.event call.connectorId call.receivedAt)) call.now
          call.failedAt with
      | mk outcome processor =>
        rw [hingest] at hkeeps
        cases outcome with
        | error e => exact .inl ⟨processor, rfl, hkeeps⟩
        | ok result =>
          exact .inr ⟨r, intervals, nextCursor, processor,
            ⟨hfresh, hrequest, hfollows, hserve, result, hingest⟩, rfl⟩

/-- Both appends of the interval are in the stores, as `Placed` says. -/
def Ingested (m : MeterApi) (connectorId : String) (s : Stores) (interval : Interval) : Prop :=
  ∃ receivedAt, Placed m.normalizer s (.raw (m.event connectorId receivedAt interval)) ∧
    Placed m.normalizer s (.point (m.event connectorId receivedAt interval))

theorem Ingested.kept {connectorId : String} {s s' : Stores} {interval : Interval}
    (h : Ingested m connectorId s interval) (hkeeps : Keeps m s s') :
    Ingested m connectorId s' interval := by
  obtain ⟨receivedAt, hraw, hpoint⟩ := h
  exact ⟨receivedAt, hkeeps _ hraw, hkeeps _ hpoint⟩

variable {r : Service.SyncRequest} {intervals : List Interval} {nextCursor : Option String}
  {processor : IngestionProcessor}

theorem Commits.keeps (h : Commits m x call r intervals nextCursor processor) :
    Keeps m x.stored.ingested.stores processor.stores := by
  obtain ⟨result, hingest⟩ := h.ingested
  have hkeeps := ingest_keeps (m := m) x.stored.ingested
    (intervals.map (m.event call.connectorId call.receivedAt)) call.now call.failedAt
  rwa [hingest] at hkeeps

theorem Commits.page_ingested (h : Commits m x call r intervals nextCursor processor) :
    ∀ interval ∈ intervals, Ingested m call.connectorId processor.stores interval := by
  intro interval hmem
  obtain ⟨result, hingest⟩ := h.ingested
  obtain ⟨flags, hrun, _⟩ := process_eq_ok.mp (process_of_ingest hingest)
  have hplaced := (marking_placed _).marksAll hrun
  have hevent := mem_map_of_mem (f := m.event call.connectorId call.receivedAt) hmem
  exact ⟨call.receivedAt, hplaced _ (mem_flatMap.mpr ⟨_, hevent, by simp⟩),
    hplaced _ (mem_flatMap.mpr ⟨_, hevent, by simp⟩)⟩

end

/-! ## Windows and offsets -/

theorem MeterStream.serve_whole {meter : MeterStream} {start stop : Int}
    {intervals : List Interval} (h : meter.serve start stop none = .ok (intervals, none))
    {interval : Interval} (hmem : interval ∈ meter.intervals) (hstart : start ≤ meter.time interval)
    (hstop : meter.time interval < stop) : interval ∈ intervals := by
  have hpages := meter.mem_pages start stop interval hmem hstart hstop
  have hpage : meter.page start stop 0 = (intervals, none) := Except.ok.inj h
  obtain ⟨hintervals, hnext⟩ := Prod.mk.inj hpage
  have hlength : (meter.pages start stop).length ≤ 1 := by
    by_contra hlong
    rw [if_pos (by omega)] at hnext
    cases hnext
  rw [← hintervals]
  cases hcut : meter.pages start stop with
  | nil =>
    rw [hcut] at hpages
    exact hpages
  | cons page rest =>
    rw [hcut] at hpages hlength
    obtain rfl : rest = [] := eq_nil_of_length_eq_zero (by simpa using hlength)
    simpa using hpages

section

variable {m : MeterApi} {s : Stored IngestionProcessor} {connectorId connectorId' stream
  stream' : String}

theorem offsetOf_set (processor : IngestionProcessor) (offset : ConnectorOffset) :
    m.service.offsetOf
        { s with
          ingested := processor
          offsets := s.offsets.set (m.api.tenantId, connectorId', stream') offset }
        connectorId stream =
      if connectorId' = connectorId ∧ stream' = stream then offset
      else m.service.offsetOf s connectorId stream := by
  unfold offsetOf
  simp only [service, Dict.get?_set, Prod.mk.injEq, true_and]
  split <;> rfl

end

/-! ## Runs -/

section

variable (m : MeterApi) (connectorId stream : String) (first : Int)

def offset (x : ServiceState IngestionProcessor) : ConnectorOffset :=
  m.service.offsetOf x.stored connectorId stream

/-- Every interval of the meter from the first start up to the watermark is
ingested. -/
def NoGap (x : ServiceState IngestionProcessor) : Prop :=
  ∀ watermark, (offset m connectorId stream x).watermark = some watermark →
    ∀ interval ∈ (m.meters connectorId).intervals, first ≤ (m.meters connectorId).time interval →
      (m.meters connectorId).time interval < watermark.micros →
      Ingested m connectorId x.stored.ingested.stores interval

def NotBefore (earlier later : Option ZonedTime) : Prop :=
  ∀ watermark, earlier = some watermark →
    ∃ watermark', later = some watermark' ∧ watermark.micros ≤ watermark'.micros

/-- The syncs of the stream start where the last one ended. A start is given only
while there is no watermark, and it is the first start. -/
def DefaultStart (x : ServiceState IngestionProcessor) (call : SyncCall) : Prop :=
  call.connectorId = connectorId → m.service.streamOf call.data = stream →
    (docGetD call.data "start" .none).truthy = true →
    (offset m connectorId stream x).watermark = none ∧
      ZonedTime.time <$> m.service.toDateTime (docGetD call.data "start" .none) =
        .ok (.aware first)

/-- A sync of the stream that commits has been answered without a next cursor. -/
def LastPage (x : ServiceState IngestionProcessor) (call : SyncCall) : Prop :=
  call.connectorId = connectorId → ∀ r intervals nextCursor processor,
    Commits m x call r intervals nextCursor processor → r.stream = stream → nextCursor = none

/-- What the syncs keep: no cursor is left over, and there is no gap. -/
structure Synced (x : ServiceState IngestionProcessor) : Prop where
  cursor : (offset m connectorId stream x).cursor = none
  noGap : NoGap m connectorId stream first x

variable {m connectorId stream first} {x : ServiceState IngestionProcessor} {call : SyncCall}

/-- A request starts at the first start while there is no watermark, and at the
watermark otherwise. -/
theorem DefaultStart.start_eq (h : DefaultStart m connectorId stream first x call)
    {r : Service.SyncRequest}
    (hrequest : m.service.syncRequest call.connectorId call.bodyId call.data x.stored = .ok r)
    (hid : call.connectorId = connectorId) (hstream : r.stream = stream) :
    r.offset = offset m connectorId stream x ∧
      (((offset m connectorId stream x).watermark = none ∧ r.start.time = .aware first) ∨
        (offset m connectorId stream x).watermark = some r.start) := by
  obtain ⟨_, _, hstreamOf, _, hoffset, htimes, hstart, _⟩ := syncRequest_eq_ok.mp hrequest
  subst hid hstream
  have hsame : r.offset = offset m call.connectorId r.stream x := hoffset
  refine ⟨hsame, ?_⟩
  by_cases hgiven : (docGetD call.data "start" .none).truthy = true
  · obtain ⟨hnone, hfirst⟩ := h rfl hstreamOf.symm hgiven
    rw [← hsame] at hnone
    simp only [startOf, hnone] at hstart
    rw [hstart] at hfirst
    exact .inl ⟨hsame ▸ hnone, Except.ok.inj hfirst⟩
  · rw [← hsame]
    exact .inr (watermark_of_start hgiven htimes.1 hstart)

/-- What a request does to the stream: the offset stays, or the stream commits. -/
theorem offset_step (m : MeterApi) (connectorId stream : String)
    (x : ServiceState IngestionProcessor) (call : SyncCall) :
    Keeps m x.stored.ingested.stores (m.step x call).stored.ingested.stores ∧
      (offset m connectorId stream (m.step x call) = offset m connectorId stream x ∨
        ∃ r intervals nextCursor processor, Commits m x call r intervals nextCursor processor ∧
          call.connectorId = connectorId ∧ r.stream = stream ∧
          (m.step x call).stored.ingested = processor ∧
          offset m connectorId stream (m.step x call) = ⟨nextCursor, some r.stop⟩) := by
  rcases step_cases m x call with ⟨processor, hstored, hkeeps⟩ |
    ⟨r, intervals, nextCursor, processor, hcommits, hstored⟩
  · refine ⟨by rw [hstored]; exact hkeeps, .inl ?_⟩
    rw [offset, hstored]
    rfl
  refine ⟨by rw [hstored]; exact hcommits.keeps, ?_⟩
  rw [offset, hstored, offsetOf_set]
  by_cases hsame : call.connectorId = connectorId ∧ r.stream = stream
  · rw [if_pos hsame]
    exact .inr ⟨r, intervals, nextCursor, processor, hcommits, hsame.1, hsame.2, rfl, rfl⟩
  · rw [if_neg hsame]
    exact .inl rfl

/-- **One step** keeps the stream without a gap. -/
theorem Synced.step (h : Synced m connectorId stream first x)
    (hstart : DefaultStart m connectorId stream first x call)
    (hlast : LastPage m connectorId stream x call) :
    Synced m connectorId stream first (m.step x call) := by
  obtain ⟨hkeeps, hoffset | ⟨r, intervals, nextCursor, processor, hcommits, hid, hstream,
    hprocessor, hoffset⟩⟩ := offset_step m connectorId stream x call
  · refine ⟨by rw [hoffset]; exact h.cursor, ?_⟩
    intro watermark hwatermark interval hmem hfirst hbefore
    rw [hoffset] at hwatermark
    exact (h.noGap watermark hwatermark interval hmem hfirst hbefore).kept hkeeps
  · obtain rfl := hlast hid r intervals nextCursor processor hcommits hstream
    obtain ⟨hsame, hcase⟩ := hstart.start_eq hcommits.request hid hstream
    refine ⟨by rw [hoffset], ?_⟩
    intro watermark hwatermark interval hmem hfirst hbefore
    rw [hoffset] at hwatermark
    cases hwatermark
    by_cases hwindow : r.start.micros ≤ (m.meters connectorId).time interval
    · -- the interval is in the window, which is one page
      have hserved := hcommits.served
      rw [hsame, h.cursor, hid] at hserved
      have hpage := MeterStream.serve_whole hserved hmem hwindow hbefore
      have hingested := hcommits.page_ingested interval hpage
      rw [hprocessor]
      rwa [hid] at hingested
    · -- it is before the window, so it is covered by the watermark there was
      rcases hcase with ⟨_, hfirstStart⟩ | hwatermark
      · rw [ZonedTime.micros, hfirstStart] at hwindow
        exact absurd hfirst hwindow
      · exact (h.noGap r.start hwatermark interval hmem hfirst (not_le.mp hwindow)).kept hkeeps

/-- **One step** does not move the watermark back. -/
theorem notBefore_step (hstart : DefaultStart m connectorId stream first x call) :
    NotBefore (offset m connectorId stream x).watermark
      (offset m connectorId stream (m.step x call)).watermark := by
  intro watermark hwatermark
  obtain ⟨_, hoffset | ⟨r, _, _, _, hcommits, hid, hstream, _, hoffset⟩⟩ :=
    offset_step m connectorId stream x call
  · rw [hoffset]
    exact ⟨watermark, hwatermark, le_refl _⟩
  obtain ⟨_, ⟨hnone, _⟩ | hsome⟩ := hstart.start_eq hcommits.request hid hstream
  · rw [hnone] at hwatermark
    cases hwatermark
  rw [hsome] at hwatermark
  cases hwatermark
  rw [hoffset]
  exact ⟨r.stop, rfl, hcommits.follows.le⟩

theorem NotBefore.trans {a b c : Option ZonedTime} (h : NotBefore a b) (h' : NotBefore b c) :
    NotBefore a c := by
  intro watermark hwatermark
  obtain ⟨middle, hmiddle, hle⟩ := h watermark hwatermark
  obtain ⟨later, hlater, hle'⟩ := h' middle hmiddle
  exact ⟨later, hlater, hle.trans hle'⟩

/-- **Every run** of default syncs moves the watermark forward only. -/
theorem notBefore_run {calls : List SyncCall}
    (hstart : Guarded m.step (DefaultStart m connectorId stream first) x calls) :
    NotBefore (offset m connectorId stream x).watermark
      (offset m connectorId stream (run m.step x calls)).watermark :=
  guarded_invariant
    (P := fun y => NotBefore (offset m connectorId stream x).watermark
      (offset m connectorId stream y).watermark)
    (fun _ _ hstart h => h.trans (notBefore_step hstart)) calls x hstart
    (fun watermark hwatermark => ⟨watermark, hwatermark, le_refl _⟩)

end

/-- **Main result.** In every run of syncs of any connectors and streams in which
those of one stream start where the last one ended, and commit only on an answer
without a next cursor: at every moment all intervals from the first start up to
the watermark are ingested, and the watermark is not before any earlier one. -/
theorem noGap_runs (m : MeterApi) (connectorId stream : String) (first : Int)
    (x : ServiceState IngestionProcessor) (calls : List SyncCall)
    (hfresh : offset m connectorId stream x = ⟨none, none⟩)
    (hstart : Guarded m.step (DefaultStart m connectorId stream first) x calls)
    (hlast : Guarded m.step (LastPage m connectorId stream) x calls) :
    ∀ pre, pre <+: calls →
      NoGap m connectorId stream first (run m.step x pre) ∧
        ∀ earlier, earlier <+: pre →
          NotBefore (offset m connectorId stream (run m.step x earlier)).watermark
            (offset m connectorId stream (run m.step x pre)).watermark := by
  rintro pre ⟨rest, rfl⟩
  have hstart' := ((guarded_append x pre rest).mp hstart).1
  have hlast' := ((guarded_append x pre rest).mp hlast).1
  constructor
  · have hsynced : Synced m connectorId stream first x := by
      refine ⟨by rw [hfresh], fun watermark hwatermark => ?_⟩
      rw [hfresh] at hwatermark
      cases hwatermark
    exact (guarded_invariant (P := Synced m connectorId stream first)
      (fun _ _ hguards h => h.step hguards.1 hguards.2) pre x
      (guarded_and hstart' hlast') hsynced).noGap
  · rintro earlier ⟨later, rfl⟩
    rw [run_append]
    exact notBefore_run ((guarded_append x earlier later).mp hstart').2

/-! ## A meter with two readings -/

def meterEnv : PyEnv :=
  { PyEnv.plain with
    parseDecimal := assocGet [("5", 5), ("7", 7)]
    parseTime := assocGet [("2026-01-01T00:00:00+00:00", .aware 1767225600000000),
      ("2026-01-01T00:15:00+00:00", .aware 1767226500000000),
      ("2026-01-01T01:00:00+00:00", .aware 1767229200000000),
      ("2026-01-01T02:00:00+00:00", .aware 1767232800000000)] }

def reading (id timestamp value : String) : Interval :=
  ⟨some id, "hall.temperature", timestamp, value, "degC", "meter-1"⟩

def readings : List Interval :=
  [reading "a" "2026-01-01T00:00:00+00:00" "5", reading "b" "2026-01-01T00:15:00+00:00" "7"]

def readingTime (interval : Interval) : Int :=
  ((meterEnv.parseTime interval.timestamp).map DateTime.micros).getD 0

def readingsIn (start stop : Int) : List Interval :=
  readings.filter fun interval => start ≤ readingTime interval ∧ readingTime interval < stop

def singly (start stop : Int) : List (List Interval) :=
  (readingsIn start stop).map fun interval => [interval]

theorem mem_readingsIn {start stop : Int} {interval : Interval} (hmem : interval ∈ readings)
    (hstart : start ≤ readingTime interval) (hstop : readingTime interval < stop) :
    interval ∈ readingsIn start stop :=
  mem_filter.mpr ⟨hmem, decide_eq_true ⟨hstart, hstop⟩⟩

theorem mem_whole (start stop : Int) (interval : Interval) (hmem : interval ∈ readings)
    (hstart : start ≤ readingTime interval) (hstop : readingTime interval < stop) :
    interval ∈ [readingsIn start stop].flatten :=
  mem_flatten_of_mem mem_cons_self (mem_readingsIn hmem hstart hstop)

theorem mem_singly (start stop : Int) (interval : Interval) (hmem : interval ∈ readings)
    (hstart : start ≤ readingTime interval) (hstop : readingTime interval < stop) :
    interval ∈ (singly start stop).flatten :=
  mem_flatten_of_mem (mem_map_of_mem (mem_readingsIn hmem hstart hstop))
    mem_cons_self

/-- The readings of a window in one page. A cursor is the number of a page. -/
def wholeMeter : MeterStream where
  intervals := readings
  time := readingTime
  pages := fun start stop => [readingsIn start stop]
  mem_pages := mem_whole
  cursor := fun _ _ k => toString k
  stray := fun _ _ _ => .ok ([], none)

/-- The same with a page for each reading. -/
def pagedMeter : MeterStream := { wholeMeter with pages := singly, mem_pages := mem_singly }

def meterApi (meter : MeterStream) : MeterApi where
  api := ⟨meterEnv, "tenant-one"⟩
  calendar := ⟨fun _ => none, fun _ => none⟩
  rounding := sampleEnv.context
  meters := fun _ => meter

/-- The connector is registered, and nothing has been ingested. -/
def meterState : ServiceState IngestionProcessor :=
  let governed := ApiState.empty.governed
  let store := governed.store.step meterEnv
    { kind := "connector", resourceId := "meter-1", tenantId := "tenant-one"
      body := [("type", .str "https_meter")], idempotencyKey := "connector-1" }
  ⟨⟨{ governed with store }, .empty, ⟨.empty, {}⟩⟩, .empty⟩

def syncCall (context : ApiContext) (data : Document) : SyncCall where
  context := context
  connectorId := "meter-1"
  bodyId := "meter-1"
  data := data
  outage := none
  receivedAt := .aware 1767232800000000
  now := 0
  failedAt := 0

def firstSync : SyncCall :=
  syncCall (operator "alice" "sync-one" none (by decide))
    [("start", .str "2026-01-01T00:00:00+00:00"), ("end", .str "2026-01-01T01:00:00+00:00")]

def nextSync : SyncCall :=
  syncCall (operator "alice" "sync-two" none (by decide))
    [("end", .str "2026-01-01T02:00:00+00:00")]

theorem defaultStart_syncs (meter : MeterStream) :
    Guarded (meterApi meter).step
      (DefaultStart (meterApi meter) "meter-1" "intervals" 1767225600000000) meterState
      [firstSync, nextSync] :=
  ⟨fun _ _ _ => ⟨rfl, rfl⟩, fun _ _ hgiven => absurd hgiven (by decide), trivial⟩

theorem lastPage_whole {x : ServiceState IngestionProcessor} {call : SyncCall} :
    LastPage (meterApi wholeMeter) "meter-1" "intervals" x call := by
  intro _ r intervals nextCursor processor hcommits _
  have hserved := hcommits.served
  cases hcursor : r.offset.cursor.filter fun cursor => cursor ≠ "" with
  | none =>
    rw [hcursor] at hserved
    cases hserved
    rfl
  | some cursor =>
    rw [hcursor, MeterStream.serve] at hserved
    split at hserved
    · rename_i k hk
      have hlt : k < 1 := mem_range.mp (mem_of_find?_eq_some hk)
      obtain rfl : k = 0 := by omega
      cases hserved
      rfl
    · cases hserved
      rfl

theorem noGap_runs_whole :
    NoGap (meterApi wholeMeter) "meter-1" "intervals" 1767225600000000
        (run (meterApi wholeMeter).step meterState [firstSync, nextSync]) ∧
      (offset (meterApi wholeMeter) "meter-1" "intervals"
        (run (meterApi wholeMeter).step meterState [firstSync, nextSync])).watermark =
          some ⟨.aware 1767232800000000, 0⟩ :=
  ⟨(noGap_runs (meterApi wholeMeter) "meter-1" "intervals" 1767225600000000 meterState
      [firstSync, nextSync] rfl (defaultStart_syncs wholeMeter)
      ⟨lastPage_whole, lastPage_whole, trivial⟩ _ (prefix_refl _)).1, by decide +kernel⟩

/-- The first sync ingests one of the two readings of its window, the next one
asks for a later window with the cursor of the first. The second reading never
arrives, and the watermark has passed it. -/
theorem page_left_behind :
    Guarded (meterApi pagedMeter).step
        (DefaultStart (meterApi pagedMeter) "meter-1" "intervals" 1767225600000000) meterState
        [firstSync, nextSync] ∧
      offset (meterApi pagedMeter) "meter-1" "intervals"
        (run (meterApi pagedMeter).step meterState [firstSync, nextSync]) =
          ⟨none, some ⟨.aware 1767232800000000, 0⟩⟩ ∧
      ¬ NoGap (meterApi pagedMeter) "meter-1" "intervals" 1767225600000000
        (run (meterApi pagedMeter).step meterState [firstSync, nextSync]) := by
  have hoffset : offset (meterApi pagedMeter) "meter-1" "intervals"
      (run (meterApi pagedMeter).step meterState [firstSync, nextSync]) =
        ⟨none, some ⟨.aware 1767232800000000, 0⟩⟩ := by decide +kernel
  have hlost : ((run (meterApi pagedMeter).step meterState
      [firstSync, nextSync]).stored.ingested.stores.raw.events.get?
        ("tenant-one", "meter-1:b")).isNone = true := by decide +kernel
  refine ⟨defaultStart_syncs pagedMeter, hoffset, fun h => ?_⟩
  obtain ⟨_, ⟨stored, hstored, _⟩, _⟩ := h ⟨.aware 1767232800000000, 0⟩ (by rw [hoffset])
    (reading "b" "2026-01-01T00:15:00+00:00" "7") (by decide) (by decide) (by decide)
  have hfound : (run (meterApi pagedMeter).step meterState
      [firstSync, nextSync]).stored.ingested.stores.raw.events.get?
        ("tenant-one", "meter-1:b") = some stored := hstored
  rw [hfound] at hlost
  cases hlost

end ComputeWeaver.Ingestion
