/-
Topology.PostgresRegistryTheorems — drafts and what is published
of them, after any interleaving of the registry's transactions.

`create_draft` takes its revision from the row it has locked, so the revisions
of drafts that found a row go up one by one. The first draft finds no row and
has nothing to lock: several calls can come past that `SELECT` together, and
each of them writes revision 1 over what is committed by then. The condition is
that this does not happen: a draft that found no row still finds none when it
commits (`Alone`).
-/
import ComputeWeaver.Topology.PostgresRegistry
import ComputeWeaver.Lib.Calls

namespace ComputeWeaver.Topology

open Lib Api Persistence Function RegistryTx

/-! ## Reading a draft back -/

section

variable {registry : Registry}

theorem readDraft_eq_ok (hdecimal : DecimalText registry.env) (htime : TimeText registry.env)
    {revision expected : Int} {given : List Asset} {edges : List Relationship}
    {assets : List Asset} {relationships : List Relationship}
    (h : registry.readDraft (some (registry.draftRow revision given edges)) expected =
      .ok (assets, relationships)) :
    revision = expected ∧ assets = given ∧ relationships = edges := by
  have hassets : (given.map fun asset => asset.stored registry.env).mapM
      (Asset.ofDict registry.env) = .ok (given.map id) :=
    except_mapM_map id fun asset _ => Asset.ofDict_stored hdecimal htime asset
  have hedges : (edges.map fun relationship => Value.dict relationship.asdict).mapM
      Relationship.ofDict = .ok (edges.map id) :=
    except_mapM_map id fun relationship _ => Relationship.ofDict_asdict relationship
  rw [Registry.readDraft] at h
  split at h
  · cases h
  rename_i hrevision
  simp only [Registry.draftRow, hassets, hedges, ok_bind, List.map_id] at h
  obtain ⟨_, _, h⟩ := bind_eq_ok.mp h
  cases h
  exact ⟨not_not.mp hrevision, rfl, rfl⟩

end

/-! ## What is to hold -/

section

variable (calls : Nat → RegistryCall) (x : RegistryTx)

/-- A `create_draft` with these arguments has returned this revision. -/
def Returned (revision : Int) (assets : List Asset) (relationships : List Relationship) : Prop :=
  ∃ j, calls j = .createDraft assets relationships ∧ x.phase j = .ended (.ok (.draft revision))

/-- No two drafts have one revision, and what was published under a revision is
what was given to the `create_draft` that returned it. -/
structure Exact : Prop where
  unique : ∀ i j revision, x.phase i = .ended (.ok (.draft revision)) →
    x.phase j = .ended (.ok (.draft revision)) → i = j
  published : ∀ i expected snapshot, calls i = .publish expected →
    x.phase i = .ended (.ok (.published snapshot)) →
      Returned calls x expected snapshot.assets snapshot.relationships

/-- The call has written a draft and had found none. -/
def RegistryPhase.isFirst : RegistryPhase → Bool
  | .written false _ => true
  | _ => false

/-- A draft that found no row still finds none when it commits. -/
def Alone : RegistryMove → Prop
  | .advance i _ => (x.phase i).isFirst = true → x.draft = none
  | .abort _ _ => True

instance (x : RegistryTx) : (move : RegistryMove) → Decidable (Alone x move)
  | .advance i _ => inferInstanceAs (Decidable ((x.phase i).isFirst = true → x.draft = none))
  | .abort _ _ => isTrue trivial

end

/-! ## The invariant -/

section

variable (registry : Registry) (calls : Nat → RegistryCall)

def Relies (x : RegistryTx) (i : Nat) : RegistryCall → RegistryPhase → Prop
  | .createDraft _ _, .revised true revision => x.locks () = some i ∧
      ∃ row, x.draft = some row ∧ revision = row.revision + 1
  | .createDraft _ _, .revised false revision => revision = 1
  | .createDraft assets relationships, .written true row => x.locks () = some i ∧
      ∃ old, x.draft = some old ∧ row = registry.draftRow (old.revision + 1) assets relationships
  | .createDraft assets relationships, .written false row => x.locks () = some i ∧
      row = registry.draftRow 1 assets relationships
  | .publish _, .revised _ _ => False
  | .publish _, .written _ _ => False
  | .publish expected, .drafted assets relationships =>
      Returned calls x expected assets relationships
  | .publish expected, .numbered _ assets relationships =>
      Returned calls x expected assets relationships
  | .publish expected, .inserted snapshot =>
      Returned calls x expected snapshot.assets snapshot.relationships
  | .publish expected, .ended (.ok (.published snapshot)) =>
      Returned calls x expected snapshot.assets snapshot.relationships
  | _, _ => True

structure Revised (x : RegistryTx) : Prop where
  current : ∀ row, x.draft = some row → ∃ assets relationships,
    Returned calls x row.revision assets relationships ∧
      row = registry.draftRow row.revision assets relationships
  first : ∀ row, x.draft = some row → ∃ j, x.phase j = .ended (.ok (.draft 1))
  bounded : ∀ j revision, x.phase j = .ended (.ok (.draft revision)) →
    ∃ row, x.draft = some row ∧ revision ≤ row.revision
  unique : ∀ i j revision, x.phase i = .ended (.ok (.draft revision)) →
    x.phase j = .ended (.ok (.draft revision)) → i = j
  relies : ∀ i, Relies registry calls x i (calls i) (x.phase i)

variable {registry calls} {x x' : RegistryTx} {i : Nat}

theorem revised_init (registry : Registry) (calls : Nat → RegistryCall) :
    Revised registry calls .init where
  current _ h := by cases h
  first _ h := by cases h
  bounded _ _ h := by cases h
  unique _ _ _ h := by cases h
  relies i := by cases calls i <;> trivial

theorem Revised.exact (h : Revised registry calls x) : Exact calls x := by
  refine ⟨h.unique, fun i expected snapshot hcall hphase => ?_⟩
  have hrelies := h.relies i
  rw [hcall, hphase] at hrelies
  exact hrelies

/-! ## Steps that commit no draft -/

def Stays (x x' : RegistryTx) : Prop :=
  ∀ j reply, x.phase j = .ended reply → x'.phase j = .ended reply

/-- The call has not ended. -/
@[simp] def RegistryPhase.Open (phase : RegistryPhase) : Prop := ∀ reply, phase ≠ .ended reply

variable {revision : Int} {assets : List Asset} {relationships : List Relationship}

theorem Returned.stays (hstays : Stays x x') (h : Returned calls x revision assets relationships) :
    Returned calls x' revision assets relationships := by
  obtain ⟨j, hcall, hphase⟩ := h
  exact ⟨j, hcall, hstays j _ hphase⟩

theorem stays_update (hopen : (x.phase i).Open)
    (hothers : ∀ j, j ≠ i → x'.phase j = x.phase j) : Stays x x' := by
  intro j reply hphase
  have hj : j ≠ i := by
    rintro rfl
    exact hopen reply hphase
  rw [hothers j hj, hphase]

/-- What another call relies on: the draft as long as it has the lock, and calls
that have returned. -/
theorem Relies.frame {j : Nat} {call : RegistryCall} {phase : RegistryPhase}
    (h : Relies registry calls x j call phase) (hstays : Stays x x')
    (hlock : x.locks () = some j → x'.locks () = some j ∧ x'.draft = x.draft) :
    Relies registry calls x' j call phase := by
  cases call with
  | createDraft assets relationships =>
    cases phase with
    | revised found revision =>
      cases found with
      | false => exact h
      | true =>
        obtain ⟨hlock', hdraft⟩ := hlock h.1
        exact ⟨hlock', hdraft ▸ h.2⟩
    | written found row =>
      cases found with
      | false => exact ⟨(hlock h.1).1, h.2⟩
      | true =>
        obtain ⟨hlock', hdraft⟩ := hlock h.1
        exact ⟨hlock', hdraft ▸ h.2⟩
    | _ => trivial
  | publish expected =>
    cases phase with
    | revised _ _ => exact h
    | written _ _ => exact h
    | drafted _ _ | numbered _ _ _ | inserted _ => exact Returned.stays hstays h
    | ended reply =>
      cases reply with
      | error _ => trivial
      | ok reply =>
        cases reply with
        | draft _ => trivial
        | published _ => exact Returned.stays hstays h
    | _ => trivial

/-- A step of a call that had not ended and does not commit a draft. -/
structure QuietStep (i : Nat) (x x' : RegistryTx) (phase : RegistryPhase) : Prop where
  draft : x'.draft = x.draft
  locks : Locks.KeepsOthers i x.locks x'.locks
  others : ∀ j, j ≠ i → x'.phase j = x.phase j
  own : x'.phase i = phase
  before : ∀ reply, x.phase i ≠ .ended reply
  after : ∀ revision, phase ≠ .ended (.ok (.draft revision))

namespace Revised

variable {phase : RegistryPhase}

section

variable (h : Revised registry calls x)
include h

theorem quiet (hq : QuietStep i x x' phase) (hrelies : Relies registry calls x' i (calls i) phase) :
    Revised registry calls x' := by
  have hstays : Stays x x' := stays_update hq.before hq.others
  -- who has returned a revision now had done so before
  have hback : ∀ j revision, x'.phase j = .ended (.ok (.draft revision)) →
      x.phase j = .ended (.ok (.draft revision)) := by
    intro j revision hphase
    by_cases hj : j = i
    · rw [hj, hq.own] at hphase
      exact absurd hphase (hq.after revision)
    · rwa [hq.others j hj] at hphase
  constructor
  · intro row hrow
    obtain ⟨assets, relationships, hreturned, heq⟩ := h.current row (hq.draft ▸ hrow)
    exact ⟨assets, relationships, hreturned.stays hstays, heq⟩
  · intro row hrow
    obtain ⟨j, hphase⟩ := h.first row (hq.draft ▸ hrow)
    exact ⟨j, hstays j _ hphase⟩
  · intro j revision hphase
    rw [hq.draft]
    exact h.bounded j revision (hback j revision hphase)
  · intro j k revision hj hk
    exact h.unique j k revision (hback j revision hj) (hback k revision hk)
  · intro j
    by_cases hj : j = i
    · rw [hj, hq.own]
      exact hrelies
    · rw [hq.others j hj]
      exact (h.relies j).frame hstays fun hlock => ⟨hq.locks () j hj hlock, hq.draft⟩

theorem goto (hbefore : (x.phase i).Open)
    (hafter : ∀ revision, phase ≠ .ended (.ok (.draft revision)))
    (hrelies : Relies registry calls (x.goto i phase) i (calls i) phase) :
    Revised registry calls (x.goto i phase) :=
  h.quiet ⟨rfl, .refl i _, others_update, update_self .., hbefore, hafter⟩ hrelies

theorem finish (hbefore : (x.phase i).Open) (e : PyError) :
    Revised registry calls (x.finish i (.error e)) := by
  refine h.quiet ⟨rfl, Locks.keepsOthers_release _ i, others_update, update_self ..,
    hbefore, fun _ heq => by cases heq⟩ ?_
  cases calls i <;> trivial

theorem checked (hbefore : (x.phase i).Open) {check : Except PyError Unit} {next : RegistryTx}
    (hnext : Revised registry calls next) : Revised registry calls (x.checked i check next) := by
  unfold RegistryTx.checked
  cases check with
  | error e => exact h.finish hbefore e
  | ok _ => exact hnext

theorem lock (hbefore : (x.phase i).Open)
    (hafter : ∀ revision, phase ≠ .ended (.ok (.draft revision)))
    (hrelies : ∀ y : RegistryTx, y.draft = x.draft → y.locks () = some i → Stays x y →
      Relies registry calls y i (calls i) phase) : Revised registry calls (x.lock i phase) := by
  unfold RegistryTx.lock
  split
  · rename_i hfree
    refine h.quiet ⟨rfl, Locks.keepsOthers_acquire hfree, others_update, update_self ..,
      hbefore, hafter⟩ ?_
    exact hrelies _ rfl (Locks.acquire_self x.locks () i) (stays_update hbefore others_update)
  · exact h

end

end Revised

/-! ## Committing a draft -/

/-- The revision is the one after the committed draft's, or the first. -/
def Follows (x : RegistryTx) (revision : Int) : Prop :=
  (x.draft = none ∧ revision = 1) ∨ ∃ old, x.draft = some old ∧ revision = old.revision + 1

theorem Revised.commit (h : Revised registry calls x)
    (hcall : calls i = .createDraft assets relationships)
    (hbefore : (x.phase i).Open) (hlock : x.locks () = some i) (hfollows : Follows x revision) :
    Revised registry calls
      { x.finish i (.ok (.draft revision)) with
        draft := some (registry.draftRow revision assets relationships) } := by
  have hself : update x.phase i (.ended (.ok (.draft revision))) i =
      .ended (.ok (.draft revision)) := update_self ..
  have hstays : Stays x
      { x.finish i (.ok (.draft revision)) with
        draft := some (registry.draftRow revision assets relationships) } :=
    stays_update hbefore others_update
  -- every revision returned so far is smaller
  have hless : ∀ j revision', x.phase j = .ended (.ok (.draft revision')) →
      revision' < revision := by
    intro j revision' hphase
    obtain ⟨row, hrow, hle⟩ := h.bounded j revision' hphase
    rcases hfollows with ⟨hnone, _⟩ | ⟨old, hold, rfl⟩
    · cases hnone.symm.trans hrow
    · cases hold.symm.trans hrow
      omega
  constructor
  · intro row hrow
    cases hrow
    exact ⟨assets, relationships, ⟨i, hcall, hself⟩, rfl⟩
  · intro row _
    rcases hfollows with ⟨_, rfl⟩ | ⟨old, hold, _⟩
    · exact ⟨i, hself⟩
    · obtain ⟨j, hphase⟩ := h.first old hold
      exact ⟨j, hstays j _ hphase⟩
  · intro j revision' hphase
    refine ⟨_, rfl, ?_⟩
    by_cases hj : j = i
    · subst hj
      cases hself.symm.trans hphase
      exact le_refl _
    · exact (hless j revision' (phase_update_ne hphase hj)).le
  · intro j k revision' hj hk
    refine unique_of_others (fun _ => ()) (fun k hki hk => phase_update_ne hk hki)
      (fun j k hj hk _ => h.unique j k revision' hj hk) (fun hi k hk => ?_) j k hj hk rfl
    cases hself.symm.trans hi
    exact absurd (hless k revision hk) (lt_irrefl _)
  · intro j
    by_cases hj : j = i
    · subst hj
      rw [hcall, show phase _ j = _ from hself]
      trivial
    · rw [show phase _ j = _ from others_update j hj]
      refine (h.relies j).frame hstays fun hheld => ?_
      exact absurd (Option.some.inj (hheld.symm.trans hlock)) hj

/-! ## Every step -/

section

variable (hdecimal : DecimalText registry.env) (htime : TimeText registry.env)
  {assets : List Asset} {relationships : List Relationship} {expected : Int}

theorem Revised.advanceDraft (h : Revised registry calls x)
    (hcall : calls i = .createDraft assets relationships)
    (halone : (x.phase i).isFirst = true → x.draft = none) :
    Revised registry calls (x.advanceDraft registry i assets relationships) := by
  have hrelies := h.relies i
  rw [hcall] at hrelies
  unfold RegistryTx.advanceDraft
  cases hphase : x.phase i with
  | idle =>
    have hopen : (x.phase i).Open := by simp [hphase]
    refine h.checked hopen (h.goto hopen (by simp) ?_)
    rw [hcall]
    trivial
  | begun =>
    have hopen : (x.phase i).Open := by simp [hphase]
    cases hdraft : x.draft with
    | none =>
      refine h.goto hopen (by simp) ?_
      rw [hcall]
      exact rfl
    | some row =>
      refine h.lock hopen (by simp) fun y hy hlock _ => ?_
      rw [hcall]
      exact ⟨hlock, row, hy.trans hdraft, rfl⟩
  | revised found revision =>
    have hopen : (x.phase i).Open := by simp [hphase]
    rw [hphase] at hrelies
    refine h.lock hopen (by simp) fun y hy hlock _ => ?_
    rw [hcall]
    cases found with
    | false =>
      have hfirst : revision = 1 := hrelies
      exact ⟨hlock, by rw [hfirst]⟩
    | true =>
      obtain ⟨_, old, hold, hnext⟩ := hrelies
      exact ⟨hlock, old, hy.trans hold, by rw [hnext]⟩
  | written found row =>
    have hopen : (x.phase i).Open := by simp [hphase]
    rw [hphase] at hrelies
    cases found with
    | false =>
      obtain ⟨hlock, rfl⟩ := hrelies
      exact h.commit hcall hopen hlock (.inl ⟨halone (by rw [hphase]; rfl), rfl⟩)
    | true =>
      obtain ⟨hlock, old, hold, rfl⟩ := hrelies
      exact h.commit hcall hopen hlock (.inr ⟨old, hold, rfl⟩)
  | _ => exact h

include hdecimal htime in
/-- A draft that `publish` reads was returned with these contents. -/
theorem Revised.returned_of_readDraft (h : Revised registry calls x)
    (hread : registry.readDraft x.draft expected = .ok (assets, relationships)) :
    Returned calls x expected assets relationships := by
  cases hdraft : x.draft with
  | none =>
    rw [hdraft] at hread
    cases hread
  | some row =>
    obtain ⟨given, edges, hreturned, hrow⟩ := h.current row hdraft
    rw [hdraft, hrow] at hread
    obtain ⟨rfl, rfl, rfl⟩ := readDraft_eq_ok hdecimal htime hread
    exact hreturned

include hdecimal htime in
theorem Revised.advancePublish (h : Revised registry calls x) {now : Int}
    (hcall : calls i = .publish expected) :
    Revised registry calls (x.advancePublish registry i expected now) := by
  have hrelies := h.relies i
  rw [hcall] at hrelies
  unfold RegistryTx.advancePublish
  cases hphase : x.phase i with
  | idle =>
    have hopen : (x.phase i).Open := by simp [hphase]
    refine h.checked hopen (h.goto hopen (by simp) ?_)
    rw [hcall]
    trivial
  | begun =>
    have hopen : (x.phase i).Open := by simp [hphase]
    cases hread : registry.readDraft x.draft expected with
    | error e =>
      simp only
      split
      · exact h
      · exact h.finish hopen e
    | ok out =>
      obtain ⟨assets, relationships⟩ := out
      refine h.lock hopen (by simp) fun y _ _ hstays => ?_
      rw [hcall]
      exact (h.returned_of_readDraft hdecimal htime hread).stays hstays
  | drafted assets relationships =>
    have hopen : (x.phase i).Open := by simp [hphase]
    rw [hphase] at hrelies
    refine h.goto hopen (by simp) ?_
    rw [hcall]
    exact Returned.stays (stays_update hopen others_update) hrelies
  | numbered version assets relationships =>
    have hopen : (x.phase i).Open := by simp [hphase]
    rw [hphase] at hrelies
    simp only
    split
    · exact h.finish hopen _
    · refine h.goto hopen (by simp) ?_
      rw [hcall]
      exact Returned.stays (stays_update hopen others_update) hrelies
  | inserted snapshot =>
    have hopen : (x.phase i).Open := by simp [hphase]
    rw [hphase] at hrelies
    refine h.quiet ⟨rfl, Locks.keepsOthers_release _ i, others_update, update_self ..,
      hopen, by simp⟩ ?_
    rw [hcall]
    exact Returned.stays (stays_update hopen others_update) hrelies
  | _ => exact h

theorem Revised.abort (h : Revised registry calls x) (error : PyError) :
    Revised registry calls (x.abort i error) := by
  unfold RegistryTx.abort
  cases hphase : x.phase i with
  | idle => exact h
  | ended reply => exact h
  | _ => exact h.finish (by simp [hphase]) error

include hdecimal htime in
/-- **One step.** -/
theorem Revised.step (h : Revised registry calls x) (move : RegistryMove)
    (halone : Alone x move) : Revised registry calls (x.step registry calls move) := by
  cases move with
  | abort i error => exact h.abort error
  | advance i now =>
    show Revised registry calls (x.advance registry calls i now)
    unfold advance
    cases hcall : calls i with
    | createDraft assets relationships => exact h.advanceDraft hcall halone
    | publish expected => exact h.advancePublish hdecimal htime hcall

/-- A first draft that is not alone returns revision 1 a second time. -/
theorem Revised.alone_of_exact (h : Revised registry calls x) (move : RegistryMove)
    (hexact : Exact calls (x.step registry calls move)) : Alone x move := by
  cases move with
  | abort i error => trivial
  | advance i now =>
    intro hisFirst
    obtain ⟨row, hphase⟩ : ∃ row, x.phase i = .written false row := by
      cases hphase : x.phase i with
      | written found row =>
        cases found with
        | false => exact ⟨row, rfl⟩
        | true => rw [hphase] at hisFirst; cases hisFirst
      | _ => rw [hphase] at hisFirst; cases hisFirst
    by_contra hdraft
    obtain ⟨old, hold⟩ := Option.ne_none_iff_exists'.mp hdraft
    obtain ⟨j, hfirst⟩ := h.first old hold
    have hij : j ≠ i := by
      rintro rfl
      cases hphase.symm.trans hfirst
    have hrelies := h.relies i
    cases hcall : calls i with
    | publish expected =>
      rw [hcall, hphase] at hrelies
      exact hrelies
    | createDraft assets relationships =>
      rw [hcall, hphase] at hrelies
      obtain ⟨_, rfl⟩ := hrelies
      have hstep : (x.step registry calls (.advance i now)).phase =
          update x.phase i (.ended (.ok (.draft 1))) := by
        simp only [RegistryTx.step, RegistryTx.advance, hcall, RegistryTx.advanceDraft, hphase]
        rfl
      refine hij (hexact.unique j i 1 ?_ ?_)
      · rw [hstep, update_of_ne hij, hfirst]
      · rw [hstep, update_self]

end

end

/-- **Main result.** For every interleaving of `create_draft` and `publish`
transactions of a tenant, from empty tables: at every moment no two drafts have
returned one revision and everything published is what was given to the
`create_draft` that returned its revision, exactly if no first draft commits over
another draft. -/
theorem exact_iff_alone (registry : Registry) (calls : Nat → RegistryCall)
    (hdecimal : DecimalText registry.env) (htime : TimeText registry.env)
    (moves : List RegistryMove) :
    (∀ pre, pre <+: moves →
        Exact calls (run (RegistryTx.step registry calls) .init pre)) ↔
      Guarded (RegistryTx.step registry calls) Alone .init moves :=
  guarded_iff_of_invariant (I := Revised registry calls)
    (fun _ move h halone => h.step hdecimal htime move halone)
    (fun _ h => h.exact)
    (fun _ move h hexact => h.alone_of_exact move hexact)
    moves .init (revised_init registry calls)

/-! ## Two first drafts -/

def timeText : DateTime → String
  | .naive micros => "n" ++ unaryText micros
  | .aware micros => "a" ++ unaryText micros

def parseTimeText (text : String) : Option DateTime :=
  match text.toList with
  | 'n' :: rest => some (.naive (parseUnary (String.ofList rest)).num)
  | 'a' :: rest => some (.aware (parseUnary (String.ofList rest)).num)
  | _ => none

/-- An environment in which every decimal and every time has a text of its own. -/
def registryEnv : PyEnv :=
  { unaryEnv with
    text := fun value => match value with
      | .time t => timeText t
      | value => unaryEnv.text value
    parseTime := parseTimeText }

theorem registryEnv_timeText : TimeText registryEnv where
  parse t := by
    show parseTimeText (timeText t) = some t
    cases t <;> simp [timeText, parseTimeText, parseUnary_unaryText]
  ne_empty t := by
    show timeText t ≠ ""
    cases t <;> simp [timeText]

def sampleRegistry : Registry := ⟨registryEnv, "tenant-one"⟩

def sampleRack : Asset :=
  { id := "rack-1", tenantId := "tenant-one", siteId := "site-one", kind := .rack
    name := "Rack 1" }

/-- A draft with a rack, an empty draft, and publications of revision 1 and 2. -/
def sampleCalls : Nat → RegistryCall
  | 0 => .createDraft [sampleRack] []
  | 1 => .createDraft [] []
  | 2 => .publish 1
  | _ => .publish 2

def wholeCall (i steps : Nat) : List RegistryMove := List.replicate steps (.advance i 0)

/-- One draft after the other, then a publication of the second. -/
def orderly : List RegistryMove := wholeCall 0 4 ++ wholeCall 1 4 ++ wholeCall 3 5

theorem exact_iff_alone_orderly :
    Exact sampleCalls (run (RegistryTx.step sampleRegistry sampleCalls) .init orderly) ∧
      (run (RegistryTx.step sampleRegistry sampleCalls) .init orderly).phase 1 =
        .ended (.ok (.draft 2)) :=
  ⟨(exact_iff_alone sampleRegistry sampleCalls unaryEnv_decimalText registryEnv_timeText
    orderly).mpr (by decide) orderly (List.prefix_refl _), rfl⟩

/-- Both drafts look for a row before one of them has committed. -/
def together : List RegistryMove :=
  wholeCall 0 2 ++ wholeCall 1 2 ++ wholeCall 0 2 ++ wholeCall 1 2 ++ wholeCall 2 5

/-- Both drafts return revision 1, and the rack of the first one is not in what is
published under it. -/
theorem first_drafts_collide :
    (run (RegistryTx.step sampleRegistry sampleCalls) .init together).phase 0 =
        .ended (.ok (.draft 1)) ∧
      (run (RegistryTx.step sampleRegistry sampleCalls) .init together).phase 1 =
        .ended (.ok (.draft 1)) ∧
      ∃ snapshot, (run (RegistryTx.step sampleRegistry sampleCalls) .init together).phase 2 =
        .ended (.ok (.published snapshot)) ∧ snapshot.assets = [] :=
  ⟨rfl, rfl, _, rfl, rfl⟩

end ComputeWeaver.Topology
