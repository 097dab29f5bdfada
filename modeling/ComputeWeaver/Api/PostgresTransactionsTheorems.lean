/-
Api.PostgresTransactionsTheorems — what is committed after any
interleaving of puts.

Two kinds of steps. A QUIET step moves one transaction and touches nothing that
is committed and no lock of another; a commit writes under keys whose locks its
transaction holds. `Holds` says what a transaction may rely on in each of its
phases, and every clause of it is either about rows whose lock the transaction
has (`Holds.frame`), or does not depend on the tables at all.

The one phase that relies on nothing is `stored` after the transaction saw no
row; the next statement refuses a second creator (`next_of_no_version`).
-/
import ComputeWeaver.Api.PostgresTransactions
import ComputeWeaver.Api.StoreTheorems
import ComputeWeaver.Lib.Calls

namespace ComputeWeaver.Api

open Lib Persistence Dict TxState Function List

variable {db : Database} {args : Nat → PutArgs} {x x' : TxState} {i : Nat}

/-! ## What is committed -/

/-- What `resource_versions` keeps of a row of `resources`. -/
def ResourceRow.asVersion (row : ResourceRow) : VersionRow := ⟨row.etag, row.body⟩

/-- The versions of each resource are `1 … n`, and its row is the last. -/
abbrev Tables.Consistent (tables : Tables) : Prop :=
  Versioned versionAddress ResourceRow.version ResourceRow.asVersion tables.resources
    tables.versions

abbrev Tables.lastVersion (tables : Tables) (key : String × String × String) : Int :=
  Lib.lastVersion ResourceRow.version tables.resources key

theorem writtenRow_version (env : PyEnv) (args : PutArgs) (tables : Tables) :
    (writtenRow env args (tables.resources.get? args.key)).version =
      tables.lastVersion args.key + 1 := by
  unfold writtenRow Tables.lastVersion Lib.lastVersion
  cases tables.resources.get? args.key with
  | none => rfl
  | some row => rfl

variable {tables : Tables} {resource : StoredResource} {key : String × String} {j : Nat}
  {p : PutPhase}

theorem Tables.Consistent.insert (h : tables.Consistent) {args : PutArgs} {record : RecordRow}
    (hversion : resource.version = tables.lastVersion args.key + 1) :
    (tables.insert args resource record).Consistent :=
  Versioned.set h versionAddress_injective (a := ⟨resource.version, resource.etag, resource.body⟩)
    hversion

/-! ## What a transaction relies on -/

/-- What a transaction may write is the version that follows the committed one,
whose etag it has presented. -/
def IsNext (db : Database) (args : PutArgs) (tables : Tables) (resource : StoredResource) : Prop :=
  resource = writtenRow db.env args (tables.resources.get? args.key) ∧
    staleMatch args (tables.resources.get? args.key) = false

/-- The record of the transaction's key, if there is one, had expired when it
began. -/
def Expired (tables : Tables) (key : String × String) (now : Int) : Prop :=
  ∀ row, tables.records.get? key = some row → row.expiresAt ≤ now

/-- What holds after the `DELETE`. -/
def BegunHolds (args : Nat → PutArgs) (x : TxState) (i : Nat) (tx : Begun) : Prop :=
  tx.now ≤ x.clock ∧
    (tx.deletes = true → x.recordLocks (args i).recordKey = some i ∧
      Expired x.tables (args i).recordKey tx.now)

def Holds (db : Database) (args : Nat → PutArgs) (x : TxState) (i : Nat) : PutPhase → Prop
  | .begun now => now ≤ x.clock
  | .deleting now none => now ≤ x.clock
  | .deleting now (some seen) => now ≤ x.clock ∧ (∃ resource, x.phase seen = .committed resource) ∧
      (x.writers (args i).recordKey = some seen → Expired x.tables (args i).recordKey now)
  | .deleted tx => BegunHolds args x i tx
  | .matching tx _ => BegunHolds args x i tx
  | .unmatched tx => BegunHolds args x i tx
  | .reading tx _ => BegunHolds args x i tx
  | .found tx none => BegunHolds args x i tx
  | .found tx (some row) => BegunHolds args x i tx ∧ x.resourceLocks (args i).key = some i ∧
      x.tables.resources.get? (args i).key = some row
  | .stored tx resource => BegunHolds args x i tx ∧ x.resourceLocks (args i).key = some i ∧
      (resource = writtenRow db.env (args i) none ∨ IsNext db (args i) x.tables resource)
  | .versioned tx resource => BegunHolds args x i tx ∧ x.resourceLocks (args i).key = some i ∧
      IsNext db (args i) x.tables resource
  | .recorded tx resource _ => BegunHolds args x i tx ∧ x.resourceLocks (args i).key = some i ∧
      IsNext db (args i) x.tables resource ∧ x.recordLocks (args i).recordKey = some i ∧
      Expired x.tables (args i).recordKey tx.now
  | _ => True

/-- The rows a transaction has locked are as they were, and committed rows stay
identified by their writers. -/
structure Frame (args : Nat → PutArgs) (j : Nat) (x x' : TxState) : Prop where
  clock : x.clock ≤ x'.clock
  resources : ∀ key, x.resourceLocks key = some j → x'.resourceLocks key = some j ∧
    x'.tables.resources.get? key = x.tables.resources.get? key
  records : ∀ key, x.recordLocks key = some j → x'.recordLocks key = some j ∧
    x'.tables.records.get? key = x.tables.records.get? key
  writers : ∀ seen, (∃ resource, x.phase seen = .committed resource) →
    (∃ resource, x'.phase seen = .committed resource) ∧
    (x'.writers (args j).recordKey = some seen → x.writers (args j).recordKey = some seen ∧
      x'.tables.records.get? (args j).recordKey = x.tables.records.get? (args j).recordKey)

variable {tables' : Tables} {now : Int} {tx : Begun}

theorem Expired.frame (heq : tables'.records.get? key = tables.records.get? key)
    (h : Expired tables key now) : Expired tables' key now :=
  fun row hrow => h row (heq ▸ hrow)

theorem IsNext.frame {args : PutArgs}
    (heq : tables'.resources.get? args.key = tables.resources.get? args.key)
    (h : IsNext db args tables resource) : IsNext db args tables' resource := by
  unfold IsNext
  rw [heq]
  exact h

theorem BegunHolds.frame (hf : Frame args j x x') (h : BegunHolds args x j tx) :
    BegunHolds args x' j tx := by
  refine ⟨Int.le_trans h.1 hf.clock, ?_⟩
  intro hdeletes
  obtain ⟨hlock, hexpired⟩ := h.2 hdeletes
  obtain ⟨hlock', heq⟩ := hf.records _ hlock
  exact ⟨hlock', hexpired.frame heq⟩

theorem Holds.frame {phase : PutPhase} (hf : Frame args j x x') (h : Holds db args x j phase) :
    Holds db args x' j phase := by
  cases phase with
  | idle | committed resource | replayed resource | raised error => trivial
  | begun now => exact Int.le_trans h hf.clock
  | deleting now seen =>
    cases seen with
    | none => exact Int.le_trans h hf.clock
    | some seen =>
      obtain ⟨hnow, hcommitted, hexpired⟩ := h
      obtain ⟨hcommitted', hwriters⟩ := hf.writers seen hcommitted
      refine ⟨Int.le_trans hnow hf.clock, hcommitted', ?_⟩
      intro hwriter
      obtain ⟨hwriter', heq⟩ := hwriters hwriter
      exact (hexpired hwriter').frame heq
  | deleted tx | matching tx seen | unmatched tx | reading tx seen => exact BegunHolds.frame hf h
  | found tx previous =>
    cases previous with
    | none => exact BegunHolds.frame hf h
    | some row =>
      obtain ⟨hbegun, hlock, hrow⟩ := h
      obtain ⟨hlock', heq⟩ := hf.resources _ hlock
      exact ⟨hbegun.frame hf, hlock', heq.trans hrow⟩
  | stored tx resource =>
    obtain ⟨hbegun, hlock, hresource⟩ := h
    obtain ⟨hlock', heq⟩ := hf.resources _ hlock
    exact ⟨hbegun.frame hf, hlock', hresource.imp_right (IsNext.frame heq)⟩
  | versioned tx resource =>
    obtain ⟨hbegun, hlock, hnext⟩ := h
    obtain ⟨hlock', heq⟩ := hf.resources _ hlock
    exact ⟨hbegun.frame hf, hlock', hnext.frame heq⟩
  | recorded tx resource expiresAt =>
    obtain ⟨hbegun, hlock, hnext, hrecord, hexpired⟩ := h
    obtain ⟨hlock', heq⟩ := hf.resources _ hlock
    obtain ⟨hrecord', heq'⟩ := hf.records _ hrecord
    exact ⟨hbegun.frame hf, hlock', hnext.frame heq, hrecord', hexpired.frame heq'⟩

/-! ## The invariant -/

/-- What the log says about the tables. -/
structure Logged (args : Nat → PutArgs) (x : TxState) : Prop where
  committed : ∀ i resource, x.phase i = .committed resource ↔
    ∃ commit ∈ x.log, commit.call = i ∧ commit.resource = resource
  numbers : ∀ key, (x.log.filter fun commit => (args commit.call).key = key).map
    (fun commit => commit.resource.version) = upTo (x.tables.lastVersion key)
  versions : ∀ commit ∈ x.log,
    x.tables.versions.get? (versionAddress (args commit.call).key commit.resource.version) =
      some ⟨commit.resource.etag, commit.resource.body⟩
  presented : ∀ commit ∈ x.log, commit.resource.version = 1 ∨
    ∃ row, x.tables.versions.get? (versionAddress (args commit.call).key
      (commit.resource.version - 1)) = some row ∧ (args commit.call).ifMatch = some row.etag
  lifetimes : x.log.Pairwise fun earlier later =>
    (args earlier.call).recordKey = (args later.call).recordKey →
      earlier.expiresAt ≤ later.committedAt
  expired : ∀ commit ∈ x.log, commit.expiresAt ≤ x.clock ∨
    ∃ row, x.tables.records.get? (args commit.call).recordKey = some row ∧
      row.expiresAt = commit.expiresAt

structure TxInv (db : Database) (args : Nat → PutArgs) (x : TxState) : Prop where
  consistent : x.tables.Consistent
  logged : Logged args x
  holds : ∀ i, Holds db args x i (x.phase i)
  writers : ∀ key writer, x.writers key = some writer →
    ∃ resource, x.phase writer = .committed resource

theorem txInv_init (db : Database) (args : Nat → PutArgs) (clock : Int) :
    TxInv db args (.init clock) where
  consistent := .empty _ _ _
  logged :=
    { committed := by simp [init]
      numbers := fun _ => rfl
      versions := by simp [init]
      presented := by simp [init]
      lifetimes := .nil
      expired := by simp [init] }
  holds := fun _ => trivial
  writers := by simp [init]

/-! ## Quiet steps -/

/-- A step of call `i` that commits nothing. -/
structure Quiet (i : Nat) (x x' : TxState) : Prop where
  tables : x'.tables = x.tables
  writers : x'.writers = x.writers
  clock : x'.clock = x.clock
  log : x'.log = x.log
  others : ∀ j, j ≠ i → x'.phase j = x.phase j
  committed : ∀ j resource, x'.phase j = .committed resource ↔ x.phase j = .committed resource
  resourceLocks : Locks.KeepsOthers i x.resourceLocks x'.resourceLocks
  recordLocks : Locks.KeepsOthers i x.recordLocks x'.recordLocks

/-- The transaction has not committed. -/
@[simp] def PutPhase.Open (p : PutPhase) : Prop := ∀ resource, p ≠ .committed resource

theorem quiet_goto (hold : (x.phase i).Open) (hnew : p.Open) : Quiet i x (x.goto i p) where
  tables := rfl
  writers := rfl
  clock := rfl
  log := rfl
  others := others_update
  committed := by
    -- neither the phase a call leaves nor the one it enters is a commit
    intro j resource
    show update x.phase i p j = _ ↔ _
    by_cases hj : j = i
    · subst hj
      rw [update_self]
      exact iff_of_false (hnew resource) (hold resource)
    · rw [update_of_ne hj]
  resourceLocks := .refl i _
  recordLocks := .refl i _

theorem quiet_finish (hold : (x.phase i).Open) (hnew : p.Open) : Quiet i x (x.finish i p) :=
  { quiet_goto hold hnew with
    resourceLocks := Locks.keepsOthers_release _ i
    recordLocks := Locks.keepsOthers_release _ i }

theorem quiet_lockResource {key : String × String × String}
    (hlock : x.resourceLocks.available key i) (hold : (x.phase i).Open) (hnew : p.Open) :
    Quiet i x ((x.lockResource i key).goto i p) :=
  { quiet_goto hold hnew with resourceLocks := Locks.keepsOthers_acquire hlock }

theorem quiet_lockRecord (hlock : x.recordLocks.available key i) (hold : (x.phase i).Open)
    (hnew : p.Open) : Quiet i x ((x.lockRecord i key).goto i p) :=
  { quiet_goto hold hnew with recordLocks := Locks.keepsOthers_acquire hlock }

theorem Quiet.frame (hq : Quiet i x x') (hj : j ≠ i) : Frame args j x x' where
  clock := Int.le_of_eq hq.clock.symm
  resources := fun key hlock => ⟨hq.resourceLocks key j hj hlock, by rw [hq.tables]⟩
  records := fun key hlock => ⟨hq.recordLocks key j hj hlock, by rw [hq.tables]⟩
  writers := by
    rintro seen ⟨resource, hcommitted⟩
    refine ⟨⟨resource, (hq.committed seen resource).mpr hcommitted⟩, ?_⟩
    rw [hq.writers, hq.tables]
    exact fun hwriter => ⟨hwriter, rfl⟩

theorem Logged.quiet (h : Logged args x) (hq : Quiet i x x') : Logged args x' where
  committed := by
    intro j resource
    rw [hq.committed, hq.log]
    exact h.committed j resource
  numbers := by
    rw [hq.log, hq.tables]
    exact h.numbers
  versions := by
    rw [hq.log, hq.tables]
    exact h.versions
  presented := by
    rw [hq.log, hq.tables]
    exact h.presented
  lifetimes := by
    rw [hq.log]
    exact h.lifetimes
  expired := by
    rw [hq.log, hq.tables, hq.clock]
    exact h.expired

theorem TxInv.quiet (h : TxInv db args x) (hq : Quiet i x x') (hphase : x'.phase i = p)
    (hholds : Holds db args x' i p) : TxInv db args x' where
  consistent := by
    rw [hq.tables]
    exact h.consistent
  logged := h.logged.quiet hq
  holds := by
    intro j
    by_cases hj : j = i
    · rw [hj, hphase]
      exact hholds
    · rw [hq.others j hj]
      exact (h.holds j).frame (hq.frame hj)
  writers := by
    intro key writer hwriter
    rw [hq.writers] at hwriter
    obtain ⟨resource, hcommitted⟩ := h.writers key writer hwriter
    exact ⟨resource, (hq.committed writer resource).mpr hcommitted⟩

/-! ## Commits -/

theorem frame_commit {expiresAt : Int} (hphase : (x.phase i).Open)
    (hlock : x.resourceLocks (args i).key = some i)
    (hrecord : x.recordLocks (args i).recordKey = some i) (hj : j ≠ i) :
    Frame args j x (x.commit db args i resource expiresAt) where
  clock := Int.le_refl _
  resources := by
    intro key hkey
    refine ⟨Locks.keepsOthers_release _ i key j hj hkey, ?_⟩
    exact get?_set_ne _ _ (Locks.ne_of_held hlock hkey hj)
  records := by
    intro key hkey
    refine ⟨Locks.keepsOthers_release _ i key j hj hkey, ?_⟩
    exact get?_set_ne _ _ (Locks.ne_of_held hrecord hkey hj)
  writers := by
    rintro seen ⟨other, hcommitted⟩
    -- the row seen before is not the one committed now
    have hseen : seen ≠ i := by
      rintro rfl
      exact hphase other hcommitted
    refine ⟨⟨other, (update_of_ne hseen _ _).trans hcommitted⟩, ?_⟩
    intro hwriter
    by_cases hkey : (args j).recordKey = (args i).recordKey
    · rw [hkey] at hwriter
      cases (update_self (args i).recordKey _ x.writers).symm.trans hwriter
      exact absurd rfl hseen
    · exact ⟨(update_of_ne hkey _ _).symm.trans hwriter, get?_set_ne _ _ (Ne.symm hkey)⟩

theorem IsNext.presented {args : PutArgs} (hc : tables.Consistent)
    (h : IsNext db args tables resource) :
    resource.version = 1 ∨
      ∃ row, tables.versions.get? (versionAddress args.key (resource.version - 1)) = some row ∧
        args.ifMatch = some row.etag := by
  obtain ⟨hresource, hmatch⟩ := h
  have hversion : resource.version = tables.lastVersion args.key + 1 := by
    rw [hresource, writtenRow_version]
  cases hrow : tables.resources.get? args.key with
  | none =>
    left
    rw [Tables.lastVersion, lastVersion_of_none hrow] at hversion
    exact hversion
  | some row =>
    right
    refine ⟨row.asVersion, ?_, ?_⟩
    · rw [hversion, Int.add_sub_cancel, Tables.lastVersion, lastVersion_of_get hrow]
      exact hc.current _ _ hrow
    · simpa [staleMatch, hrow, ResourceRow.asVersion] using hmatch

section

variable {tx : Begun} {resource : StoredResource} {expiresAt : Int}

theorem TxInv.expired_by_now (h : TxInv db args x)
    (hphase : x.phase i = .recorded tx resource expiresAt) {commit : Commit}
    (hcommit : commit ∈ x.log) (hkey : (args commit.call).recordKey = (args i).recordKey) :
    commit.expiresAt ≤ x.clock := by
  have hholds := h.holds i
  rw [hphase] at hholds
  obtain ⟨⟨hnow, -⟩, -, -, -, hexpired⟩ := hholds
  rcases h.logged.expired commit hcommit with hle | ⟨row, hrow, heq⟩
  · exact hle
  · rw [hkey] at hrow
    have hrowExpired := hexpired row hrow
    omega

theorem Logged.commit (h : TxInv db args x) (hphase : x.phase i = .recorded tx resource expiresAt) :
    Logged args (x.commit db args i resource expiresAt) := by
  have hholds := h.holds i
  rw [hphase] at hholds
  obtain ⟨-, -, hnext, -, -⟩ := hholds
  have hversion : resource.version = x.tables.lastVersion (args i).key + 1 := by
    rw [hnext.1, writtenRow_version]
  have hnew : x.tables.versions.get? (versionAddress (args i).key resource.version) = none := by
    rw [hversion]
    exact h.consistent.no_next _
  -- a version that is committed is not the one written now
  have hkeep : ∀ {address row}, x.tables.versions.get? address = some row →
      (x.commit db args i resource expiresAt).tables.versions.get? address = some row := by
    intro address row hrow
    refine (get?_set_ne _ _ ?_).trans hrow
    rintro rfl
    cases hnew.symm.trans hrow
  refine ⟨?_, ?_, ?_, ?_, ?_, ?_⟩
  · intro j other
    show update x.phase i (.committed resource) j = .committed other ↔
      ∃ commit ∈ x.log ++ [⟨i, resource, x.clock, expiresAt⟩],
        commit.call = j ∧ commit.resource = other
    simp only [mem_append, mem_singleton, or_and_right, exists_or, exists_eq_left]
    rw [← h.logged.committed]
    by_cases hj : j = i
    · subst hj
      simp [hphase]
    · simp [hj, Ne.symm hj]
  · intro key
    show ((x.log ++ [(⟨i, resource, x.clock, expiresAt⟩ : Commit)]).filter
      fun commit => (args commit.call).key = key).map (fun commit => commit.resource.version) =
        upTo (Lib.lastVersion ResourceRow.version (x.tables.resources.set (args i).key _) key)
    rw [filter_append, map_append, h.logged.numbers, lastVersion_set]
    by_cases hkey : (args i).key = key
    · subst hkey
      simp only [decide_true, filter_cons_of_pos, filter_nil, map_cons, map_nil, if_true]
      rw [hversion, upTo_succ (h.consistent.lastVersion_nonneg _)]
    · simp [hkey]
  · intro commit hcommit
    rcases mem_append.mp hcommit with hold | hlast
    · exact hkeep (h.logged.versions commit hold)
    · rw [mem_singleton.mp hlast]
      exact get?_set_self _ _ _
  · intro commit hcommit
    rcases mem_append.mp hcommit with hold | hlast
    · refine (h.logged.presented commit hold).imp_right ?_
      rintro ⟨row, hrow, hmatch⟩
      exact ⟨row, hkeep hrow, hmatch⟩
    rw [mem_singleton.mp hlast]
    refine (hnext.presented h.consistent).imp_right ?_
    rintro ⟨row, hrow, hmatch⟩
    exact ⟨row, hkeep hrow, hmatch⟩
  · refine pairwise_append.mpr ⟨h.logged.lifetimes, pairwise_singleton _ _, ?_⟩
    intro earlier hearlier later hlater hkey
    rw [mem_singleton.mp hlater] at hkey ⊢
    exact h.expired_by_now hphase hearlier hkey
  · intro commit hcommit
    rcases mem_append.mp hcommit with hold | hlast
    · by_cases hkey : (args commit.call).recordKey = (args i).recordKey
      · exact .inl (h.expired_by_now hphase hold hkey)
      · refine (h.logged.expired commit hold).imp_right ?_
        rintro ⟨row, hrow, heq⟩
        exact ⟨row, (get?_set_ne _ _ (Ne.symm hkey)).trans hrow, heq⟩
    · rw [mem_singleton.mp hlast]
      exact .inr ⟨_, get?_set_self _ _ _, rfl⟩

theorem TxInv.commit (h : TxInv db args x) (hphase : x.phase i = .recorded tx resource expiresAt) :
    TxInv db args (x.commit db args i resource expiresAt) := by
  have hholds := h.holds i
  rw [hphase] at hholds
  obtain ⟨-, hlock, hnext, hrecord, -⟩ := hholds
  have hold : (x.phase i).Open := by simp [hphase]
  refine ⟨?_, Logged.commit h hphase, ?_, ?_⟩
  · refine Tables.Consistent.insert h.consistent ?_
    rw [hnext.1, writtenRow_version]
  · intro j
    by_cases hj : j = i
    · subst hj
      have hnew : (x.commit db args j resource expiresAt).phase j = .committed resource :=
        update_self _ _ _
      rw [hnew]
      trivial
    · have hsame : (x.commit db args i resource expiresAt).phase j = x.phase j :=
        update_of_ne hj _ _
      rw [hsame]
      exact (h.holds j).frame (frame_commit hold hlock hrecord hj)
  · intro key writer hwriter
    by_cases hself : writer = i
    · exact ⟨resource, by rw [hself]; exact update_self _ _ _⟩
    have hbefore : x.writers key = some writer := by
      by_cases hkey : key = (args i).recordKey
      · subst hkey
        cases (update_self (args i).recordKey _ x.writers).symm.trans hwriter
        exact absurd rfl hself
      · exact (update_of_ne hkey _ _).symm.trans hwriter
    obtain ⟨other, hcommitted⟩ := h.writers key writer hbefore
    exact ⟨other, (update_of_ne hself _ _).trans hcommitted⟩

end

/-! ## Every step -/

theorem next_of_no_version {args : PutArgs} (hc : tables.Consistent)
    (hresource : resource = writtenRow db.env args none)
    (hnone : tables.versions.get? (versionAddress args.key resource.version) = none) :
    IsNext db args tables resource := by
  have hrow : tables.resources.get? args.key = none := by
    subst hresource
    exact hc.no_item hnone
  unfold IsNext
  rw [hrow]
  exact ⟨hresource, rfl⟩

section

variable {p : PutPhase}

theorem TxInv.goto (h : TxInv db args x) (hold : (x.phase i).Open) (hnew : p.Open)
    (hholds : Holds db args (x.goto i p) i p) : TxInv db args (x.goto i p) :=
  h.quiet (quiet_goto hold hnew) (update_self _ _ _) hholds

theorem TxInv.finish (h : TxInv db args x) (hold : (x.phase i).Open) (hnew : p.Open)
    (hholds : Holds db args (x.finish i p) i p) : TxInv db args (x.finish i p) :=
  h.quiet (quiet_finish hold hnew) (update_self _ _ _) hholds

end

theorem TxInv.checked (h : TxInv db args x) (hold : (x.phase i).Open)
    (check : Except PyError Unit) (hnext : TxInv db args x') :
    TxInv db args (x.checked i check x') := by
  unfold TxState.checked
  split
  · exact h.finish hold (by simp) trivial
  · exact hnext

theorem TxInv.answer (h : TxInv db args x) (hold : (x.phase i).Open) :
    TxInv db args (x.answer db args i) := by
  unfold TxState.answer
  split
  · exact h
  split
  · exact h.finish hold (by simp) trivial
  · split
    · exact h.finish hold (by simp) trivial
    · exact h.finish hold (by simp) trivial

/-- The row a `DELETE` sees has expired, and its writer has committed. -/
theorem TxInv.deleting (h : TxInv db args x) (hnow : now ≤ x.clock) (hold : (x.phase i).Open) :
    Holds db args (x.goto i (.deleting now (x.expiredWriter (args i).recordKey now))) i
      (.deleting now (x.expiredWriter (args i).recordKey now)) := by
  cases hseen : x.expiredWriter (args i).recordKey now with
  | none => exact hnow
  | some seen =>
    unfold TxState.expiredWriter at hseen
    split at hseen
    · rename_i row hrow
      split at hseen
      · rename_i hexpired
        obtain ⟨resource, hcommitted⟩ := h.writers _ _ hseen
        have hne : seen ≠ i := by
          rintro rfl
          exact hold resource hcommitted
        refine ⟨hnow, ⟨resource, (update_of_ne hne _ _).trans hcommitted⟩, ?_⟩
        intro _ row' hrow'
        cases hrow.symm.trans hrow'
        exact hexpired
      · cases hseen
    · cases hseen

theorem BegunHolds.lockRecord (h : BegunHolds args x i tx) :
    BegunHolds args ((x.lockRecord i key).goto i p) i tx :=
  ⟨h.1, fun hdeletes => ⟨Locks.acquire_of_held (h.2 hdeletes).1, (h.2 hdeletes).2⟩⟩

theorem TxInv.advance (h : TxInv db args x) (i : Nat) (clock : Int) :
    TxInv db args (x.advance db args i clock) := by
  by_cases hold : (x.phase i).Open
  swap
  · obtain ⟨resource, hphase⟩ := not_forall_not.mp hold
    simpa [TxState.advance, hphase] using h
  have hholds := h.holds i
  unfold TxState.advance
  dsimp only
  split <;> rename_i hphase <;> rw [hphase] at hholds
  · -- idle
    exact h.checked hold _ (h.goto hold (by simp) (Int.le_refl _))
  · -- begun
    exact h.checked hold _ (h.goto hold (by simp) (h.deleting hholds hold))
  · -- deleting, nothing seen
    exact h.goto hold (by simp) ⟨hholds, by simp⟩
  · -- deleting a row that was seen
    obtain ⟨hnow, -, hexpired⟩ := hholds
    split
    · rename_i hlock
      split
      · rename_i hthere
        exact h.quiet (quiet_lockRecord hlock hold (by simp)) (update_self ..)
          ⟨hnow, fun _ => ⟨Locks.acquire_self _ _ _, hexpired (of_decide_eq_true hthere)⟩⟩
      · exact h.goto hold (by simp) ⟨hnow, by simp⟩
    · exact h
  · -- deleted
    exact h.goto hold (by simp) hholds
  · -- matching, nothing seen
    exact h.goto hold (by simp) hholds
  · -- matching a row that was seen
    split
    · split
      · exact h.answer hold
      · exact h.goto hold (by simp) hholds
    · exact h
  · -- unmatched
    exact h.checked hold _ (h.goto hold (by simp) hholds)
  · -- reading, nothing seen
    exact h.goto hold (by simp) hholds
  · -- reading a row that was seen
    split
    · rename_i hlock
      refine h.quiet (quiet_lockResource hlock hold (by simp)) (update_self ..) ?_
      cases hrow : x.tables.resources.get? (args i).key with
      | none => exact hholds
      | some row => exact ⟨hholds, Locks.acquire_self _ _ _, hrow⟩
    · exact h
  · -- found
    rename_i previous
    split
    · exact h.finish hold (by simp) trivial
    rename_i hmatch
    refine h.checked hold _ ?_
    split
    · rename_i hlock
      refine h.quiet (quiet_lockResource hlock hold (by simp)) (update_self ..) ?_
      cases previous with
      | none => exact ⟨hholds, Locks.acquire_self _ _ _, .inl rfl⟩
      | some row =>
        obtain ⟨hbegun, -, hrow⟩ := hholds
        refine ⟨hbegun, Locks.acquire_self _ _ _, .inr ?_⟩
        have hnext : IsNext db (args i) x.tables (writtenRow db.env (args i) (some row)) := by
          unfold IsNext
          rw [hrow]
          exact ⟨rfl, by simpa using hmatch⟩
        exact hnext
    · exact h
  · -- stored
    obtain ⟨hbegun, hlock, hresource⟩ := hholds
    split
    · split
      · exact h.finish hold (by simp) trivial
      rename_i hnone
      refine h.quiet { quiet_goto hold (by simp) with } (update_self ..)
        ⟨hbegun, hlock, ?_⟩
      rcases hresource with hfirst | hnext
      · have hfree := Option.not_isSome_iff_eq_none.mp hnone
        show IsNext db (args i) x.tables _
        exact next_of_no_version h.consistent hfirst hfree
      · exact hnext
    · exact h
  · -- versioned
    obtain ⟨hbegun, hlock, hnext⟩ := hholds
    split
    · rename_i hrecord
      split
      · exact h.finish hold (by simp) trivial
      rename_i hnone
      refine h.quiet (quiet_lockRecord hrecord hold (by simp)) (update_self ..)
        ⟨hbegun.lockRecord, hlock, hnext, Locks.acquire_self _ _ _, ?_⟩
      intro row hrow
      rename_i tx _
      cases hdeletes : tx.deletes with
      | true => exact (hbegun.2 hdeletes).2 row hrow
      | false =>
        have hsome : x.tables.records.get? (args i).recordKey = some row := hrow
        simp [hdeletes, hsome] at hnone
    · exact h
  · -- recorded
    exact h.commit hphase
  · exact h
  · exact h
  · exact h

theorem TxInv.abort (h : TxInv db args x) (i : Nat) (error : PyError) :
    TxInv db args (x.abort i error) := by
  unfold TxState.abort
  split
  · exact h
  · exact h
  · exact h
  · exact h
  · rename_i hcommitted _ _
    exact h.finish hcommitted (by simp) trivial

theorem TxInv.tick (h : TxInv db args x) (micros : Nat) :
    TxInv db args { x with clock := x.clock + micros } := by
  have hclock : x.clock ≤ x.clock + micros := by omega
  have hframe : ∀ j, Frame args j x { x with clock := x.clock + micros } := fun j =>
    ⟨hclock, fun _ hlock => ⟨hlock, rfl⟩, fun _ hlock => ⟨hlock, rfl⟩,
      fun _ hcommitted => ⟨hcommitted, fun hwriter => ⟨hwriter, rfl⟩⟩⟩
  refine ⟨h.consistent, ?_, fun j => (h.holds j).frame (hframe j), h.writers⟩
  refine { h.logged with expired := ?_ }
  intro commit hcommit
  refine (h.logged.expired commit hcommit).imp_left ?_
  intro hle
  exact Int.le_trans hle hclock

theorem TxInv.step (h : TxInv db args x) (move : TxMove) : TxInv db args (x.step db args move) := by
  cases move with
  | advance i clock => exact h.advance i clock
  | abort i error => exact h.abort i error
  | tick micros => exact h.tick micros

/-! ## Every interleaving -/

/-- The committed versions of a resource are `1 … n`, committed in that order,
and its row is version `n`. -/
structure Serial (args : Nat → PutArgs) (x : TxState) (tenantId kind id : String) (n : Int) :
    Prop where
  nonneg : 0 ≤ n
  versions : ∀ version, (∃ row, x.tables.versions.get? (tenantId, kind, id, version) = some row) ↔
    1 ≤ version ∧ version ≤ n
  commits : (x.log.filter fun commit => (args commit.call).key = (tenantId, kind, id)).map
    (fun commit => commit.resource.version) = upTo n
  absent : n = 0 → x.tables.resources.get? (tenantId, kind, id) = none
  current : 0 < n → ∃ row, x.tables.resources.get? (tenantId, kind, id) = some row ∧
    row.version = n ∧ x.tables.versions.get? (tenantId, kind, id, n) = some ⟨row.etag, row.body⟩

theorem TxInv.serial (h : TxInv db args x) (tenantId kind id : String) :
    Serial args x tenantId kind id (x.tables.lastVersion (tenantId, kind, id)) where
  nonneg := h.consistent.lastVersion_nonneg _
  versions := h.consistent.versions (tenantId, kind, id)
  commits := h.logged.numbers (tenantId, kind, id)
  absent := by
    intro hzero
    refine h.consistent.no_item ?_
    have hnext := h.consistent.no_next (tenantId, kind, id)
    rwa [show Lib.lastVersion _ _ _ = 0 from hzero] at hnext
  current := by
    intro hpos
    cases hget : x.tables.resources.get? (tenantId, kind, id) with
    | none => simp [Tables.lastVersion, lastVersion_of_none hget] at hpos
    | some row =>
      have hlast : x.tables.lastVersion (tenantId, kind, id) = row.version :=
        lastVersion_of_get hget
      refine ⟨row, rfl, hlast.symm, ?_⟩
      rw [hlast]
      exact h.consistent.current _ _ hget

/-- **Main result.** After every interleaving of puts, with any of them aborted
at any point: the committed versions of each resource are exactly `1 … n`, one
commit each and in that order, and its row in `resources` is version `n`. The
calls that committed are those of the log, the version of each is committed as
it returned it, and a call that committed version `k + 1` presented the etag of
the committed version `k`. Of two commits with one tenant and key the second
comes after the record of the first has expired. -/
theorem committed_puts_serial (db : Database) (args : Nat → PutArgs) (clock : Int)
    (moves : List TxMove) :
    (∀ tenantId kind id, ∃ n, Serial args
      (run (TxState.step db args) (.init clock) moves) tenantId kind id n) ∧
    (∀ i resource, (run (TxState.step db args) (.init clock) moves).phase i =
        .committed resource ↔
      ∃ commit ∈ (run (TxState.step db args) (.init clock) moves).log,
        commit.call = i ∧ commit.resource = resource) ∧
    (∀ commit ∈ (run (TxState.step db args) (.init clock) moves).log,
      (run (TxState.step db args) (.init clock) moves).tables.versions.get?
        (versionAddress (args commit.call).key commit.resource.version) =
          some ⟨commit.resource.etag, commit.resource.body⟩ ∧
      (commit.resource.version = 1 ∨
        ∃ row, (run (TxState.step db args) (.init clock) moves).tables.versions.get?
          (versionAddress (args commit.call).key (commit.resource.version - 1)) = some row ∧
          (args commit.call).ifMatch = some row.etag)) ∧
    (run (TxState.step db args) (.init clock) moves).log.Pairwise fun earlier later =>
      (args earlier.call).recordKey = (args later.call).recordKey →
        earlier.expiresAt ≤ later.committedAt := by
  have h := run_invariant (fun x move (h : TxInv db args x) => h.step move) moves (.init clock)
    (txInv_init db args clock)
  refine ⟨fun tenantId kind id => ⟨_, h.serial tenantId kind id⟩, h.logged.committed, ?_,
    h.logged.lifetimes⟩
  intro commit hcommit
  exact ⟨h.logged.versions commit hcommit, h.logged.presented commit hcommit⟩

end ComputeWeaver.Api
