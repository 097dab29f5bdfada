/-
Lib.FileInterleaving — programs over files that run at the same
time.

Each caller runs a program, and a step is one access of one caller: a read, a
listing, a write, or its end. Two callers that have not ended are in conflict
when one of them writes a file that the other reads, lists or writes.

The rule is that an interleaving without conflicts is SERIAL (`serial_run`):
there is an order of the callers that have ended such that each of them has the
outcome and the writes of running alone on the files the ones before it left.
-/
import Mathlib.Data.Fintype.Defs
import ComputeWeaver.Lib.Calls
import ComputeWeaver.Lib.FileProgram
import ComputeWeaver.Lib.Run

namespace Lib.Interleaving

open Function List

variable {ι K V α : Type} {outcome : Except PyError α} {file : K}

inductive Phase (K V α : Type) where
  | active (rest : Prog K V α) (accessed : K → Bool) (writes : List (K × V))
  | done (outcome : Except PyError α) (writes : List (K × V))

def Phase.outcome? : Phase K V α → Option (Except PyError α)
  | .active _ _ _ => none
  | .done outcome _ => some outcome

theorem Phase.outcome?_eq_some {phase : Phase K V α} :
    phase.outcome? = some outcome ↔ ∃ writes, phase = .done outcome writes := by
  cases phase with
  | active rest accessed writes | done other writes => simp [Phase.outcome?]

structure State (ι K V α : Type) where
  store : Dict K V
  phase : ι → Phase K V α

def start (s : Dict K V) (prog : ι → Prog K V α) : State ι K V α :=
  ⟨s, fun i => .active (prog i) (fun _ => false) []⟩

section

variable [DecidableEq ι] [DecidableEq K]

/-- One access of a caller. -/
def step (x : State ι K V α) (i : ι) : State ι K V α :=
  match x.phase i with
  | .done _ _ => x
  | .active (.pure a) _ writes =>
      ⟨x.store, Function.update x.phase i (.done (.ok a) writes)⟩
  | .active (.raise e) _ writes =>
      ⟨x.store, Function.update x.phase i (.done (.error e) writes)⟩
  | .active (.read file next) accessed writes =>
      ⟨x.store, Function.update x.phase i
        (.active (next (x.store.get? file)) (fun f => accessed f || f = file) writes)⟩
  | .active (.glob scope next) accessed writes =>
      ⟨x.store, Function.update x.phase i
        (.active (next (Prog.listing x.store scope)) (fun f => accessed f || scope f) writes)⟩
  | .active (.write file content next) accessed writes =>
      ⟨x.store.set file content, Function.update x.phase i
        (.active next (fun f => accessed f || f = file) (writes ++ [(file, content)]))⟩

/-- The next access of `rest` is in no conflict with a caller in this phase. -/
def Phase.allows (phase : Phase K V α) (rest : Prog K V α) : Bool :=
  match phase, rest with
  | .active _ _ writes, .read file _ => !writes.any fun write => write.1 = file
  | .active _ _ writes, .glob scope _ => !writes.any fun write => scope write.1
  | .active _ accessed _, .write file _ _ => !accessed file
  | _, _ => true

def NoConflict (x : State ι K V α) (i : ι) : Prop :=
  match x.phase i with
  | .active rest _ _ => ∀ j, j ≠ i → (x.phase j).allows rest = true
  | .done _ _ => True

instance [Fintype ι] (x : State ι K V α) (i : ι) : Decidable (NoConflict x i) :=
  match h : x.phase i with
  | .active rest _ _ => decidable_of_iff (∀ j, j ≠ i → (x.phase j).allows rest = true)
      (by simp only [NoConflict, h])
  | .done _ _ => isTrue (by simp only [NoConflict, h])

end

/-! ## A program on its way -/

section

variable [DecidableEq K]

/-- Running alone on `s`, the program comes to `rest` with these writes, and has
accessed these files. -/
inductive Reaches (s : Dict K V) (p : Prog K V α) :
    List (K × V) → (K → Bool) → Prog K V α → Prop
  | start : Reaches s p [] (fun _ => false) p
  | read {writes : List (K × V)} {accessed : K → Bool} {file : K} {next : Option V → Prog K V α}
      (h : Reaches s p writes accessed (.read file next)) :
      Reaches s p writes (fun f => accessed f || f = file)
        (next ((applyWrites s writes).get? file))
  | glob {writes : List (K × V)} {accessed : K → Bool} {scope : K → Bool}
      {next : Finset K → Prog K V α} (h : Reaches s p writes accessed (.glob scope next)) :
      Reaches s p writes (fun f => accessed f || scope f)
        (next (Prog.listing (applyWrites s writes) scope))
  | write {writes : List (K × V)} {accessed : K → Bool} {file : K} {content : V}
      {next : Prog K V α} (h : Reaches s p writes accessed (.write file content next)) :
      Reaches s p (writes ++ [(file, content)]) (fun f => accessed f || f = file) next

variable {s s' : Dict K V} {p rest : Prog K V α} {writes : List (K × V)} {accessed : K → Bool}

theorem Reaches.exec (h : Reaches s p writes accessed rest) :
    p.exec s = ((rest.exec (applyWrites s writes)).1,
      writes ++ (rest.exec (applyWrites s writes)).2) := by
  induction h with
  | start => rfl
  | read _ ih => exact ih
  | glob _ ih => exact ih
  | write _ ih =>
    rw [ih, applyWrites_append]
    simp [Prog.exec]

/-- A caller has made the first of its writes. -/
theorem Reaches.writes_isPrefix (h : Reaches s p writes accessed rest) :
    writes <+: (p.exec s).2 := by
  rw [h.exec]
  exact prefix_append _ _

theorem Reaches.accessed_of_mem (h : Reaches s p writes accessed rest)
    (hfile : file ∈ writes.map Prod.fst) : accessed file = true := by
  induction h with
  | start => simp at hfile
  | read _ ih => simp [ih hfile]
  | glob _ ih => simp [ih hfile]
  | write _ ih =>
    rw [map_append, mem_append] at hfile
    rcases hfile with hfile | hfile
    · simp [ih hfile]
    · simp only [map_cons, map_nil, mem_singleton] at hfile
      simp [hfile]

theorem listing_congr {scope : K → Bool}
    (h : ∀ file, scope file = true → s.get? file = s'.get? file) :
    Prog.listing s scope = Prog.listing s' scope := by
  ext file
  simp only [Prog.listing, Finset.mem_filter, mem_toFinset, Dict.mem_keys_iff]
  constructor
  · rintro ⟨hget, hscope⟩
    exact ⟨h file hscope ▸ hget, hscope⟩
  · rintro ⟨hget, hscope⟩
    exact ⟨h file hscope ▸ hget, hscope⟩

/-- Only the files that were accessed matter. -/
theorem Reaches.congr (h : Reaches s p writes accessed rest)
    (hget : ∀ file, accessed file = true → s.get? file = s'.get? file) :
    Reaches s' p writes accessed rest := by
  induction h with
  | start => exact .start
  | read _ ih =>
    rw [get?_applyWrites_congr (hget _ (by simp))]
    exact .read (ih fun file hfile => hget file (by simp [hfile]))
  | glob _ ih =>
    rw [listing_congr fun file hfile => get?_applyWrites_congr (hget file (by simp [hfile]))]
    exact .glob (ih fun file hfile => hget file (by simp [hfile]))
  | write _ ih => exact .write (ih fun file hfile => hget file (by simp [hfile]))

end

/-! ## Serial executions -/

section

variable [DecidableEq K] (prog : ι → Prog K V α)

/-- The files after these callers ran one after the other. -/
def serialStore (s : Dict K V) (order : List ι) : Dict K V :=
  run (fun s i => (prog i).after s) s order

theorem serialStore_snoc (s : Dict K V) (order : List ι) (i : ι) :
    serialStore prog s (order ++ [i]) = (prog i).after (serialStore prog s order) :=
  run_append ..

/-- The state is the one of running the callers of `order` one after the other,
with some more callers on their way. -/
structure Serial (s : Dict K V) (order : List ι) (x : State ι K V α) : Prop where
  ended : ∀ i outcome writes, x.phase i = .done outcome writes →
    ∃ before after, order = before ++ i :: after ∧
      (prog i).exec (serialStore prog s before) = (outcome, writes)
  reaches : ∀ i rest accessed writes, x.phase i = .active rest accessed writes →
    Reaches (serialStore prog s order) (prog i) writes accessed rest
  untouched : ∀ file, (∀ i rest accessed writes, x.phase i = .active rest accessed writes →
    file ∉ writes.map Prod.fst) → x.store.get? file = (serialStore prog s order).get? file
  written : ∀ i rest accessed writes, x.phase i = .active rest accessed writes →
    ∀ file ∈ writes.map Prod.fst,
      x.store.get? file = (applyWrites (serialStore prog s order) writes).get? file
  apart : ∀ i rest accessed writes, x.phase i = .active rest accessed writes →
    ∀ j rest' accessed' writes', x.phase j = .active rest' accessed' writes' → i ≠ j →
      ∀ file ∈ writes.map Prod.fst, accessed' file = false

theorem serial_start (s : Dict K V) : Serial prog s [] (start s prog) where
  ended := fun _ _ _ h => by cases h
  reaches := fun _ _ _ _ h => by
    cases h
    exact .start
  untouched := fun _ _ => rfl
  written := fun _ _ _ _ h _ hfile => by
    cases h
    simp at hfile
  apart := fun _ _ _ _ h _ _ _ _ _ _ _ hfile => by
    cases h
    simp at hfile

variable {prog} {s : Dict K V} {order : List ι} {x : State ι K V α} {i : ι}
  {rest : Prog K V α} {accessed : K → Bool} {writes : List (K × V)}

/-- What a caller finds in a file that no other caller on its way has written. -/
theorem Serial.get?_eq (h : Serial prog s order x) (hi : x.phase i = .active rest accessed writes)
    (hothers : ∀ j rest' accessed' writes', x.phase j = .active rest' accessed' writes' →
      j ≠ i → file ∉ writes'.map Prod.fst) :
    x.store.get? file = (applyWrites (serialStore prog s order) writes).get? file := by
  by_cases hmem : file ∈ writes.map Prod.fst
  · exact h.written i rest accessed writes hi file hmem
  rw [get?_applyWrites_of_not_mem hmem]
  refine h.untouched file fun j rest' accessed' writes' hj => ?_
  by_cases hji : j = i
  · subst hji
    cases hi.symm.trans hj
    exact hmem
  · exact hothers j rest' accessed' writes' hj hji

/-- What anybody finds in a file is what the serial execution has left there, with
the first few writes of a caller that has not ended. -/
theorem Serial.view (h : Serial prog s order x) (file : K) :
    ∃ writes, (writes = [] ∨ ∃ i, writes <+: ((prog i).exec (serialStore prog s order)).2) ∧
      x.store.get? file = (applyWrites (serialStore prog s order) writes).get? file := by
  by_cases hwritten : ∃ i rest accessed writes, x.phase i = .active rest accessed writes ∧
      file ∈ writes.map Prod.fst
  · obtain ⟨i, rest, accessed, writes, hi, hfile⟩ := hwritten
    exact ⟨writes, .inr ⟨i, (h.reaches i rest accessed writes hi).writes_isPrefix⟩,
      h.written i rest accessed writes hi file hfile⟩
  · refine ⟨[], .inl rfl, h.untouched file fun i rest accessed writes hi hfile => ?_⟩
    exact hwritten ⟨i, rest, accessed, writes, hi, hfile⟩

variable [DecidableEq ι]

section

variable (h : Serial prog s order x)
include h

/-- A caller ends: it is the last one of the order now. -/
theorem Serial.end_step (hi : x.phase i = .active rest accessed writes)
    (hend : rest.exec (applyWrites (serialStore prog s order) writes) = (outcome, [])) :
    Serial prog s (order ++ [i])
      ⟨x.store, update x.phase i (.done outcome writes)⟩ := by
  have hexec : (prog i).exec (serialStore prog s order) = (outcome, writes) := by
    rw [(h.reaches i rest accessed writes hi).exec, hend, append_nil]
  have hstore : serialStore prog s (order ++ [i]) =
      applyWrites (serialStore prog s order) writes := by
    rw [serialStore_snoc, Prog.after, hexec]
  have hactive : ∀ {j rest' accessed' writes'},
      update x.phase i (.done outcome writes) j = .active rest' accessed' writes' →
        j ≠ i ∧ x.phase j = .active rest' accessed' writes' := by
    intro j rest' accessed' writes' hj
    exact phase_of_update hj (by simp)
  constructor
  · intro j outcome' writes' hj
    rcases phase_update_cases hj with ⟨rfl, heq⟩ | ⟨hne, hj⟩
    · cases heq
      exact ⟨order, [], rfl, hexec⟩
    · obtain ⟨before, after, horder, hran⟩ := h.ended j outcome' writes' hj
      exact ⟨before, after ++ [i], by simp [horder], hran⟩
  · intro j rest' accessed' writes' hj
    obtain ⟨hne, hj⟩ := hactive hj
    refine (h.reaches j rest' accessed' writes' hj).congr fun file hfile => ?_
    -- What the caller has written, nobody else on the way has accessed.
    have hmem : file ∉ writes.map Prod.fst := by
      intro hmem
      have hapart :=
        h.apart i rest accessed writes hi j rest' accessed' writes' hj hne.symm file hmem
      rw [hfile] at hapart
      cases hapart
    rw [hstore, get?_applyWrites_of_not_mem hmem]
  · intro file hfile
    rw [hstore]
    refine h.get?_eq hi fun j rest' accessed' writes' hj hne => ?_
    exact hfile j rest' accessed' writes' ((update_of_ne hne ..).trans hj)
  · intro j rest' accessed' writes' hj file hfile
    obtain ⟨-, hj⟩ := hactive hj
    rw [get?_applyWrites_of_mem hfile _ (serialStore prog s order)]
    exact h.written j rest' accessed' writes' hj file hfile
  · intro j rest' accessed' writes' hj k rest'' accessed'' writes'' hk
    obtain ⟨-, hj⟩ := hactive hj
    obtain ⟨-, hk⟩ := hactive hk
    exact h.apart j rest' accessed' writes' hj k rest'' accessed'' writes'' hk

/-- A caller reads or lists files that nobody else on the way has written. -/
theorem Serial.look_step (hi : x.phase i = .active rest accessed writes) {rest' : Prog K V α}
    (looked : K → Bool)
    (hreaches : Reaches (serialStore prog s order) (prog i) writes
      (fun file => accessed file || looked file) rest')
    (hothers : ∀ j rest' accessed' writes', x.phase j = .active rest' accessed' writes' →
      j ≠ i → ∀ file ∈ writes'.map Prod.fst, looked file = false) :
    Serial prog s order ⟨x.store, update x.phase i
      (.active rest' (fun file => accessed file || looked file) writes)⟩ := by
  have hactive : ∀ {j restj accessedj writesj}, update x.phase i
      (.active rest' (fun file => accessed file || looked file) writes) j =
        .active restj accessedj writesj →
      ∃ restj' accessedj', x.phase j = .active restj' accessedj' writesj := by
    intro j restj accessedj writesj hj
    rcases phase_update_cases hj with ⟨rfl, heq⟩ | ⟨-, hj⟩
    · cases heq
      exact ⟨rest, accessed, hi⟩
    · exact ⟨restj, accessedj, hj⟩
  constructor
  · intro j outcome' writes' hj
    exact h.ended j outcome' writes' (phase_of_update hj (by simp)).2
  · intro j restj accessedj writesj hj
    rcases phase_update_cases hj with ⟨rfl, heq⟩ | ⟨-, hj⟩
    · cases heq
      exact hreaches
    · exact h.reaches j restj accessedj writesj hj
  · intro file hfile
    refine h.untouched file fun j restj accessedj writesj hj => ?_
    by_cases hji : j = i
    · subst hji
      cases hi.symm.trans hj
      exact hfile j _ _ _ (update_self ..)
    · exact hfile j restj accessedj writesj ((update_of_ne hji ..).trans hj)
  · intro j restj accessedj writesj hj
    obtain ⟨restj', accessedj', hj'⟩ := hactive hj
    exact h.written j restj' accessedj' writesj hj'
  · intro j restj accessedj writesj hj k restk accessedk writesk hk hjk file hfile
    obtain ⟨restj', accessedj', hj'⟩ := hactive hj
    rcases phase_update_cases hk with ⟨rfl, heq⟩ | ⟨-, hk⟩
    · cases heq
      simp only [h.apart j _ _ _ hj' k rest accessed writes hi hjk file hfile,
        hothers j _ _ _ hj' hjk file hfile, Bool.or_false]
    · exact h.apart j _ _ _ hj' k _ _ _ hk hjk file hfile

theorem Serial.write_step {content : V} {next : Prog K V α}
    (hi : x.phase i = .active (.write file content next) accessed writes)
    (hothers : ∀ j rest' accessed' writes', x.phase j = .active rest' accessed' writes' →
      j ≠ i → accessed' file = false) :
    Serial prog s order ⟨x.store.set file content, update x.phase i
      (.active next (fun f => accessed f || f = file) (writes ++ [(file, content)]))⟩ := by
  -- A file that another caller has written is not the one written now.
  have hne : ∀ j restj accessedj writesj, x.phase j = .active restj accessedj writesj → j ≠ i →
      ∀ f ∈ writesj.map Prod.fst, f ≠ file := by
    rintro j restj accessedj writesj hj hji f hf rfl
    have haccessed := (h.reaches j restj accessedj writesj hj).accessed_of_mem hf
    rw [hothers j restj accessedj writesj hj hji] at haccessed
    cases haccessed
  constructor
  · intro j outcome' writes' hj
    exact h.ended j outcome' writes' (phase_of_update hj (by simp)).2
  · intro j restj accessedj writesj hj
    rcases phase_update_cases hj with ⟨rfl, heq⟩ | ⟨-, hj⟩
    · cases heq
      exact (h.reaches j _ _ _ hi).write
    · exact h.reaches j restj accessedj writesj hj
  · intro f hf
    have hi' := hf i _ _ _ (update_self ..)
    rw [map_append, mem_append, not_or] at hi'
    have hfile : file ≠ f := by
      rintro rfl
      exact hi'.2 (by simp)
    rw [Dict.get?_set_ne _ _ hfile]
    refine h.untouched f fun j restj accessedj writesj hj => ?_
    by_cases hji : j = i
    · subst hji
      cases hi.symm.trans hj
      exact hi'.1
    · exact hf j restj accessedj writesj ((update_of_ne hji ..).trans hj)
  · intro j restj accessedj writesj hj f hf
    rcases phase_update_cases hj with ⟨rfl, heq⟩ | ⟨hji, hj⟩
    · cases heq
      rw [applyWrites_append, applyWrites_cons, applyWrites_nil]
      by_cases hfile : file = f
      · rw [hfile, Dict.get?_set_self, Dict.get?_set_self]
      rw [Dict.get?_set_ne _ _ hfile, Dict.get?_set_ne _ _ hfile]
      have hf' : f ∈ writes.map Prod.fst := by
        simpa [Ne.symm hfile] using hf
      exact h.written j _ _ _ hi f hf'
    · rw [Dict.get?_set_ne _ _ (hne j _ _ _ hj hji f hf).symm]
      exact h.written j restj accessedj writesj hj f hf
  · intro j restj accessedj writesj hj k restk accessedk writesk hk hjk f hf
    rcases phase_update_cases hj with ⟨rfl, heq⟩ | ⟨hji, hj⟩
    · cases heq
      obtain ⟨hkj, hk⟩ | ⟨hkj, hk⟩ := phase_update_cases hk
      · exact absurd hkj.symm hjk
      rw [map_append, mem_append] at hf
      rcases hf with hf | hf
      · exact h.apart j _ _ _ hi k _ _ _ hk hjk f hf
      · simp only [map_cons, map_nil, mem_singleton] at hf
        rw [hf]
        exact hothers k _ _ _ hk hkj
    · obtain ⟨hki, heq⟩ | ⟨-, hk⟩ := phase_update_cases hk
      · cases heq
        simp [h.apart j _ _ _ hj i _ _ _ hi hji f hf, hne j _ _ _ hj hji f hf]
      · exact h.apart j _ _ _ hj k _ _ _ hk hjk f hf

/-- An access without a conflict. -/
theorem serial_step (hguard : NoConflict x i) : ∃ order', Serial prog s order' (step x i) := by
  cases hi : x.phase i with
  | done outcome writes => exact ⟨order, by simpa only [step, hi] using h⟩
  | active rest accessed writes =>
    simp only [NoConflict, hi] at hguard
    simp only [step, hi]
    cases rest with
    | pure a | raise e => exact ⟨order ++ [i], h.end_step hi rfl⟩
    | read file next =>
      have hothers : ∀ j rest' accessed' writes', x.phase j = .active rest' accessed' writes' →
          j ≠ i → file ∉ writes'.map Prod.fst := by
        intro j rest' accessed' writes' hj hji hmem
        have hallows := hguard j hji
        rw [mem_map] at hmem
        obtain ⟨write, hmem, rfl⟩ := hmem
        simp only [Phase.allows, hj, Bool.not_eq_true', any_eq_false] at hallows
        exact hallows write hmem (by simp)
      refine ⟨order, h.look_step hi (fun f => f = file) ?_ ?_⟩
      · rw [h.get?_eq hi hothers]
        exact (h.reaches i _ _ _ hi).read
      · intro j rest' accessed' writes' hj hji f hf
        have hne : f ≠ file := by
          rintro rfl
          exact hothers j rest' accessed' writes' hj hji hf
        simp [hne]
    | glob scope next =>
      have hothers : ∀ j rest' accessed' writes', x.phase j = .active rest' accessed' writes' →
          j ≠ i → ∀ f ∈ writes'.map Prod.fst, scope f = false := by
        intro j rest' accessed' writes' hj hji
        simpa [Phase.allows, hj] using hguard j hji
      refine ⟨order, h.look_step hi scope ?_ hothers⟩
      have hlisting : Prog.listing x.store scope =
          Prog.listing (applyWrites (serialStore prog s order) writes) scope := by
        refine listing_congr fun f hf =>
          h.get?_eq hi fun j rest' accessed' writes' hj hji hmem => ?_
        rw [hothers j rest' accessed' writes' hj hji f hmem] at hf
        cases hf
      rw [hlisting]
      exact (h.reaches i _ _ _ hi).glob
    | write file content next =>
      refine ⟨order, h.write_step hi fun j rest' accessed' writes' hj hji => ?_⟩
      simpa [Phase.allows, hj] using hguard j hji

end

/-- **Main result.** An interleaving without conflicts is serial. -/
theorem serial_run (s : Dict K V) (prog : ι → Prog K V α) (steps : List ι)
    (h : Guarded step NoConflict (start s prog) steps) :
    ∃ order, Serial prog s order (run step (start s prog) steps) :=
  guarded_invariant (P := fun x => ∃ order, Serial prog s order x)
    (fun _ _ hguard hserial => hserial.elim fun _ h => serial_step h hguard) steps _ h
    ⟨[], serial_start prog s⟩

end

end Lib.Interleaving
