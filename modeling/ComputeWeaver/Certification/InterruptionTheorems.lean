/-
Certification.InterruptionTheorems — what an interrupted write
leaves.

`write_evidence` replaces the document and then its sidecar. Each of the two is
atomic, the pair is not: a writer that stops in between leaves the new document
with the digest of the old one, and every later call that loads it raises
before it writes anything. At every other point the document verifies, and is
the old or the new one.
-/
import ComputeWeaver.Certification.RevocationTheorems

namespace ComputeWeaver.Certification

open Lib List

variable {env : CertEnv} {s : Files} {path : EvidencePath} {old stored : Document}

theorem verifyError_of_loadable (h : Loadable env s path old) : verifyError env s path = none := by
  simp [verifyError, h.json, h.sidecar, h.metadata, Content.digest?, Content.document?,
    env.contentSha256_length]

/-- With the document written and the sidecar not, the old digest decides. -/
theorem verifyError_between (h : Loadable env s path old) (hmetadata : hasMetadata stored = true) :
    verifyError env (s.set (.json path) (.document stored)) path = none ↔
      env.contentSha256 stored = env.contentSha256 old := by
  have hsidecar := Dict.get?_set_ne s (.document stored)
    (show EvidenceFile.json path ≠ .sidecar path by simp)
  rw [h.sidecar] at hsidecar
  simp [verifyError, hsidecar, hmetadata, Content.digest?, Content.document?,
    env.contentSha256_length]

theorem loadable_take (n : Nat) (s : Files) (hmetadata : hasMetadata stored = true) :
    Loadable env (applyWrites s ((evidenceWrites env path stored).take (n + 2))) path stored := by
  refine ⟨?_, ?_, hmetadata⟩ <;> cases n <;> simp [evidenceWrites, Dict.get?_set]

/-- A stop elsewhere than one write into a three leaves every document complete. -/
theorem complete_take {n : Nat} (hn : n ≠ 1) (hs : Complete env s)
    (hmetadata : hasMetadata stored = true) :
    Complete env (applyWrites s ((evidenceWrites env path stored).take n)) := by
  obtain rfl | ⟨n, rfl⟩ : n = 0 ∨ ∃ k, n = k + 2 := by
    rcases n with _ | _ | n
    · exact .inl rfl
    · exact absurd rfl hn
    · exact .inr ⟨n, rfl⟩
  · exact hs
  intro other content hcontent
  by_cases hother : other = path
  · subst hother
    exact ⟨stored, loadable_take n s hmetadata⟩
  have hkeep : ∀ file : EvidenceFile, file.path = other →
      (applyWrites s ((evidenceWrites env path stored).take (n + 2))).get? file = s.get? file := by
    intro file hfile
    refine get?_applyWrites_of_not_mem (fun hmem => ?_) s
    obtain ⟨write, hwrite, rfl⟩ := mem_map.mp hmem
    exact hother (hfile ▸ path_evidenceWrites (mem_of_mem_take hwrite))
  rw [hkeep _ rfl] at hcontent
  obtain ⟨document, hloadable⟩ := hs other content hcontent
  exact ⟨document, by rw [hkeep _ rfl]; exact hloadable.json,
    by rw [hkeep _ rfl]; exact hloadable.sidecar, hloadable.metadata⟩

/-- **One call.** It writes in threes. -/
theorem complete_stopped {touched : EvidencePath → Prop}
    {blocks : List (List (EvidenceFile × Content))}
    (hblocks : ∀ block ∈ blocks, EvidenceBlock env touched block) {n : Nat}
    (hn : (blocks.flatten.take n).length % 3 ≠ 1) (hs : Complete env s) :
    Complete env (applyWrites s (blocks.flatten.take n)) := by
  induction blocks generalizing n s with
  | nil => simpa using hs
  | cons block rest ih =>
    obtain ⟨path, stored, -, hmetadata, rfl⟩ := hblocks block mem_cons_self
    have hlength : (evidenceWrites env path stored).length = 3 := rfl
    rw [flatten_cons, take_append, hlength] at hn ⊢
    rw [applyWrites_append]
    by_cases hle : 3 ≤ n
    · rw [take_of_length_le (by omega)] at hn ⊢
      refine ih (fun block hmem => hblocks block (mem_cons_of_mem _ hmem)) ?_
        (stableUnder_complete env path stored s trivial hmetadata hs)
      rw [length_append, hlength] at hn
      omega
    · have hrest : rest.flatten.take (n - 3) = [] := by
        rw [Nat.sub_eq_zero_of_le (by omega), take_zero]
      rw [hrest, append_nil, length_take, hlength] at hn
      rw [hrest, applyWrites_nil]
      exact complete_take (by omega) hs hmetadata

def NotBetween (env : CertEnv) (s : Files) (op : StoppableCall) : Prop :=
  (op.writes env s).length % 3 ≠ 1

instance (env : CertEnv) (s : Files) (op : StoppableCall) : Decidable (NotBetween env s op) :=
  inferInstanceAs (Decidable (_ ≠ _))

theorem complete_step {op : StoppableCall} (hop : NotBetween env s op) (hs : Complete env s) :
    Complete env (s.stoppableStep env op) := by
  obtain ⟨blocks, hblocks, hflatten⟩ := call_touches env op.call s
  have hwrites : op.writes env s =
      blocks.flatten.take (op.limit.getD blocks.flatten.length) := by
    unfold StoppableCall.writes
    cases op.limit with
    | none => simp [hflatten]
    | some n => simp [hflatten]
  rw [NotBetween, hwrites] at hop
  rw [Files.stoppableStep, hwrites]
  exact complete_stopped hblocks hop hs

/-- **Main result.** After `n` of the three writes over a verified document, the
path verifies and holds the old or the new document exactly when `n` is not one,
or the two documents have the same digest. And after every sequence of calls of
which none stops one write into a three, every document loads. -/
theorem interrupted_write_iff (env : CertEnv) :
    (∀ (s : Files) (path : EvidencePath) (old document : Document) (command : String)
      (timestamp : Timestamp) (n : Nat), Loadable env s path old →
      let stored := storedDocument env document command timestamp
      let s' := applyWrites s
        (((writeEvidence env path document command timestamp).exec s).2.take n)
      (((verifyEvidence env path).exec s').1 = .ok none ∧
        (s'.get? (.json path) = some (.document old) ∨
          s'.get? (.json path) = some (.document stored))) ↔
        n ≠ 1 ∨ env.contentSha256 stored = env.contentSha256 old) ∧
    ∀ ops : List StoppableCall, Guarded (Files.stoppableStep env) (NotBetween env) .empty ops →
      ∀ path content,
        (run (Files.stoppableStep env) .empty ops).get? (.json path) = some content →
        ∃ document, content = .document document ∧
          (loadVerified env path).exec (run (Files.stoppableStep env) .empty ops) =
            (.ok document, []) := by
  refine ⟨?_, ?_⟩
  · intro s path old document command timestamp n hold stored s'
    have hmetadata := hasMetadata_storedDocument env document command timestamp
    rw [exec_verifyEvidence, Except.ok.injEq]
    obtain rfl | rfl | ⟨n, rfl⟩ : n = 0 ∨ n = 1 ∨ ∃ k, n = k + 2 := by
      rcases n with _ | _ | n <;> simp
    · have hsame : s' = s := rfl
      simp [hsame, verifyError_of_loadable hold, hold.json]
    · have hbetween : s' = s.set (.json path) (.document stored) := rfl
      rw [hbetween, verifyError_between hold hmetadata]
      simp [stored]
    · have hloadable : Loadable env s' path stored := loadable_take n s hmetadata
      simp [verifyError_of_loadable hloadable, hloadable.json]
  · intro ops hguard path content hcontent
    have hcomplete : Complete env (run (Files.stoppableStep env) .empty ops) :=
      guarded_invariant (P := Complete env) (fun _ _ => complete_step) ops _ hguard
        fun _ _ h => by cases h
    obtain ⟨document, hloadable⟩ := hcomplete path content hcontent
    refine ⟨document, Option.some.inj (hcontent.symm.trans hloadable.json), ?_⟩
    rw [exec_loadVerified, load_eq_ok.mpr hloadable]

/-! ## An interrupted event -/

/-- An event is logged; the next one is stopped after its first write. -/
def interruptedOps (limit : Nat) : List StoppableCall :=
  [⟨.appendEvent "CertificationStarted" "release-1" "alice" [] none sampleClock, none⟩,
   ⟨.appendEvent "GateFailed" "release-1" "alice" [] none sampleClock, some limit⟩]

theorem interrupted_write_iff_interruptedOps :
    ∃ document, (loadVerified sampleEnv (.release .events "release-1")).exec
      (run (Files.stoppableStep sampleEnv) .empty (interruptedOps 2)) = (.ok document, []) := by
  have hsome : ((run (Files.stoppableStep sampleEnv) .empty (interruptedOps 2)).get?
      (.json (.release .events "release-1"))).isSome = true := by decide +kernel
  obtain ⟨content, hcontent⟩ := Option.isSome_iff_exists.mp hsome
  obtain ⟨document, -, hload⟩ := (interrupted_write_iff sampleEnv).2 (interruptedOps 2)
    (by decide +kernel) _ content hcontent
  exact ⟨document, hload⟩

/-- The log no longer verifies, and neither a reader nor a writer gets past it. -/
theorem interrupted_log_unreadable :
    let s := run (Files.stoppableStep sampleEnv) .empty (interruptedOps 1)
    let failed := PyError.valueError
      "certification repository integrity check failed: evidence SHA-256 mismatch"
    raised? ((events sampleEnv "release-1").exec s).1 = some failed ∧
      raised? ((appendEvent sampleEnv "GateFailed" "release-1" "alice" [] none sampleClock).exec
        s).1 = some failed ∧
      ((appendEvent sampleEnv "GateFailed" "release-1" "alice" [] none sampleClock).exec
        s).2.length = 0 := by
  decide +kernel

/-! ## What a stop cannot spoil -/

/-- **Main result.** Wherever the calls of a series are stopped between two
writes, what is stored is sound: certificates were published with a verified
token from the saved run with their hash, revocations are of stored
certificates, and every event log is a hash chain. And no later call changes or
removes a run, a certificate or a revocation. -/
theorem stopped_calls_sound (env : CertEnv) (ops later : List StoppableCall) :
    Sound env (publishedBy (ops.map (·.call))) (run (Files.stoppableStep env) .empty ops) ∧
    ∀ path content, path.writtenOnce = true →
      (run (Files.stoppableStep env) .empty ops).get? (.json path) = some content →
      (run (Files.stoppableStep env) .empty (ops ++ later)).get? (.json path) = some content := by
  constructor
  · induction ops using reverseRecOn with
    | nil => exact sound_empty
    | append_singleton ops op ih =>
      rw [run_append, map_append]
      refine (call_writes ?_ _).applied (fun _ _ => Sound.step) (ih.mono ?_)
        (op.writes_prefix env _)
      · exact fun result actorId publicKey clock hcall => ⟨actorId, clock, by simp [hcall]⟩
      · rintro result publicKey ⟨actorId, clock, hmem⟩
        exact ⟨actorId, clock, mem_append_left _ hmem⟩
  · intro path content honce hcontent
    rw [run_append]
    refine run_invariant (P := fun s : Files => s.get? (.json path) = some content)
      (fun s op h => ?_) later _ hcontent
    exact (call_allowed env op.call s).applied
      (I := fun s : Files => s.get? (.json path) = some content)
      (fun _ _ hwrite => json_step hwrite honce) h (op.writes_prefix env s)

end ComputeWeaver.Certification
