/-
Observability.AuditTheorems — what the hash chain of the audit
log proves.

`verify` holds after every list of calls. The chain is one for all tenants,
though, so the records of one tenant link up only as far as no other tenant
came in between (`leading_of_verifyTenant`).

The last hash commits to the digests of all records, and so to everything that
the canonical JSON shows: the times, and the texts in UTF-16
(`SameShown`). A record can be exchanged for one that shows the same, and that
is the only change `verify` and the last hash do not detect.
-/
import ComputeWeaver.Observability.Audit

namespace ComputeWeaver.Observability

open Lib AuditLog
open List hiding after

/-! ## What the canonical JSON shows -/

theorem source_eq (record : AuditRecord) :
    record.source = String.ofList (jsonObject
      [(pyStr "action", record.action), (pyStr "actor_id", record.actorId),
        (pyStr "correlation_id", record.correlationId), (pyStr "outcome", record.outcome),
        (pyStr "previous_hash", record.previousHash), (pyStr "resource", record.resource),
        (pyStr "tenant_id", record.tenantId),
        (pyStr "timestamp", pyStr record.timestamp.isoformat)]) := rfl

/-- The texts of a record that `append` is given. -/
def AuditRecord.texts (record : AuditRecord) : List PyStr :=
  [record.actorId, record.tenantId, record.action, record.resource, record.outcome,
    record.correlationId]

def AppendCall.texts (call : AppendCall) : List PyStr :=
  [call.actorId, call.tenantId, call.action, call.resource, call.outcome, call.correlationId]

/-- The records look alike in canonical JSON. -/
structure SameShown (a b : AuditRecord) : Prop where
  timestamp : a.timestamp = b.timestamp
  texts : a.texts.map utf16 = b.texts.map utf16
  previousHash : utf16 a.previousHash = utf16 b.previousHash

theorem source_eq_iff {a b : AuditRecord} : a.source = b.source ↔ SameShown a b := by
  have hchars : ∀ l m : List Char, String.ofList l = String.ofList m ↔ l = m :=
    fun l m => ⟨fun h => String.ofList_injective h, congrArg _⟩
  rw [source_eq, source_eq, hchars, jsonObject_eq_iff]
  simp only [map_cons, map_nil, memberUnits, List.cons.injEq, Prod.mk.injEq, true_and, and_true]
  constructor
  · rintro ⟨haction, hactor, hcorrelation, houtcome, hprevious, hresource, htenant, htime⟩
    refine ⟨?_, ?_, hprevious⟩
    · have htext := utf16_inj (encodable_pyStr _) (encodable_pyStr _) htime
      exact isoformat_injective (pyStr_injective htext)
    · simp only [AuditRecord.texts, map_cons, map_nil, haction, hactor, hcorrelation,
        houtcome, hresource, htenant]
  · rintro ⟨htime, htexts, hprevious⟩
    simp only [AuditRecord.texts, map_cons, map_nil, List.cons.injEq] at htexts
    obtain ⟨hactor, htenant, haction, hresource, houtcome, hcorrelation, -⟩ := htexts
    exact ⟨haction, hactor, hcorrelation, houtcome, hprevious, hresource, htenant, by rw [htime]⟩

/-! ## The chain of a log -/

section

variable (sha256 : String → String)

theorem after_concat (calls : List AppendCall) (call : AppendCall) :
    after sha256 (calls ++ [call]) = ((after sha256 calls).append sha256 call).2 := by
  rw [after, run_append]
  rfl

theorem map_records {β : Type} {f : AuditRecord → β} {g : AppendCall → β}
    (hfg : ∀ call previous, f (call.record sha256 previous) = g call) (calls : List AppendCall) :
    (after sha256 calls).records.map f = calls.map g := by
  induction calls using List.reverseRecOn with
  | nil => rfl
  | append_singleton calls call ih =>
    rw [after_concat, map_append]
    simp only [append, map_append, map_cons, map_nil, hfg, ih]

theorem previousHash_record (call : AppendCall) (previous : PyStr) :
    (call.record sha256 previous).previousHash = previous := rfl

theorem digest_record (call : AppendCall) (previous : PyStr) :
    (call.record sha256 previous).digest sha256 = (call.record sha256 previous).recordHash := rfl

theorem after_singleton (call : AppendCall) :
    after sha256 [call] = ⟨[call.record sha256 genesis]⟩ := rfl

theorem verify_after (calls : List AppendCall) : (after sha256 calls).verify sha256 = true := by
  induction calls using List.reverseRecOn with
  | nil => rfl
  | append_singleton calls call ih =>
    rw [after_concat]
    exact HashLinks.verifyFrom_concat.mpr ⟨ih, rfl, digest_record sha256 call _⟩

variable {sha256}

theorem verify_singleton {record : AuditRecord} (hprevious : record.previousHash = genesis)
    (hdigest : record.digest sha256 = record.recordHash) : verify sha256 ⟨[record]⟩ = true :=
  HashLinks.verifyFrom_cons.mpr ⟨hprevious, hdigest, rfl⟩

theorem sameShown_of_digest_eq (hinj : Function.Injective sha256) {a b : AuditRecord}
    (h : a.digest sha256 = b.digest sha256) : SameShown a b :=
  source_eq_iff.mp (hinj (pyStr_injective h))

theorem encodable_of_reached {h : PyStr} (hreached : (auditLinks sha256).Reached genesis h) :
    encodable h = true := by
  rcases hreached with rfl | ⟨_, rfl⟩
  · exact encodable_pyStr _
  · exact encodable_pyStr _

theorem auditLinks_binding (hinj : Function.Injective sha256)
    (hgenesis : ∀ s, sha256 s ≠ "GENESIS") : (auditLinks sha256).Binding genesis where
  ne_start _ h := hgenesis _ (pyStr_injective h)
  previous _ _ h ha hb :=
    utf16_inj (encodable_of_reached ha) (encodable_of_reached hb)
      (sameShown_of_digest_eq hinj h).previousHash

/-! ## The records of one tenant -/

/-- No call of the tenant comes after a call of another one. -/
def Leading (tenantId : PyStr) (calls : List AppendCall) : Prop :=
  tenantId ∉ (calls.map AppendCall.tenantId).dropWhile fun other => decide (other = tenantId)

instance (tenantId : PyStr) (calls : List AppendCall) : Decidable (Leading tenantId calls) :=
  inferInstanceAs (Decidable (¬ _))

variable {calls : List AppendCall} {tenantId : PyStr}

theorem leading_iff : Leading tenantId calls ↔
    ∀ record ∈ (after sha256 calls).records.dropWhile fun record =>
      decide (record.tenantId = tenantId), decide (record.tenantId = tenantId) = false := by
  have htenants := map_records sha256 (f := AuditRecord.tenantId) (fun _ _ => rfl) calls
  rw [Leading, ← htenants, dropWhile_map, mem_map]
  constructor
  · intro h record hmem
    exact decide_eq_false fun heq => h ⟨record, hmem, heq⟩
  · rintro h ⟨record, hmem, heq⟩
    simpa [heq] using h record hmem

theorem verifyTenant_of_leading (h : Leading tenantId calls) :
    (after sha256 calls).verifyTenant sha256 tenantId = true :=
  HashLinks.verifyFrom_filter (verify_after sha256 calls) (leading_iff.mp h)

theorem leading_of_verifyTenant (hinj : Function.Injective sha256)
    (hgenesis : ∀ s, sha256 s ≠ "GENESIS")
    (h : (after sha256 calls).verifyTenant sha256 tenantId = true) : Leading tenantId calls :=
  leading_iff.mpr (HashLinks.dropWhile_of_verifyFrom_filter (auditLinks_binding hinj hgenesis)
    (verify_after sha256 calls) h)

theorem auditIntegrity_valid (log : AuditLog) (tenantId : PyStr) {roles : Finset String}
    (h : "admin" ∈ roles ∨ "auditor" ∈ roles) :
    (auditIntegrity sha256 log tenantId roles).map IntegrityReport.valid =
      .ok (log.verifyTenant sha256 tenantId) := by
  have hroles : ¬("admin" ∉ roles ∧ "auditor" ∉ roles) := by tauto
  rw [auditIntegrity, if_neg hroles]
  rfl

/-! ## Changes that are detected -/

/-- Nothing with the same last hash verifies, except the log itself. -/
def TamperEvident (sha256 : String → String) (log : AuditLog) : Prop :=
  ∀ other : AuditLog, other.verify sha256 = true →
    other.records.getLast?.map AuditRecord.recordHash =
      log.records.getLast?.map AuditRecord.recordHash →
    other = log

/-- Records with the same links are the same if their texts can be told
apart. -/
theorem eq_of_sameLinks (hinj : Function.Injective sha256) {a b : AuditRecord}
    (h : (auditLinks sha256).SameLinks a b)
    (htell : a.texts.map utf16 = b.texts.map utf16 → a.texts = b.texts) : a = b := by
  obtain ⟨hprevious, hhash, hdigest⟩ := h
  have hshown := sameShown_of_digest_eq hinj hdigest
  have htexts := htell hshown.texts
  have htime := hshown.timestamp
  cases a
  cases b
  simp_all [AuditRecord.texts, auditLinks]

theorem texts_eq_of_utf16_eq {texts texts' : List PyStr}
    (htell : ∀ text ∈ texts, ∀ text' ∈ texts', utf16 text = utf16 text' → text = text')
    (h : texts.map utf16 = texts'.map utf16) : texts = texts' := by
  induction texts generalizing texts' with
  | nil =>
    cases texts' with
    | nil => rfl
    | cons text' rest' => simp at h
  | cons text rest ih =>
    cases texts' with
    | nil => simp at h
    | cons text' rest' =>
      obtain ⟨htext, hrest⟩ := List.cons.inj h
      have hhead := htell text mem_cons_self text' mem_cons_self htext
      have htail := ih (fun t ht t' ht' =>
        htell t (mem_cons_of_mem _ ht) t' (mem_cons_of_mem _ ht')) hrest
      rw [hhead, htail]

/-- The record with every text written another way, if there is one. -/
def AuditRecord.respelled (record : AuditRecord) : AuditRecord :=
  { record with
    actorId := respell record.actorId
    tenantId := respell record.tenantId
    action := respell record.action
    resource := respell record.resource
    outcome := respell record.outcome
    correlationId := respell record.correlationId }

theorem digest_respelled (record : AuditRecord) :
    record.respelled.digest sha256 = record.digest sha256 := by
  have hshown : SameShown record.respelled record :=
    ⟨rfl, by simp [AuditRecord.texts, AuditRecord.respelled, utf16_respell], rfl⟩
  rw [AuditRecord.digest, AuditRecord.digest, source_eq_iff.mpr hshown]

/-- A log with every text written another way is not told from the log. -/
theorem respelled_undetected {log : AuditLog} (hlog : log.verify sha256 = true)
    (h : TamperEvident sha256 log) : ∀ record ∈ log.records, record.respelled = record := by
  have hverify : (auditLinks sha256).verifyFrom genesis (log.records.map AuditRecord.respelled) =
      (auditLinks sha256).verifyFrom genesis log.records :=
    HashLinks.verifyFrom_map (fun _ => rfl) (fun _ => rfl) digest_respelled
  have hsame := h ⟨log.records.map AuditRecord.respelled⟩ (hverify.trans hlog)
    (by rw [getLast?_map, Option.map_map]; rfl)
  have hmap : log.records.map AuditRecord.respelled = log.records.map id := by
    rw [map_id]
    exact congrArg records hsame
  exact map_inj_left.mp hmap

theorem forall_texts (sha256 : String → String) (calls : List AppendCall) (P : PyStr → Prop) :
    (∀ record ∈ (after sha256 calls).records, ∀ text ∈ record.texts, P text) ↔
      ∀ call ∈ calls, ∀ text ∈ call.texts, P text := by
  have htexts := map_records sha256 (f := AuditRecord.texts) (g := AppendCall.texts)
    (fun _ _ => rfl) calls
  have hrecords := forall_mem_map (l := (after sha256 calls).records)
    (f := AuditRecord.texts) (P := fun texts => ∀ text ∈ texts, P text)
  have hcalls := forall_mem_map (l := calls) (f := AppendCall.texts)
    (P := fun texts => ∀ text ∈ texts, P text)
  rw [← hrecords, ← hcalls, htexts]

/-- **Main result.** A log commits to all of itself exactly if no text of it
has a character beyond the first 65536 or a pair of surrogates. -/
theorem tamperEvident_iff (hinj : Function.Injective sha256)
    (hgenesis : ∀ s, sha256 s ≠ "GENESIS") (calls : List AppendCall) :
    TamperEvident sha256 (AuditLog.after sha256 calls) ↔
      ∀ call ∈ calls, ∀ text ∈ call.texts, unambiguous text = true := by
  rw [← forall_texts sha256]
  constructor
  · intro h record hmem text htext
    have hrespelled := respelled_undetected (verify_after sha256 calls) h record hmem
    by_contra hambiguous
    rw [Bool.not_eq_true] at hambiguous
    have hne := respell_ne hambiguous
    simp only [AuditRecord.texts, mem_cons, not_mem_nil, or_false] at htext
    rcases htext with rfl | rfl | rfl | rfl | rfl | rfl
    · exact hne (congrArg AuditRecord.actorId hrespelled)
    · exact hne (congrArg AuditRecord.tenantId hrespelled)
    · exact hne (congrArg AuditRecord.action hrespelled)
    · exact hne (congrArg AuditRecord.resource hrespelled)
    · exact hne (congrArg AuditRecord.outcome hrespelled)
    · exact hne (congrArg AuditRecord.correlationId hrespelled)
  · intro htexts other hother hhead
    have hlinks := HashLinks.forall₂_of_headFrom_eq (auditLinks_binding hinj hgenesis)
      (verify_after sha256 calls) hother (congrArg (fun hash => hash.getD genesis) hhead.symm)
    have hpairs := (forall₂_and_left _ _).mpr ⟨htexts, hlinks⟩
    have hequal := hpairs.imp fun a b hab =>
      eq_of_sameLinks hinj hab.2 (texts_eq_of_utf16_eq fun text ht text' _ heq =>
        (eq_of_utf16_eq (hab.1 text ht) heq.symm).symm)
    rw [forall₂_eq_eq_eq] at hequal
    exact congrArg mk hequal.symm

end

/-! ## Samples -/

/-- The digests of some texts, and something that is no digest for every other
text. -/
def tabled (table : List (String × String)) (text : String) : String :=
  (table.lookup text).getD ("x" ++ text)

section

variable {table : List (String × String)}

theorem mem_of_lookup {text digest : String} (h : table.lookup text = some digest) :
    (text, digest) ∈ table := by
  obtain ⟨before, rest, htable, -⟩ := lookup_eq_some_iff.mp h
  simp [htable]

theorem tabled_injective (hnodup : (table.map Prod.snd).Nodup)
    (hhex : ∀ row ∈ table, row.2.toList.head? ≠ some 'x') : Function.Injective (tabled table) := by
  have hother : ∀ {text digest other : String}, table.lookup text = some digest →
      digest ≠ "x" ++ other := by
    intro text digest other h heq
    exact hhex _ (mem_of_lookup h) (by simp [heq])
  intro s t h
  unfold tabled at h
  cases hs : table.lookup s with
  | none =>
    cases ht : table.lookup t with
    | none =>
      rw [hs, ht] at h
      have hchars : s.toList = t.toList := by simpa using congrArg String.toList h
      exact String.toList_inj.mp hchars
    | some d =>
      rw [hs, ht] at h
      exact absurd h.symm (hother ht)
  | some d =>
    cases ht : table.lookup t with
    | none =>
      rw [hs, ht] at h
      exact absurd h (hother hs)
    | some d' =>
      rw [hs, ht] at h
      have hrow := inj_on_of_nodup_map hnodup (mem_of_lookup hs) (mem_of_lookup ht) h
      exact congrArg Prod.fst hrow

theorem tabled_ne {word : String} (hword : word.toList.head? ≠ some 'x')
    (htable : ∀ row ∈ table, row.2 ≠ word) (text : String) : tabled table text ≠ word := by
  unfold tabled
  cases h : table.lookup text with
  | none =>
    rintro rfl
    exact hword (by simp)
  | some d => exact htable _ (mem_of_lookup h)

end

/-- SHA-256 of the records below. -/
def sampleSha256 : String → String :=
  tabled
    [("\x7b\"action\": \"plan.create\", \"actor_id\": \"operator-1\", " ++
      "\"correlation_id\": \"request-1\", \"outcome\": \"success\", " ++
      "\"previous_hash\": \"GENESIS\", \"resource\": \"plan-1\", " ++
      "\"tenant_id\": \"tenant-one\", \"timestamp\": \"2026-08-01T12:00:00+00:00\"\x7d",
      "0a52ac953966de9c8bb706431c62fc0dfd0874d35ba58b7f3a5a23f3e4a96ad8"),
    ("\x7b\"action\": \"plan.create\", \"actor_id\": \"operator-1\", " ++
      "\"correlation_id\": \"request-1\", \"outcome\": \"success\", \"previous_hash\": " ++
      "\"0a52ac953966de9c8bb706431c62fc0dfd0874d35ba58b7f3a5a23f3e4a96ad8\", " ++
      "\"resource\": \"plan-1\", \"tenant_id\": \"tenant-two\", " ++
      "\"timestamp\": \"2026-08-01T12:00:00+00:00\"\x7d",
      "804e94a4d0cdf8569daf157519166d366518a466309185e6608bd8b50e663b65"),
    ("\x7b\"action\": \"plan.create\", \"actor_id\": \"operator-\\ud83d\\ude00\", " ++
      "\"correlation_id\": \"request-1\", \"outcome\": \"success\", " ++
      "\"previous_hash\": \"GENESIS\", \"resource\": \"plan-1\", " ++
      "\"tenant_id\": \"tenant-one\", \"timestamp\": \"2026-08-01T12:00:00+00:00\"\x7d",
      "951d6e9401fb8b688d60940a1b436191b33920ab22a4a71288e40ad57fb173fc")]

theorem sampleSha256_injective : Function.Injective sampleSha256 :=
  tabled_injective (by decide +kernel) (by decide +kernel)

theorem sampleSha256_ne_genesis : ∀ s, sampleSha256 s ≠ "GENESIS" :=
  tabled_ne (by decide +kernel) (by decide +kernel)

def sampleCall (actorId : PyStr) (tenantId : String) : AppendCall where
  actorId := actorId
  tenantId := pyStr tenantId
  action := pyStr "plan.create"
  resource := pyStr "plan-1"
  outcome := pyStr "success"
  correlationId := pyStr "request-1"
  now := wallClock 2026 8 1 12 0 0 0

def twoTenants : List AppendCall :=
  ["tenant-one", "tenant-two"].map (sampleCall (pyStr "operator-1"))

theorem tamperEvident_iff_sampleCall :
    TamperEvident sampleSha256 (AuditLog.after sampleSha256 twoTenants) :=
  (tamperEvident_iff sampleSha256_injective sampleSha256_ne_genesis _).mpr (by decide +kernel)

/-- An actor with a character beyond the first 65536. -/
def emojiRecord : AuditRecord :=
  (sampleCall (pyStr "operator-😀") "tenant-one").record sampleSha256 genesis

theorem recordHash_emojiRecord :
    emojiRecord.recordHash =
      pyStr "951d6e9401fb8b688d60940a1b436191b33920ab22a4a71288e40ad57fb173fc" := by
  have hdigest : sampleSha256 emojiRecord.source =
      "951d6e9401fb8b688d60940a1b436191b33920ab22a4a71288e40ad57fb173fc" := by
    rw [source_eq]
    decide +kernel
  have hhash : emojiRecord.recordHash = emojiRecord.digest sampleSha256 :=
    (digest_record sampleSha256 _ genesis).symm
  rw [hhash, AuditRecord.digest, hdigest]

def AuditRecord.withActor (record : AuditRecord) (actorId : PyStr) : AuditRecord :=
  { record with actorId := actorId }

theorem hashes_withActor (record : AuditRecord) (actorId : PyStr) :
    (record.withActor actorId).previousHash = record.previousHash ∧
      (record.withActor actorId).recordHash = record.recordHash := ⟨rfl, rfl⟩

/-- The character is written as two surrogates. -/
def splitRecord : AuditRecord :=
  emojiRecord.withActor (pyStr "operator-" ++ [codePoint 55357, codePoint 56832])

theorem recordHash_splitRecord : splitRecord.recordHash = emojiRecord.recordHash :=
  (hashes_withActor _ _).2

theorem digest_splitRecord : splitRecord.digest sampleSha256 = splitRecord.recordHash := by
  have hshown : SameShown splitRecord emojiRecord := ⟨rfl, by decide +kernel, rfl⟩
  have hdigest : splitRecord.digest sampleSha256 = emojiRecord.digest sampleSha256 := by
    rw [AuditRecord.digest, source_eq_iff.mpr hshown, AuditRecord.digest]
  rw [hdigest, recordHash_splitRecord]
  exact digest_record sampleSha256 _ genesis

/-- The log with the one record and the log with the other have the same last
hash, and `verify` finds nothing wrong with either. -/
theorem surrogates_undetected :
    AuditLog.after sampleSha256 [sampleCall (pyStr "operator-😀") "tenant-one"] =
        ⟨[emojiRecord]⟩ ∧
      emojiRecord.recordHash =
        pyStr "951d6e9401fb8b688d60940a1b436191b33920ab22a4a71288e40ad57fb173fc" ∧
      splitRecord.recordHash =
        pyStr "951d6e9401fb8b688d60940a1b436191b33920ab22a4a71288e40ad57fb173fc" ∧
      AuditLog.verify sampleSha256 ⟨[splitRecord]⟩ = true ∧
      splitRecord.actorId ≠ emojiRecord.actorId ∧
      ¬ TamperEvident sampleSha256
        (AuditLog.after sampleSha256 [sampleCall (pyStr "operator-😀") "tenant-one"]) := by
  have hprevious : splitRecord.previousHash = genesis :=
    (hashes_withActor _ _).1.trans (previousHash_record sampleSha256 _ genesis)
  have hverify : verify sampleSha256 ⟨[splitRecord]⟩ = true :=
    verify_singleton hprevious digest_splitRecord
  have hactor : splitRecord.actorId ≠ emojiRecord.actorId := by decide +kernel
  have hlog := after_singleton sampleSha256 (sampleCall (pyStr "operator-😀") "tenant-one")
  have hhash := recordHash_splitRecord.trans recordHash_emojiRecord
  refine ⟨hlog, recordHash_emojiRecord, hhash, hverify, hactor, ?_⟩
  rw [hlog]
  intro h
  have hsame := h ⟨[splitRecord]⟩ hverify (congrArg some recordHash_splitRecord)
  have hrecord := (List.cons.inj (congrArg records hsame)).1
  exact hactor (congrArg AuditRecord.actorId hrecord)

end ComputeWeaver.Observability
