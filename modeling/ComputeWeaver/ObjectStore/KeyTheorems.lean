/-
ObjectStore.KeyTheorems — the object keys of a tenant
(`packages/objectstore/s3.py`, `S3ObjectStore._key`).

A tenant id has no slash, so the second segment of a key tells the tenant.
-/
import Mathlib.Data.List.DropRight
import ComputeWeaver.Lib.CodePoints
import ComputeWeaver.Lib.Python

namespace ComputeWeaver.ObjectStore

open Lib List

def slash : CodePoint := codePoint 47

/-- `[A-Za-z0-9]`. -/
def alphanumeric (c : CodePoint) : Bool :=
  (48 ≤ c.val && c.val ≤ 57) || (65 ≤ c.val && c.val ≤ 90) || (97 ≤ c.val && c.val ≤ 122)

/-- `re.fullmatch(r"[A-Za-z0-9][A-Za-z0-9_.-]{0,127}", tenant_id)`. -/
def validTenant : PyStr → Bool
  | [] => false
  | c :: rest => alphanumeric c && rest.length ≤ 127 &&
      rest.all fun d => alphanumeric d || d.val ∈ [95, 46, 45]

/-- `key.strip("/")`. -/
def strip (key : PyStr) : PyStr := (key.dropWhile (· = slash)).rdropWhile (· = slash)

/-- `key.split("/")`. -/
def segments (key : PyStr) : List PyStr := key.splitOn slash

def tenantPrefix (tenantId : PyStr) : PyStr := pyStr "tenants/" ++ tenantId ++ [slash]

/-- `_key`. -/
def objectKey (tenantId key : PyStr) : Except PyError PyStr :=
  if !validTenant tenantId then throw (.valueError "invalid tenant ID for object key")
  else
    let normalized := strip key
    if normalized = [] ∨ pyStr ".." ∈ segments normalized then
      throw (.valueError "invalid object key")
    else pure (tenantPrefix tenantId ++ normalized)

variable {tenantId tenantId' key full rest rest' : PyStr}

theorem slash_not_mem (h : validTenant tenantId) : slash ∉ tenantId := by
  cases tenantId with
  | nil => simp
  | cons c rest =>
    simp only [validTenant, Bool.and_eq_true, all_eq_true] at h
    intro hmem
    rcases mem_cons.mp hmem with rfl | hmem
    · exact absurd h.1.1 (by decide)
    · exact absurd (h.2 slash hmem) (by decide)

theorem objectKey_eq_ok (h : objectKey tenantId key = .ok full) :
    validTenant tenantId ∧ pyStr ".." ∉ segments (strip key) ∧
      full = tenantPrefix tenantId ++ strip key := by
  unfold objectKey at h
  split at h
  · cases h
  rename_i hvalid
  dsimp only at h
  split at h
  · cases h
  rename_i hkey
  cases h
  exact ⟨by simpa using hvalid, fun hdots => hkey (.inr hdots), rfl⟩

theorem tenantPrefix_inj (h : validTenant tenantId) (h' : validTenant tenantId')
    (heq : tenantPrefix tenantId ++ rest = tenantPrefix tenantId' ++ rest') :
    tenantId = tenantId' ∧ rest = rest' := by
  simp only [tenantPrefix, append_assoc, append_cancel_left_eq, singleton_append] at heq
  have hsegments := congrArg (splitOn slash) heq
  rw [splitOn_append_cons_self_of_not_mem (slash_not_mem h),
    splitOn_append_cons_self_of_not_mem (slash_not_mem h')] at hsegments
  obtain rfl := (cons.inj hsegments).1
  exact ⟨rfl, (cons.inj (append_cancel_left heq)).2⟩

/-- **Main result.** Equal object keys have one tenant and one key up to the slashes
around it; an object key is under its tenant's prefix and under no other tenant's, and
has no `..` segment. -/
theorem objectKey_isolates (tenantId key full : PyStr)
    (h : objectKey tenantId key = .ok full) :
    (∀ tenantId' key' full', objectKey tenantId' key' = .ok full' →
      (full = full' → tenantId = tenantId' ∧ strip key = strip key') ∧
      (tenantPrefix tenantId' <+: full → tenantId = tenantId')) ∧
    tenantPrefix tenantId <+: full ∧ pyStr ".." ∉ segments full := by
  obtain ⟨hvalid, hdots, rfl⟩ := objectKey_eq_ok h
  refine ⟨?_, prefix_append _ _, ?_⟩
  · intro tenantId' key' full' h'
    obtain ⟨hvalid', -, rfl⟩ := objectKey_eq_ok h'
    refine ⟨tenantPrefix_inj hvalid hvalid', ?_⟩
    rintro ⟨rest, hrest⟩
    exact (tenantPrefix_inj hvalid hvalid' hrest.symm).1
  · have hsplit : tenantPrefix tenantId ++ strip key =
        pyStr "tenants" ++ slash :: (tenantId ++ slash :: strip key) := by
      simp [tenantPrefix, pyStr, slash]
    rw [hsplit, segments, splitOn_append_cons_self_of_not_mem (by decide),
      splitOn_append_cons_self_of_not_mem (slash_not_mem hvalid)]
    have htenant : pyStr ".." ≠ tenantId := by
      rintro rfl
      exact absurd hvalid (by decide)
    simp only [mem_cons, not_or]
    exact ⟨by decide, htenant, hdots⟩

theorem objectKey_isolates_plan :
    objectKey (pyStr "acme") (pyStr "/plan/") = .ok (pyStr "tenants/acme/plan") ∧
      tenantPrefix (pyStr "acme") <+: pyStr "tenants/acme/plan" :=
  ⟨by decide, (objectKey_isolates _ (pyStr "/plan/") _ (by decide)).2.1⟩

end ComputeWeaver.ObjectStore
