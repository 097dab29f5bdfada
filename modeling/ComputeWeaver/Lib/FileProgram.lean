/-
Lib.FileProgram — programs that work on files.

A program reads files, lists files and writes files, one access at a time. A
write replaces a file as a whole. What a program does next depends on what it
has read, so it is a tree (`Prog`), and it is run in three ways.

* Alone (`exec`): the outcome, and the writes in their order.
* Stopped: an execution that stops between two writes has made the first few
  of these writes, so a stopped execution is a prefix of the list.
* Interleaved with others (`ComputeWeaver.Lib.FileInterleaving`).

`Writes P` says that every write of an execution is allowed by `P` in the state
it is made in, and `Writes.applied` is the rule to prove an invariant with: it
holds after every prefix of the writes.
-/
import Mathlib.Data.Finset.Dedup
import ComputeWeaver.Lib.Python

namespace Lib

open List

inductive Prog (K V α : Type) where
  | pure (a : α)
  | raise (e : PyError)
  | read (file : K) (next : Option V → Prog K V α)
  | glob (scope : K → Bool) (next : Finset K → Prog K V α)
  | write (file : K) (content : V) (next : Prog K V α)

/-- The files after a list of writes. -/
def applyWrites {K V : Type} [DecidableEq K] (s : Dict K V) (writes : List (K × V)) : Dict K V :=
  writes.foldl (fun s write => s.set write.1 write.2) s

namespace Prog

variable {K V α β : Type}

def bind (p : Prog K V α) (f : α → Prog K V β) : Prog K V β :=
  match p with
  | pure a => f a
  | raise e => raise e
  | read file next => read file fun content => (next content).bind f
  | glob scope next => glob scope fun files => (next files).bind f
  | write file content next => write file content (next.bind f)

instance : Monad (Prog K V) where
  pure := Prog.pure
  bind := Prog.bind

theorem bind_pure_self (p : Prog K V α) : p.bind pure = p := by
  induction p with
  | pure a => rfl
  | raise e => rfl
  | read file next ih => exact congrArg (read file) (funext ih)
  | glob scope next ih => exact congrArg (glob scope) (funext ih)
  | write file content next ih => exact congrArg (write file content) ih

theorem bind_bind {γ : Type} (p : Prog K V α) (f : α → Prog K V β) (g : β → Prog K V γ) :
    (p.bind f).bind g = p.bind fun a => (f a).bind g := by
  induction p with
  | pure a => rfl
  | raise e => rfl
  | read file next ih => exact congrArg (read file) (funext ih)
  | glob scope next ih => exact congrArg (glob scope) (funext ih)
  | write file content next ih => exact congrArg (write file content) ih

instance : LawfulMonad (Prog K V) :=
  LawfulMonad.mk' _ bind_pure_self (fun _ _ => rfl) bind_bind

/-- A computation that touches no files. -/
def ofExcept : Except PyError α → Prog K V α
  | .ok a => pure a
  | .error e => raise e

/-- `if not condition: raise error`. -/
def require (condition : Bool) (error : PyError) : Prog K V Unit :=
  if condition then pure () else raise error

def get (file : K) : Prog K V (Option V) := read file pure

def list (scope : K → Bool) : Prog K V (Finset K) := glob scope pure

def put (file : K) (content : V) : Prog K V Unit := write file content (pure ())

section

variable [DecidableEq K]

/-- The files that a listing shows. -/
def listing (s : Dict K V) (scope : K → Bool) : Finset K :=
  s.keys.toFinset.filter fun file => scope file

/-- The outcome of the program on its own, and its writes. -/
def exec : Prog K V α → Dict K V → Except PyError α × List (K × V)
  | pure a, _ => (.ok a, [])
  | raise e, _ => (.error e, [])
  | read file next, s => (next (s.get? file)).exec s
  | glob scope next, s => (next (listing s scope)).exec s
  | write file content next, s =>
      let out := next.exec (s.set file content)
      (out.1, (file, content) :: out.2)

/-- The files after the program. -/
def after (p : Prog K V α) (s : Dict K V) : Dict K V := applyWrites s (p.exec s).2

end

end Prog

/-! ## Writes -/

section

variable {K V : Type} [DecidableEq K]

@[simp] theorem applyWrites_nil (s : Dict K V) : applyWrites s [] = s := rfl

@[simp] theorem applyWrites_cons (s : Dict K V) (write : K × V) (rest : List (K × V)) :
    applyWrites s (write :: rest) = applyWrites (s.set write.1 write.2) rest := rfl

theorem applyWrites_append (s : Dict K V) (writes writes' : List (K × V)) :
    applyWrites s (writes ++ writes') = applyWrites (applyWrites s writes) writes' :=
  foldl_append ..

variable {writes : List (K × V)} {file : K}

theorem get?_applyWrites_of_not_mem (h : file ∉ writes.map Prod.fst) (s : Dict K V) :
    (applyWrites s writes).get? file = s.get? file := by
  induction writes generalizing s with
  | nil => rfl
  | cons write rest ih =>
    rw [map_cons, mem_cons, not_or] at h
    rw [applyWrites_cons, ih h.2, Dict.get?_set_ne _ _ (Ne.symm h.1)]

/-- What a written file holds does not depend on the files before. -/
theorem get?_applyWrites_of_mem (h : file ∈ writes.map Prod.fst) (s s' : Dict K V) :
    (applyWrites s writes).get? file = (applyWrites s' writes).get? file := by
  induction writes generalizing s s' with
  | nil => simp at h
  | cons write rest ih =>
    rw [applyWrites_cons, applyWrites_cons]
    by_cases hrest : file ∈ rest.map Prod.fst
    · exact ih hrest _ _
    have hfile : write.1 = file := by
      rw [map_cons, mem_cons] at h
      exact (h.resolve_right hrest).symm
    rw [get?_applyWrites_of_not_mem hrest, get?_applyWrites_of_not_mem hrest, hfile,
      Dict.get?_set_self, Dict.get?_set_self]

/-- Writes to files that agree leave files that agree. -/
theorem get?_applyWrites_congr {s s' : Dict K V} (h : s.get? file = s'.get? file) :
    (applyWrites s writes).get? file = (applyWrites s' writes).get? file := by
  by_cases hmem : file ∈ writes.map Prod.fst
  · exact get?_applyWrites_of_mem hmem s s'
  · rw [get?_applyWrites_of_not_mem hmem, get?_applyWrites_of_not_mem hmem, h]

end

namespace Prog

variable {K V α β : Type} [DecidableEq K]

/-! ## Executions -/

@[simp] theorem exec_pure (a : α) (s : Dict K V) :
    (Pure.pure a : Prog K V α).exec s = (.ok a, []) := rfl

@[simp] theorem exec_raise (e : PyError) (s : Dict K V) :
    (raise e : Prog K V α).exec s = (.error e, []) := rfl

@[simp] theorem exec_list (scope : K → Bool) (s : Dict K V) :
    (list scope : Prog K V (Finset K)).exec s = (.ok (listing s scope), []) := rfl

@[simp] theorem exec_ofExcept (x : Except PyError α) (s : Dict K V) :
    (ofExcept x : Prog K V α).exec s = (x, []) := by
  cases x <;> rfl

theorem exec_require (condition : Bool) (e : PyError) (s : Dict K V) :
    (require condition e : Prog K V Unit).exec s =
      (if condition then .ok () else .error e, []) := by
  unfold require
  split <;> rfl

variable {e : PyError} {a : α} {rest : List (K × V)}

theorem require_eq_ok {condition : Bool} {u : Unit}
    (h : (if condition then Except.ok () else Except.error e) = Except.ok u) :
    condition = true := by
  by_contra hfalse
  rw [if_neg hfalse] at h
  cases h

variable {p : Prog K V α} {f : α → Prog K V β} {s : Dict K V} {writes : List (K × V)}
  {x : Except PyError α} {b : β} {I : Dict K V → Prop}

theorem exec_bind_of_ok (h : p.exec s = (.ok a, writes)) :
    (p >>= f).exec s = (((f a).exec (applyWrites s writes)).1,
      writes ++ ((f a).exec (applyWrites s writes)).2) := by
  show (p.bind f).exec s = _
  induction p generalizing s writes with
  | pure b =>
    cases h
    rfl
  | raise e => cases h
  | read file next ih => exact ih _ h
  | glob scope next ih => exact ih _ h
  | write file content next ih =>
    obtain ⟨hok, rfl⟩ := Prod.mk.inj h
    rw [bind, exec, ih (Prod.ext hok rfl)]
    rfl

theorem exec_bind_of_error (h : p.exec s = (.error e, writes)) :
    (p >>= f).exec s = (.error e, writes) := by
  show (p.bind f).exec s = _
  induction p generalizing s writes with
  | pure b => cases h
  | raise e =>
    cases h
    rfl
  | read file next ih => exact ih _ h
  | glob scope next ih => exact ih _ h
  | write file content next ih =>
    obtain ⟨herror, rfl⟩ := Prod.mk.inj h
    rw [bind, exec, ih (Prod.ext herror rfl)]

@[simp] theorem exec_get_bind (file : K) (f : Option V → Prog K V β) (s : Dict K V) :
    (get file >>= f).exec s = (f (s.get? file)).exec s := rfl

/-- A part that writes nothing leaves the files as they are. -/
theorem exec_bind_quiet (h : p.exec s = (.ok a, [])) : (p >>= f).exec s = (f a).exec s := by
  rw [exec_bind_of_ok h]
  rfl

theorem exec_bind_ofExcept {f : α → Except PyError β} (h : p.exec s = (x, [])) :
    (p >>= fun a => ofExcept (f a)).exec s = (x >>= f, []) := by
  cases x with
  | error e => exact exec_bind_of_error h
  | ok a => rw [exec_bind_quiet h, exec_ofExcept, ok_bind]

/-- What holds of a raise without writes and of the rest holds of the whole. -/
theorem exec_bind_quiet_elim {Q : Except PyError β × List (K × V) → Prop}
    (hquiet : p.exec s = (x, [])) (herror : ∀ e, Q (.error e, []))
    (hok : ∀ a, x = .ok a → Q ((f a).exec s)) : Q ((p >>= f).exec s) := by
  cases x with
  | error e =>
    rw [exec_bind_of_error hquiet]
    exact herror e
  | ok a =>
    rw [exec_bind_quiet hquiet]
    exact hok a rfl

/-- Rewrapping the result changes no write. -/
theorem exec_bind_pure (p : Prog K V α) (f : α → β) (s : Dict K V) :
    (p >>= fun a => Pure.pure (f a)).exec s = (f <$> (p.exec s).1, (p.exec s).2) := by
  rcases hexec : p.exec s with ⟨outcome, writes⟩
  cases outcome with
  | error e => exact exec_bind_of_error hexec
  | ok a =>
    rw [exec_bind_of_ok hexec, exec_pure, append_nil]
    rfl

/-- A sequence that returns, taken apart. -/
theorem exec_bind_eq_ok (h : (p >>= f).exec s = (.ok b, writes)) :
    ∃ a first rest, p.exec s = (.ok a, first) ∧
      (f a).exec (applyWrites s first) = (.ok b, rest) ∧ writes = first ++ rest := by
  rcases hexec : p.exec s with ⟨outcome, first⟩
  cases outcome with
  | error e =>
    rw [exec_bind_of_error hexec] at h
    cases h
  | ok a =>
    rw [exec_bind_of_ok hexec] at h
    obtain ⟨hok, hwrites⟩ := Prod.mk.inj h
    exact ⟨a, first, _, rfl, Prod.ext hok rfl, hwrites.symm⟩

/-- The same when the second part only rewraps the result. -/
theorem exec_bind_pure_eq_ok {f : α → β}
    (h : (p >>= fun a => Pure.pure (f a)).exec s = (.ok b, writes)) :
    ∃ a, p.exec s = (.ok a, writes) ∧ b = f a := by
  obtain ⟨a, first, rest, hfirst, hrest, hwrites⟩ := exec_bind_eq_ok h
  obtain ⟨hb, hnil⟩ := Prod.mk.inj hrest
  injection hb with hb
  rw [← hnil, append_nil] at hwrites
  exact ⟨a, hwrites ▸ hfirst, hb.symm⟩

/-- The same when the first part writes nothing. -/
theorem exec_bind_quiet_eq_ok (hquiet : p.exec s = (x, []))
    (h : (p >>= f).exec s = (.ok b, writes)) : ∃ a, x = .ok a ∧ (f a).exec s = (.ok b, writes) := by
  cases x with
  | error e =>
    rw [exec_bind_of_error hquiet] at h
    cases h
  | ok a => exact ⟨a, rfl, exec_bind_quiet hquiet ▸ h⟩

/-- A sequence that writes a file which its first part does not write, taken apart. -/
theorem exec_bind_reaches {file : K} {y : Except PyError β}
    (h : (p >>= f).exec s = (y, writes)) (hfile : file ∈ writes.map Prod.fst)
    (hfirst : file ∉ (p.exec s).2.map Prod.fst) :
    ∃ a first rest, p.exec s = (.ok a, first) ∧ (f a).exec (applyWrites s first) = (y, rest) ∧
      writes = first ++ rest ∧ file ∈ rest.map Prod.fst := by
  rcases hexec : p.exec s with ⟨outcome, first⟩
  rw [hexec] at hfirst
  cases outcome with
  | error e =>
    rw [exec_bind_of_error hexec] at h
    cases h
    exact absurd hfile hfirst
  | ok a =>
    rw [exec_bind_of_ok hexec] at h
    obtain ⟨hy, rfl⟩ := Prod.mk.inj h
    rw [map_append] at hfile
    exact ⟨a, first, _, rfl, Prod.ext hy rfl, rfl, (mem_append.mp hfile).resolve_left hfirst⟩

/-- The same when the first part writes nothing. -/
theorem exec_bind_quiet_reaches {file : K} {y : Except PyError β} (hquiet : p.exec s = (x, []))
    (h : (p >>= f).exec s = (y, writes)) (hfile : file ∈ writes.map Prod.fst) :
    ∃ a, x = .ok a ∧ (f a).exec s = (y, writes) := by
  obtain ⟨a, first, rest, hok, hrest, rfl, -⟩ :=
    exec_bind_reaches h hfile (by rw [hquiet]; exact not_mem_nil)
  cases hquiet.symm.trans hok
  exact ⟨a, rfl, hrest⟩

/-- The whole execution keeps `I`. -/
def Keeps (I : Dict K V → Prop) (p : Prog K V α) : Prop := ∀ s, I s → I (p.after s)

/-! ## Writing in blocks -/

/-- Every execution writes a series of blocks of the kind `B`. -/
def WritesBlocks (B : List (K × V) → Prop) (p : Prog K V α) : Prop :=
  ∀ s, ∃ blocks : List (List (K × V)), (∀ block ∈ blocks, B block) ∧
    (p.exec s).2 = blocks.flatten

section

variable {B : List (K × V) → Prop} {p : Prog K V α} {x : Dict K V → Except PyError α}

/-- A program that writes nothing. -/
theorem writesBlocks_of_exec (h : ∀ s, p.exec s = (x s, [])) :
    p.WritesBlocks B :=
  fun s => ⟨[], by simp, by rw [h s]; rfl⟩

/-- The rest of a program is run only on what the first part can return. -/
theorem WritesBlocks.bind (h : p.WritesBlocks B)
    (hf : ∀ a, (∃ s, (p.exec s).1 = .ok a) → (f a).WritesBlocks B) : (p >>= f).WritesBlocks B := by
  intro s
  obtain ⟨blocks, hblocks, hwrites⟩ := h s
  rcases hexec : p.exec s with ⟨outcome, writes⟩
  rw [hexec] at hwrites
  cases outcome with
  | error e => exact ⟨blocks, hblocks, by rw [exec_bind_of_error hexec, hwrites]⟩
  | ok a =>
    obtain ⟨rest, hrest, hwrites'⟩ := hf a ⟨s, by rw [hexec]⟩ (applyWrites s writes)
    refine ⟨blocks ++ rest, ?_, ?_⟩
    · rw [forall_mem_append]
      exact ⟨hblocks, hrest⟩
    · rw [exec_bind_of_ok hexec, hwrites', flatten_append]
      exact congrArg (· ++ rest.flatten) hwrites

/-- A first part that writes nothing. -/
theorem writesBlocks_bind_quiet (h : ∀ s, p.exec s = (x s, []))
    (hf : ∀ a, (f a).WritesBlocks B) : (p >>= f).WritesBlocks B :=
  (writesBlocks_of_exec h).bind fun a _ => hf a

theorem WritesBlocks.keeps (h : p.WritesBlocks B)
    (hB : ∀ block s, B block → I s → I (applyWrites s block)) : p.Keeps I := by
  intro s hs
  obtain ⟨blocks, hblocks, hwrites⟩ := h s
  rw [after, hwrites]
  clear hwrites
  induction blocks generalizing s with
  | nil => exact hs
  | cons block rest ih =>
    rw [forall_mem_cons] at hblocks
    rw [flatten_cons, applyWrites_append]
    exact ih _ (hB block s hblocks.1 hs) hblocks.2

theorem WritesBlocks.mem {write : K × V} (h : p.WritesBlocks B) (hmem : write ∈ (p.exec s).2) :
    ∃ block, B block ∧ write ∈ block := by
  obtain ⟨blocks, hblocks, hwrites⟩ := h s
  rw [hwrites, mem_flatten] at hmem
  obtain ⟨block, hblock, hwrite⟩ := hmem
  exact ⟨block, hblocks block hblock, hwrite⟩

end

/-! ## Every write is allowed -/

/-- Every write of the execution from these files is allowed by `P`, which
sees the files before the write. -/
inductive Writes (P : Dict K V → K × V → Prop) : Prog K V α → Dict K V → Prop
  | pure {a : α} {s : Dict K V} : Writes P (pure a) s
  | raise {e : PyError} {s : Dict K V} : Writes P (raise e) s
  | read {file : K} {next : Option V → Prog K V α} {s : Dict K V}
      (h : Writes P (next (s.get? file)) s) : Writes P (read file next) s
  | glob {scope : K → Bool} {next : Finset K → Prog K V α} {s : Dict K V}
      (h : Writes P (next (listing s scope)) s) : Writes P (glob scope next) s
  | write {file : K} {content : V} {next : Prog K V α} {s : Dict K V} (hwrite : P s (file, content))
      (h : Writes P next (s.set file content)) : Writes P (write file content next) s

variable {P : Dict K V → K × V → Prop} {before : List (K × V)}

theorem Writes.bind (h : p.Writes P s)
    (hf : ∀ a writes, p.exec s = (.ok a, writes) → (f a).Writes P (applyWrites s writes)) :
    (p >>= f).Writes P s := by
  induction h with
  | pure => exact hf _ [] rfl
  | raise => exact .raise
  | read _ ih => exact .read (ih hf)
  | glob _ ih => exact .glob (ih hf)
  | @write file content next s hwrite _ ih =>
    refine .write hwrite (ih fun a writes hexec => ?_)
    exact hf a ((file, content) :: writes) (by rw [exec, hexec])

theorem writes_of_exec (h : p.exec s = (x, [])) : p.Writes P s := by
  induction p generalizing s with
  | pure a => exact .pure
  | raise e => exact .raise
  | read file next ih => exact .read (ih _ h)
  | glob scope next ih => exact .glob (ih _ h)
  | write file content next ih => cases h

/-- After a part that writes nothing the files are the same. -/
theorem Writes.bind_quiet (hquiet : p.exec s = (x, [])) (hf : ∀ a, x = .ok a → (f a).Writes P s) :
    (p >>= f).Writes P s := by
  refine Writes.bind (writes_of_exec hquiet) fun a writes hexec => ?_
  obtain ⟨hok, hwrites⟩ := Prod.mk.inj (hquiet.symm.trans hexec)
  rw [← hwrites]
  exact hf a hok

/-- What the first part keeps is known for the rest. -/
theorem Writes.bind_keeping (h : p.Writes P s) (hkeeps : p.Keeps I) (hI : I s)
    (hf : ∀ a s', I s' → (f a).Writes P s') : (p >>= f).Writes P s := by
  refine Writes.bind h fun a writes hexec => hf a _ ?_
  have hafter := hkeeps s hI
  rwa [after, hexec] at hafter

/-- Each write of the list, in the files before it. -/
theorem Writes.of_split (h : p.Writes P s) {write : K × V}
    (hsplit : (p.exec s).2 = before ++ write :: rest) : P (applyWrites s before) write := by
  induction h generalizing before with
  | pure | raise => simp [exec] at hsplit
  | read _ ih => exact ih hsplit
  | glob _ ih => exact ih hsplit
  | write hwrite _ ih =>
    rw [exec] at hsplit
    cases before with
    | nil =>
      cases hsplit
      exact hwrite
    | cons first before =>
      obtain ⟨rfl, hrest⟩ := List.cons.inj hsplit
      exact ih hrest

/-- What the allowed writes of the second part keep holds after every prefix of
it. -/
theorem Writes.applied_after (h : p.Writes P s)
    (hsplit : (p.exec s).2 = before ++ rest)
    (hkeep : ∀ s write, write ∈ rest → P s write → I s → I (s.set write.1 write.2))
    (hI : I (applyWrites s before)) (hinitial : writes <+: rest) :
    I (applyWrites s (before ++ writes)) := by
  induction writes using List.reverseRecOn with
  | nil => rwa [append_nil]
  | append_singleton writes write ih =>
    obtain ⟨last, rfl⟩ := hinitial
    rw [append_assoc, ← append_assoc before] at hsplit
    have hbefore : I (applyWrites s (before ++ writes)) := ih ⟨[write] ++ last, by simp⟩
    rw [← append_assoc, applyWrites_append]
    exact hkeep _ write (by simp) (h.of_split hsplit) hbefore

/-- **The invariant rule.** What every allowed write keeps holds after every
prefix of the writes, whether the execution went on or was stopped there. -/
theorem Writes.applied (h : p.Writes P s)
    (hkeep : ∀ s write, P s write → I s → I (s.set write.1 write.2)) (hI : I s)
    (hinitial : writes <+: (p.exec s).2) : I (applyWrites s writes) :=
  h.applied_after (nil_append _).symm (fun s write _ => hkeep s write) hI hinitial

end Prog

end Lib
