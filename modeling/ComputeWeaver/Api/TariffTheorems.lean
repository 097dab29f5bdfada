/-
Api.TariffTheorems — published tariffs.

`status` is an ordinary field of a body, and two endpoints write tariffs. The
collection endpoint refuses to write over a published tariff and otherwise stores
what it is given, a status included; the publishing endpoint validates the
tariff and sets its status, and does so again for a tariff that is published. In
a run in which no body carries the status and nothing is published twice
(`Orderly`), a published tariff has been validated and never changes again.
-/
import ComputeWeaver.Api.Collections
import ComputeWeaver.Api.SubmissionTheorems
import ComputeWeaver.Api.TransitionsTheorems

namespace ComputeWeaver.Api

open Lib Risk Approval Persistence Tariffs ResourceStore Service GovernanceApi TariffPlan

variable {ι ε : Type}

/-- A call of `POST /v1/tariffs` or of `POST /v1/tariffs/{id}/publish`. -/
inductive TariffCall where
  | create (context : ApiContext) (tariffId : String) (data : Document)
  | publish (context : ApiContext) (tariffId : String) (now : Int)

namespace Service

variable (service : Service ι ε)

def createTariff (context : ApiContext) (tariffId : String) (data : Document) (x : ApiState) :
    Except PyError Response × ApiState :=
  let out := atomically x.governed do
    let (resource, store) ← createResource service.env
      { kind := "tariff", resourceId := tariffId, tenantId := service.tenantId, body := data
        idempotencyKey := context.idempotencyKey, ifMatch := context.ifMatch } x.governed.store
    pure (.tariff resource, { x.governed with store })
  (out.1, { x with governed := out.2 })

/-- What one call leaves behind. -/
def tariffStep (x : ApiState) : TariffCall → ApiState
  | .create context tariffId data => (service.createTariff context tariffId data x).2
  | .publish context tariffId now => (service.publishTariff context tariffId now x).2

def tariffAt (x : ApiState) (tariffId : String) : Option StoredResource :=
  x.governed.store.items.get? (service.tenantId, "tariff", tariffId)

/-- A body is posted without the status, and nothing is published twice. -/
def Orderly (x : ApiState) : TariffCall → Prop
  | .create _ _ data => isPublished data = false
  | .publish context tariffId _ => ∀ current, service.tariffAt x tariffId = some current →
      isPublished current.body = true → context.ifMatch ≠ some current.etag

instance (x : ApiState) : (call : TariffCall) → Decidable (service.Orderly x call)
  | .create _ _ data => inferInstanceAs (Decidable (isPublished data = false))
  | .publish context tariffId _ => inferInstanceAs (Decidable (∀ current,
      service.tariffAt x tariffId = some current → isPublished current.body = true →
        context.ifMatch ≠ some current.etag))

end Service

variable {service : Service ι ε} {x : ApiState} {tariffId : String} {current : StoredResource}
  {resource : StoredResource} {plan : TariffPlan}

/-! ## One call -/

def publishedBody (tariffId : String) (body : Document) (now : Int) : Document :=
  docWith (docUpdate (docWithout body "id") [("status", .str "published"),
    ("published_at", .time (.aware now))]) "id" (.str tariffId)

/-- What a run of the callback of `publish_tariff` does. -/
theorem publish_cases (service : Service ι ε) (context : ApiContext) (tariffId : String)
    (current : StoredResource) (now : Int) (g : Governed) :
    (∃ e, service.publish context tariffId current now g = (.error e, g)) ∨
    ∃ plan resource store', service.publish context tariffId current now g =
        (.ok (.tariff resource), { g with store := store' }) ∧
      context.ifMatch = some current.etag ∧ service.parseTariff tariffId current = .ok plan ∧
      PutEffect service.env g.store
        { kind := "tariff", resourceId := tariffId, tenantId := service.tenantId
          body := docUpdate (docWithout current.body "id")
            [("status", .str "published"), ("published_at", .time (.aware now))]
          idempotencyKey := context.idempotencyKey ++ ":tariff", ifMatch := context.ifMatch }
        resource store' := by
  unfold publish
  generalize hbody : (do
    requireIfMatch context current
    let _ ← service.parseTariff tariffId current
    let (published, store) ← g.store.put service.env _
    pure (Response.tariff published, { g with store }) :
      Except PyError (Response × Governed)) = body
  cases body with
  | error e => exact .inl ⟨e, rfl⟩
  | ok out =>
    obtain ⟨⟨⟩, hmatch, hbody⟩ := bind_eq_ok.mp hbody
    obtain ⟨plan, hparse, hbody⟩ := bind_eq_ok.mp hbody
    obtain ⟨⟨resource, store'⟩, hput, hbody⟩ := bind_eq_ok.mp hbody
    cases hbody
    exact .inr ⟨plan, resource, store', rfl, requireIfMatch_eq_ok.mp hmatch, hparse,
      put_effect hput⟩

/-- What is stored for a tariff is what was, a body that was posted over an
unpublished one, or the body of a tariff that was validated. -/
theorem tariffAt_step (service : Service ι ε) (x : ApiState) (call : TariffCall)
    (tariffId : String) :
    service.tariffAt (service.tariffStep x call) tariffId = service.tariffAt x tariffId ∨
    (∃ context data resource, call = .create context tariffId data ∧
      ((service.tariffAt x tariffId).any fun current => isPublished current.body) = false ∧
      service.tariffAt (service.tariffStep x call) tariffId = some resource ∧
      resource.body = docWith data "id" (.str tariffId)) ∨
    ∃ context now current plan resource, call = .publish context tariffId now ∧
      service.tariffAt x tariffId = some current ∧ context.ifMatch = some current.etag ∧
      service.parseTariff tariffId current = .ok plan ∧
      (service.publishTariff context tariffId now x).1 = .ok (.tariff resource) ∧
      service.tariffAt (service.tariffStep x call) tariffId = some resource ∧
      resource.body = publishedBody tariffId current.body now := by
  cases call with
  | create context id data =>
    simp only [tariffStep, createTariff, tariffAt]
    generalize hargs : ({ kind := "tariff", resourceId := id, tenantId := service.tenantId
                          body := data, idempotencyKey := context.idempotencyKey
                          ifMatch := context.ifMatch } : PutArgs) = args
    cases hcreate : createResource service.env args x.governed.store with
    | error e => exact .inl rfl
    | ok out =>
      obtain ⟨resource, store'⟩ := out
      unfold createResource at hcreate
      split_ifs at hcreate with hrefused
      obtain ⟨-, -, hput⟩ := bind_eq_ok.mp hcreate
      subst hargs
      cases put_effect hput with
      | replayed => exact .inl rfl
      | stored =>
        by_cases hid : id = tariffId
        · subst hid
          refine .inr (.inl ⟨context, data, _, rfl, ?_, Dict.get?_set_self _ _ _, rfl⟩)
          simpa [PutArgs.key] using hrefused
        · exact .inl (Dict.get?_set_ne _ _ (by simp [PutArgs.key, hid]))
  | publish context id now =>
    simp only [tariffStep, publishTariff]
    cases hget : x.governed.store.get "tariff" id service.tenantId with
    | error e => exact .inl rfl
    | ok current =>
      have hcurrent := get_eq_ok.mp hget
      dsimp only
      rcases executeMemory_cases service.env
        ⟨service.tenantId, context.idempotencyKey, "tariff.publish",
          [("version", .int current.version), ("etag", .str current.etag)]⟩
        (service.publish context id current now) x.operations x.governed with
        ⟨e, g, hexec⟩ | ⟨result, hexec, -⟩ | ⟨result, g, hexec, -, hran, -⟩
      · -- a callback that raises has changed nothing
        have hsame : g = x.governed := by
          rcases executeMemory_raised (congrArg Prod.fst hexec) with hstate | hcallback
          · rw [hexec] at hstate
            exact hstate
          rw [hexec] at hcallback
          rcases publish_cases service context id current now x.governed with
            ⟨_, h⟩ | ⟨_, _, _, h, -⟩ <;> cases h.symm.trans hcallback
          rfl
        exact .inl (by simp [auditedOperation, hexec, hsame, tariffAt])
      · exact .inl (by simp [auditedOperation, hexec, tariffAt])
      · rcases publish_cases service context id current now x.governed with
          ⟨_, h⟩ | ⟨plan, resource, store', h, hmatch, hparse, heffect⟩
        · cases h.symm.trans hran
        cases h.symm.trans hran
        simp only [auditedOperation, hexec, tariffAt]
        cases heffect with
        | replayed => exact .inl rfl
        | stored =>
          by_cases hid : id = tariffId
          · subst hid
            exact .inr (.inr ⟨context, now, current, plan, _, rfl, hcurrent, hmatch, hparse,
              by simp only [hget, hexec], Dict.get?_set_self _ _ _, rfl⟩)
          · exact .inl (Dict.get?_set_ne _ _ (by simp [PutArgs.key, hid]))

/-! ## Bodies -/

theorem isPublished_docWith_id (data : Document) (value : Value) :
    isPublished (docWith data "id" value) = isPublished data := by
  simp [isPublished, docGetD, assocGet_docWith]

theorem assocGet_publishedBody (body : Document) (now : Int) {key : String}
    (h : key ∉ ["id", "status", "published_at"]) :
    assocGet (publishedBody tariffId body now) key = assocGet body key := by
  simp only [List.mem_cons, List.not_mem_nil, or_false, not_or] at h
  rw [publishedBody, assocGet_docWith, if_neg (Ne.symm h.1), assocGet_docUpdate_of_not_mem,
    assocGet_docWithout, if_neg (Ne.symm h.1)]
  simp [h.2.1, h.2.2]

theorem create_version {fields : TariffFields} (version : Int)
    (h : create fields = .ok plan) : ∃ plan', create { fields with version } = .ok plan' := by
  have hchecked : fields.postInit = .ok () := by
    unfold create at h
    split at h
    · assumption
    · cases h
  have hpost : ({ fields with version } : TariffFields).postInit = .ok () := hchecked
  unfold create
  split
  · exact ⟨_, rfl⟩
  · rename_i herror
    cases herror.symm.trans hpost

theorem returns_bind {α β γ : Type} {y : Except PyError α} {f : α → Except PyError β}
    {g : α → Except PyError γ} (h : ∀ a, (∃ b, f a = .ok b) → ∃ c, g a = .ok c) :
    (∃ b, (y >>= f) = .ok b) → ∃ c, (y >>= g) = .ok c := by
  cases y with
  | error e => simp
  | ok a => exact h a

theorem parseTariff_published {now : Int}
    (h : service.parseTariff tariffId current = .ok plan)
    (hbody : resource.body = publishedBody tariffId current.body now) :
    ∃ plan', service.parseTariff tariffId resource = .ok plan' := by
  have hitem : ∀ key, key ∉ ["id", "status", "published_at"] →
      docItem resource.body key = docItem current.body key := by
    intro key hkey
    rw [docItem, docItem, hbody, assocGet_publishedBody _ _ hkey]
  have hfield : ∀ key default, key ∉ ["id", "status", "published_at"] →
      docGetD resource.body key default = docGetD current.body key default := by
    intro key default hkey
    rw [docGetD, docGetD, hbody, assocGet_publishedBody _ _ hkey]
  -- without a field of its own, the version of the tariff is that of the resource
  have hversion : ∀ version, service.env.int (docGetD current.body "tariff_version"
        (.int current.version)) = .ok version →
      ∃ version', service.env.int (docGetD current.body "tariff_version"
        (.int resource.version)) = .ok version' := by
    intro version hversion
    unfold docGetD at hversion ⊢
    cases hown : assocGet current.body "tariff_version" with
    | none => exact ⟨resource.version, rfl⟩
    | some value => exact ⟨version, by rw [hown] at hversion; exact hversion⟩
  have hsame : service.parseTariff tariffId resource =
      service.parseTariff tariffId { current with version := resource.version } := by
    simp only [parseTariff, hitem "timezone" (by decide),
      hitem "effective_from" (by decide), hitem "effective_to" (by decide),
      hitem "periods" (by decide), hfield _ _ (by decide : "tariff_version" ∉ _),
      hfield _ _ (by decide : "currency" ∉ _), hfield _ _ (by decide : "effective_to" ∉ _),
      hfield _ _ (by decide : "demand_charge_per_kw" ∉ _),
      hfield _ _ (by decide : "capacity_charge_per_kw" ∉ _),
      hfield _ _ (by decide : "tax_rate" ∉ _),
      hfield _ _ (by decide : "feed_in_price_per_kwh" ∉ _)]
  rw [hsame]
  unfold parseTariff at h ⊢
  obtain ⟨version, hown, h⟩ := bind_eq_ok.mp h
  obtain ⟨version', hown'⟩ := hversion version hown
  simp only [hown', ok_bind]
  -- from here on the two computations differ in the version of the record alone
  refine (?_ : (∃ plan, _ = Except.ok plan) → _) ⟨plan, h⟩
  by_cases hto : (docGetD current.body "effective_to" .none).truthy = true
  all_goals simp only [hto, if_true, Bool.false_eq_true, if_false]
  all_goals repeat' refine returns_bind fun _ => ?_
  all_goals rintro ⟨_, hcreate⟩
  all_goals exact create_version _ hcreate

/-! ## Runs -/

theorem tariffAt_kept {call : TariffCall} (horderly : service.Orderly x call)
    (hstored : service.tariffAt x tariffId = some resource)
    (hpublished : isPublished resource.body = true) :
    service.tariffAt (service.tariffStep x call) tariffId = some resource := by
  rcases tariffAt_step service x call tariffId with
    hsame | ⟨_, _, _, -, hopen, -⟩ | ⟨_, _, current, _, _, rfl, hcurrent, hmatch, -⟩
  · rw [hsame, hstored]
  · simp [hstored, hpublished] at hopen
  · obtain rfl := Option.some.inj (hstored.symm.trans hcurrent)
    exact absurd hmatch (horderly _ hcurrent hpublished)

/-- **Main result.** After an orderly run, a published tariff is what an earlier
publication of it returned, its fields are those of a tariff, and no orderly
continuation changes it. -/
theorem published_tariff_kept (service : Service ι ε) (calls : List TariffCall)
    (hguard : Guarded service.tariffStep service.Orderly .empty calls) (tariffId : String)
    (resource : StoredResource)
    (hstored : service.tariffAt (run service.tariffStep .empty calls) tariffId = some resource)
    (hpublished : isPublished resource.body = true) :
    (∃ pre context now post, calls = pre ++ .publish context tariffId now :: post ∧
      (service.publishTariff context tariffId now (run service.tariffStep .empty pre)).1 =
        .ok (.tariff resource)) ∧
    (∃ plan, service.parseTariff tariffId resource = .ok plan) ∧
    ∀ later, Guarded service.tariffStep service.Orderly (run service.tariffStep .empty calls)
        later →
      service.tariffAt (run service.tariffStep .empty (calls ++ later)) tariffId =
        some resource := by
  refine and_assoc.mp ⟨?_, ?_⟩
  · -- the last call left the tariff alone, or it is the publication
    induction calls using List.reverseRecOn with
    | nil => cases hstored
    | append_singleton pre call ih =>
      obtain ⟨hpre, horderly, -⟩ := (guarded_append _ _ _).mp hguard
      rw [run_append, run_cons, run_nil] at hstored
      rcases tariffAt_step service (run service.tariffStep .empty pre) call tariffId with
        hsame | ⟨context, data, posted, rfl, -, hposted, hbody⟩ |
          ⟨context, now, current, plan, published, rfl, -, -, hparse, hreturned, hwritten, hbody⟩
      · obtain ⟨⟨before, context, now, post, hpre, hreturned⟩, hplan⟩ :=
          ih hpre (hsame ▸ hstored)
        exact ⟨⟨before, context, now, post ++ [call], by simp [hpre], hreturned⟩, hplan⟩
      · obtain rfl := Option.some.inj (hposted.symm.trans hstored)
        rw [hbody, isPublished_docWith_id] at hpublished
        exact absurd hpublished (by rw [show isPublished data = false from horderly]; simp)
      · obtain rfl := Option.some.inj (hwritten.symm.trans hstored)
        exact ⟨⟨pre, context, now, [], rfl, hreturned⟩, parseTariff_published hparse hbody⟩
  · intro later hlater
    rw [run_append]
    exact guarded_invariant (P := fun x => service.tariffAt x tariffId = some resource)
      (fun _ _ horderly h => tariffAt_kept horderly h hpublished) later _ hlater hstored

/-! ## Concrete tariffs -/

/-- A service that reads every date and time. -/
def tariffService : Service Nat Unit :=
  { sampleService with calendar := ⟨fun _ => some 0, fun _ => some 0⟩ }

def flatTariff : Document :=
  [("timezone", .str "UTC"), ("effective_from", .str "2026-01-01"),
    ("periods", .list [.dict [("name", .str "flat"), ("start_local", .str "00:00"),
      ("end_local", .str "00:00"), ("price_per_kwh", .int 1)]])]

def createFlat : TariffCall :=
  .create (operator "alice" "create-flat" none (by decide))
    "tariff-1" flatTariff

def publishFlat (key etag : String) (key_length : 8 ≤ key.length) (now : Int) : TariffCall :=
  .publish (operator "alice" key (some etag) key_length) "tariff-1" now

theorem published_tariff_kept_flatTariff :
    ∃ resource plan, tariffService.tariffAt (run tariffService.tariffStep .empty
        [createFlat, publishFlat "request-2" "+" (by decide) newYear]) "tariff-1" =
          some resource ∧ isPublished resource.body = true ∧
      tariffService.parseTariff "tariff-1" resource = .ok plan := by
  have hrun : (tariffService.tariffAt (run tariffService.tariffStep .empty
      [createFlat, publishFlat "request-2" "+" (by decide) newYear]) "tariff-1").any
        (fun resource => isPublished resource.body) = true := by decide +kernel
  obtain ⟨resource, hstored, hpublished⟩ := (Option.any_eq_true _ _).mp hrun
  obtain ⟨-, ⟨plan, hplan⟩, -⟩ := published_tariff_kept tariffService
    [createFlat, publishFlat "request-2" "+" (by decide) newYear] (by decide +kernel) "tariff-1"
    resource hstored hpublished
  exact ⟨resource, plan, hstored, hpublished, hplan⟩

/-- A tariff without any of its fields is stored as published; and one that is
published a second time has a new body. -/
theorem posted_status_published :
    ((tariffService.tariffAt (run tariffService.tariffStep .empty
      [.create (operator "alice" "request-1" none (by decide)) "tariff-1"
        [("status", .str "published")]]) "tariff-1").any fun resource =>
        isPublished resource.body && !(tariffService.parseTariff "tariff-1" resource).isOk) =
      true ∧
    ((tariffService.tariffAt (run tariffService.tariffStep .empty
      [createFlat, publishFlat "request-2" "+" (by decide) newYear,
        publishFlat "request-3" "++" (by decide) dayAfter]) "tariff-1").any fun resource =>
        (resource.version == (3 : Int)) &&
          (match docGetD resource.body "published_at" .none with
            | .time t => decide (t = .aware dayAfter)
            | _ => false)) = true := by
  decide +kernel

end ComputeWeaver.Api
