/-
Topology.Models — assets and relationships, and the JSON that the
registry stores of them (`packages/topology/models.py`, `_asset_from_dict` of
`packages/topology/registry.py`).

An asset is written as `json.loads(json.dumps(asdict(asset), default=str))`, so
its capacity and its times are texts in the database, and read back field by
field. That reading gives the asset that was written is `Asset.ofDict_stored`;
it rests on the texts of decimals and datetimes reading back as themselves.
-/
import ComputeWeaver.Api.StoredBodies

namespace ComputeWeaver.Topology

open Lib Api

/-! ## Asset types -/

inductive AssetType where
  | organization | region | campus | site | dataCenter | room | rack | powerZone | coolingZone
  | computeNode | energyAsset
  deriving DecidableEq, Repr

namespace AssetType

def value : AssetType → String
  | organization => "organization"
  | region => "region"
  | campus => "campus"
  | site => "site"
  | dataCenter => "data_center"
  | room => "room"
  | rack => "rack"
  | powerZone => "power_zone"
  | coolingZone => "cooling_zone"
  | computeNode => "compute_node"
  | energyAsset => "energy_asset"

def all : List AssetType :=
  [organization, region, campus, site, dataCenter, room, rack, powerZone, coolingZone,
    computeNode, energyAsset]

/-- `AssetType(text)`. -/
def ofValue (text : String) : Except PyError AssetType :=
  match all.find? fun kind => kind.value = text with
  | some kind => pure kind
  | none => throw (.valueError (text ++ " is not a valid AssetType"))

theorem ofValue_value (kind : AssetType) : ofValue kind.value = .ok kind := by
  cases kind <;> rfl

end AssetType

/-! ## Assets -/

/-- `TimeInterval`: aware times, with the end after the start. -/
structure TimeInterval where
  start : Int
  stop : Int
  start_lt : start < stop
  deriving DecidableEq

/-- `TimeInterval(start, end)`. -/
def TimeInterval.create : DateTime → DateTime → Except PyError TimeInterval
  | .aware start, .aware stop =>
      if h : start < stop then pure ⟨start, stop, h⟩
      else throw (.valueError "interval must be half-open with end > start")
  | _, _ => throw (.valueError "datetime must be timezone-aware")

structure Asset where
  id : String
  tenantId : String
  siteId : String
  kind : AssetType
  name : String
  capacityKw : ℚ := 0
  attributes : Dict String String := .empty
  effective : Option TimeInterval := none
  decommissionedAt : Option DateTime := none

structure Relationship where
  parentId : String
  childId : String
  kind : String := "contains"
  deriving DecidableEq

/-! ## Documents -/

def TimeInterval.asdict (interval : TimeInterval) : Document :=
  [("start", .time (.aware interval.start)), ("end", .time (.aware interval.stop))]

def effectiveValue : Option TimeInterval → Value
  | some interval => .dict interval.asdict
  | none => .none

def decommissionedValue : Option DateTime → Value
  | some t => .time t
  | none => .none

def attributesValue (attributes : Dict String String) : Value :=
  .dict (attributes.entries.map fun kv => (kv.1, .str kv.2))

/-- `asdict(asset)`. -/
def Asset.asdict (asset : Asset) : Document :=
  [("id", .str asset.id), ("tenant_id", .str asset.tenantId), ("site_id", .str asset.siteId),
    ("kind", .str asset.kind.value), ("name", .str asset.name),
    ("capacity_kw", .decimal asset.capacityKw),
    ("attributes", attributesValue asset.attributes),
    ("effective", effectiveValue asset.effective),
    ("decommissioned_at", decommissionedValue asset.decommissionedAt)]

def Relationship.asdict (relationship : Relationship) : Document :=
  [("parent_id", .str relationship.parentId), ("child_id", .str relationship.childId),
    ("kind", .str relationship.kind)]

namespace Asset

variable (env : PyEnv)

/-- What the database keeps of an asset. -/
def stored (asset : Asset) : Value := .dict (Value.jsonSafeItems env asset.asdict)

/-- The `effective` of a stored asset: a dictionary, or nothing. -/
def readEffective : Value → Except PyError (Option TimeInterval)
  | .dict effective => do
      let start ← env.isoTime (← docItem effective "start")
      let stop ← env.isoTime (← docItem effective "end")
      return some (← TimeInterval.create start stop)
  | _ => pure none

/-- `{str(key): str(value) for key, value in attributes.items()}`. -/
def readAttributes : Value → Except PyError (Dict String String)
  | .dict attributes => pure (.ofList (attributes.map fun kv => (kv.1, env.str kv.2)))
  | _ => throw (.valueError "topology asset attributes must be an object")

def readDecommissioned (value : Value) : Except PyError (Option DateTime) :=
  if value.truthy then do return some (← env.isoTime value) else pure none

/-- `_asset_from_dict`. -/
def ofDict : Value → Except PyError Asset
  | .dict raw => do
      let effective ← readEffective env (docGetD raw "effective" .none)
      let attributes ← readAttributes env (docGetD raw "attributes" (.dict []))
      let id := env.str (← docItem raw "id")
      let tenantId := env.str (← docItem raw "tenant_id")
      let siteId := env.str (← docItem raw "site_id")
      let kind ← AssetType.ofValue (env.str (← docItem raw "kind"))
      let name := env.str (← docItem raw "name")
      let capacityKw ← env.decimalOfText (docGetD raw "capacity_kw" (.int 0))
      let decommissionedAt ← readDecommissioned env (docGetD raw "decommissioned_at" .none)
      pure
        { id, tenantId, siteId, kind, name, capacityKw, attributes, effective, decommissionedAt }
  | _ => throw .typeError

end Asset

namespace Relationship

/-- A field of a stored relationship, which is a text. -/
def readText : Value → Except PyError String
  | .str text => pure text
  | _ => throw .typeError

/-- `Relationship(**item)`: no other keyword is taken. -/
def ofDict : Value → Except PyError Relationship
  | .dict raw =>
      if raw.all fun kv => kv.1 = "parent_id" ∨ kv.1 = "child_id" ∨ kv.1 = "kind" then do
        match assocGet raw "parent_id", assocGet raw "child_id" with
        | some parentId, some childId =>
            pure ⟨← readText parentId, ← readText childId,
              ← readText (docGetD raw "kind" (.str "contains"))⟩
        | _, _ => throw .typeError
      else throw .typeError
  | _ => throw .typeError

theorem ofDict_asdict (relationship : Relationship) :
    ofDict (.dict relationship.asdict) = .ok relationship := rfl

end Relationship

/-! ## Reading back what was written -/

/-- `datetime.fromisoformat(str(t)) == t`. -/
structure TimeText (env : PyEnv) : Prop where
  parse : ∀ t, env.parseTime (env.text (.time t)) = some t
  ne_empty : ∀ t, env.text (.time t) ≠ ""

section

variable {env : PyEnv}

theorem isoTime_str (h : TimeText env) (t : DateTime) :
    env.isoTime (.str (env.str (.time t))) = .ok t := by
  have hparse : env.parseTime (env.str (.str (env.str (.time t)))) = some t := h.parse t
  rw [PyEnv.isoTime, hparse]
  rfl

theorem readEffective_stored (h : TimeText env) (effective : Option TimeInterval) :
    Asset.readEffective env (Value.jsonSafe env (effectiveValue effective)) = .ok effective := by
  cases effective with
  | none => rfl
  | some interval =>
    show (do
      let start ← env.isoTime (.str (env.str (.time (.aware interval.start))))
      let stop ← env.isoTime (.str (env.str (.time (.aware interval.stop))))
      return some (← TimeInterval.create start stop)) = _
    rw [isoTime_str h, isoTime_str h, ok_bind, ok_bind, TimeInterval.create,
      dif_pos interval.start_lt]
    rfl

theorem jsonSafeItems_texts (items : List (String × String)) :
    Value.jsonSafeItems env (items.map fun kv => (kv.1, .str kv.2)) =
      items.map fun kv => (kv.1, .str kv.2) := by
  induction items with
  | nil => rfl
  | cons kv rest ih =>
    rw [List.map_cons, Value.jsonSafeItems, ih]
    rfl

theorem readAttributes_stored (attributes : Dict String String) :
    Asset.readAttributes env (Value.jsonSafe env (attributesValue attributes)) =
      .ok attributes := by
  have htexts : (attributes.entries.map fun kv => (kv.1, Value.str kv.2)).map
      (fun kv => (kv.1, env.str kv.2)) = attributes.entries := by
    rw [List.map_map]
    exact List.map_id' _
  have hread : Dict.ofList attributes.entries = attributes :=
    Dict.ext (Dict.entries_ofList attributes.nodup)
  rw [attributesValue, Value.jsonSafe, jsonSafeItems_texts, Asset.readAttributes, htexts, hread]
  rfl

theorem readDecommissioned_stored (h : TimeText env) (decommissionedAt : Option DateTime) :
    Asset.readDecommissioned env (Value.jsonSafe env (decommissionedValue decommissionedAt)) =
      .ok decommissionedAt := by
  cases decommissionedAt with
  | none => rfl
  | some t =>
    have htext : (Value.str (env.str (.time t))).truthy = true := decide_eq_true (h.ne_empty t)
    have hstored : Value.jsonSafe env (decommissionedValue (some t)) =
        .str (env.str (.time t)) := rfl
    rw [hstored, Asset.readDecommissioned, if_pos htext, isoTime_str h]
    rfl

/-- **Round trip.** What the database keeps of an asset reads back as it. -/
theorem Asset.ofDict_stored (hdecimal : DecimalText env) (htime : TimeText env) (asset : Asset) :
    Asset.ofDict env (asset.stored env) = .ok asset := by
  -- all lookups find their field, so only the conversions are left
  have hread : Asset.ofDict env (asset.stored env) = (do
      let effective ← readEffective env (Value.jsonSafe env (effectiveValue asset.effective))
      let attributes ← readAttributes env (Value.jsonSafe env (attributesValue asset.attributes))
      let kind ← AssetType.ofValue asset.kind.value
      let capacityKw ← env.decimalOfText (.str (env.str (.decimal asset.capacityKw)))
      let decommissionedAt ← readDecommissioned env
        (Value.jsonSafe env (decommissionedValue asset.decommissionedAt))
      pure (⟨asset.id, asset.tenantId, asset.siteId, kind, asset.name, capacityKw, attributes,
        effective, decommissionedAt⟩ : Asset)) := rfl
  rw [hread, readEffective_stored htime, readAttributes_stored, AssetType.ofValue_value,
    decimalOfText_str hdecimal, readDecommissioned_stored htime]
  rfl

end

end ComputeWeaver.Topology
