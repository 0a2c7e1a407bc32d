import FieldPatch.Entity
import FieldPatch.Json.Printer

/-!
# Payloads

* `Change`: changed data as it comes from a caller. An object replaces whole fields; any other
  value is the new value of a single one;
* `Payload`: the body of a patch request, in full or for a single field of one record;
* `Payload.toObject`, `Payload.entries`: the two ways to write a payload, as an object and as the
  list of entries of its JSON text;
* `Target`: the record that a single-field update addresses.
-/

namespace FieldPatch

/-- The key that addresses a record and is no field of it. -/
def idKey : String := "id"

/-! ## Changes -/

inductive Change where
  | object (o : Json.Object)
  | single (value : Json)

def Change.ofJson : Json → Change
  | .object members => .object (.ofMembers members)
  | value => .single value

/-! ## Payloads -/

inductive Payload where
  | full (o : Json.Object)
  | single (id : Json) (field : String) (value : Json)

namespace Payload

def isSingle : Payload → Bool
  | .full _ => false
  | .single .. => true

def id? : Payload → Option Json
  | .full o => o.get? idKey
  | .single id _ _ => some id

/-- The payload as an object. A field never takes the place of the identifier. -/
def toObject : Payload → Json.Object
  | .full o => o
  | .single id field value =>
    let o := if field = idKey then .empty else Json.Object.empty.insert field value
    o.insert idKey id

def toJson (p : Payload) : Json :=
  p.toObject.toJson

/-- The entries in the order in which they are written: the identifier of a single-field payload
comes first. -/
def entries : Payload → List (String × Json)
  | .full o => o.members
  | .single id field value =>
    if field = idKey then [(idKey, id)] else [(idKey, id), (field, value)]

/-- The number of entries, which is announced before they are written. -/
def entryCount : Payload → Nat
  | .full o => o.members.length
  | .single _ field _ => if field = idKey then 1 else 2

def text (p : Payload) : String :=
  (Json.object p.entries).print

end Payload

/-! ## Targets -/

/-- What addresses a record. -/
structure Target where
  id : Json

namespace Target

def ofNat (id : UInt64) : Target := ⟨Identifier.toJson id⟩

def ofString (id : String) : Target := ⟨Identifier.toJson id⟩

/-- A record addresses itself. -/
def ofRecord {ι ρ : Type} [Identifier ι] [Entity ι ρ] (r : ρ) : Target :=
  ⟨Identifier.toJson (Entity.id r)⟩

end Target
end FieldPatch
