import FieldPatch.Entity
import FieldPatch.Payload
import FieldPatch.Server.Request
import FieldPatch.Server.Store

/-!
# Servers

A server keeps the records of one kind and serves one request after the other.

* `Server`: the store, the number of records created, how the n-th identifier is made, and the lists
  of choices by name;
* `Server.start`: a server that has collected the declared lists and keeps no record yet;
* `Server.create`, `Server.get?`, `Server.patch`, `Server.choices`: the four services. A patch
  applies all of its fields or none;
* `Server.serve`, `Server.serveAll`: requests of any sort, one or many.
-/

namespace FieldPatch

structure Server (ι ρ : Type) where
  mint : Nat → ι
  /-- The lists of choices by the names under which they are served. -/
  table : Store String (List Choice)
  store : Store ι ρ := .empty
  created : Nat := 0

namespace Server

variable {ι ρ : Type}

/-- The lists by their names. A list takes the place of an earlier one with the same name. -/
def collect (lists : List (String × List Choice)) : Store String (List Choice) :=
  lists.foldl (fun table list => table.put list.1 list.2) .empty

def start [Entity ι ρ] (mint : Nat → ι) : Server ι ρ where
  mint := mint
  table := collect (Entity.choiceLists ρ)

/-- A server that counts its records from one; after the last word the count starts over. -/
def counting [Entity UInt64 ρ] : Server UInt64 ρ :=
  start fun n => UInt64.ofNat (n + 1)

variable [DecidableEq ι] [Identifier ι] [Entity ι ρ]

/-! ## Services -/

/-- Stores a record under the next identifier. -/
def create (s : Server ι ρ) (record : ρ) : ι × Server ι ρ :=
  let id := s.mint s.created
  (id, { s with store := s.store.put id (Entity.withId id record), created := s.created + 1 })

def get? (s : Server ι ρ) (id : ι) : Option ρ :=
  s.store.get? id

/-- The record after all of the changes, from the first to the last. -/
def applyFields (changes : List (String × Json)) (record : ρ) : Except FieldError ρ :=
  changes.foldlM (fun r change => Entity.applyField change.1 change.2 r) record

/-- The identifier among the members of a patch. -/
def addressee? (fields : Json.Object) : Option ι :=
  (fields.get? idKey).bind Identifier.ofJson?

/-- Applies the fields to a copy of the record and stores it if all are accepted. -/
def patch (s : Server ι ρ) (fields : Json.Object) : Except ServerError ρ × Server ι ρ :=
  match addressee? fields with
  | none => (.error .missingId, s)
  | some id =>
    match s.store.get? id with
    | none => (.error (.notFound (Identifier.text id)), s)
    | some current =>
      -- the store keeps `current` until every change has been accepted
      match applyFields (fields.erase idKey).members current with
      | .error e => (.error (.field e), s)
      | .ok updated => (.ok updated, { s with store := s.store.put id updated })

def choices (s : Server ι ρ) (accessor : String) : Except ServerError (List Choice) :=
  match s.table.get? accessor with
  | some list => .ok list
  | none => .error (.notFound accessor)

/-! ## Requests -/

def serve (s : Server ι ρ) : (request : Request ι ρ) → Answer request × Server ι ρ
  | .create record => (.ok (s.create record).1, (s.create record).2)
  | .get id => (.ok (s.get? id), s)
  | .patch fields => s.patch fields
  | .choices accessor => (s.choices accessor, s)

/-- The state after a list of requests. -/
def serveAll (s : Server ι ρ) (requests : List (Request ι ρ)) : Server ι ρ :=
  requests.foldl (fun s request => (s.serve request).2) s

end Server
end FieldPatch
