import FieldPatch.Client
import FieldPatch.Executor.Basic
import FieldPatch.Mailbox
import FieldPatch.Record
import FieldPatch.Server.Journal

/-!
# Desks

A desk runs one server for each kind and an executor whose registry leads to them.

* `Desk`: the four servers; `Desk.server` and `Desk.setServer` reach them by kind;
* `Desk.Inquiry`: a request to the server of a kind;
* `Desk.executor`: the executor of a desk;
* `Desk.call`, `Desk.ask`: a call of the executor, or one inquiry, run to its end;
* `Desk.start`, `Desk.stopped`: start and end, with their log.
-/

namespace FieldPatch

structure Desk where
  /-- The room in the mailbox of each server. -/
  capacity : Mailbox.Capacity := .one
  contacts : Server UInt64 Contact := .counting
  accounts : Server UInt64 Account := .counting
  cases : Server UInt64 Case := .counting
  timeLogs : Server UInt64 TimeLog := .counting
  /-- Servers that have been started and have not run yet, in the order of their start. -/
  asleep : List Kind := []

namespace Desk

/-! ## Servers by kind -/

def server (d : Desk) : (kind : Kind) → Server UInt64 kind.Record
  | .contact => d.contacts
  | .account => d.accounts
  | .case => d.cases
  | .timeLog => d.timeLogs

def setServer (d : Desk) : (kind : Kind) → Server UInt64 kind.Record → Desk
  | .contact, s => { d with contacts := s }
  | .account, s => { d with accounts := s }
  | .case, s => { d with cases := s }
  | .timeLog, s => { d with timeLogs := s }

@[simp] theorem server_setServer (d : Desk) (kind : Kind) (s : Server UInt64 kind.Record) :
    (d.setServer kind s).server kind = s := by
  cases kind <;> rfl

theorem server_setServer_of_ne (d : Desk) {kind kind' : Kind} (s : Server UInt64 kind.Record)
    (h : kind' ≠ kind) : (d.setServer kind s).server kind' = d.server kind' := by
  cases kind <;> cases kind' <;> simp_all [server, setServer]

/-! ## Inquiries -/

structure Inquiry where
  kind : Kind
  request : Request UInt64 kind.Record

instance : Question Inquiry where
  Answer inquiry := Answer inquiry.request

/-- The server of the kind serves the request. -/
def serve (d : Desk) (inquiry : Inquiry) : Answer inquiry × Desk :=
  let (answer, s) := (d.server inquiry.kind).serve inquiry.request
  (answer, d.setServer inquiry.kind s)

/-- What the servers write while an inquiry is served. Servers that have not run yet do so now. -/
def journal (d : Desk) (inquiry : Inquiry) : List Log.Entry :=
  let served := (d.server inquiry.kind).journal inquiry.request
  d.asleep.flatMap (fun kind =>
    Server.started kind :: if kind = inquiry.kind then served else []) ++
    if inquiry.kind ∈ d.asleep then [] else served

def service : Dialogue.Service Inquiry Desk := fun inquiry d =>
  let (answer, next) := d.serve inquiry
  (d.journal inquiry, answer, { next with asleep := [] })

/-! ## The executor -/

def registry : Registry Kind (Kind × String) where
  entries := Kind.all.map fun kind => (kind, .ofEntity kind.Record kind (kind, ·))
  distinct := by simp [Kind.all]

def executor (config : Config) : Executor Kind (Kind × String) :=
  ⟨registry, config⟩

/-- A request to a server as an inquiry. -/
def direct (kind : Kind) (request : Request UInt64 kind.Record) :
    Dialogue Inquiry (Answer request) :=
  .query (Inquiry.mk kind request)

/-- Endpoints and accessors of the registry are the clients of the servers. -/
def relay : (query : Query Kind (Kind × String)) → Dialogue Inquiry (Answer query)
  | .patch kind payload => (Client.patch payload).through (direct kind)
  | .fetch (kind, accessor) => (Client.fetch accessor).through (direct kind)

variable {α : Type}

def call (d : Desk) (dialogue : Dialogue (Query Kind (Kind × String)) α) : Dialogue.Run Desk α :=
  (dialogue.through relay).run service d

def ask (d : Desk) (kind : Kind) (request : Request UInt64 kind.Record) :
    Dialogue.Run Desk (Answer request) :=
  (direct kind request).run service d

/-! ## Start and end -/

def entry (message : String) (fields : List (String × Log.Value) := []) : Log.Entry :=
  ⟨.info, .desk, message, fields⟩

/-- A desk whose servers are ready, if their mailboxes can be made. -/
def start (config : Config) : Except Misuse (List Event × Desk) := do
  let capacity ← Mailbox.Capacity.ofNat config.mailboxCapacity.toNat
  return ([.log (entry "CRM system started" [("resources", .count Kind.all.length)]),
    .served (Kind.all.map Server.started)], { capacity })

/-- What is written while the desk and its servers stop. -/
def stopped (d : Desk) : List Event :=
  [.log (entry "Shutting down system..."),
    .served (Kind.all.map fun kind => Server.stopped kind (d.server kind).store.size),
    .log (entry "System shutdown complete.")]

end Desk
end FieldPatch
