import FieldPatch.Desk.Basic
import FieldPatch.Log.Line

/-!
# The demonstration

A short session at a desk: an account is renamed, a case gets its highest priority, and a change of
its status is rejected.

* `Demo.script`: the calls of the session, which tells what comes of them;
* `Demo.run`: the session from start to stop, with everything that is written to the log;
* `Demo.Report.lines`: what of it is shown;
* `Demo.perform`: all of this as a program, with its exit status.
-/

namespace FieldPatch
namespace Demo

def entry (message : String) (fields : List (String × Log.Value) := []) : Log.Entry :=
  ⟨.info, .demo, message, fields⟩

/-- How an entry shows a value that may be missing. -/
def optional (text? : Option String) : Log.Value :=
  match text? with
  | some text => .bare ("Some(" ++ text ++ ")")
  | none => .bare "None"

def quotedValues (choices : List Choice) : Log.Value :=
  .bare ("[" ++ ", ".intercalate (choices.map fun c => Text.quote c.value) ++ "]")

/-! ## The session -/

/-- Part of a session at a desk. -/
abbrev Session := Dialogue Desk.Inquiry

def create (kind : Kind) (record : kind.Record) : Session (Except ServerError UInt64) :=
  Desk.direct kind (.create record)

section

variable (executor : Executor Kind (Kind × String))

def updateField (kind : Kind) (id : UInt64) (field value : String) : Session Outcome :=
  (executor.updateField kind (.ofNat id) field (.single (.string value))).through Desk.relay

def renameAccount (id : UInt64) : Session Unit := do
  let outcome ← Dialogue.inSpan ⟨"rename_account", .demo, []⟩
    (updateField executor .account id "name" "Acme Corp")
  Dialogue.log (entry "Rename finished" [("success", .truth outcome.isSuccess)])

def raisePriority (id : UInt64) : Session Unit := do
  let choices ← (executor.choicesForField .case "priority").through Desk.relay
  Dialogue.log (entry "Case priorities" [("options", quotedValues choices)])
  match choices.getLast? with
  | none => return
  | some highest =>
    let outcome ← updateField executor .case id "priority" highest.value
    Dialogue.log (entry "Priority changed"
      [("response", optional (outcome.response?.map Json.outline))])

def solveCase (id : UInt64) : Session (Except PatchError Unit) := do
  let change : Change := .object
    (.ofMembers [(idKey, .ofInt id.toNat), ("status", .string "solved")])
  match ← executor.config.createArgs change none none with
  | .error e => return .error e
  | .ok payload =>
    let outcome ← (executor.patch .case payload).through Desk.relay
    Dialogue.log (entry "Status change rejected"
      [("reason", optional (outcome.reason?.map PatchError.outline))])
    return .ok ()

/-- The whole session, which ends early with a message if there is nothing to go on with. -/
def script : Session (Except String Unit) := do
  match ← create .account (Account.new "Acme") with
  | .error e => return .error e.message
  | .ok account =>
    match ← create .case (Case.new "Invoice missing") with
    | .error e => return .error e.message
    | .ok case =>
      renameAccount executor account
      raisePriority executor case
      return (← solveCase executor case).mapError PatchError.message

end

/-! ## From start to stop -/

/-- How the demonstration went: what was written, and why it ended early, if it did. -/
structure Report where
  trace : List Event
  failure? : Option String

def run (config : Config) : Report :=
  let opening := [Event.log (entry "Starting CRM patch demo")]
  match Desk.start config with
  | .error e => ⟨opening, some e.message⟩
  | .ok (started, desk) =>
    let session := (script (Desk.executor config)).run Desk.service desk
    let trace := opening ++ started ++ Event.logged session.trace
    match session.result with
    | .error why => ⟨trace, some why⟩
    | .ok _ =>
      ⟨trace ++ session.state.stopped ++ [.log (entry "Demo completed")], none⟩

namespace Report

/-- The exit status of a program that does nothing else. -/
def status (report : Report) : UInt32 :=
  if report.failure?.isNone then 0 else 1

/-- The lines that a filter shows. -/
def lines (report : Report) (filter : Log.Filter) : List String :=
  Log.lines filter report.trace

end Report

/-! ## As a program -/

/-- What a program does that runs the demonstration. -/
structure Performance where
  status : UInt32
  lines : List String
  complaint? : Option String

/-- Shows what the filter with this text lets pass. Without a filter nothing is done. -/
def perform (config : Config) (filterText : String) : Performance :=
  match Log.Filter.parse? filterText with
  | none => ⟨101, [], some "the log filter cuts a character apart"⟩
  | some filter =>
    let report := run config
    ⟨report.status, report.lines filter, report.failure?⟩

end Demo
end FieldPatch
