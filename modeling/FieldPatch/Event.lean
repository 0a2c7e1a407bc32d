import FieldPatch.Log.Entry

/-!
# Events

What a call lets the world see while it runs.

* `Notification`: the message that tells the user how a patch went;
* `Event`: a new page title, a notification, a log entry, the bounds of a span, or the log of the
  server that answered;
* `Event.titles`, `Event.notifications`, `Event.entries`: the parts of a trace.
-/

namespace FieldPatch

inductive Notification where
  | success (message title : String)
  | error (message title : String)
deriving DecidableEq, Repr

inductive Event where
  | title (context value : String)
  | notify (n : Notification)
  | log (entry : Log.Entry)
  | enter (span : Log.Span)
  | leave
  /-- What a server wrote while it answered, outside the spans of its caller. -/
  | served (entries : List Log.Entry)
deriving DecidableEq, Repr

namespace Event

def title? : Event → Option (String × String)
  | .title context value => some (context, value)
  | _ => none

def notification? : Event → Option Notification
  | .notify n => some n
  | _ => none

/-- The titles that were set, in order. -/
def titles (trace : List Event) : List (String × String) :=
  trace.filterMap title?

/-- The notifications that were given, in order. -/
def notifications (trace : List Event) : List Notification :=
  trace.filterMap notification?

/-- Services that only log write these entries for titles and notifications. -/
def asEntry? : Event → Option Log.Entry
  | .title context value =>
    some ⟨.info, .services, "Page title updated",
      [("context", .string context), ("value", .string value)]⟩
  | .notify (.success message heading) =>
    some ⟨.info, .services, message, [("title", .string heading)]⟩
  | .notify (.error message heading) =>
    some ⟨.warn, .services, message, [("title", .string heading)]⟩
  | _ => none

/-- The trace with titles and notifications turned into log entries. -/
def logged (trace : List Event) : List Event :=
  trace.map fun e => (e.asEntry?.map Event.log).getD e

/-- The log entries of a trace, in order. -/
def entries (trace : List Event) : List Log.Entry :=
  trace.flatMap fun
    | .log entry => [entry]
    | .served entries => entries
    | _ => []

end Event
end FieldPatch
