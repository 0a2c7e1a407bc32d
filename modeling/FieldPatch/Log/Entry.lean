import FieldPatch.Text.Quoted

/-!
# Log entries

* `Log.Level`: how much an entry matters;
* `Log.Source`: the part of the program that wrote it, with the path that filters know it by;
* `Log.Entry`: level, source, message and named values;
* `Log.Span`: a stretch of work with a name and values of its own.
-/

namespace FieldPatch
namespace Log

inductive Level where
  | error
  | warn
  | info
  | debug
  | trace
deriving DecidableEq, Repr

namespace Level

/-- The less an entry matters, the higher its rank. -/
def rank : Level → Nat
  | .error => 1
  | .warn => 2
  | .info => 3
  | .debug => 4
  | .trace => 5

def name : Level → String
  | .error => "ERROR"
  | .warn => "WARN"
  | .info => "INFO"
  | .debug => "DEBUG"
  | .trace => "TRACE"

end Level

inductive Source where
  | demo
  | server
  | client
  | registry
  | arguments
  | executor
  | services
  | desk
deriving DecidableEq, Repr

/-- The path by which a filter selects the entries of a source. -/
def Source.path : Source → String
  | .demo => "crm_patch"
  | .server => "crm_patch::framework::core"
  | .client => "crm_patch::clients::resource_endpoint"
  | .registry => "crm_patch::registry"
  | .arguments => "crm_patch::patch::args"
  | .executor => "crm_patch::patch::executor"
  | .services => "crm_patch::services"
  | .desk => "crm_patch::lifecycle::crm_system"

/-- A value in an entry: a string, which lines show in quotes, a text that stands as it is, a truth
value or a number. -/
inductive Value where
  | string (s : String)
  | bare (text : String)
  | truth (b : Bool)
  | count (n : Nat)
deriving DecidableEq, Repr

namespace Value

def text : Value → String
  | .string s => s
  | .bare text => text
  | .truth b => toString b
  | .count n => toString n

def shown : Value → String
  | .string s => Text.quote s
  | value => value.text

end Value

structure Entry where
  level : Level
  source : Source
  message : String
  fields : List (String × Value) := []
deriving DecidableEq, Repr

/-- All spans are of the level `info`. -/
structure Span where
  name : String
  source : Source
  fields : List (String × Value) := []
deriving DecidableEq, Repr

end Log
end FieldPatch
