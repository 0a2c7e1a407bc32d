/-!
# Resource kinds

The closed set of kinds of records. Each has a name, which is read back exactly, and a label for
messages, the name in lower case.
-/

namespace FieldPatch

inductive Kind where
  | contact
  | account
  | case
  | timeLog
deriving DecidableEq, Repr, Inhabited

namespace Kind

/-- Every kind, in the order their servers start. -/
def all : List Kind := [.contact, .account, .case, .timeLog]

theorem mem_all (k : Kind) : k ∈ all := by
  cases k <;> decide

def name : Kind → String
  | .contact => "Contact"
  | .account => "Account"
  | .case => "Case"
  | .timeLog => "TimeLog"

/-- The name as messages to the user write it. -/
def label (k : Kind) : String :=
  String.ofList (k.name.toList.map Char.toLower)

/-- No kind has this name. -/
structure UnknownName where
  name : String
deriving DecidableEq, Repr

def UnknownName.message (e : UnknownName) : String :=
  "Unknown resource: " ++ e.name

/-- The kind with exactly this name. -/
def ofName (name : String) : Except UnknownName Kind :=
  match all.find? (·.name == name) with
  | some k => .ok k
  | none => .error ⟨name⟩

theorem ofName_name (k : Kind) : ofName k.name = .ok k := by
  cases k <;> rfl

end Kind
end FieldPatch
