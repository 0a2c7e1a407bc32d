import FieldPatch.Proofs.Dialogue.Follows
import FieldPatch.Proofs.Executor.Outcomes
import FieldPatch.Proofs.Registry.Resolution
import FieldPatch.Stub.Accessor

/-!
# Calls of accessors

Which accessors are called when choices are looked for, and how often.

* `Registry.selected?`: the accessor that serves a query;
* `Registry.asks_choicesForFields`: a sequence of queries asks the selected accessors, each once for
  each query that selects it, and asks no endpoint anything;
* `Registry.eval_choicesForFields`: what a sequence returns, and what it counts;
* `Registry.fetched_once`: both, for a registry whose accessors count their calls.
-/

namespace FieldPatch

/-- The counter of an accessor that counts its calls. One accessor may be registered in several
places, and counts for all of them. -/
def Stub.Accessor.slot? : Stub.Accessor → Option Nat
  | .counted slot _ => some slot
  | _ => none

namespace Registry

variable {ε α : Type}

/-- The choices of some fields, looked for one after the other. -/
def choicesForFields (r : Registry ε α) (queries : List (Kind × String)) :
    Dialogue (Query ε α) (List (List Choice)) :=
  queries.mapM fun query => r.choicesForField query.1 query.2

/-- The accessor that serves a query, if one is found. -/
def selected? (r : Registry ε α) (query : Kind × String) : Option α :=
  (r.resolve query.1 query.2).toOption.map Resolved.accessor

theorem selected?_of_resolve {r : Registry ε α} {query : Kind × String} {found : Resolved α}
    (h : r.resolve query.1 query.2 = .ok found) : r.selected? query = some found.accessor := by
  rw [selected?, h]
  rfl

theorem selected?_of_error {r : Registry ε α} {query : Kind × String} {e : RegistryError}
    (h : r.resolve query.1 query.2 = .error e) : r.selected? query = none := by
  rw [selected?, h]
  rfl

theorem choicesForFields_cons (r : Registry ε α) (query : Kind × String)
    (rest : List (Kind × String)) :
    r.choicesForFields (query :: rest) =
      (r.choicesForField query.1 query.2).bind fun list =>
        (r.choicesForFields rest).bind fun lists => .done (list :: lists) := by
  simp [choicesForFields]

/-! ## Questions -/

theorem asks_logAll {Q : Type} [Question Q] (entries : List Log.Entry) :
    (logAll entries : Dialogue Q Unit).Asks [] := by
  induction entries with
  | nil => rfl
  | cons entry rest ih => exact ih

theorem asks_choicesForField (r : Registry ε α) (query : Kind × String) :
    (r.choicesForField query.1 query.2).Asks ((r.selected? query).toList.map .fetch) := by
  apply Dialogue.Asks.inSpan
  rw [lookUp, Dialogue.bind_eq, Dialogue.bind_eq, Dialogue.bind_assoc]
  -- the log of the look-up comes first and asks nothing
  apply Dialogue.Asks.bind (asks_logAll _)
  intro _
  cases hresolve : r.resolve query.1 query.2 with
  | error e =>
    rw [selected?_of_error hresolve]
    rfl
  | ok found =>
    rw [selected?_of_resolve hresolve]
    intro answer
    cases answer with
    | ok list => rfl
    | error e => rfl

/-- Whatever the accessors answer, each one that is selected is asked once, in the order of the
queries, and nothing else is asked. -/
theorem asks_choicesForFields (r : Registry ε α) (queries : List (Kind × String)) :
    (r.choicesForFields queries).Asks ((queries.filterMap r.selected?).map .fetch) := by
  induction queries with
  | nil => rfl
  | cons query rest ih =>
    have hquestions : ((query :: rest).filterMap r.selected?).map (Query.fetch (ε := ε)) =
        (r.selected? query).toList.map .fetch ++ (rest.filterMap r.selected?).map .fetch := by
      cases hselected : r.selected? query with
      | none => simp [hselected]
      | some accessor => simp [hselected]
    rw [hquestions, choicesForFields_cons]
    apply (asks_choicesForField r query).bind
    intro list
    exact ih.bind_silent fun _ => rfl

/-! ## Counts -/

variable {r : Registry Unit Stub.Accessor}

/-- All accessors of the registry count their calls. -/
def Counting (r : Registry Unit Stub.Accessor) : Prop :=
  ∀ entry ∈ r.entries, ∀ named ∈ entry.2.accessors, named.2.slot?.isSome

instance : Decidable r.Counting :=
  inferInstanceAs (Decidable (∀ entry ∈ r.entries, ∀ named ∈ entry.2.accessors,
    named.2.slot?.isSome))

/-- The query is served by the accessor with this counter. -/
def selects (r : Registry Unit Stub.Accessor) (slot : Nat) (query : Kind × String) : Bool :=
  (r.selected? query).bind Stub.Accessor.slot? == some slot

/-- What a query returns: the list of the accessor that serves it, if there is one and it gives
one. -/
def permissible (r : Registry Unit Stub.Accessor) (query : Kind × String) : List Choice :=
  match r.resolve query.1 query.2 with
  | .ok ⟨_, .counted _ (.ok list), _⟩ => list
  | _ => []

/-- One query returns what is permissible, and is counted once by the accessor that serves it. -/
theorem eval_choicesForField_counting (h : r.Counting) (query : Kind × String) (s : Stub.State) :
    (r.choicesForField query.1 query.2).eval Stub.service s =
      (r.permissible query,
        { s with count := fun slot => s.count slot + if r.selects slot query then 1 else 0 }) := by
  rw [eval_choicesForField]
  cases hresolve : r.resolve query.1 query.2 with
  | error e => simp [permissible, selects, selected?_of_error hresolve, hresolve]
  | ok found =>
    rcases exists_entry_of_resolve hresolve with ⟨e, he, p, hfirst⟩
    have hcounts : found.accessor.slot?.isSome := h _ he _ hfirst.mem_accessors
    have hselected := selected?_of_resolve hresolve
    rcases found with ⟨name, accessor, exact⟩
    cases accessor with
    | fixed list => cases hcounts
    | served kind name => cases hcounts
    | counted slot result =>
      have hcount (n : Nat) : (if n = slot then s.count n + 1 else s.count n) =
          s.count n + if r.selects n query then 1 else 0 := by
        by_cases hn : n = slot
        · simp [selects, hselected, Stub.Accessor.slot?, hn]
        · simp [selects, hselected, Stub.Accessor.slot?, hn, Ne.symm hn]
      cases result with
      | ok list =>
        simp [permissible, hresolve, Stub.service, Stub.State.increment, hcount, Except.toOption]
      | error e =>
        simp [permissible, hresolve, Stub.service, Stub.State.increment, hcount, Except.toOption]

/-- A sequence returns what is permissible for each query in turn, and each accessor counts the
queries that it serves. -/
theorem eval_choicesForFields (h : r.Counting) (queries : List (Kind × String)) (s : Stub.State) :
    (r.choicesForFields queries).eval Stub.service s =
      (queries.map r.permissible,
        { s with count := fun slot => s.count slot + queries.countP (r.selects slot) }) := by
  induction queries generalizing s with
  | nil => rfl
  | cons query rest ih =>
    rw [choicesForFields_cons, Dialogue.eval_bind, eval_choicesForField_counting h,
      Dialogue.eval_bind, ih]
    simp [List.countP_cons, Nat.add_assoc, Nat.add_comm]

/-! ## Sequences of queries -/

/-- In a registry whose accessors count their calls, a sequence of queries for any kinds and texts
gets for each query the list of the accessor that the look-up finds, and no choices where this
accessor fails or none is found. Each counter grows by the number of queries for which the look-up
finds its accessor. A query that finds none changes nothing. Nothing but the accessors that were
found is asked, each once for each query, whatever they answer. -/
theorem fetched_once (h : r.Counting) (queries : List (Kind × String)) (s : Stub.State) :
    let run := (r.choicesForFields queries).run Stub.service s
    run.result = queries.map (fun query =>
        match r.resolve query.1 query.2 with
        | .ok ⟨_, .counted _ (.ok list), _⟩ => list
        | _ => []) ∧
      (∀ slot, run.state.count slot = s.count slot + queries.countP (r.selects slot)) ∧
      run.state.desk = s.desk ∧
      (∀ kind field e, r.resolve kind field = .error e → ∀ t : Stub.State,
        (r.choicesForField kind field).eval Stub.service t = ([], t)) ∧
      (r.choicesForFields queries).Asks ((queries.filterMap r.selected?).map .fetch) := by
  intro run
  have heval := eval_choicesForFields h queries s
  have hresult : run.result = queries.map r.permissible := congrArg Prod.fst heval
  have hstate : run.state =
      { s with count := fun slot => s.count slot + queries.countP (r.selects slot) } :=
    congrArg Prod.snd heval
  refine ⟨hresult, ?_, ?_, ?_, r.asks_choicesForFields queries⟩
  · intro slot
    rw [hstate]
  · rw [hstate]
  · intro kind field e hresolve t
    rw [eval_choicesForField, hresolve]

/-- The name itself comes before a longer one that was added earlier, the second of two accessors of
one name is never called, and no other accessor is tried where one fails. -/
theorem fetched_once_shadowed :
    let fallback := [⟨"Old", "old"⟩]
    let types := [⟨"Hot", "hot"⟩]
    let contact : Entry Unit Stub.Accessor :=
      ⟨(), [("getStatusesLegacy", .counted 0 (.ok fallback)),
        ("getStatuses", .counted 1 (.error (.unavailable "offline"))),
        ("getStatuses", .counted 2 (.ok types))]⟩
    let account : Entry Unit Stub.Accessor := ⟨(), [("getTypes", .counted 3 (.ok types))]⟩
    let r : Registry Unit Stub.Accessor := ⟨[(.contact, contact), (.account, account)], by decide⟩
    let run := (r.choicesForFields
      [(.contact, "statuses"), (.contact, "status"), (.account, "types"), (.contact, ""),
        (.account, "type"), (.case, "types")]).run Stub.service {}
    r.Counting ∧ run.result = [[], fallback, types, [], types, []] ∧
      (run.state.count 0, run.state.count 1, run.state.count 2, run.state.count 3) =
        (1, 1, 0, 2) := by
  intro fallback types contact account r run
  have hcounting : r.Counting := by decide
  rcases fetched_once hcounting
    [(.contact, "statuses"), (.contact, "status"), (.account, "types"), (.contact, ""),
      (.account, "type"), (.case, "types")] {} with ⟨hresult, hcount, _⟩
  refine ⟨hcounting, hresult.trans (by decide), ?_⟩
  rw [hcount 0, hcount 1, hcount 2, hcount 3]
  decide

end Registry
end FieldPatch
