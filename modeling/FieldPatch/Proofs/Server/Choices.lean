import FieldPatch.Client
import FieldPatch.Proofs.Dialogue.Eval
import FieldPatch.Proofs.Server.Transcript
import FieldPatch.Record.Case
import FieldPatch.Registry.Basic
import FieldPatch.Server.Journal

/-!
# Declared choices

The lists of choices that an entity declares are read twice, in order for the entry of a registry and
by name for a server. What the two make of them is the same.

* `Server.LastDeclared`: the list of the last declaration with a name. It is what is found from the
  end (`Server.declared?_eq_some_iff`), and what a server has collected (`Server.get?_collect`);
* `Registry.Entry.ofEntity_eq`: an entry has one accessor for each declaration, in order;
* `Client.entry`: the entry of a server, whose accessors are its clients;
* `Server.entry_serves_declared`: what these accessors fetch, in every state of the server.
-/

namespace FieldPatch

/-! ## Declarations by name -/

namespace Server

variable {lists : List (String × List Choice)} {name : String} {list : List Choice}

/-- The list is declared under the name, and no later declaration has this name. -/
def LastDeclared (lists : List (String × List Choice)) (name : String) (list : List Choice) :
    Prop :=
  ∃ before after, lists = before ++ (name, list) :: after ∧ name ∉ after.map Prod.fst

/-- The first list under the name, looked for from the end. -/
def declared? (lists : List (String × List Choice)) (name : String) : Option (List Choice) :=
  lists.reverse.lookup name

theorem declared?_eq_some_iff : declared? lists name = some list ↔ LastDeclared lists name list := by
  rw [declared?, List.lookup_eq_some_iff]
  constructor
  · intro h
    rcases h with ⟨after, before, hlists, hother⟩
    refine ⟨before.reverse, after.reverse, ?_, ?_⟩
    · simpa using congrArg List.reverse hlists
    · intro hmem
      rcases List.mem_map.1 hmem with ⟨later, hlater, hname⟩
      have hne := hother later (List.mem_reverse.1 hlater)
      simp [hname] at hne
  · intro h
    rcases h with ⟨before, after, hlists, hother⟩
    refine ⟨after.reverse, before.reverse, by simp [hlists], ?_⟩
    intro later hlater
    have hne : name ≠ later.1 := by
      intro hname
      exact hother (List.mem_map.2 ⟨later, List.mem_reverse.1 hlater, hname.symm⟩)
    simpa using hne

theorem declared?_eq_none_iff : declared? lists name = none ↔ name ∉ lists.map Prod.fst := by
  have hnames : lists.reverse.map Prod.fst = (lists.map Prod.fst).reverse := List.map_reverse
  rw [declared?, ← Option.not_isSome_iff_eq_none, Keyed.isSome_lookup_iff, hnames, List.mem_reverse]

/-- Where no name is declared twice, each declaration is the last one with its name. -/
theorem lastDeclared_of_nodup (h : (lists.map Prod.fst).Nodup) (hmem : (name, list) ∈ lists) :
    LastDeclared lists name list := by
  rw [← declared?_eq_some_iff, declared?, Keyed.lookup_reverse h]
  exact Keyed.lookup_of_mem h hmem

/-- Only one list is the last one that is declared under a name. -/
theorem LastDeclared.unique {list' : List Choice} (h : LastDeclared lists name list)
    (h' : LastDeclared lists name list') : list = list' :=
  Option.some.inj ((declared?_eq_some_iff.2 h).symm.trans (declared?_eq_some_iff.2 h'))

/-- What has been collected is what is found from the end: a later declaration takes the place of an
earlier one with the same name. -/
theorem get?_collect (lists : List (String × List Choice)) (name : String) :
    (collect lists).get? name = declared? lists name := by
  induction lists using List.reverseRecOn with
  | nil => rfl
  | append_singleton earlier last ih =>
    have hcollect : collect (earlier ++ [last]) = (collect earlier).put last.1 last.2 := by
      simp [collect]
    rw [hcollect, Store.get?_put, ih, declared?, declared?, List.reverse_append]
    exact (Keyed.lookup_cons_ite name last.1 last.2 earlier.reverse).symm

end Server

/-! ## Entries -/

variable {ι ρ : Type} [Entity ι ρ]

/-- An entry has one accessor for each declaration, in the order of the declarations. -/
theorem Registry.Entry.ofEntity_eq {ε α : Type} (endpoint : ε) (accessor : String → α) :
    ofEntity ρ endpoint accessor =
      ⟨endpoint, (Entity.choiceLists ρ).map fun list => (list.1, accessor list.1)⟩ := by
  have hfold := foldl_withAccessor
    ((Entity.choiceLists ρ).map fun list => (list.1, accessor list.1)) ⟨endpoint, []⟩
  simpa [ofEntity, List.foldl_map] using hfold

namespace Client

variable (ρ) in
/-- The entry of the server of an entity. Its endpoint and its accessors ask this server. -/
def entry : Registry.Entry (Payload → Dialogue (Request ι ρ) (Except RemoteError Json))
    (Dialogue (Request ι ρ) (Except RemoteError (List Choice))) :=
  .ofEntity ρ patch fetch

/-- A client returns the list of the server, or the error that the server answers with. -/
theorem eval_fetch {σ : Type} (serve : Dialogue.Service (Request ι ρ) σ) (accessor : String)
    (s : σ) :
    (fetch accessor).eval serve s =
      (((serve (.choices accessor) s).2.1 : Except ServerError (List Choice)).mapError .ofServer,
        (serve (.choices accessor) s).2.2) := by
  have hask : (ask (.choices accessor)).eval serve s = (serve (.choices accessor) s).2 := rfl
  rw [fetch, Dialogue.eval_inSpan]
  simp only [Dialogue.bind_eq, Dialogue.eval_bind, Dialogue.eval_log, hask]
  generalize (serve (.choices accessor) s).2 = answered
  rcases answered with ⟨answer, next⟩
  cases answer with
  | error e => rfl
  | ok list => rfl

end Client

/-! ## Servers -/

namespace Server

variable [DecidableEq ι] [Identifier ι] {s : Server ι ρ} {name : String}

theorem serve_choices_of_declared (htable : s.table = collect (Entity.choiceLists ρ))
    {list : List Choice} (h : LastDeclared (Entity.choiceLists ρ) name list) :
    s.serve (.choices name) = (.ok list, s) := by
  have hget : s.table.get? name = some list := by
    rw [htable, get?_collect, declared?_eq_some_iff.2 h]
  simp only [serve, choices, hget]

theorem serve_choices_of_not_declared (htable : s.table = collect (Entity.choiceLists ρ))
    (h : name ∉ (Entity.choiceLists ρ).map Prod.fst) :
    s.serve (.choices name) = (.error (.notFound name), s) := by
  have hget : s.table.get? name = none := by
    rw [htable, get?_collect, declared?_eq_none_iff.2 h]
  simp only [serve, choices, hget]

/-- Servers with the same table answer alike when they are asked for choices. -/
theorem answer_choices_congr {s' : Server ι ρ} (htable : s.table = s'.table) (name : String) :
    (s.serve (.choices name)).1 = (s'.serve (.choices name)).1 := by
  simp only [serve, choices, htable]

/-- The entry of a server has the declared names as accessors, in the order of the declarations and
as often as they are declared. In every state of the server an accessor fetches the last list that
is declared under its name, which is its own list where no name is declared twice. Other names are
not found, by requests to the server and by clients alike. No further requests change the answers. -/
theorem entry_serves_declared (mint : Nat → ι) (requests : List (Request ι ρ)) :
    let s : Server ι ρ := (start mint).serveAll requests
    let lists := Entity.choiceLists ρ
    (Client.entry ρ).accessorNames = lists.map Prod.fst ∧
      (∀ name accessor, (name, accessor) ∈ (Client.entry ρ).accessors →
        ∃ list, LastDeclared lists name list ∧ s.serve (.choices name) = (.ok list, s) ∧
          accessor.eval service s = (.ok list, s)) ∧
      ((lists.map Prod.fst).Nodup → ∀ (i : Nat) name list, lists[i]? = some (name, list) →
        ∃ accessor, (Client.entry ρ).accessors[i]? = some (name, accessor) ∧
          accessor.eval service s = (.ok list, s)) ∧
      (∀ name, name ∉ lists.map Prod.fst →
        s.serve (.choices name) = (.error (.notFound name), s) ∧
          (Client.fetch name).eval service s = (.error (.notFound name), s)) ∧
      ∀ more name, ((s.serveAll more).serve (.choices name)).1 = (s.serve (.choices name)).1 ∧
        ((Client.fetch name).eval service (s.serveAll more)).1 =
          ((Client.fetch name).eval service s).1 := by
  intro s lists
  have hentry : (Client.entry ρ).accessors = lists.map fun list => (list.1, Client.fetch list.1) :=
    congrArg Registry.Entry.accessors (Registry.Entry.ofEntity_eq _ _)
  -- the lists have been collected at the start, and no request has touched them since then
  have htable : s.table = collect lists := table_serveAll (start mint) requests
  have hfetched {name : String} {list : List Choice} (h : LastDeclared lists name list) :
      (Client.fetch name).eval service s = (.ok list, s) := by
    rw [Client.eval_fetch, service, serve_choices_of_declared htable h]
    rfl
  refine ⟨?_, ?_, ?_, ?_, ?_⟩
  · simp [Registry.Entry.accessorNames, hentry]
  · intro name accessor hmem
    rw [hentry] at hmem
    rcases List.mem_map.1 hmem with ⟨declaration, hdeclared, heq⟩
    obtain ⟨rfl, rfl⟩ := Prod.mk.inj heq
    -- the name is declared at least here, so that it has a last declaration
    have hfound : declared? lists declaration.1 ≠ none := by
      rw [Ne, declared?_eq_none_iff, not_not]
      exact List.mem_map.2 ⟨_, hdeclared, rfl⟩
    rcases Option.ne_none_iff_exists'.1 hfound with ⟨list, hlist⟩
    have hlast := declared?_eq_some_iff.1 hlist
    exact ⟨list, hlast, serve_choices_of_declared htable hlast, hfetched hlast⟩
  · intro hnodup i name list hdeclared
    refine ⟨Client.fetch name, ?_, ?_⟩
    · simp [hentry, hdeclared]
    · exact hfetched (lastDeclared_of_nodup hnodup (List.mem_of_getElem? hdeclared))
  · intro name hnot
    have hserve := serve_choices_of_not_declared htable hnot
    refine ⟨hserve, ?_⟩
    rw [Client.eval_fetch, service, hserve]
    rfl
  · intro more name
    have hanswer := answer_choices_congr (s.table_serveAll more) name
    refine ⟨hanswer, ?_⟩
    simp only [Client.eval_fetch, service, hanswer]

/-- A record of an entity that declares its first list again. -/
structure Redeclared where
  id : UInt64

instance : Entity UInt64 Redeclared where
  kind := .case
  id := Redeclared.id
  withId id _ := ⟨id⟩
  edit field _ := throw (.unknownField field)
  encode r := .ok (Identifier.toJson r.id)
  choiceLists :=
    [("getStatuses", [⟨"new", "New"⟩]), ("getTypes", []), ("getStatuses", [⟨"open", "Open"⟩])]

/-- Of two lists with one name both accessors fetch the second. With distinct names each accessor
fetches its own list. -/
theorem entry_serves_declared_again :
    let s : Server UInt64 Redeclared := (start UInt64.ofNat).serveAll [.create ⟨7⟩]
    let t : Server UInt64 Case := (start UInt64.ofNat).serveAll [.create (.new "Printer on fire")]
    (Client.entry Redeclared).accessorNames = ["getStatuses", "getTypes", "getStatuses"] ∧
      (∀ accessor, ("getStatuses", accessor) ∈ (Client.entry Redeclared).accessors →
        accessor.eval service s = (.ok [⟨"open", "Open"⟩], s)) ∧
      (Client.fetch "getPriorities").eval service s = (.error (.notFound "getPriorities"), s) ∧
      ∃ accessor, (Client.entry Case).accessors[1]? = some ("getPriorityLevels", accessor) ∧
        accessor.eval service t = (.ok Case.priorityLevels, t) := by
  intro s t
  rcases entry_serves_declared (ρ := Redeclared) UInt64.ofNat [.create ⟨7⟩] with
    ⟨hnames, hserved, _, hother, _⟩
  refine ⟨hnames, ?_, (hother "getPriorities" (by decide)).2, ?_⟩
  · intro accessor hmem
    rcases hserved "getStatuses" accessor hmem with ⟨list, hlast, _, hfetched⟩
    have hopen : LastDeclared (Entity.choiceLists Redeclared) "getStatuses" [⟨"open", "Open"⟩] :=
      declared?_eq_some_iff.1 rfl
    rw [hlast.unique hopen] at hfetched
    exact hfetched
  · exact (entry_serves_declared (ρ := Case) UInt64.ofNat [.create (.new "Printer on fire")]).2.2.1
      (by decide) 1 _ _ rfl

end Server
end FieldPatch
