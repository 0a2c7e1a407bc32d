import FieldPatch.Proofs.Dialogue.Signs
import FieldPatch.Proofs.Executor.Notices

/-!
# Titles of an executor

The page title follows the display-name field, and it does so before anything is sent.

* `Config.Builds`: which payload is made of changed data, and which titles are set meanwhile;
* `Executor.requests`: the request that goes out with what was built;
* `Executor.shows_updateField`: an update of a field shows its titles, its request and its
  notification, in this order;
* `Executor.title_before_request`: the same for any number of calls that overlap.
-/

namespace FieldPatch

instance {ε α : Type} (query : Query ε α) : Nonempty (Answer query) :=
  ⟨(.error (.notFound "") : Except RemoteError query.Reply)⟩

/-! ## What is built -/

namespace Config

/-- What building a payload returns, and the titles that it sets. -/
structure Builds (config : Config) (change : Change) (field : Option String)
    (target : Option Target) (result : Except PatchError Payload)
    (titles : List (String × String)) : Prop where
  object : ∀ o, change = .object o → result = .ok (.full o)
  unnamed : ∀ value, change = .single value → field = none ∨ field = some "" →
    result = .error (.invalidField "")
  identifier : ∀ value, change = .single value → field = some "id" →
    result = .error (.readOnlyField "id")
  untargeted : ∀ value name, change = .single value → field = some name → name ≠ "" →
    name ≠ "id" → target = none → result = .error (.missingTarget name)
  single : ∀ value name t, change = .single value → field = some name → name ≠ "" →
    name ≠ "id" → target = some t → result = .ok (.single t.id name value)
  /-- A text is shown as it is, any other value as JSON. -/
  titled : ∀ id value, result = .ok (.single id config.displayNameField value) →
    titles = [(config.titleContext, value.text?.getD value.print)]
  untitled : (∀ id value, result ≠ .ok (.single id config.displayNameField value)) → titles = []

/-- The titles that go with what was built. -/
def titles (config : Config) : Except PatchError Payload → List (String × String)
  | .ok (.single _ field value) =>
    if field = config.displayNameField then [(config.titleContext, shownInTitle value)] else []
  | _ => []

theorem shownInTitle_eq (value : Json) : shownInTitle value = value.text?.getD value.print := by
  cases value <;> rfl

theorem builds_payload (config : Config) (change : Change) (field : Option String)
    (target : Option Target) :
    config.Builds change field target (change.payload field target)
      (config.titles (change.payload field target)) := by
  refine ⟨?_, ?_, ?_, ?_, ?_, ?_, ?_⟩
  · rintro o rfl
    rfl
  · rintro value rfl hfield
    rcases hfield with rfl | rfl
    · rfl
    · rfl
  · rintro value rfl rfl
    rfl
  · rintro value name rfl rfl hempty hid rfl
    have hkey : name ≠ idKey := hid
    simp [Change.payload, hempty, hkey]
  · rintro value name t rfl rfl hempty hid rfl
    have hkey : name ≠ idKey := hid
    simp [Change.payload, hempty, hkey]
  · intro id value hresult
    simp [hresult, titles, shownInTitle_eq]
  · intro hother
    unfold titles
    split
    · rename_i id name value hresult
      by_cases htitle : name = config.displayNameField
      · exact absurd (htitle ▸ hresult) (hother id value)
      · simp [htitle]
    · rfl

variable {Q σ : Type} [Question Q]

/-- A title is shown exactly where one goes with what was built. -/
theorem announce_cases (config : Config) (result : Except PatchError Payload) :
    (config.titles result = [] ∧ (config.announce result : Dialogue Q Unit) = .done ()) ∨
    ∃ value, config.titles result = [(config.titleContext, shownInTitle value)] ∧
      (config.announce result : Dialogue Q Unit) = config.retitle value := by
  cases result with
  | error reason => exact .inl ⟨rfl, rfl⟩
  | ok payload =>
    cases payload with
    | full o => exact .inl ⟨rfl, rfl⟩
    | single id field value =>
      by_cases htitle : field = config.displayNameField
      · exact .inr ⟨value, by simp [titles, htitle], by simp [announce, htitle]⟩
      · exact .inl ⟨by simp [titles, htitle], by simp [announce, htitle]⟩

theorem titles_announce (config : Config) (result : Except PatchError Payload)
    (serve : Dialogue.Service Q σ) (s : σ) :
    Event.titles ((config.announce result).run serve s).trace = config.titles result := by
  rcases config.announce_cases (Q := Q) result with
    ⟨htitles, hannounce⟩ | ⟨value, htitles, hannounce⟩
  · rw [htitles, hannounce]
    rfl
  · rw [htitles, hannounce]
    rfl

theorem run_createArgs (config : Config) (change : Change) (field : Option String)
    (target : Option Target) (serve : Dialogue.Service Q σ) (s : σ) :
    let run := (config.createArgs change field target).run serve s
    run.result = change.payload field target ∧
      Event.titles run.trace = config.titles (change.payload field target) ∧ run.state = s := by
  intro run
  have hrun : run = _ := congrArg (fun d => Dialogue.run serve d s)
    (config.createArgs_eq change field target)
  rw [Dialogue.run_bind] at hrun
  refine ⟨?_, ?_, ?_⟩
  · simp [hrun, Dialogue.run, Dialogue.Run.after]
  · simp [hrun, Dialogue.run, Dialogue.Run.after, titles_announce]
  · have hstate : ((config.announce (change.payload field target)).run serve s).state = s :=
      congrArg Prod.snd (config.eval_announce (change.payload field target) serve s)
    simpa [hrun, Dialogue.run, Dialogue.Run.after] using hstate

end Config

namespace Executor

variable {ε α : Type}

/-- The signs of the titles that were set. -/
def titleSigns (titles : List (String × String)) : List (Sign (Query ε α)) :=
  titles.map fun t => .titled t.1 t.2

/-- The payload that was built arrives at the endpoint of its kind, if there is one. -/
def requests (x : Executor ε α) (kind : Kind) (built : Except PatchError Payload) :
    List (Sign (Query ε α)) :=
  match built, x.registry.endpoint kind with
  | .ok payload, .ok endpoint => [.asked (.patch endpoint payload)]
  | _, _ => []

/-! ## The parts of an update -/

theorem shows_announce (x : Executor ε α) (result : Except PatchError Payload) :
    (x.config.announce result : Dialogue (Query ε α) Unit).Shows fun signs _ =>
      signs = titleSigns (x.config.titles result) := by
  rcases x.config.announce_cases (Q := Query ε α) result with
    ⟨htitles, hannounce⟩ | ⟨value, htitles, hannounce⟩
  · rw [htitles, hannounce]
    rfl
  · rw [htitles, hannounce]
    rfl

theorem shows_tryPatch (x : Executor ε α) (kind : Kind) (payload : Payload) :
    (x.tryPatch kind payload).Shows fun signs _ => signs = x.requests kind (.ok payload) := by
  unfold tryPatch requests
  cases x.registry.endpoint kind with
  | error e => rfl
  | ok endpoint =>
    intro answer
    cases answer with
    | ok response => rfl
    | error e => rfl

theorem shows_patch (x : Executor ε α) (kind : Kind) (payload : Payload) :
    (x.patch kind payload).Shows fun signs o =>
      signs = x.requests kind (.ok payload) ++ [.notified (o.notification x.config kind)] := by
  apply Dialogue.Shows.bind
  apply (x.shows_tryPatch kind payload).mono
  rintro signs result rfl
  cases result with
  | ok response => rfl
  | error reason => rfl

theorem shows_updateField (x : Executor ε α) (kind : Kind) (target : Target) (field : String)
    (change : Change) :
    let built := change.payload (some field) (some target)
    (x.updateField kind target field change).Shows fun signs o =>
      signs = titleSigns (x.config.titles built) ++ x.requests kind built ++
        [.notified (o.notification x.config kind)] := by
  intro built
  rw [updateField_eq]
  apply Dialogue.Shows.bind
  apply (x.shows_announce built).mono
  rintro signs _ rfl
  cases hbuilt : change.payload (some field) (some target) with
  | ok payload =>
    have hok : built = .ok payload := hbuilt
    rw [hok]
    apply (x.shows_patch kind payload).mono
    rintro rest o rfl
    simp
  | error reason =>
    -- without a payload nothing is sent
    have herror : built = .error reason := hbuilt
    rw [herror]
    rfl

/-! ## Updates that overlap -/

theorem shows_perform_updateField (x : Executor ε α) (kind : Kind) (target : Target)
    (field : String) (change : Change) :
    let built := change.payload (some field) (some target)
    (x.perform (.updateField kind target field change)).Shows fun signs reply =>
      ∃ o, reply = .outcome o ∧
        signs = titleSigns (x.config.titles built) ++ x.requests kind built ++
          [.notified (o.notification x.config kind)] := by
  intro built
  apply Dialogue.Shows.bind
  apply (x.shows_updateField kind target field change).mono
  rintro signs o rfl
  exact ⟨o, rfl, by simp [built]⟩

/-- In a crowd of calls, an update has shown a first part of its titles and its request, or it has
ended and has shown all of that and its notification. -/
theorem signs_of_reaches (x : Executor ε α) {calls : List Call} {c : Crowd (Query ε α) Reply}
    (h : Crowd.Reaches (calls.map x.perform) c) {i : Nat} {kind : Kind} {target : Target}
    {field : String} {change : Change}
    (hcall : calls[i]? = some (.updateField kind target field change)) :
    let built := change.payload (some field) (some target)
    let before := titleSigns (x.config.titles built) ++ x.requests kind built
    match c.result? i with
    | none => c.signs i <+: before
    | some reply => ∃ o, reply = .outcome o ∧
        c.signs i = before ++ [.notified (o.notification x.config kind)] := by
  intro built before
  have hdialogue : (calls.map x.perform)[i]? =
      some (x.perform (.updateField kind target field change)) := by simp [hcall]
  rcases Crowd.path_of_reaches h hdialogue with ⟨p, hp, hpath⟩
  have hresult : c.result? i = p.result? := by simp [Crowd.result?, hp]
  have hshows := hpath.shows (x.shows_perform_updateField kind target field change)
  have hsaid := x.notifications_of_reaches h hcall
  cases hend : c.result? i with
  | some reply =>
    have hdone := hshows.of_result? (hresult.symm.trans hend)
    simpa [Crowd.signs, before, built] using hdone
  | none =>
    -- some end is possible from here, and what has been shown is a first part of what it shows
    rcases hshows.exists_end with ⟨rest, reply, o, _, hall⟩
    have hfront : c.signs i <+: before ++ [.notified (o.notification x.config kind)] :=
      ⟨rest, hall⟩
    rcases List.prefix_concat_iff.1 hfront with hwhole | hpart
    · -- an open call has not notified yet
      have hmem : .notified (o.notification x.config kind) ∈ c.signs i := by simp [hwhole]
      have hnone : c.notifications i = [] := by simpa [hend] using hsaid
      have hnotified := Crowd.mem_notifications_of_signs hmem
      simp [hnone] at hnotified
    · exact hpart

/-- Building a payload checks field and target in a fixed order, and sets the page title once for a
new value of the display-name field and not at all otherwise. However the calls overlap, an update
sets the title that it builds, then its request arrives, and then it notifies, whatever the endpoint
answers. -/
theorem title_before_request (x : Executor ε α) (calls : List Call)
    {c : Crowd (Query ε α) Reply} (h : Crowd.Reaches (calls.map x.perform) c) :
    (∀ {Q σ : Type} [Question Q] (serve : Dialogue.Service Q σ) (s : σ) change field target,
      let run := (x.config.createArgs change field target).run serve s
      x.config.Builds change field target run.result (Event.titles run.trace) ∧ run.state = s) ∧
    ∀ i kind target field change, calls[i]? = some (.updateField kind target field change) →
      let built := (x.config.createArgs change (some field) (some target)).alone
      let before := titleSigns (Event.titles built.trace) ++ x.requests kind built.result
      match c.result? i with
      | none => c.signs i <+: before
      | some reply => ∃ o, reply = .outcome o ∧
          c.signs i = before ++ [.notified (o.notification x.config kind)] := by
  refine ⟨?_, ?_⟩
  · intro Q σ _ serve s change field target run
    rcases x.config.run_createArgs change field target serve s with ⟨hresult, htitles, hstate⟩
    refine ⟨?_, hstate⟩
    simpa [run, hresult, htitles] using x.config.builds_payload change field target
  · intro i kind target field change hcall built before
    -- what is built is the same for a dialogue that cannot ask anything
    have hresult : built.result = change.payload (some field) (some target) :=
      (x.config.run_createArgs change (some field) (some target) _ ()).1
    have htitles : Event.titles built.trace = x.config.titles (change.payload (some field)
        (some target)) :=
      (x.config.run_createArgs change (some field) (some target) _ ()).2.1
    simpa only [before, hresult, htitles] using x.signs_of_reaches h hcall

/-- An account is renamed and the endpoint refuses: the title has been set all the same. -/
theorem title_before_request_refused :
    let x : Executor Unit String := ⟨⟨[(.account, ⟨(), []⟩)], by simp⟩, {}⟩
    let calls : List Call :=
      [.updateField .account (.ofNat 1) "name" (.single (.string "Acme")),
        .updateField .account (.ofNat 2) "name" (.single (.string "Globex"))]
    ∃ c o, Crowd.Reaches (calls.map x.perform) c ∧ c.result? 0 = some (.outcome o) ∧
      o.isSuccess = false ∧
      c.signs 0 = [.titled "detail" "Acme",
        .asked (.patch () (.single (.ofInt 1) "name" (.string "Acme"))),
        .notified (.error x.config.errorMessage "Oops!")] := by
  intro x calls
  let serve : Dialogue.Service (Query Unit String) Unit := fun
    | .patch _ _, s => ([], .error (.rejected "name: taken"), s)
    | .fetch _, s => ([], .ok [], s)
  let call : Call := .updateField .account (.ofNat 1) "name" (.single (.string "Acme"))
  rcases Progress.exists_path_run serve (x.perform call) () with ⟨acts, hpath⟩
  have hstart : Crowd.Reaches (calls.map x.perform) (.start (calls.map x.perform)) := .refl
  have hfirst := Crowd.reaches_along hpath hstart (i := 0) rfl
  refine ⟨_, _, hfirst, rfl, rfl, ?_⟩
  rcases (x.title_before_request calls hfirst).2 0 _ _ _ _ rfl with ⟨o, ho, hsigns⟩
  cases ho
  exact hsigns

end Executor
end FieldPatch
