import FieldPatch.Proofs.Stub.Calls
import Mathlib.Data.List.Induction

/-!
# Scripts

Results are queued at the endpoints of a bench while calls go through an executor, in any order.

* `Script.play`: the bench after the moves of a script, with the calls that have been made;
* `Script.queued`: the results that have been queued at an endpoint, and `Script.answered`: the
  calls that have got one of them;
* `Script.Ledger`: the endpoint has received what was sent to it, and has given its results away in
  their order. Every move keeps the ledger (`Script.Ledger.move`);
* `Script.delivered_once_in_order`: what follows for every script.
-/

namespace FieldPatch
namespace Script

inductive Move (ε : Type) where
  | expect (handle : ε) (result : Except RemoteError Json)
  | call (call : Executor.Call)

/-- A call with what it returned, or the misuse that ended it. -/
structure Made where
  call : Executor.Call
  result : Except Misuse Executor.Reply

structure Played (ε : Type) where
  bench : Bench ε := {}
  made : List Made := []

variable {ε : Type} [DecidableEq ε] (x : Executor ε (List Choice)) (handle : ε)

def Played.move (p : Played ε) : Move ε → Played ε
  | .expect handle result => { p with bench := p.bench.expect handle result }
  | .call call =>
    let run := p.bench.call (x.perform call)
    ⟨run.state, p.made ++ [⟨call, run.result⟩]⟩

/-- Plays a script on fresh endpoints. -/
def play (moves : List (Move ε)) : Played ε :=
  moves.foldl (Played.move x) {}

theorem play_snoc (moves : List (Move ε)) (move : Move ε) :
    play x (moves ++ [move]) = (play x moves).move x move := by
  simp [play]

/-! ## What a script says -/

def Move.call? : Move ε → Option Executor.Call
  | .expect _ _ => none
  | .call made => some made

def Move.result? : Move ε → Option (Except RemoteError Json)
  | .expect h result => if h = handle then some result else none
  | .call _ => none

/-- The results that the script queues at the endpoint, in order. -/
def queued (moves : List (Move ε)) : List (Except RemoteError Json) :=
  moves.filterMap (Move.result? handle)

/-- The payload that a call delivers to the endpoint. -/
def payload? (call : Executor.Call) : Option Payload :=
  match x.delivery call with
  | .ok (h, payload) => if h = handle then some payload else none
  | .error _ => none

/-- The calls that have delivered to the endpoint and have not been ended by it, in order. -/
def answered (made : List Made) : List Made :=
  made.filter fun m => (payload? x handle m.call).isSome && m.result.isOk

theorem calls_play (moves : List (Move ε)) :
    (play x moves).made.map Made.call = moves.filterMap Move.call? := by
  induction moves using List.reverseRecOn with
  | nil => rfl
  | append_singleton before move ih =>
    rw [play_snoc, List.filterMap_append, ← ih]
    cases move with
    | expect h result => simp [Played.move, Move.call?]
    | call call => simp [Played.move, Move.call?]

theorem queued_expect (moves : List (Move ε)) (h : ε) (result : Except RemoteError Json) :
    queued handle (moves ++ [.expect h result]) =
      queued handle moves ++ if h = handle then [result] else [] := by
  by_cases hh : h = handle
  · simp [queued, Move.result?, hh]
  · simp [queued, Move.result?, hh]

theorem queued_call (moves : List (Move ε)) (call : Executor.Call) :
    queued handle (moves ++ [.call call]) = queued handle moves := by
  simp [queued, Move.result?]

theorem answered_snoc (made : List Made) (m : Made) :
    answered x handle (made ++ [m]) = answered x handle made ++
      if (payload? x handle m.call).isSome && m.result.isOk then [m] else [] := by
  simp [answered, List.filter_append, List.filter_singleton]

/-! ## The ledger of an endpoint -/

/-- The call has returned this result of its endpoint. -/
def Returns (config : Config) (m : Made) (result : Except RemoteError Json) : Prop :=
  m.result = .ok (m.call.reply config (result.mapError .remote))

structure Ledger (moves : List (Move ε)) (p : Played ε) : Prop where
  received_eq : (p.bench.endpoint handle).received =
    (p.made.map Made.call).filterMap (payload? x handle)
  /-- The results that have been queued are those given away and those that are left. -/
  queued_eq : ∃ used, queued handle moves = used ++ (p.bench.endpoint handle).replies ∧
    List.Forall₂ (Returns x.config) (answered x handle p.made) used

namespace Ledger

variable {x handle} {moves : List (Move ε)} {p : Played ε}

theorem expect (ledger : Ledger x handle moves p) (h : ε) (result : Except RemoteError Json) :
    Ledger x handle (moves ++ [.expect h result]) (p.move x (.expect h result)) := by
  rcases ledger.queued_eq with ⟨used, hqueued, hreturns⟩
  by_cases hh : h = handle
  · subst hh
    refine ⟨?_, used, ?_, hreturns⟩
    · simpa [Played.move, Bench.expect, ScriptedEndpoint.expect] using ledger.received_eq
    · simp [Played.move, Bench.expect, ScriptedEndpoint.expect, queued_expect, hqueued]
  · -- the result is queued at another endpoint
    have hother : (p.bench.expect h result).endpoint handle = p.bench.endpoint handle :=
      p.bench.endpoint_set_of_ne _ fun he => hh he.symm
    refine ⟨?_, used, ?_, hreturns⟩
    · simpa [Played.move, hother] using ledger.received_eq
    · simpa [Played.move, hother, queued_expect, hh] using hqueued

/-- A call that delivers nothing to the endpoint. -/
theorem call_elsewhere (ledger : Ledger x handle moves p) {call : Executor.Call} {b : Bench ε}
    {result : Except Misuse Executor.Reply} (hpayload : payload? x handle call = none)
    (hsame : b.endpoint handle = p.bench.endpoint handle) :
    Ledger x handle (moves ++ [.call call]) ⟨b, p.made ++ [⟨call, result⟩]⟩ := by
  rcases ledger.queued_eq with ⟨used, hqueued, hreturns⟩
  refine ⟨?_, used, ?_, ?_⟩
  · simpa [hsame, hpayload] using ledger.received_eq
  · simpa [hsame, queued_call] using hqueued
  · simpa [answered_snoc, hpayload] using hreturns

/-- A call that delivers its payload to the endpoint and is ended by it. -/
theorem call_ended (ledger : Ledger x handle moves p) {call : Executor.Call} {b : Bench ε}
    {payload : Payload} {misuse : Misuse} (hpayload : payload? x handle call = some payload)
    (hreplies : (p.bench.endpoint handle).replies = [])
    (hnext : b.endpoint handle = ⟨[], (p.bench.endpoint handle).received ++ [payload]⟩) :
    Ledger x handle (moves ++ [.call call]) ⟨b, p.made ++ [⟨call, .error misuse⟩]⟩ := by
  rcases ledger.queued_eq with ⟨used, hqueued, hreturns⟩
  refine ⟨?_, used, ?_, ?_⟩
  · simp [hnext, hpayload, ledger.received_eq]
  · simp [hnext, queued_call, hqueued, hreplies]
  · simpa [answered_snoc, Except.isOk, Except.toBool] using hreturns

/-- A call that delivers its payload to the endpoint and gets the first result that is left. -/
theorem call_answered (ledger : Ledger x handle moves p) {call : Executor.Call} {b : Bench ε}
    {payload : Payload} {result : Except RemoteError Json} {rest : List (Except RemoteError Json)}
    (hpayload : payload? x handle call = some payload)
    (hreplies : (p.bench.endpoint handle).replies = result :: rest)
    (hnext : b.endpoint handle = ⟨rest, (p.bench.endpoint handle).received ++ [payload]⟩) :
    Ledger x handle (moves ++ [.call call])
      ⟨b, p.made ++ [⟨call, .ok (call.reply x.config (result.mapError .remote))⟩]⟩ := by
  rcases ledger.queued_eq with ⟨used, hqueued, hreturns⟩
  -- the first of the results that were left joins those given away
  refine ⟨?_, used ++ [result], ?_, ?_⟩
  · simp [hnext, hpayload, ledger.received_eq]
  · simp [hnext, queued_call, hqueued, hreplies]
  · have hlast : Returns x.config
        ⟨call, .ok (call.reply x.config (result.mapError .remote))⟩ result := rfl
    simpa [answered_snoc, hpayload, Except.isOk, Except.toBool] using
      List.rel_append hreturns (.cons hlast .nil)

theorem call (ledger : Ledger x handle moves p) (call : Executor.Call) :
    Ledger x handle (moves ++ [.call call]) (p.move x (.call call)) := by
  have hmove : p.move x (.call call) =
      ⟨(p.bench.eval (x.perform call)).2, p.made ++ [⟨call, (p.bench.eval (x.perform call)).1⟩]⟩ :=
    rfl
  rw [hmove]
  rcases p.bench.call_cases x call with ⟨reason, hdelivery, heval⟩ | ⟨h, payload, hdelivery, hcases⟩
  · -- no endpoint gets anything
    rw [heval]
    exact ledger.call_elsewhere (by simp [payload?, hdelivery]) rfl
  by_cases hh : h = handle
  · subst hh
    have hpayload : payload? x h call = some payload := by simp [payload?, hdelivery]
    rcases hcases with ⟨hreplies, heval⟩ | ⟨result, rest, hreplies, heval⟩
    · rw [heval]
      exact ledger.call_ended hpayload hreplies (by simp)
    · rw [heval]
      exact ledger.call_answered hpayload hreplies (by simp)
  · -- another endpoint gets the payload, and it is that one only that changes
    have hpayload : payload? x handle call = none := by simp [payload?, hdelivery, hh]
    have hne : handle ≠ h := fun he => hh he.symm
    rcases hcases with ⟨_, heval⟩ | ⟨result, rest, _, heval⟩
    · rw [heval]
      exact ledger.call_elsewhere hpayload (p.bench.endpoint_set_of_ne _ hne)
    · rw [heval]
      exact ledger.call_elsewhere hpayload (p.bench.endpoint_set_of_ne _ hne)

theorem move (ledger : Ledger x handle moves p) (move : Move ε) :
    Ledger x handle (moves ++ [move]) (p.move x move) := by
  cases move with
  | expect h result => exact ledger.expect h result
  | call call => exact ledger.call call

end Ledger

theorem ledger_play (moves : List (Move ε)) : Ledger x handle moves (play x moves) := by
  induction moves using List.reverseRecOn with
  | nil => exact ⟨rfl, [], rfl, .nil⟩
  | append_singleton before move ih =>
    rw [play_snoc]
    exact ih.move move

/-! ## What has come, and what is left -/

variable {x handle} {moves : List (Move ε)} {p : Played ε} {call : Executor.Call}

/-- The payload of a call for the kind, if it has one. -/
def payloadFor? (kind : Kind) (call : Executor.Call) : Option Payload :=
  if call.kind = kind then call.payload.toOption else none

theorem delivery_of_payload? {payload : Payload} (h : payload? x handle call = some payload) :
    x.delivery call = .ok (handle, payload) := by
  unfold payload? at h
  split at h
  · rename_i handle' payload' hdelivery
    split at h
    · rename_i hsame
      cases h
      exact hsame ▸ hdelivery
    · cases h
  · cases h

/-- What comes to the endpoint of one kind only are the payloads for this kind. -/
theorem payload?_eq_payloadFor? {kind : Kind} (hendpoint : x.registry.endpoint kind = .ok handle)
    (honly : ∀ kind', x.registry.endpoint kind' = .ok handle → kind' = kind)
    (call : Executor.Call) : payload? x handle call = payloadFor? kind call := by
  unfold payload? payloadFor? Executor.delivery
  cases call.payload with
  | error reason => simp [Except.toOption]
  | ok payload =>
    by_cases hkind : call.kind = kind
    · simp [hkind, hendpoint, Except.toOption]
    · cases hother : x.registry.endpoint call.kind with
      | error e => simp [hkind]
      | ok h =>
        -- the endpoint of another kind is another endpoint
        have hne : h ≠ handle := fun he => hkind (honly _ (he ▸ hother))
        simp [hkind, hne]

namespace Ledger

/-- Of the results that have been queued, as many are left as have not been given away. -/
theorem length_queued (ledger : Ledger x handle moves p) :
    (queued handle moves).length =
      (answered x handle p.made).length + (p.bench.endpoint handle).replies.length := by
  rcases ledger.queued_eq with ⟨used, hqueued, hreturns⟩
  rw [hqueued, List.length_append, hreturns.length_eq]

theorem returns (ledger : Ledger x handle moves p) {j : Nat} {made : Made}
    (hmade : (answered x handle p.made)[j]? = some made) :
    ∃ result, (queued handle moves)[j]? = some result ∧ Returns x.config made result := by
  rcases ledger.queued_eq with ⟨used, hqueued, hreturns⟩
  rcases List.forall₂_iff_get.1 hreturns with ⟨hlength, hget⟩
  rcases List.getElem?_eq_some_iff.1 hmade with ⟨hj, rfl⟩
  have hused : j < used.length := hlength ▸ hj
  refine ⟨used[j], ?_, hget j hj hused⟩
  simp [hqueued, List.getElem?_append_left hused]

theorem verify_eq (ledger : Ledger x handle moves p) :
    (p.bench.endpoint handle).verify =
      if (queued handle moves).length = (answered x handle p.made).length then .ok ()
      else .error (.unmetExpectations
        ((queued handle moves).length - (answered x handle p.made).length)) := by
  rw [ledger.length_queued]
  cases hreplies : (p.bench.endpoint handle).replies with
  | nil => simp [ScriptedEndpoint.verify, hreplies]
  | cons result rest => simp [ScriptedEndpoint.verify, hreplies]

/-- A delivery to an endpoint that has given all of its results away is misuse. It is recorded all
the same, and the user is told of nothing. -/
theorem call_ended_iff (ledger : Ledger x handle moves p) {payload : Payload}
    (hpayload : payload? x handle call = some payload) :
    let e := p.bench.endpoint handle
    let run := p.bench.call (x.perform call)
    (run.result = .error .unexpectedPatch ↔
      (queued handle moves).length = (answered x handle p.made).length) ∧
    ∀ misuse, run.result = .error misuse → misuse = .unexpectedPatch ∧
      run.state = p.bench.set handle { e with received := e.received ++ [payload] } ∧
      Event.notifications run.trace = [] := by
  intro e run
  have hlength := ledger.length_queued
  have hdelivery := delivery_of_payload? hpayload
  have hsilent := p.bench.notifications_call (x.closesWith_perform call)
  rcases p.bench.call_cases x call with ⟨reason, hnone, _⟩ | ⟨h, payload', hsome, hcases⟩
  · cases hdelivery.symm.trans hnone
  -- the delivery is the one that was supposed, so that its endpoint decides
  cases hdelivery.symm.trans hsome
  rcases hcases with ⟨hreplies, heval⟩ | ⟨result, rest, hreplies, heval⟩
  · rcases Prod.mk.inj heval with ⟨hresult, hstate⟩
    have hended : run.result = .error .unexpectedPatch := hresult
    refine ⟨by simp [hended, hlength, hreplies], ?_⟩
    intro misuse hmisuse
    have hsame : misuse = .unexpectedPatch := by simpa [hended, eq_comm] using hmisuse
    refine ⟨hsame, ?_, by simpa [hresult] using hsilent⟩
    calc
      run.state = p.bench.set handle ⟨[], e.received ++ [payload]⟩ := hstate
      _ = p.bench.set handle { e with received := e.received ++ [payload] } := by
        simp [e, hreplies]
  · rcases Prod.mk.inj heval with ⟨hresult, _⟩
    have hreturned : run.result = .ok (call.reply x.config (result.mapError .remote)) := hresult
    simp [hreturned, hlength, hreplies]

end Ledger

/-! ## Every script -/

/-- However results are queued and calls are made: an endpoint has received the payloads of the
calls for it, each one once, unchanged and in order; those are the calls for its kind if it is
registered for no other. The calls that it has answered have got the results in the order in which
they were queued. A delivery is misuse if and only if all of them have been given away; it is
recorded, takes nothing and notifies nobody. A call without a payload or without an endpoint
delivers nothing. Verifying tells how many results have not been asked for. -/
theorem delivered_once_in_order (x : Executor ε (List Choice)) (moves : List (Move ε))
    (handle : ε) :
    let p := play x moves
    let e := p.bench.endpoint handle
    let calls := moves.filterMap Move.call?
    let results := queued handle moves
    let answers := answered x handle p.made
    p.made.map Made.call = calls ∧
    e.received = calls.filterMap (payload? x handle) ∧
    (∀ kind, x.registry.endpoint kind = .ok handle →
      (∀ kind', x.registry.endpoint kind' = .ok handle → kind' = kind) →
      e.received = calls.filterMap (payloadFor? kind)) ∧
    (∀ (j : Nat) made, answers[j]? = some made →
      ∃ result, results[j]? = some result ∧ Returns x.config made result) ∧
    (∀ call payload, payload? x handle call = some payload →
      let run := p.bench.call (x.perform call)
      (run.result = .error .unexpectedPatch ↔ results.length = answers.length) ∧
      ∀ misuse, run.result = .error misuse → misuse = .unexpectedPatch ∧
        run.state = p.bench.set handle { e with received := e.received ++ [payload] } ∧
        Event.notifications run.trace = []) ∧
    (∀ call reason, x.delivery call = .error reason →
      let run := p.bench.call (x.perform call)
      run.result = .ok (call.reply x.config (.error reason)) ∧ run.state = p.bench) ∧
    e.verify = if results.length = answers.length then .ok ()
      else .error (.unmetExpectations (results.length - answers.length)) := by
  intro p e calls results answers
  have ledger : Ledger x handle moves p := ledger_play x handle moves
  have hcalls : p.made.map Made.call = calls := calls_play x moves
  have hreceived : e.received = calls.filterMap (payload? x handle) := by
    simpa [hcalls] using ledger.received_eq
  refine ⟨hcalls, hreceived, ?_, fun j made => ledger.returns, fun call payload =>
    ledger.call_ended_iff, ?_, ledger.verify_eq⟩
  · intro kind hendpoint honly
    have hsame : payload? x handle = payloadFor? kind :=
      funext (payload?_eq_payloadFor? hendpoint honly)
    rw [hreceived, hsame]
  · intro call reason hdelivery run
    have heval : p.bench.eval (x.perform call) =
        (.ok (call.reply x.config (.error reason)), p.bench) := by
      rw [Bench.eval_eq, Executor.eval_perform, hdelivery]
      rfl
    exact Prod.mk.inj heval

/-- One result is queued for accounts, and the second patch of an account is one too many. A patch
of a kind that is not registered comes in between. -/
theorem delivered_once_in_order_unexpected :
    let x : Executor Bool (List Choice) :=
      ⟨⟨[(.account, ⟨true, []⟩), (.case, ⟨false, []⟩)], by decide⟩, {}⟩
    let patch (kind : Kind) : Executor.Call := .patch kind (.full .empty)
    let moves : List (Move Bool) :=
      [.expect true (.ok .null), .call (patch .account), .call (patch .contact)]
    let p := play x moves
    (p.bench.endpoint true).received = [.full .empty] ∧ (p.bench.endpoint true).verify = .ok () ∧
      (p.bench.call (x.perform (patch .account))).result = .error .unexpectedPatch := by
  intro x patch moves p
  rcases delivered_once_in_order x moves true with ⟨_, _, hkind, _, hended, _, hverify⟩
  have honly : ∀ kind, x.registry.endpoint kind = .ok true → kind = .account := by
    intro kind hendpoint
    cases kind with
    | account => rfl
    | _ => cases hendpoint
  have hreceived := hkind .account rfl honly
  exact ⟨hreceived, hverify, (hended (patch .account) (.full .empty) rfl).1.2 rfl⟩

end Script
end FieldPatch
