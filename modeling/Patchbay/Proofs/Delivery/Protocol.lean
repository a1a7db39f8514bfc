import Mathlib.Data.List.Infix
import Patchbay.Delivery.Socket

/-! The protocol of a sender. Whatever is asked of it and however its socket answers, it closes the
socket at most once and makes no call behind that, and every delivery makes its calls in order up to
the first that fails. -/

namespace Patchbay

/-- Something that is asked of a sender, with the answers that the socket gives meanwhile and the
time that sending takes. -/
inductive SenderRequest where
  | deliver (patience : Patience) (payload : Bytes) (awaited : Bool) (socket : SocketAnswers)
    (elapsed : Duration)
  | close (socket : SocketAnswers)

/-- Whether a request is to close the sender. -/
def SenderRequest.closes : SenderRequest → Bool
  | .deliver .. => false
  | .close _ => true

namespace Sender

/-- Does what is asked: the sender after it, and the calls on the socket. -/
def react (sender : Sender) : SenderRequest → Sender × List SocketCall
  | .deliver patience payload awaited socket elapsed =>
    (sender, (sender.deliver patience payload awaited socket elapsed).calls)
  | .close socket => ((sender.close socket).1, (sender.close socket).2.1)

/-- The sender after some requests. -/
def after (sender : Sender) (requests : List SenderRequest) : Sender :=
  requests.foldl (fun sender request => (sender.react request).1) sender

/-- The calls on the socket for some requests, one after another. -/
def calls : Sender → List SenderRequest → List SocketCall
  | _, [] => []
  | sender, request :: requests =>
    (sender.react request).2 ++ calls (sender.react request).1 requests

end Sender

namespace SocketAnswers

/-- Why a call on the socket fails, if it does. -/
def failure? (socket : SocketAnswers) : SocketCall → Option Bytes
  | .sendDeadline _ => socket.sendDeadline
  | .send _ => socket.send
  | .receiveDeadline _ => socket.receiveDeadline
  | .receive =>
    match socket.receive with
    | .ok _ => none
    | .error reason => some reason
  | .close => socket.close

/-- Calls that are planned, up to the first one that fails. -/
def upToFailure (socket : SocketAnswers) : List SocketCall → List SocketCall
  | [] => []
  | call :: rest => call :: if (socket.failure? call).isSome then [] else socket.upToFailure rest

/-- The calls up to a failure are the first ones of the plan. -/
theorem upToFailure_isPrefix (socket : SocketAnswers) (plan : List SocketCall) :
    socket.upToFailure plan <+: plan := by
  -- Each call of the plan is kept, until one fails and the rest is dropped.
  induction plan with
  | nil => exact List.prefix_rfl
  | cons call rest ih =>
    rw [upToFailure, List.cons_prefix_cons]
    refine ⟨rfl, ?_⟩
    split
    · exact List.nil_prefix
    · exact ih

/-- Of the calls up to a failure, only the last one can fail. -/
theorem failure?_of_mem_dropLast {socket : SocketAnswers} {plan : List SocketCall}
    {call : SocketCall} (member : call ∈ (socket.upToFailure plan).dropLast) :
    socket.failure? call = none := by
  -- A call before the last one has been passed over, so that it did not fail.
  induction plan with
  | nil => cases member
  | cons first rest ih =>
    rw [upToFailure] at member
    cases failed : socket.failure? first with
    | some reason =>
      -- The first call is the last one made.
      rw [failed] at member
      cases member
    | none =>
      rw [failed, Option.isSome_none, if_neg Bool.false_ne_true] at member
      cases next : socket.upToFailure rest with
      | nil =>
        rw [next] at member
        cases member
      | cons second others =>
        rw [next, List.dropLast_cons_cons, List.mem_cons] at member
        rcases member with rfl | later
        · exact failed
        · exact ih (by rwa [next])

end SocketAnswers

/-- The calls that a delivery is to make: the payload is sent, and then the answer is received where
it is awaited. -/
def plannedCalls (sendWait receiveWait : Duration) (payload : Bytes) (awaited : Bool) :
    List SocketCall :=
  [.sendDeadline sendWait, .send payload] ++
    if awaited then [.receiveDeadline receiveWait, .receive] else []

/-- The planned calls are the first ones of the four that a delivery can make. -/
theorem plannedCalls_isPrefix (sendWait receiveWait : Duration) (payload : Bytes) (awaited : Bool) :
    plannedCalls sendWait receiveWait payload awaited <+:
      [.sendDeadline sendWait, .send payload, .receiveDeadline receiveWait, .receive] := by
  -- Either the last two are not planned, or all four are.
  cases awaited with
  | false => exact List.prefix_append [_, _] [_, _]
  | true => exact List.prefix_rfl

/-- A delivery in good order, by a sender that was closed before or not and with the waits that it
sets on the socket. -/
structure Delivery.Orderly (delivery : Delivery) (closed : Bool) (sendWait receiveWait : Duration)
    (patience : Patience) (payload : Bytes) (awaited : Bool) (socket : SocketAnswers) : Prop where
  /-- It is refused for being closed exactly when the sender was closed before. -/
  refused : delivery.failure = some .closed ↔ closed = true
  /-- The socket is not touched by a sender that is closed, or for a caller who has called the
  delivery off. -/
  untouched : closed = true ∨ patience.ended = true → delivery.calls = []
  /-- Otherwise the planned calls are made, up to the first that fails. -/
  made : closed = false → patience.ended = false →
    delivery.calls = socket.upToFailure (plannedCalls sendWait receiveWait payload awaited)
  /-- The calls are the first ones of the four that a delivery can make. -/
  inOrder : delivery.calls <+:
    [.sendDeadline sendWait, .send payload, .receiveDeadline receiveWait, .receive]
  /-- An answer that is not awaited is not received. -/
  unawaited : awaited = false → delivery.calls <+: [.sendDeadline sendWait, .send payload]
  /-- No call follows one that fails. -/
  stops : ∀ call ∈ delivery.calls.dropLast, socket.failure? call = none
  /-- It succeeds exactly when all calls that it is to make are made and none fails. -/
  succeeds : delivery.failure = none ↔ closed = false ∧ patience.ended = false ∧
    ∀ call ∈ plannedCalls sendWait receiveWait payload awaited, socket.failure? call = none
  /-- The handler of a success that was awaited is run once, with what the socket received. -/
  handled : awaited = true → delivery.failure = none →
    ∃ reply, socket.receive = .ok reply ∧ delivery.acknowledged = [reply]
  /-- No handler is run otherwise. -/
  silent : ¬ (awaited = true ∧ delivery.failure = none) → delivery.acknowledged = []

namespace Sender

variable {sender : Sender}

/-- A sender that is closed refuses a delivery. -/
theorem deliver_closed (closed : sender.closed = true) (patience : Patience) (payload : Bytes)
    (awaited : Bool) (socket : SocketAnswers) (elapsed : Duration) :
    sender.deliver patience payload awaited socket elapsed = ⟨[], false, [], some .closed⟩ := by
  -- This is the first thing that is looked at.
  rw [deliver, if_pos closed]

/-- A delivery that was called off before is not begun. -/
theorem deliver_ended (live : sender.closed = false) {patience : Patience}
    (ended : patience.ended = true) (payload : Bytes) (awaited : Bool) (socket : SocketAnswers)
    (elapsed : Duration) :
    sender.deliver patience payload awaited socket elapsed = ⟨[], false, [], some .calledOff⟩ := by
  -- The caller is looked at before the socket.
  rw [deliver, live, if_neg Bool.false_ne_true, if_pos ended]

/-- A delivery that is begun makes the planned calls up to the first that fails. -/
theorem deliver_calls (live : sender.closed = false) {patience : Patience}
    (begun : patience.ended = false) (payload : Bytes) (awaited : Bool) (socket : SocketAnswers)
    (elapsed : Duration) :
    (sender.deliver patience payload awaited socket elapsed).calls =
      socket.upToFailure (plannedCalls (sender.wait patience)
        (sender.wait (patience.after elapsed)) payload awaited) := by
  -- The calls are looked at one after another, as they are made.
  cases first : socket.sendDeadline with
  | some reason =>
    simp [deliver, live, begun, plannedCalls, SocketAnswers.upToFailure, SocketAnswers.failure?,
      first]
  | none =>
    cases second : socket.send with
    | some reason =>
      simp [deliver, live, begun, plannedCalls, SocketAnswers.upToFailure, SocketAnswers.failure?,
        first, second]
    | none =>
      cases awaited with
      | false =>
        simp [deliver, live, begun, plannedCalls, SocketAnswers.upToFailure,
          SocketAnswers.failure?, first, second]
      | true =>
        cases third : socket.receiveDeadline with
        | some reason =>
          simp [deliver, live, begun, plannedCalls, SocketAnswers.upToFailure,
            SocketAnswers.failure?, first, second, third]
        | none =>
          -- Receiving is the last call, whether it fails or not.
          cases answer : socket.receive <;>
            simp [deliver, live, begun, plannedCalls, SocketAnswers.upToFailure,
              SocketAnswers.failure?, first, second, third, answer]

/-- How a delivery that is begun ends: none of the planned calls fails, and the handler is run with
the answer where it was awaited, or one of them fails and so does the delivery, with no run. -/
theorem deliver_outcome (live : sender.closed = false) {patience : Patience}
    (begun : patience.ended = false) (payload : Bytes) (awaited : Bool) (socket : SocketAnswers)
    (elapsed : Duration) {delivery : Delivery}
    (made : sender.deliver patience payload awaited socket elapsed = delivery) :
    ((∀ call ∈ plannedCalls (sender.wait patience) (sender.wait (patience.after elapsed)) payload
          awaited, socket.failure? call = none) ∧ delivery.failure = none ∧
        ((awaited = false ∧ delivery.acknowledged = []) ∨
          (awaited = true ∧ ∃ reply, socket.receive = .ok reply ∧
            delivery.acknowledged = [reply]))) ∨
      ((∃ call ∈ plannedCalls (sender.wait patience) (sender.wait (patience.after elapsed)) payload
          awaited, socket.failure? call ≠ none) ∧ delivery.acknowledged = [] ∧
        ∃ error, error ≠ .closed ∧ delivery.failure = some error) := by
  subst made
  -- The cases are those of the calls, in the order in which they are made.
  cases first : socket.sendDeadline with
  | some reason =>
    refine .inr ⟨⟨.sendDeadline _, List.mem_cons_self, by simp [SocketAnswers.failure?, first]⟩,
      ?_, .failed .sendDeadline reason, by simp, ?_⟩ <;> simp [deliver, live, begun, first]
  | none =>
    cases second : socket.send with
    | some reason =>
      refine .inr ⟨⟨.send payload, by simp [plannedCalls],
        by simp [SocketAnswers.failure?, second]⟩, ?_, .failed .send reason, by simp, ?_⟩ <;>
        simp [deliver, live, begun, first, second]
    | none =>
      cases awaited with
      | false =>
        refine .inl ⟨by simp [plannedCalls, SocketAnswers.failure?, first, second], ?_,
          .inl ⟨rfl, ?_⟩⟩ <;> simp [deliver, live, begun, first, second]
      | true =>
        cases third : socket.receiveDeadline with
        | some reason =>
          refine .inr ⟨⟨.receiveDeadline (sender.wait (patience.after elapsed)),
            by simp [plannedCalls], by simp [SocketAnswers.failure?, third]⟩, ?_,
            .failed .receiveDeadline reason, by simp, ?_⟩ <;>
            simp [deliver, live, begun, first, second, third]
        | none =>
          cases answer : socket.receive with
          | ok reply =>
            refine .inl ⟨by simp [plannedCalls, SocketAnswers.failure?, first, second, third,
              answer], ?_, .inr ⟨rfl, reply, rfl, ?_⟩⟩ <;>
              simp [deliver, live, begun, first, second, third, answer]
          | error reason =>
            -- The caller may have given up meanwhile, but the sender was not closed.
            refine .inr ⟨⟨.receive, by simp [plannedCalls],
              by simp [SocketAnswers.failure?, answer]⟩, ?_,
              if socket.calledOff then .calledOff else .failed .receive reason, ?_, ?_⟩
            · simp [deliver, live, begun, first, second, third, answer]
            · split <;> simp
            · simp [deliver, live, begun, first, second, third, answer]

/-- A delivery that is refused without touching the socket is in good order. -/
theorem orderly_of_refused {closed : Bool} {patience : Patience} {error : DeliveryError}
    (sendWait receiveWait : Duration) (payload : Bytes) (awaited : Bool) (socket : SocketAnswers)
    (reason : closed = true ∨ patience.ended = true) (told : error = .closed ↔ closed = true) :
    Delivery.Orderly ⟨[], false, [], some error⟩ closed sendWait receiveWait patience payload
      awaited socket := by
  -- Either reason rules out that the delivery is begun, and nothing was done.
  have unbegun : ¬ (closed = false ∧ patience.ended = false) := by
    rintro ⟨live, begun⟩
    rcases reason with gone | ended
    · exact absurd gone (by simp [live])
    · exact absurd ended (by simp [begun])
  exact {
    refused := by rw [Option.some.injEq, told]
    untouched := fun _ => rfl
    made := fun live begun => absurd ⟨live, begun⟩ unbegun
    inOrder := List.nil_prefix
    unawaited := fun _ => List.nil_prefix
    stops := by simp
    succeeds := iff_of_false (Option.some_ne_none _) fun passed =>
      unbegun ⟨passed.1, passed.2.1⟩
    handled := fun _ succeeded => absurd succeeded (Option.some_ne_none _)
    silent := fun _ => rfl }

/-- Every delivery is in good order. -/
theorem deliver_orderly (sender : Sender) (patience : Patience) (payload : Bytes) (awaited : Bool)
    (socket : SocketAnswers) (elapsed : Duration) :
    (sender.deliver patience payload awaited socket elapsed).Orderly sender.closed
      (sender.wait patience) (sender.wait (patience.after elapsed)) patience payload awaited
      socket := by
  -- A delivery that is not begun is refused as a whole.
  cases closed : sender.closed with
  | true =>
    rw [deliver_closed closed]
    exact orderly_of_refused _ _ _ _ _ (.inl rfl) (by simp)
  | false =>
    cases ended : patience.ended with
    | true =>
      rw [deliver_ended closed ended]
      exact orderly_of_refused _ _ _ _ _ (.inr ended) (by simp)
    | false =>
      have calls := deliver_calls closed ended payload awaited socket elapsed
      -- The delivery is begun, and all else depends on whether a call fails.
      have first : (sender.deliver patience payload awaited socket elapsed).calls <+:
          plannedCalls (sender.wait patience) (sender.wait (patience.after elapsed)) payload
            awaited := calls ▸ socket.upToFailure_isPrefix _
      have outcome := deliver_outcome closed ended payload awaited socket elapsed rfl
      generalize sender.deliver patience payload awaited socket elapsed = delivery
        at calls first outcome
      refine ⟨?_, by simp [ended], fun _ _ => calls, first.trans (plannedCalls_isPrefix _ _ _ _),
        ?_, ?_, ?_, ?_, ?_⟩
      · rcases outcome with ⟨_, passed, _⟩ | ⟨_, _, error, other, told⟩
        · simp [passed]
        · simp [told, other]
      · rintro rfl
        exact first
      · intro call member
        rw [calls] at member
        exact SocketAnswers.failure?_of_mem_dropLast member
      · rcases outcome with ⟨all, passed, _⟩ | ⟨⟨call, member, failed⟩, _, error, _, told⟩
        · exact iff_of_true passed ⟨rfl, ended, all⟩
        · refine iff_of_false (by simp [told]) ?_
          rintro ⟨_, _, all⟩
          exact failed (all call member)
      · intro answer succeeded
        rcases outcome with ⟨_, _, ⟨unawaited, _⟩ | ⟨_, handled⟩⟩ | ⟨_, _, error, _, told⟩
        · exact absurd answer (by simp [unawaited])
        · exact handled
        · exact absurd succeeded (by simp [told])
      · intro other
        rcases outcome with ⟨_, passed, ⟨_, quiet⟩ | ⟨answer, _⟩⟩ | ⟨_, quiet, _⟩
        · exact quiet
        · exact absurd ⟨answer, passed⟩ other
        · exact quiet

/-- A request keeps the timeout, and closes the sender exactly when it is one to close it. -/
theorem react_fst (sender : Sender) (request : SenderRequest) :
    (sender.react request).1 = ⟨sender.timeout, sender.closed || request.closes⟩ := by
  -- Only closing changes the sender, and a sender that is closed already stays as it is.
  cases request with
  | deliver patience payload awaited socket elapsed => simp [react, SenderRequest.closes]
  | close socket =>
    unfold react close
    dsimp only
    split
    · rename_i closed
      simp [← closed, SenderRequest.closes]
    · simp [SenderRequest.closes]

/-- After some requests the timeout is the same, and the sender is closed exactly when one was to
close it. -/
theorem after_eq (sender : Sender) (requests : List SenderRequest) :
    sender.after requests =
      ⟨sender.timeout, sender.closed || requests.any SenderRequest.closes⟩ := by
  -- One request after another, from the sender that the first one leaves.
  induction requests generalizing sender with
  | nil => simp [after]
  | cons request requests ih =>
    show (sender.react request).1.after requests = _
    rw [ih, react_fst, List.any_cons, Bool.or_assoc]

/-- No delivery closes the socket. -/
theorem close_notMem_deliver (sender : Sender) (patience : Patience) (payload : Bytes)
    (awaited : Bool) (socket : SocketAnswers) (elapsed : Duration) :
    SocketCall.close ∉ (sender.deliver patience payload awaited socket elapsed).calls := by
  -- It is none of the four calls that a delivery can make.
  intro member
  have planned :=
    (sender.deliver_orderly patience payload awaited socket elapsed).inOrder.subset member
  simp at planned

/-- A sender that is closed makes no more calls. -/
theorem calls_of_closed (closed : sender.closed = true) (requests : List SenderRequest) :
    sender.calls requests = [] := by
  induction requests generalizing sender with
  | nil => rfl
  | cons request requests ih =>
    -- Neither kind of request touches the socket, and the sender stays closed.
    have none : (sender.react request).2 = [] := by
      cases request with
      | deliver patience payload awaited socket elapsed => simp [react, deliver_closed closed]
      | close socket => simp [react, close, closed]
    have still : (sender.react request).1.closed = true := by simp [react_fst, closed]
    rw [calls, none, ih still, List.append_nil]

/-- The calls of a sender that is open: those of deliveries, and behind them the one that closes the
socket if that was asked for. -/
theorem calls_of_open (live : sender.closed = false) (requests : List SenderRequest) :
    ∃ others, SocketCall.close ∉ others ∧ sender.calls requests =
      others ++ if requests.any SenderRequest.closes then [.close] else [] := by
  induction requests generalizing sender with
  | nil => exact ⟨[], List.not_mem_nil, rfl⟩
  | cons request requests ih =>
    cases request with
    | deliver patience payload awaited socket elapsed =>
      -- The sender stays open, and the calls of the delivery come before the others.
      obtain ⟨others, free, later⟩ := ih live
      refine ⟨(sender.deliver patience payload awaited socket elapsed).calls ++ others, ?_, ?_⟩
      · rw [List.mem_append, not_or]
        exact ⟨sender.close_notMem_deliver patience payload awaited socket elapsed, free⟩
      · show (sender.deliver patience payload awaited socket elapsed).calls ++
          sender.calls requests = _
        rw [later, List.append_assoc]
        rfl
    | close socket =>
      -- The socket is closed now, and no call follows.
      refine ⟨[], List.not_mem_nil, ?_⟩
      have closing : sender.close socket =
          ({ sender with closed := true }, [.close], socket.close) := by
        rw [close, live, if_neg Bool.false_ne_true]
      rw [calls, react, closing]
      show [SocketCall.close] ++ calls { sender with closed := true } requests = _
      rw [calls_of_closed rfl]
      rfl

/-- The protocol of a sender, for all requests one after another, all answers of the socket and all
times that sending takes. The socket is closed at most once, when that is first asked for, and no
call on it follows. A delivery behind these requests is in good order: refused if the sender was
closed, without touching the socket then or when it was called off before; otherwise it makes the
calls of its plan in order up to the first that fails, and it runs the handler of the
acknowledgement, once and with what was received, exactly when that was awaited and the delivery
succeeds. The wait for the acknowledgement is what the caller's patience allows when the payload has
been sent. -/
theorem sender_protocol (timeout : Duration) (requests : List SenderRequest) :
    (∃ others, SocketCall.close ∉ others ∧ (Sender.start timeout).calls requests =
        others ++ if requests.any SenderRequest.closes then [.close] else []) ∧
      ∀ patience payload awaited socket elapsed,
        (((Sender.start timeout).after requests).deliver patience payload awaited socket
          elapsed).Orderly (requests.any SenderRequest.closes)
          ((Sender.start timeout).wait patience)
          ((Sender.start timeout).wait (patience.after elapsed)) patience payload awaited
          socket := by
  refine ⟨calls_of_open rfl requests, fun patience payload awaited socket elapsed => ?_⟩
  -- Requests only change whether the sender is closed, so that the waits are those of the start.
  have orderly :=
    ((Sender.start timeout).after requests).deliver_orderly patience payload awaited socket elapsed
  rwa [after_eq] at orderly ⊢

end Sender

end Patchbay
