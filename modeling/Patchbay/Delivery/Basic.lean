import Patchbay.Duration

/-! Deliveries of definitions to an engine. -/

namespace Patchbay

/-- How long a caller is ready to wait. -/
structure Patience where
  /-- Whether the caller has called the delivery off. -/
  ended : Bool
  /-- The time left until the caller's deadline, if there is one. -/
  left : Option Duration
  deriving DecidableEq, Repr

/-- A caller that has not called the delivery off and has no deadline. -/
def Patience.endless : Patience := ⟨false, none⟩

/-- The patience of a caller when some time has passed: a deadline has come nearer by it. -/
def Patience.after (patience : Patience) (elapsed : Duration) : Patience :=
  { patience with left := patience.left.map fun left =>
      ⟨left.nanoseconds - elapsed.nanoseconds⟩ }

/-- The steps of a delivery over a socket. -/
inductive DeliveryStep where
  | sendDeadline
  | send
  | receiveDeadline
  | receive
  deriving DecidableEq, Repr

/-- What is done in a step. -/
def DeliveryStep.text : DeliveryStep → Bytes
  | .sendDeadline => "set send deadline"
  | .send => "send definition"
  | .receiveDeadline => "set receive deadline"
  | .receive => "receive acknowledgement"

/-- Why a delivery fails. -/
inductive DeliveryError where
  /-- The sender was closed before. -/
  | closed
  /-- The caller called it off. -/
  | calledOff
  /-- A step on the socket failed. -/
  | failed (step : DeliveryStep) (reason : Bytes)
  /-- The receiver would not have it. -/
  | refused (reason : Bytes)
  deriving DecidableEq, Repr

/-- Why a delivery fails, in words. -/
def DeliveryError.message : DeliveryError → Bytes
  | .closed => "transport closed"
  | .calledOff => "context canceled"
  | .failed step reason => "failed to " ++ step.text ++ ": " ++ reason
  | .refused reason => reason

/-- How a delivery ended: with an acknowledgement where one was awaited. -/
abbrev Outcome := Except DeliveryError (Option Bytes)

/-- A receiver that keeps what it is given and answers all the same. -/
structure Recorder where
  sent : List Bytes
  reply : Bytes
  /-- Why deliveries are refused, if they are. -/
  refusal : Option Bytes
  deriving DecidableEq, Repr

/-- Delivers to a recorder. -/
def Recorder.deliver (recorder : Recorder) (patience : Patience) (payload : Bytes)
    (awaited : Bool) : Recorder × Outcome :=
  if patience.ended then (recorder, .error .calledOff)
  else
    match recorder.refusal with
    | some reason => (recorder, .error (.refused reason))
    | none =>
      ({ recorder with sent := recorder.sent ++ [payload] },
        .ok (if awaited then some recorder.reply else none))

end Patchbay
