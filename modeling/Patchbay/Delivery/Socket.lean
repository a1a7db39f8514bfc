import Patchbay.Delivery.Basic
import Patchbay.Journal.Trace

/-! Deliveries over a request socket, which takes one request at a time and answers each. -/

namespace Patchbay

/-- A call on a socket. -/
inductive SocketCall where
  | sendDeadline (wait : Duration)
  | send (payload : Bytes)
  | receiveDeadline (wait : Duration)
  | receive
  | close
  deriving DecidableEq, Repr

/-- How a socket answers the calls of one operation: with the reason where a call fails. -/
structure SocketAnswers where
  sendDeadline : Option Bytes
  send : Option Bytes
  receiveDeadline : Option Bytes
  receive : Except Bytes Bytes
  close : Option Bytes
  /-- Whether the caller has called the delivery off by the time an answer is awaited. -/
  calledOff : Bool

/-- A socket that takes everything and answers with a reply. -/
def SocketAnswers.always (reply : Bytes) : SocketAnswers :=
  ⟨none, none, none, .ok reply, none, false⟩

/-- A sender over a socket. -/
structure Sender where
  /-- How long a send or an answer may take. -/
  timeout : Duration
  closed : Bool
  deriving DecidableEq, Repr

/-- What a delivery did and how it ended. -/
structure Delivery where
  /-- The calls that it made on the socket. -/
  calls : List SocketCall
  /-- Whether the socket took the payload. -/
  taken : Bool
  /-- What the caller's handler of acknowledgements was run with, once for each run. -/
  acknowledged : List Bytes
  /-- Why it failed, if it did. -/
  failure : Option DeliveryError

/-- How a delivery ended, for a caller that wants the acknowledgement with it. -/
def Delivery.outcome (delivery : Delivery) : Outcome :=
  match delivery.failure with
  | some error => .error error
  | none => .ok delivery.acknowledged.getLast?

namespace Sender

/-- The time that a delivery may take where nothing else is said. -/
def usualTimeout : Duration := .seconds 5

/-- A sender with a timeout; one that is not positive stands for the usual one. -/
def start (timeout : Duration) : Sender :=
  ⟨if timeout.nanoseconds ≤ 0 then usualTimeout else timeout, false⟩

/-- The wait for a past deadline. -/
def leastWait : Duration := .milliseconds 1

/-- How long a call may take: the timeout, or what is left until a nearer deadline. -/
def wait (sender : Sender) (patience : Patience) : Duration :=
  match patience.left with
  | none => sender.timeout
  | some left =>
    if sender.timeout.nanoseconds ≤ left.nanoseconds then sender.timeout
    else if left.nanoseconds ≤ 0 then leastWait
    else left

/-- Delivers a payload. Where the acknowledgement is awaited, it is received and the caller's
handler is run with it; the time for that is reckoned anew, when sending has taken a while. The
first call that fails is the last one made. -/
def deliver (sender : Sender) (patience : Patience) (payload : Bytes) (awaited : Bool)
    (socket : SocketAnswers) (elapsed : Duration := ⟨0⟩) : Delivery :=
  if sender.closed then ⟨[], false, [], some .closed⟩
  else if patience.ended then ⟨[], false, [], some .calledOff⟩
  else
    let limited : List SocketCall := [.sendDeadline (sender.wait patience)]
    match socket.sendDeadline with
    | some reason => ⟨limited, false, [], some (.failed .sendDeadline reason)⟩
    | none =>
      let offered := limited ++ [.send payload]
      match socket.send with
      | some reason => ⟨offered, false, [], some (.failed .send reason)⟩
      | none =>
        if !awaited then ⟨offered, true, [], none⟩
        else
          let waiting := offered ++ [.receiveDeadline (sender.wait (patience.after elapsed))]
          match socket.receiveDeadline with
          | some reason => ⟨waiting, true, [], some (.failed .receiveDeadline reason)⟩
          | none =>
            let asked := waiting ++ [.receive]
            match socket.receive with
            | .ok reply => ⟨asked, true, [reply], none⟩
            | .error reason =>
              ⟨asked, true, [],
                some (if socket.calledOff then .calledOff else .failed .receive reason)⟩

/-- Closes a sender: the calls made, and the reason where closing the socket fails. A second time
nothing is done. -/
def close (sender : Sender) (socket : SocketAnswers) : Sender × List SocketCall × Option Bytes :=
  if sender.closed then (sender, [], none)
  else ({ sender with closed := true }, [.close], socket.close)

end Sender

/-- What a delivery leaves behind. -/
def Delivery.trace (delivery : Delivery) (payload : Bytes) : Trace :=
  let sent := if delivery.taken then [⟨.debug, "payload sent", [.bytes payload.length]⟩] else []
  let answered := delivery.acknowledged.map fun reply =>
    ⟨.debug, "acknowledgement received", [.bytes reply.length]⟩
  Trace.fromComponent "transport" ⟨sent ++ answered, []⟩

end Patchbay
