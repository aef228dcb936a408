/-
This file models the relay of `server/relay.py` apart from its messages: a queue of frames
for each destination, the paths that may carry frames, and the counters.

The set of paths is a finite set; the queues and the byte counters are dictionaries, as in
the source. A queue holds the source of each frame with the frame.
-/

import LocalNetwork.Dict
import LocalNetwork.Basic
import Mathlib.Data.Finset.Basic
import Mathlib.Data.Finset.Image

namespace LocalNetwork

/-- The most frames that wait for one destination. -/
def maxRelayQueue : Nat := 1024

/-! ### Base64 -/

def base64Alphabet : List Char :=
  "ABCDEFGHIJKLMNOPQRSTUVWXYZabcdefghijklmnopqrstuvwxyz0123456789+/".toList

def base64Char (index : Nat) : Char := base64Alphabet.getD (index % 64) '='

/-- Standard base64 with padding, three bytes at a time. -/
def base64Chars : Bytes → List Char
  | [] => []
  | [first] =>
    let bits := first.toNat * 16
    [base64Char (bits / 64), base64Char bits, '=', '=']
  | [first, second] =>
    let bits := (first.toNat * 256 + second.toNat) * 4
    [base64Char (bits / 4096), base64Char (bits / 64), base64Char bits, '=']
  | first :: second :: third :: rest =>
    let bits := (first.toNat * 256 + second.toNat) * 256 + third.toNat
    base64Char (bits / 262144) :: base64Char (bits / 4096) :: base64Char (bits / 64) ::
      base64Char bits :: base64Chars rest

def b64encode (frame : Bytes) : String := String.ofList (base64Chars frame)

/-! ### The forwarder -/

structure RelayForwarder where
  queues : Dict String (List (String × Bytes))
  paths : Finset (String × String)
  bytesRelayed : Dict (String × String) Nat
  droppedFrames : Nat

namespace RelayForwarder

def init : RelayForwarder := ⟨Dict.empty, ∅, Dict.empty, 0⟩

/-- The forwarder with a queue for a client, an empty one if it had none. -/
def queueFor (relay : RelayForwarder) (clientId : String) : RelayForwarder :=
  match relay.queues.get? clientId with
  | some _ => relay
  | none => { relay with queues := relay.queues.insert clientId [] }

/-- Allocate both directions between two clients; the result says whether the path is new. -/
def registerRelayPath (relay : RelayForwarder) (srcId dstId : String) : Bool × RelayForwarder :=
  let queued := (relay.queueFor dstId).queueFor srcId
  (decide ((srcId, dstId) ∉ relay.paths),
    { queued with paths := insert (dstId, srcId) (insert (srcId, dstId) queued.paths) })

def hasPath (relay : RelayForwarder) (srcId dstId : String) : Bool :=
  decide ((srcId, dstId) ∈ relay.paths)

/-- Queue a frame; it is refused without a queue or a path, and when the queue is full. -/
def relayFrame (relay : RelayForwarder) (srcId dstId : String) (rawFrame : Bytes) :
    Bool × RelayForwarder :=
  match relay.queues.get? dstId with
  | none => (false, relay)
  | some queue =>
    if !relay.hasPath srcId dstId then (false, relay)
    else if maxRelayQueue ≤ queue.length then
      (false, { relay with droppedFrames := relay.droppedFrames + 1 })
    else
      let relayed := (relay.bytesRelayed.get? (srcId, dstId)).getD 0
      (true, { relay with
        queues := relay.queues.insert dstId (queue ++ [(srcId, rawFrame)])
        bytesRelayed := relay.bytesRelayed.insert (srcId, dstId) (relayed + rawFrame.length) })

/-- Drain the queue of a client, with each frame encoded. -/
def pendingFrames (relay : RelayForwarder) (dstId : String) :
    List (String × String) × RelayForwarder :=
  match relay.queues.get? dstId with
  | none => ([], relay)
  | some queue =>
    (queue.map fun item => (item.1, b64encode item.2),
      { relay with queues := relay.queues.insert dstId [] })

/-- Remove every queue, path, queued frame and counter that involves a client. -/
def dropClient (relay : RelayForwarder) (clientId : String) : RelayForwarder :=
  { relay with
    queues := (relay.queues.erase clientId).mapValues fun _ queue =>
      queue.filter fun item => decide (item.1 ≠ clientId)
    paths := relay.paths.filter fun pair => pair.1 ≠ clientId ∧ pair.2 ≠ clientId
    bytesRelayed := relay.bytesRelayed.filter fun pair _ =>
      decide (clientId ≠ pair.1 ∧ clientId ≠ pair.2) }

end RelayForwarder

end LocalNetwork
