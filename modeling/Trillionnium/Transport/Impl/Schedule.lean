import Trillionnium.Transport.Impl.Run

/-!
Which of the messages of the client and of the core the transport takes next. The readers put their
messages into one channel, from where they are collected into a bounded queue.
-/

namespace Transport

open Json (Bytes)

inductive TransportMessage where
  | clientFrame (encoded : Bytes)
  | clientEof
  | clientError (error : String)
  | coreFrame (encoded : Bytes)
  | coreEof
  | coreError (error : String)
  | coreExited (result : Except String ExitStatus)

def isClientMessage : TransportMessage → Bool
  | .clientFrame _ | .clientEof | .clientError _ => true
  | _ => false

def isCoreMessage : TransportMessage → Bool
  | .coreFrame _ | .coreEof | .coreError _ | .coreExited _ => true
  | _ => false

def transportQueueDepth : Nat := 256

def maxClientPriorityBurst : Nat := 8

def terminalIndex : List TransportMessage → Option Nat
  | [] => none
  | .coreFrame _ :: _ => none
  | message :: pending =>
    if isCoreMessage message then some 0 else (terminalIndex pending).map (· + 1)

structure Scheduler where
  channel : List TransportMessage
  pending : List TransportMessage
  clientPriorityStreak : Nat

namespace Scheduler

def collect (s : Scheduler) : List TransportMessage → Scheduler
  | [] => { s with channel := [] }
  | message :: channel =>
    if s.pending.length < transportQueueDepth then
      collect { s with pending := s.pending ++ [message] } channel
    else
      { s with channel := message :: channel }

def receive (s : Scheduler) : Option Scheduler :=
  match s.pending, s.channel with
  | [], [] => none
  | [], message :: channel => some (collect { s with pending := [message] } channel)
  | _, channel => some (s.collect channel)

def remove (s : Scheduler) (index streak : Nat) : Option (TransportMessage × Scheduler) :=
  s.pending[index]?.map fun message =>
    (message, { s with pending := s.pending.eraseIdx index, clientPriorityStreak := streak })

def popFront (s : Scheduler) : Option (TransportMessage × Scheduler) :=
  match s.pending with
  | [] => none
  | message :: pending =>
    let streak := if isCoreMessage message then 0 else s.clientPriorityStreak
    some (message, { s with pending, clientPriorityStreak := streak })

def select (s : Scheduler) (prioritizeClient : Bool) : Option (TransportMessage × Scheduler) :=
  match terminalIndex s.pending with
  | some index => s.remove index 0
  | none =>
    if prioritizeClient then
      match s.pending.findIdx? isClientMessage, s.pending.findIdx? isCoreMessage with
      | some index, none => s.remove index 0
      | some index, some coreIndex =>
        if s.clientPriorityStreak < maxClientPriorityBurst then
          s.remove index (s.clientPriorityStreak + 1)
        else
          s.remove coreIndex 0
      | none, some coreIndex => s.remove coreIndex 0
      | none, none => s.popFront
    else
      s.popFront

def nextTransportMessage (s : Scheduler) (prioritizeClient : Bool) :
    Option (TransportMessage × Scheduler) := do
  let s ← s.receive
  s.select prioritizeClient

inductive Op where
  | arrive (message : TransportMessage)
  | next (prioritizeClient : Bool)

def step (s : Scheduler) : Op → Scheduler × Option TransportMessage
  | .arrive message => ({ s with channel := s.channel ++ [message] }, none)
  | .next prioritizeClient =>
    match s.nextTransportMessage prioritizeClient with
    | some (message, s) => (s, some message)
    | none => (s, none)

def start : Scheduler := ⟨[], [], 0⟩

end Scheduler

end Transport
