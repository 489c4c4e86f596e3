import PeerNet.Error
import PeerNet.Session.Basic

/-!
# Callers of a session

Whoever sends a message through a session first has it checked, and finds out whether the session is
running; then the message is queued on a strand of the session. Between the two anybody else may go
on, and the session may have been stopped by the time the message is to be queued.

A `Protocol` says what a session of type `S` does; the messages of a `Conversation` that have been
let through, and are not queued yet, are kept beside its session.
-/

namespace PeerNet

/-- What a session of type `S` does. Its actions are of type `A`, the messages of its callers of
type `M`, and what is queued for a message of type `J`. -/
structure Protocol (S A M J : Type) where
  /-- What becomes of the session by an action. -/
  step : S → A → S
  /-- The error that the caller of an action is told by it, if any. -/
  told : S → A → Option Error
  /-- The action that stops the session. -/
  stop : A
  /-- Whether an action starts the session, and does so. -/
  starts : S → A → Bool
  /-- The phase of the session. -/
  phase : S → Phase
  /-- The peer of the session. -/
  remote : S → Endpoint
  /-- Makes of a message what is to be queued, or refuses it whatever the phase is. -/
  prepare : S → M → Except Error J
  /-- Queues it, if the strand still takes a job. -/
  enqueue : S → J → Except Error S
  /-- What a caller does whose message could not be queued. -/
  giveUp : S → Error → S

/-- A session, with what its callers are about to queue. -/
structure Conversation (S J : Type) where
  /-- The session. -/
  session : S
  /-- What is about to be queued. -/
  admitted : List J

namespace Protocol

variable {S A M J : Type}

/-- What may happen next to a conversation. -/
inductive Action (A M : Type) where
  /-- A caller has a message checked, and finds out whether the session is running. -/
  | ask (message : M)
  /-- A caller whose message was let through queues it. -/
  | queue (index : Nat)
  /-- The session does something. -/
  | act (action : A)

/-- Why a message is not let through. -/
def refusal? (protocol : Protocol S A M J) (session : S) (message : M) : Option Error :=
  match protocol.prepare session message with
  | .error error => some error
  | .ok _ =>
    if protocol.phase session = .running then none
    else some (.sessionStopped (protocol.remote session))

/-- One stretch of somebody. -/
def converse (protocol : Protocol S A M J) (conversation : Conversation S J) :
    Action A M → Conversation S J
  | .ask message =>
    match protocol.prepare conversation.session message with
    | .error _ => conversation
    | .ok job =>
      if protocol.phase conversation.session = .running then
        { conversation with admitted := conversation.admitted ++ [job] }
      else conversation
  | .queue index =>
    match conversation.admitted[index]? with
    | none => conversation
    | some job =>
      let admitted := conversation.admitted.eraseIdx index
      match protocol.enqueue conversation.session job with
      | .ok session => ⟨session, admitted⟩
      | .error error => ⟨protocol.giveUp conversation.session error, admitted⟩
  | .act action => { conversation with session := protocol.step conversation.session action }

/-- The error that somebody is told by a stretch, if any. -/
def reply? (protocol : Protocol S A M J) (conversation : Conversation S J) :
    Action A M → Option Error
  | .ask message => protocol.refusal? conversation.session message
  | .queue index =>
    match conversation.admitted[index]? with
    | none => none
    | some job =>
      match protocol.enqueue conversation.session job with
      | .ok _ => none
      | .error error => some error
  | .act action => protocol.told conversation.session action

/-- Runs a schedule. -/
def run (protocol : Protocol S A M J) (conversation : Conversation S J)
    (schedule : List (Action A M)) : Conversation S J :=
  schedule.foldl protocol.converse conversation

end Protocol

end PeerNet
