import Signal2sip.Daemon.Push

/-!
# `onReceivedIncomingMessage`

libsignal calls it for every message the chat server delivers, from Rust, so an exception must not
leave it. It acknowledges the message, destroys the acknowledgement and hands the body to `onPush`,
which the daemon installs as the handler.

Two kinds of exception are thrown below it: `std::runtime_error` by this program and `pj::Error` by
PJSUA2. A catch clause takes one kind. `onPush` catches what decryption throws and what the touch-tone
call throws; the rest of it is not in a try block.
-/

namespace Signal2sip

open Sqlite (Faults)

/-- `pj::Error`. -/
structure PjError where
  info : String
deriving DecidableEq, Repr

/-- What C++ code throws here. -/
inductive Exception
  | runtime (e : RuntimeError)
  | pj (e : PjError)
deriving DecidableEq, Repr

/-- `catch (pj::Error& err)`. -/
def catchPj {α : Type} (body : Except Exception α) (handler : PjError → Except Exception α) :
    Except Exception α :=
  match body with
  | .error (.pj e) => handler e
  | _ => body

/-- What PJSIP answers the calls that a touch-tone makes, and what the thread and the endpoint are. -/
structure Pjsip where
  registered : Bool
  g_ep : Bool
  libRegisterThread : Except PjError Unit
  dialDtmf : Except PjError Unit

namespace Pjsip

/-- Whether the thread counts as registered afterwards. -/
def registerPjsipThreadIfNeeded (pjsip : Pjsip) : Except Exception Bool :=
  if !pjsip.registered && pjsip.g_ep then
    catchPj ((pjsip.libRegisterThread.mapError .pj).map fun _ => true) fun _ => .ok true
  else .ok pjsip.registered

/-- The part of the `DataMessage` branch that talks to PJSIP: the requests that come through. -/
def perform (pjsip : Pjsip) : List Action → Except Exception (List Action)
  | [] => .ok []
  | action :: out => do
    let _ ← pjsip.registerPjsipThreadIfNeeded
    let sent ← catchPj ((pjsip.dialDtmf.mapError .pj).map fun _ => [action]) fun _ => .ok []
    return sent ++ (← pjsip.perform out)

end Pjsip

/-- `onPush` with what PJSIP makes of its touch-tone, and the exception that leaves it. -/
def pushHandler (env : PushEnv) (db : Db) (acct : AccountState) (f : Faults) (pjsip : Pjsip)
    (verb path : String) (body : Bytes) : PushResult × Option Exception :=
  let r := onPush env db acct verb path body f
  match pjsip.perform r.out with
  | .ok out => ({ r with out := out }, r.thrown.map .runtime)
  | .error e => ({ r with out := [] }, some e)

/-- The calls of libsignal about an acknowledgement. -/
inductive AckCall
  | send
  | destroy
  | errorFree
deriving DecidableEq, Repr

/-- What libsignal returns for `signal_server_message_ack_send` and `..._destroy`: an error or not. -/
structure AckReplies where
  sendFails : Bool
  destroyFails : Bool

/-- What became of a delivered message. -/
structure DeliveredMessage (α : Type) where
  acks : List AckCall
  push : Option α
  thrown : Option Exception

/-- `AuthSocket::Impl::onReceivedIncomingMessage`. -/
def onReceivedIncomingMessage {α : Type} (replies : AckReplies)
    (onPush : Option (String → String → Bytes → α × Option Exception)) (body : Bytes) :
    DeliveredMessage α :=
  let acks := .send :: (if replies.sendFails then [AckCall.errorFree] else []) ++
    .destroy :: (if replies.destroyFails then [AckCall.errorFree] else [])
  match onPush with
  | none => { acks := acks, push := none, thrown := none }
  | some onPush =>
    let (r, thrown) := onPush "PUT" "/api/v1/message" body
    { acks := acks, push := some r, thrown := thrown }

end Signal2sip
