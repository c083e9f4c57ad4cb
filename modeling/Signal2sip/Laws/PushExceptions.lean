import Signal2sip.Daemon.PushCallback
import Signal2sip.Laws.KeysAuthority

/-!
# What leaves the push callback

Every delivered message is acknowledged once, before anything is done with it. No failure of
decryption, of a parser or of PJSIP leaves the callback: the first is caught, the second is a return
value, the third is caught where PJSIP is called. A failure of storage is caught while a message
decrypts, because the store callbacks are guarded, but not where a new entropy pool is saved.

- `acknowledged_once`;
- `thrown_iff`: an exception leaves the callback exactly when such a save fails;
- `pushHandled_iff`: the two together.
-/

namespace Signal2sip

open Sqlite (Faults)

/-- A message is acknowledged once and no exception leaves the callback. -/
structure DeliveredMessage.Handled {α : Type} (d : DeliveredMessage α) : Prop where
  acknowledgedOnce : d.acks.count .send = 1
  nothingThrown : d.thrown = none

/-- A new entropy pool that the push carries is saved. -/
def PoolSaved (env : PushEnv) (db : Db) (acct : AccountState) (body : Bytes) (f : Faults) : Prop :=
  pushedEntropyPool env db acct "PUT" "/api/v1/message" body ≠ none →
    f.prepare = none ∧ f.step 0 = none

/-! ## Acknowledging -/

theorem acknowledged_once {α : Type} (replies : AckReplies)
    (onPush : Option (String → String → Bytes → α × Option Exception)) (body : Bytes) :
    (onReceivedIncomingMessage replies onPush body).acks.count .send = 1 := by
  obtain ⟨sendFails, destroyFails⟩ := replies
  unfold onReceivedIncomingMessage
  cases onPush with
  | none => cases sendFails <;> cases destroyFails <;> rfl
  | some onPush => cases sendFails <;> cases destroyFails <;> rfl

/-! ## PJSIP -/

/-- A clause that takes `pj::Error` and does not throw itself takes all that PJSIP throws. -/
theorem catchPj_ok {α β : Type} (reply : Except PjError α) (f : α → β) (b : β) :
    ∃ x, catchPj ((reply.mapError .pj).map f) (fun _ => .ok b) = .ok x := by
  cases reply with
  | error e => exact ⟨b, rfl⟩
  | ok a => exact ⟨f a, rfl⟩

theorem registerPjsipThreadIfNeeded_ok (pjsip : Pjsip) :
    ∃ registered, pjsip.registerPjsipThreadIfNeeded = .ok registered := by
  unfold Pjsip.registerPjsipThreadIfNeeded
  split
  · exact catchPj_ok ..
  · exact ⟨_, rfl⟩

theorem perform_ok (pjsip : Pjsip) (out : List Action) :
    ∃ sent, pjsip.perform out = .ok sent := by
  induction out with
  | nil => exact ⟨[], rfl⟩
  | cons action out ih =>
    obtain ⟨registered, hregistered⟩ := registerPjsipThreadIfNeeded_ok pjsip
    obtain ⟨sent, hsent⟩ := catchPj_ok pjsip.dialDtmf (fun _ => [action]) []
    obtain ⟨rest, hrest⟩ := ih
    refine ⟨sent ++ rest, ?_⟩
    simp only [Pjsip.perform, hregistered, hsent, hrest]
    rfl

/-! ## The content handlers -/

theorem handleKeys_thrown_iff (db : Db) (acct : AccountState) (aep : String) (f : Faults) :
    (handleKeys db acct aep f).thrown = none ↔ f.prepare = none ∧ f.step 0 = none := by
  unfold handleKeys
  rcases Storage.saveAccount_cases db acct.config.name (acct.account.withEntropyPool aep) f with
    ⟨hprepare, hstep, hsaved⟩ | ⟨hfails, e, hsaved⟩
  · simp only [hsaved]
    exact iff_of_true trivial ⟨hprepare, hstep⟩
  · simp only [hsaved]
    refine iff_of_false nofun ?_
    rintro ⟨hprepare, hstep⟩
    exact hfails.elim (fun h => h hprepare) fun h => h hstep

theorem onPush_thrown_iff (env : PushEnv) (db : Db) (acct : AccountState) (body : Bytes) (f : Faults) :
    (onPush env db acct "PUT" "/api/v1/message" body f).thrown = none ↔
      PoolSaved env db acct body f := by
  unfold PoolSaved
  rcases onPush_handles env db acct "PUT" "/api/v1/message" body f with
    ⟨aep, hpool, hpush⟩ | ⟨hnone, hhandled⟩
  · rw [hpush, handleKeys_thrown_iff, hpool]
    exact ⟨fun h _ => h, fun h => h nofun⟩
  · rw [hhandled.thrown, hnone]
    exact iff_of_true rfl fun h => (h rfl).elim

/-! ## The callback -/

/-- An exception leaves the callback exactly when a new entropy pool cannot be saved. -/
theorem thrown_iff (env : PushEnv) (db : Db) (acct : AccountState) (f : Faults) (pjsip : Pjsip)
    (replies : AckReplies) (body : Bytes) :
    (onReceivedIncomingMessage replies (some (pushHandler env db acct f pjsip)) body).thrown = none ↔
      PoolSaved env db acct body f := by
  rw [← onPush_thrown_iff]
  obtain ⟨out, hout⟩ := perform_ok pjsip (onPush env db acct "PUT" "/api/v1/message" body f).out
  simp only [onReceivedIncomingMessage, pushHandler, hout]
  cases (onPush env db acct "PUT" "/api/v1/message" body f).thrown <;> simp

/-- Whatever is delivered, in every state of the account and the database, and whatever fails: the
message is acknowledged once and nothing is thrown exactly when the pool it may carry is saved. -/
theorem pushHandled_iff (env : PushEnv) (db : Db) (acct : AccountState) (f : Faults) (pjsip : Pjsip)
    (replies : AckReplies) (body : Bytes) :
    (onReceivedIncomingMessage replies (some (pushHandler env db acct f pjsip)) body).Handled ↔
      PoolSaved env db acct body f := by
  rw [← thrown_iff env db acct f pjsip replies]
  exact ⟨DeliveredMessage.Handled.nothingThrown, fun h => ⟨acknowledged_once .., h⟩⟩

/-- Another process holds the database when the primary device sends a new entropy pool. -/
theorem busy_save_escapes :
    ¬ ∀ (env : PushEnv) (db : Db) (acct : AccountState) (f : Faults) (pjsip : Pjsip)
      (replies : AckReplies) (body : Bytes),
      (onReceivedIncomingMessage replies (some (pushHandler env db acct f pjsip)) body).Handled := by
  intro h
  have hthrown := (h plainEnv linkedRun.db linkedRun.acct
    { step := fun _ => some ⟨.busy, "database is locked"⟩ } ⟨true, true, .ok (), .ok ()⟩
    ⟨false, false⟩ [7]).nothingThrown
  exact absurd hthrown (by decide)

end Signal2sip
