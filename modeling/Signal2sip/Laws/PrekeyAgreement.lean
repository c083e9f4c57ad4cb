import Signal2sip.Daemon.Prekeys

/-!
# Prekey agreement with the server

A peer opens a session with the prekey ids of the upload the server last accepted, so the account
can answer it only while `load_signed_pre_key` and `load_kyber_pre_key` still serve those ids
(`Served`). Each identity has one row of each kind, and `refreshOne` overwrites both before the
upload, so the agreement depends on what becomes of the upload:

- `served_after_refresh_iff`: after a refresh of the ACI, the agreement holds exactly when the
  server took the upload, or had accepted nothing else before;
- `served_through_refresh_iff`: at every point inside a refresh of the ACI, it holds exactly when
  the server had accepted nothing else before, whatever the upload does;
- `prekeys_served_iff`: both, along every run of refreshes.

The PNI's rows and uploads are others, and its half of a refresh leaves the agreement alone
(`refreshOne_pni_keeps`).
-/

namespace Signal2sip

open Runs (Always Along)
open Script (Through exec)

/-! ## The agreement -/

/-- The ACI ids that the server last accepted are served by the two callbacks. -/
def Served (accountName : String) (w : PrekeyWorld) : Prop :=
  match w.accepted.lookup "aci" with
  | none => True
  | some keys =>
    (ProtocolStores.loadSignedPreKey w.db accountName "aci" keys.signedPreKeyId .quiet).isSome ∧
    (ProtocolStores.loadKyberPreKey w.db accountName "aci" keys.pqLastResortPreKeyId .quiet).isSome

instance (accountName : String) (w : PrekeyWorld) : Decidable (Served accountName w) := by
  unfold Served
  exact match w.accepted.lookup "aci" with
    | none => inferInstanceAs (Decidable True)
    | some _ => inferInstanceAs (Decidable (_ ∧ _))

/-- What the agreement depends on: the ids in the two ACI rows, and the ids accepted. -/
structure AciView where
  signed : Option Int
  kyber : Option Int
  accepted : Option UploadedKeys
deriving DecidableEq

def aciView (accountName : String) (w : PrekeyWorld) : AciView where
  signed := (w.db.signedPrekey.lookup (accountName, "aci")).map (·.keyId)
  kyber := (w.db.kyberPrekey.lookup (accountName, "aci")).map (·.keyId)
  accepted := w.accepted.lookup "aci"

/-- The rows hold the ids that were accepted. -/
def AciView.Served (v : AciView) : Prop :=
  ∀ keys, v.accepted = some keys →
    v.signed = some (keys.signedPreKeyId.toNat : Int) ∧
    v.kyber = some (keys.pqLastResortPreKeyId.toNat : Int)

theorem loadSignedPreKey_isSome_iff {db : Db} {accountName identity : String} {id : UInt32} :
    (ProtocolStores.loadSignedPreKey db accountName identity id .quiet).isSome ↔
      (db.signedPrekey.lookup (accountName, identity)).map (·.keyId) = some (id.toNat : Int) := by
  have hload : (Storage.loadSignedPrekey db accountName identity .quiet).value =
      .ok (db.signedPrekey.lookup (accountName, identity)) :=
    Storage.lookupRow_ok_iff.mpr ⟨rfl, rfl⟩
  rw [ProtocolStores.loadSignedPreKey, hload]
  cases db.signedPrekey.lookup (accountName, identity) with
  | none => simp [Except.bind, guardCallback, Except.toOption]
  | some p =>
    by_cases h : p.keyId = (id.toNat : Int) <;>
      simp [Except.bind, guardCallback, Except.toOption, Option.filter, h]

theorem loadKyberPreKey_isSome_iff {db : Db} {accountName identity : String} {id : UInt32} :
    (ProtocolStores.loadKyberPreKey db accountName identity id .quiet).isSome ↔
      (db.kyberPrekey.lookup (accountName, identity)).map (·.keyId) = some (id.toNat : Int) := by
  have hload : (Storage.loadKyberPrekey db accountName identity .quiet).value =
      .ok (db.kyberPrekey.lookup (accountName, identity)) :=
    Storage.lookupRow_ok_iff.mpr ⟨rfl, rfl⟩
  rw [ProtocolStores.loadKyberPreKey, hload]
  cases db.kyberPrekey.lookup (accountName, identity) with
  | none => simp [Except.bind, guardCallback, Except.toOption]
  | some p =>
    by_cases h : p.keyId = (id.toNat : Int) <;>
      simp [Except.bind, guardCallback, Except.toOption, Option.filter, h]

theorem served_iff_view {accountName : String} {w : PrekeyWorld} :
    Served accountName w ↔ (aciView accountName w).Served := by
  unfold Served AciView.Served aciView
  cases w.accepted.lookup "aci" with
  | none => simp
  | some keys => simp [loadSignedPreKey_isSome_iff, loadKyberPreKey_isSome_iff]

/-! ## The steps of a refresh -/

section Steps

variable {accountName : String} {w w' : PrekeyWorld}

/-- Saving a signed ACI prekey for an account that has its row. -/
theorem save_signed_aci (hacc : accountName ∈ w.db.account) (p : SignedPrekeyRecord) :
    ∃ w', PrekeyWorld.save
        (fun db => Storage.saveSignedPrekey db accountName "aci" p .quiet) w = some w' ∧
      accountName ∈ w'.db.account ∧
      aciView accountName w' = { aciView accountName w with signed := some p.keyId } := by
  refine ⟨{ w with db := { w.db with
    signedPrekey := w.db.signedPrekey.insert (accountName, "aci") p } }, ?_, hacc, ?_⟩
  · simp [PrekeyWorld.save, Storage.saveSignedPrekey, upsertIdentity, upsert, hacc, Except.map,
      Except.mapError, Except.toOption]
  · simp [aciView]

theorem save_kyber_aci (hacc : accountName ∈ w.db.account) (p : KyberPrekeyRecord) :
    ∃ w', PrekeyWorld.save
        (fun db => Storage.saveKyberPrekey db accountName "aci" p .quiet) w = some w' ∧
      accountName ∈ w'.db.account ∧
      aciView accountName w' = { aciView accountName w with kyber := some p.keyId } := by
  refine ⟨{ w with db := { w.db with
    kyberPrekey := w.db.kyberPrekey.insert (accountName, "aci") p } }, ?_, hacc, ?_⟩
  · simp [PrekeyWorld.save, Storage.saveKyberPrekey, upsertIdentity, upsert, hacc, Except.map,
      Except.mapError, Except.toOption]
  · simp [aciView]

/-- No step of an identity's refresh touches the account's row, its tables of other identities, or
another identity's accepted upload. -/
theorem refreshOne_step_frame {identity : String} {r : Refresh} {i : IdentityRefresh}
    {f : PrekeyWorld → Option PrekeyWorld} (hf : f ∈ refreshOne accountName identity r i)
    (h : f w = some w') :
    w'.db.account = w.db.account ∧ w'.db.identityKeypair = w.db.identityKeypair ∧
      (identity ≠ "aci" → aciView accountName w' = aciView accountName w) := by
  unfold refreshOne at hf
  cases hg : i.generated with
  | none =>
    rw [hg, List.mem_singleton] at hf
    subst hf
    cases h
  | some keys =>
    simp only [hg, List.mem_cons, List.not_mem_nil, or_false] at hf
    rcases hf with rfl | rfl | rfl | rfl
    · obtain ⟨db', hsave, rfl⟩ := PrekeyWorld.save_eq_some h
      obtain rfl := Storage.saveSignedPrekey_ok hsave
      refine ⟨rfl, rfl, fun hne => ?_⟩
      have hkey : (accountName, "aci") ≠ (accountName, identity) := by simpa using hne.symm
      simp [aciView, AList.lookup_insert_ne hkey]
    · obtain ⟨db', hsave, rfl⟩ := PrekeyWorld.save_eq_some h
      obtain rfl := Storage.saveKyberPrekey_ok hsave
      refine ⟨rfl, rfl, fun hne => ?_⟩
      have hkey : (accountName, "aci") ≠ (accountName, identity) := by simpa using hne.symm
      simp [aciView, AList.lookup_insert_ne hkey]
    · cases h
      refine ⟨?_, ?_, ?_⟩
      · split <;> rfl
      · split <;> rfl
      · intro hne
        split
        · simp [aciView, AList.lookup_insert_ne hne.symm]
        · rfl
    · unfold PrekeyWorld.awaitResponse at h
      split at h <;> cases h
      exact ⟨rfl, rfl, fun _ => rfl⟩

/-- The view after the server's part of an upload of the ACI. -/
theorem aciView_serverPut {keys : UploadedKeys} {put : PutOutcome}
    (h : PrekeyWorld.serverPut "aci" keys put w = some w') :
    aciView accountName w' = { aciView accountName w with
      accepted := if put.accepted then some keys else (aciView accountName w).accepted } := by
  cases h
  unfold aciView
  split <;> simp

end Steps

/-! ## One refresh -/

section Refresh

variable {accountName : String} {w : PrekeyWorld} {r : Refresh}

/-- The refresh gets as far as saving and uploading ACI prekeys. -/
def RefreshesAci (accountName : String) (w : PrekeyWorld) (r : Refresh) : Prop :=
  hasKeypair w.db accountName "aci" = true ∧ r.aci.generated.isSome = true

/-- The server holds no ACI upload, or one with the very ids of this refresh. -/
def NothingElseAccepted (w : PrekeyWorld) (r : Refresh) : Prop :=
  ∀ keys, w.accepted.lookup "aci" = some keys → keys = r.uploadedKeys

/-- A refresh that replaces the ACI rows is followed by the server, or had nothing to lose. -/
def UploadFollows (accountName : String) (w : PrekeyWorld) (r : Refresh) : Prop :=
  RefreshesAci accountName w r → r.aci.put.accepted = true ∨ NothingElseAccepted w r

/-- A refresh that replaces the ACI rows has nothing to lose. -/
def NothingToLose (accountName : String) (w : PrekeyWorld) (r : Refresh) : Prop :=
  RefreshesAci accountName w r → NothingElseAccepted w r

/-- Rows with the refresh's key id serve exactly the ids it uploads. -/
theorem keyId_served_iff {keys : UploadedKeys} :
    (some (r.keyId : Int) = some (keys.signedPreKeyId.toNat : Int) ∧
      some (r.keyId : Int) = some (keys.pqLastResortPreKeyId.toNat : Int)) ↔
    keys = r.uploadedKeys := by
  have hid : (UInt32.ofNat r.keyId).toNat = r.keyId := UInt32.toNat_ofNat_of_lt r.keyId_lt
  constructor
  · rintro ⟨hs, hk⟩
    obtain ⟨s, k⟩ := keys
    have hs' : s.toNat = r.keyId := Int.ofNat.inj (Option.some.inj hs.symm)
    have hk' : k.toNat = r.keyId := Int.ofNat.inj (Option.some.inj hk.symm)
    rw [Refresh.uploadedKeys, UploadedKeys.mk.injEq]
    exact ⟨UInt32.toNat_inj.mp (hs'.trans hid.symm), UInt32.toNat_inj.mp (hk'.trans hid.symm)⟩
  · rintro rfl
    simp only [Refresh.uploadedKeys, hid, and_self]

/-- The PNI's half of a refresh leaves the ACI's agreement alone. -/
theorem refreshOne_pni_keeps {s : PrekeyWorld} {i : IdentityRefresh} :
    Through (fun w' => aciView accountName w' = aciView accountName s)
      (refreshOne accountName "pni" r i) s := by
  refine Script.through_of_keep (fun f hf w₁ w₂ h₁ h => ?_) rfl
  exact ((refreshOne_step_frame hf h).2.2 (by decide)).trans h₁

/-- A refresh leaves the accounts and the identity keypairs alone. -/
theorem refresh_keeps_account (accountName : String) (w : PrekeyWorld) (r : Refresh) :
    Through (fun w' => w'.db.account = w.db.account) (refreshScript accountName w r) w := by
  refine Script.through_of_keep (fun f hf w₁ w₂ h₁ h => ?_) rfl
  rcases List.mem_append.mp hf with hf | hf <;> split at hf
  · exact (refreshOne_step_frame hf h).1.trans h₁
  · cases hf
  · exact (refreshOne_step_frame hf h).1.trans h₁
  · cases hf

/-- The view that a refresh of the ACI leaves. -/
def AciView.refreshed (v : AciView) (r : Refresh) : AciView :=
  ⟨some (r.keyId : Int), some (r.keyId : Int),
    if r.aci.put.accepted then some r.uploadedKeys else v.accepted⟩

/-- A refresh of the ACI goes through four views and leaves the last of them, whether or not the
request then throws. -/
theorem refreshOne_aci_views (hacc : accountName ∈ w.db.account) {keys : GeneratedPreKeys}
    (hg : r.aci.generated = some keys) (I : AciView → Prop) :
    (Through (fun w' => I (aciView accountName w')) (refreshOne accountName "aci" r r.aci) w ↔
      I (aciView accountName w) ∧
      I { aciView accountName w with signed := some (r.keyId : Int) } ∧
      I { aciView accountName w with
        signed := some (r.keyId : Int), kyber := some (r.keyId : Int) } ∧
      I ((aciView accountName w).refreshed r)) ∧
    aciView accountName (exec (refreshOne accountName "aci" r r.aci) w).1 =
      (aciView accountName w).refreshed r := by
  simp only [refreshOne, hg]
  obtain ⟨w₁, h₁, hacc₁, v₁⟩ := save_signed_aci hacc ⟨r.keyId, keys.signedRecord⟩
  obtain ⟨w₂, h₂, -, v₂⟩ := save_kyber_aci hacc₁ ⟨r.keyId, keys.kyberRecord⟩
  rw [v₁] at v₂
  obtain ⟨w₃, h₃⟩ : ∃ w₃, PrekeyWorld.serverPut "aci" r.uploadedKeys r.aci.put w₂ = some w₃ :=
    ⟨_, rfl⟩
  have v₃ : aciView accountName w₃ = (aciView accountName w).refreshed r := by
    rw [aciView_serverPut h₃, v₂]
    rfl
  rw [Script.through_cons_some h₁, Script.through_cons_some h₂, Script.through_cons_some h₃,
    Script.exec_cons_some h₁, Script.exec_cons_some h₂, Script.exec_cons_some h₃, v₁, v₂]
  -- awaiting the response changes no view, and may end the script
  cases ht : r.aci.put.throws with
  | true =>
    have h₄ : PrekeyWorld.awaitResponse r.aci.put w₃ = none := by simp [PrekeyWorld.awaitResponse, ht]
    rw [Script.through_cons_none h₄, Script.exec_cons_none h₄, v₃]
    exact ⟨Iff.rfl, rfl⟩
  | false =>
    have h₄ : PrekeyWorld.awaitResponse r.aci.put w₃ = some w₃ := by
      simp [PrekeyWorld.awaitResponse, ht]
    rw [Script.through_cons_some h₄, Script.through_nil, Script.exec_cons_some h₄, Script.exec_nil,
      v₃, and_self_iff]
    exact ⟨Iff.rfl, rfl⟩

/-- A refresh that does not get to the ACI's keys leaves the view alone throughout. -/
theorem refreshOne_aci_keeps (hg : r.aci.generated = none) (I : PrekeyWorld → Prop) :
    (Through I (refreshOne accountName "aci" r r.aci) w ↔ I w) ∧
    exec (refreshOne accountName "aci" r r.aci) w = (w, false) := by
  simp only [refreshOne, hg]
  exact ⟨Script.through_cons_none rfl, Script.exec_cons_none rfl⟩

/-- After the ACI's half, nothing of a refresh matters to the ACI. -/
theorem refreshScript_views {I : AciView → Prop} :
    (Through (fun w' => I (aciView accountName w')) (refreshScript accountName w r) w ↔
      Through (fun w' => I (aciView accountName w'))
        (if hasKeypair w.db accountName "aci" then refreshOne accountName "aci" r r.aci else []) w) ∧
    aciView accountName (refreshPrekeys accountName w r) =
      aciView accountName (exec
        (if hasKeypair w.db accountName "aci" then refreshOne accountName "aci" r r.aci else []) w).1 := by
  generalize hA : (if hasKeypair w.db accountName "aci" then
    refreshOne accountName "aci" r r.aci else []) = A
  have hP : ∀ s, Through (fun w' => aciView accountName w' = aciView accountName s)
      (if hasKeypair w.db accountName "pni" then refreshOne accountName "pni" r r.pni else []) s := by
    intro s
    split
    · exact refreshOne_pni_keeps
    · rfl
  rw [refreshPrekeys, refreshScript, hA, Script.through_append, Script.exec_append]
  constructor
  · refine ⟨And.left, fun h => ⟨h, fun _ => ?_⟩⟩
    have hI := h.final
    exact (hP _).imp fun w' hw' => hw' ▸ hI
  · split
    · exact (hP _).final
    · rfl

/-- A view whose rows hold the refresh's key id is served when its upload is the refresh's own, or
when there is no other. -/
theorem served_refreshed_iff {v : AciView} :
    (v.refreshed r).Served ↔
      r.aci.put.accepted = true ∨ ∀ keys, v.accepted = some keys → keys = r.uploadedKeys := by
  unfold AciView.refreshed AciView.Served
  cases r.aci.put.accepted with
  | true =>
    simp only [if_pos, true_or, iff_true]
    intro keys hkeys
    exact keyId_served_iff.mpr (Option.some.inj hkeys).symm
  | false =>
    simp only [Bool.false_eq_true, if_false, false_or]
    exact forall₂_congr fun keys _ => keyId_served_iff

/-- After a refresh, the agreement holds exactly when the server followed it, or had accepted no
other ids before. -/
theorem served_after_refresh_iff (hacc : accountName ∈ w.db.account) (hs : Served accountName w) :
    Served accountName (refreshPrekeys accountName w r) ↔ UploadFollows accountName w r := by
  rw [served_iff_view] at hs ⊢
  rw [(refreshScript_views (I := AciView.Served)).2, UploadFollows, RefreshesAci]
  cases hasKeypair w.db accountName "aci" with
  | false => simpa using hs
  | true =>
    cases hg : r.aci.generated with
    | none =>
      rw [if_pos rfl, (refreshOne_aci_keeps hg fun _ => True).2]
      simpa using hs
    | some keys =>
      rw [if_pos rfl, (refreshOne_aci_views hacc hg fun _ => True).2, served_refreshed_iff]
      simp only [Option.isSome_some, and_self, forall_const]
      exact Iff.rfl

/-- Inside a refresh, the agreement holds at every point exactly when the server had accepted no
other ids before: the rows are replaced first. -/
theorem served_through_refresh_iff (hacc : accountName ∈ w.db.account)
    (hs : Served accountName w) :
    Through (Served accountName) (refreshScript accountName w r) w ↔
      NothingToLose accountName w r := by
  have hview : Served accountName = fun w' => (aciView accountName w').Served :=
    funext fun w' => propext served_iff_view
  rw [served_iff_view] at hs
  rw [hview, refreshScript_views.1, NothingToLose, RefreshesAci]
  cases hasKeypair w.db accountName "aci" with
  | false => simpa using hs
  | true =>
    cases hg : r.aci.generated with
    | none =>
      rw [if_pos rfl, (refreshOne_aci_keeps hg _).1]
      simpa using hs
    | some keys =>
      rw [if_pos rfl, (refreshOne_aci_views hacc hg _).1, served_refreshed_iff]
      simp only [Option.isSome_some, and_self, forall_const]
      constructor
      · rintro ⟨-, -, hboth, -⟩ keys' hkeys'
        exact keyId_served_iff.mp (hboth keys' hkeys')
      · intro hnone
        refine ⟨hs, fun keys' hkeys' => ⟨?_, (hs keys' hkeys').2⟩, fun keys' hkeys' => ?_,
          Or.inr hnone⟩
        · exact (keyId_served_iff.mpr (hnone keys' hkeys')).1
        · exact keyId_served_iff.mpr (hnone keys' hkeys')

end Refresh

/-! ## Runs of refreshes -/

/-- Along every run of refreshes, each at any second and with any outcome of its uploads: the
agreement holds after every refresh exactly when each refresh that replaced the ACI rows was
followed by the server or had nothing to lose; and it holds at every point of every refresh exactly
when none of them had anything to lose. -/
theorem prekeys_served_iff (accountName : String) (w : PrekeyWorld) (rs : List Refresh)
    (hacc : accountName ∈ w.db.account) :
    (Always (refreshPrekeys accountName) (Served accountName) w rs ↔
      Served accountName w ∧
        Along (refreshPrekeys accountName) (UploadFollows accountName) w rs) ∧
    ((Served accountName w ∧ Along (refreshPrekeys accountName)
        (fun w r => Through (Served accountName) (refreshScript accountName w r) w) w rs) ↔
      Served accountName w ∧
        Along (refreshPrekeys accountName) (NothingToLose accountName) w rs) := by
  have keep : ∀ w r, accountName ∈ w.db.account →
      accountName ∈ (refreshPrekeys accountName w r).db.account := by
    intro w r h
    exact (refresh_keeps_account accountName w r).final ▸ h
  constructor
  · by_cases hs : Served accountName w
    · rw [and_iff_right hs]
      exact Runs.always_congr (I := fun w => accountName ∈ w.db.account)
        (fun w r h _ _ => keep w r h) (fun w r h hs => served_after_refresh_iff h hs) hacc hs
    · exact ⟨fun h => absurd h.head hs, fun h => absurd h.1 hs⟩
  · apply and_congr_right
    intro hs
    refine Runs.along_congr (I := fun w => accountName ∈ w.db.account ∧ Served accountName w)
      (fun w r h hq => ⟨keep w r h.1, ?_⟩) (fun w r h => served_through_refresh_iff h.1 h.2)
      ⟨hacc, hs⟩
    exact ((served_through_refresh_iff h.1 h.2).mpr hq).final

/-! ## A rejected upload -/

/-- One account with an ACI keypair, and a server that has accepted nothing yet. -/
def freshWorld : PrekeyWorld where
  db :=
    { account := AList.insert "line1"
        { e164 := "+380000000001", aci := "a", pni := "p", password := "w" } ∅
      identityKeypair := AList.insert ("line1", "aci") ⟨[1], [2]⟩ ∅ }

/-- A refresh at a given second whose ACI upload gets a given status. -/
def refreshAt (seconds status : Nat) : Refresh where
  seconds := seconds
  aci := ⟨some ⟨[3], [4]⟩, .response status⟩
  pni := ⟨none, .response 200⟩

/-- The first upload is accepted and the next one rejected: the server still gives out the first
one's ids, and neither callback serves them. -/
theorem rejected_upload_breaks_agreement :
    ¬ Always (refreshPrekeys "line1") (Served "line1") freshWorld
      [refreshAt 1000 200, refreshAt 1001 500] := by
  intro h
  have hserved : Served "line1" (refreshPrekeys "line1"
    (refreshPrekeys "line1" freshWorld (refreshAt 1000 200)) (refreshAt 1001 500)) := h.2.2
  exact absurd hserved (by decide)

theorem prekeys_served_iff_two_refreshes :
    (Always (refreshPrekeys "line1") (Served "line1") freshWorld
        [refreshAt 1000 200, refreshAt 1001 500] ↔
      Served "line1" freshWorld ∧ Along (refreshPrekeys "line1") (UploadFollows "line1") freshWorld
        [refreshAt 1000 200, refreshAt 1001 500]) ∧
    ((Served "line1" freshWorld ∧ Along (refreshPrekeys "line1")
        (fun w r => Through (Served "line1") (refreshScript "line1" w r) w) freshWorld
          [refreshAt 1000 200, refreshAt 1001 500]) ↔
      Served "line1" freshWorld ∧ Along (refreshPrekeys "line1") (NothingToLose "line1") freshWorld
        [refreshAt 1000 200, refreshAt 1001 500]) :=
  prekeys_served_iff "line1" freshWorld [refreshAt 1000 200, refreshAt 1001 500] (by decide)

end Signal2sip
