import Mathlib.Data.List.Infix
import Signal2sip.Daemon.Teardown
import Signal2sip.Lib.Run

/-!
# Which of an account's threads a teardown waits for

`teardownAccount` waits for the dispatch worker, and unless that takes too long the worker has nothing
left to do when the call manager and the account go. The callbacks of RingRTC and the pushes end with
the manager and the socket. Nothing waits for a callback, a push, an INVITE or a probe that is in flight
at that moment, and nothing keeps INVITEs out afterwards.

- `clean_step`: a worker that was waited for is done, and stays so, whatever is put on its queue;
- `disturbed_goes_wrong`: where the join gives up, or one of the others is in the way, the actors can
  go on to use what is gone;
- `teardown_safe_along`: the two together.
-/

namespace Signal2sip

open Runs (Along)

/-- What a thread that makes the access will use, the probe and the feeder that it starts included. -/
def Access.reaches : Access → List Resource
  | .spawnProbe | .startFeeder => [.account, .manager]
  | a => a.uses

theorem Access.mem_reaches {a : Access} {r : Resource} (h : r ∈ a.uses) : r ∈ a.reaches := by
  cases a with
  | spawnProbe => exact List.mem_append_left [.manager] h
  | startFeeder => exact List.mem_append_left [.manager] h
  | _ => exact h

namespace Teardown

/-- The objects that a step uses. A teardown works on the account to its end. -/
def uses (s : Teardown) : TeardownEvent → List Resource
  | .teardown _ => if s.ahead = [] then [] else [.account]
  | .start _ => []
  | e => (s.next e).toList.flatMap Access.uses

/-- A step uses nothing that is gone. -/
def Safe (s : Teardown) (e : TeardownEvent) : Prop := ∀ r ∈ s.uses e, s.dead r = false

/-- A callback, a push, an INVITE or a probe is in flight that will still use the object. -/
def InUse (s : Teardown) (r : Resource) : Prop := ∃ thread ∈ s.threads, ∃ a ∈ thread, r ∈ a.reaches

/-- A step of the teardown that does not give up on the worker, and destroys nothing that a thread other
than the worker will still use. -/
def Clears (s : Teardown) (timesOut : Bool) : TeardownStep → Prop
  | .join => timesOut = true → s.exited = true
  | .destroyManager => s.feeding = false ∧ ¬ s.InUse .manager
  | .eraseAccount => ¬ s.InUse .account
  | _ => True

/-- The teardown takes such a step, or an actor starts that will use nothing that is gone. -/
def Undisturbed (s : Teardown) : TeardownEvent → Prop
  | .teardown timesOut => ∀ first ∈ s.ahead.head?, s.Clears timesOut first
  | .start actor => s.canStart actor = true → ∀ a ∈ actor.accesses, ∀ r ∈ a.reaches, s.dead r = false
  | .run _ | .work | .feed => True

instance (s : Teardown) (e : TeardownEvent) : Decidable (s.Safe e) :=
  inferInstanceAs (Decidable (∀ r ∈ s.uses e, s.dead r = false))

instance (s : Teardown) (r : Resource) : Decidable (s.InUse r) :=
  inferInstanceAs (Decidable (∃ thread ∈ s.threads, ∃ a ∈ thread, r ∈ a.reaches))

instance (s : Teardown) (timesOut : Bool) : DecidablePred (s.Clears timesOut)
  | .join => inferInstanceAs (Decidable (timesOut = true → s.exited = true))
  | .destroyManager => inferInstanceAs (Decidable (s.feeding = false ∧ ¬ s.InUse .manager))
  | .eraseAccount => inferInstanceAs (Decidable (¬ s.InUse .account))
  | .stopBridge | .deleteSipCall | .deleteIncomingSipCall | .stopQueue | .closeSocket | .unregister
  | .eraseSip => isTrue trivial

instance (s : Teardown) : DecidablePred s.Undisturbed
  | .teardown timesOut => inferInstanceAs (Decidable (∀ first ∈ s.ahead.head?, s.Clears timesOut first))
  | .start actor => inferInstanceAs (Decidable (s.canStart actor = true →
      ∀ a ∈ actor.accesses, ∀ r ∈ a.reaches, s.dead r = false))
  | .run _ | .work | .feed => isTrue trivial

/-! ## The order of the teardown -/

/-- What holds in every state that a teardown comes to. -/
structure InOrder (s : Teardown) : Prop where
  ahead : s.ahead <:+ TeardownStep.teardownAccount
  destroyed : s.destroyed = true → .destroyManager ∉ s.ahead
  closed : s.closed = true → .closeSocket ∉ s.ahead
  erased : s.erased = true → .eraseAccount ∉ s.ahead
  worker : s.exited = true → s.work = []
  items : ∀ a ∈ s.work, a = .touch ∨ a = .callHandle

theorem inOrder_start : InOrder {} where
  ahead := List.suffix_refl _
  destroyed h := nomatch h
  closed h := nomatch h
  erased h := nomatch h
  worker h := nomatch h
  items _ h := nomatch h

/-- The items touch the account and call the manager with a handle of their own. -/
theorem item_accesses (item : DispatchItem) : ∀ a ∈ item.accesses, a = .touch ∨ a = .callHandle := by
  intro a ha
  cases item with
  | sendDecryptionErrorReply => simp [DispatchItem.accesses] at ha; exact .inl ha
  | syncStorageContacts => simp [DispatchItem.accesses] at ha; exact .inl ha
  | handleCallMessage keyed plain =>
    simp only [DispatchItem.accesses, List.mem_cons, List.mem_append, List.mem_flatten,
      List.mem_replicate] at ha
    rcases ha with ha | ⟨accesses, ⟨-, rfl⟩, ha⟩ | ⟨-, ha⟩
    · exact .inl ha
    · simpa using ha
    · exact .inr ha

/-- The flags that only the teardown and the worker set. -/
theorem perform_flags (s : Teardown) (a : Access) :
    (s.perform a).ahead = s.ahead ∧ (s.perform a).exited = s.exited ∧
      (s.perform a).destroyed = s.destroyed ∧ (s.perform a).closed = s.closed ∧
      (s.perform a).erased = s.erased := by
  cases a <;> exact ⟨rfl, rfl, rfl, rfl, rfl⟩

/-- The worker gets the accesses of the items that are put on its queue, unless it has exited. -/
theorem perform_work (s : Teardown) (a : Access) :
    (s.perform a).work = s.work ∨
      s.exited = false ∧ ∃ item, a = .enqueue item ∧ (s.perform a).work = s.work ++ item.accesses := by
  cases a with
  | enqueue item =>
    cases hexited : s.exited with
    | true => exact .inl (by simp [perform, spawns, hexited])
    | false => exact .inr ⟨rfl, item, rfl, by simp [perform, spawns, hexited]⟩
  | _ => exact .inl rfl

theorem InOrder.perform {s : Teardown} (h : InOrder s) (a : Access) : InOrder (s.perform a) := by
  obtain ⟨hahead, hexited, hdestroyed, hclosed, herased⟩ := perform_flags s a
  have hwork : ((s.perform a).exited = true → (s.perform a).work = []) ∧
      ∀ b ∈ (s.perform a).work, b = .touch ∨ b = .callHandle := by
    rw [hexited]
    rcases perform_work s a with hsame | ⟨hrunning, item, -, hmore⟩
    · rw [hsame]
      exact ⟨h.worker, h.items⟩
    · rw [hmore]
      refine ⟨fun hgone => absurd hgone (by rw [hrunning]; decide), fun b hb => ?_⟩
      rcases List.mem_append.mp hb with hb | hb
      · exact h.items b hb
      · exact item_accesses item b hb
  exact {
    ahead := hahead ▸ h.ahead
    destroyed := by rw [hdestroyed, hahead]; exact h.destroyed
    closed := by rw [hclosed, hahead]; exact h.closed
    erased := by rw [herased, hahead]; exact h.erased
    worker := hwork.1
    items := hwork.2 }

/-- A teardown can be ahead in twelve ways only, so what is said of all of them can be looked up. -/
theorem forall_ahead {p : List TeardownStep → Prop}
    (hall : ∀ l ∈ TeardownStep.teardownAccount.tails, p l) {l : List TeardownStep}
    (h : l <:+ TeardownStep.teardownAccount) : p l :=
  hall l ((List.mem_tails l _).mpr h)

/-- A step comes once, but for the bridge, which is stopped twice. -/
theorem not_mem_rest {first : TeardownStep} {rest : List TeardownStep}
    (h : first :: rest <:+ TeardownStep.teardownAccount) (hfirst : first ≠ .stopBridge) :
    first ∉ rest := by
  have honce : ∀ f ∈ (first :: rest).head?, f ≠ .stopBridge → f ∉ (first :: rest).tail :=
    forall_ahead (p := fun l => ∀ f ∈ l.head?, f ≠ .stopBridge → f ∉ l.tail) (by decide) h
  exact honce first rfl hfirst

/-- The objects go after the join. -/
theorem objects_after_join {l : List TeardownStep} (h : l <:+ TeardownStep.teardownAccount)
    (hjoin : .join ∈ l) : .destroyManager ∈ l ∧ .eraseAccount ∈ l :=
  forall_ahead (p := fun l => .join ∈ l → .destroyManager ∈ l ∧ .eraseAccount ∈ l) (by decide) h hjoin

/-- The account goes last. -/
theorem account_last {l : List TeardownStep} (h : l <:+ TeardownStep.teardownAccount) (hl : l ≠ []) :
    .eraseAccount ∈ l :=
  forall_ahead (p := fun l => l ≠ [] → .eraseAccount ∈ l) (by decide) h hl

theorem InOrder.drop {s : Teardown} (h : InOrder s) {first : TeardownStep} {rest : List TeardownStep}
    (hahead : s.ahead = first :: rest) : InOrder { s with ahead := rest } where
  ahead := (List.suffix_cons first rest).trans (hahead ▸ h.ahead)
  destroyed hgone hmem := h.destroyed hgone (hahead ▸ List.mem_cons_of_mem first hmem)
  closed hgone hmem := h.closed hgone (hahead ▸ List.mem_cons_of_mem first hmem)
  erased hgone hmem := h.erased hgone (hahead ▸ List.mem_cons_of_mem first hmem)
  worker := h.worker
  items := h.items

theorem InOrder.take {s : Teardown} (h : InOrder s) {first : TeardownStep}
    (hfirst : first ≠ .stopBridge → first ∉ s.ahead) : InOrder (s.take first) := by
  cases first with
  | stopBridge => exact h.perform .stopBridge
  | deleteSipCall => exact h.perform .deleteSipCall
  | deleteIncomingSipCall => exact h.perform .deleteIncomingSipCall
  | stopQueue => exact ⟨h.ahead, h.destroyed, h.closed, h.erased, h.worker, h.items⟩
  | destroyManager =>
    exact ⟨h.ahead, fun _ => hfirst (by decide), h.closed, h.erased, h.worker, h.items⟩
  | closeSocket =>
    exact ⟨h.ahead, h.destroyed, fun _ => hfirst (by decide), h.erased, h.worker, h.items⟩
  | eraseAccount =>
    exact ⟨h.ahead, h.destroyed, h.closed, fun _ => hfirst (by decide), h.worker, h.items⟩
  | join => exact h
  | unregister => exact h
  | eraseSip => exact h

/-- What a step of the teardown comes to. -/
theorem teardown_cases (s : Teardown) (timesOut : Bool) :
    (s.teardown timesOut = s) ∨
      ∃ first rest, s.ahead = first :: rest ∧
        s.teardown timesOut = ({ s with ahead := rest } : Teardown).take first ∧
        (first = .join → s.exited = true ∨ timesOut = true) := by
  unfold teardown
  split
  · exact .inl rfl
  · next first rest hahead =>
    split
    · exact .inl rfl
    · next hgo =>
      refine .inr ⟨first, rest, hahead, rfl, fun hjoin => ?_⟩
      rw [hjoin, and_iff_right rfl, not_not, Bool.or_eq_true] at hgo
      exact hgo

theorem InOrder.step {s : Teardown} (h : InOrder s) (e : TeardownEvent) : InOrder (s.step e) := by
  cases e with
  | teardown timesOut =>
    show InOrder (s.teardown timesOut)
    rcases teardown_cases s timesOut with hsame | ⟨first, rest, hahead, htake, -⟩
    · rw [hsame]
      exact h
    · have hfirst : first ≠ .stopBridge → first ∉ rest := not_mem_rest (hahead ▸ h.ahead)
      rw [htake]
      exact (h.drop hahead).take hfirst
  | start actor =>
    simp only [Teardown.step]
    split
    · exact ⟨h.ahead, h.destroyed, h.closed, h.erased, h.worker, h.items⟩
    · exact h
  | run thread =>
    simp only [Teardown.step]
    split
    · next a rest hthread =>
      have hdropped : InOrder { s with threads := s.threads.set thread rest } :=
        ⟨h.ahead, h.destroyed, h.closed, h.erased, h.worker, h.items⟩
      exact hdropped.perform a
    · exact h
  | work =>
    simp only [Teardown.step]
    split
    · next a rest hwork =>
      have hdropped : InOrder { s with work := rest } := by
        refine ⟨h.ahead, h.destroyed, h.closed, h.erased, fun hexited => ?_, fun b hb => ?_⟩
        · have hnone := h.worker hexited
          rw [hwork] at hnone
          cases hnone
        · exact h.items b (hwork ▸ List.mem_cons_of_mem a hb)
      exact hdropped.perform a
    · next hwork =>
      split
      · exact ⟨h.ahead, h.destroyed, h.closed, h.erased, fun _ => hwork, h.items⟩
      · exact h
  | feed => exact h

/-! ## Undisturbed runs -/

theorem dead_perform (s : Teardown) (a : Access) (r : Resource) : (s.perform a).dead r = s.dead r := by
  cases a <;> cases r <;> rfl

/-- An access that uses nothing that is gone, and puts nothing in flight that does. -/
theorem inUse_perform {s : Teardown} {a : Access} {r : Resource} (h : (s.perform a).InUse r) :
    s.InUse r ∨ r ∈ a.reaches := by
  cases a with
  | spawnProbe =>
    obtain ⟨thread, hthread, b, hb, hr⟩ := h
    rcases List.mem_append.mp hthread with hold | -
    · exact .inl ⟨thread, hold, b, hb, hr⟩
    · cases r <;> exact .inr (by decide)
  | _ => exact .inl h

/-- A leg's media puts a feeder in flight. -/
theorem feeding_perform {s : Teardown} {a : Access} (h : (s.perform a).feeding = true) :
    s.feeding = true ∨ .manager ∈ a.reaches := by
  cases a with
  | startFeeder => exact .inr (by decide)
  | touch => exact .inl h
  | call => exact .inl h
  | callHandle => exact .inl h
  | spawnProbe => exact .inl h
  | enqueue item => exact .inl h
  | openSipCall => cases h
  | openIncomingSipCall => cases h
  | stopBridge => cases h
  | deleteSipCall => cases h
  | deleteIncomingSipCall => cases h

/-- What holds in every state of an undisturbed run: once the join is over the worker has exited, and
whatever is in flight keeps off what is gone. -/
structure Clean (s : Teardown) : Prop where
  order : InOrder s
  joined : .join ∉ s.ahead → s.exited = true
  threads : ∀ r, s.dead r = true → ¬ s.InUse r
  feeder : s.destroyed = true → s.feeding = false

theorem clean_start : Clean {} where
  order := inOrder_start
  joined h := absurd (by decide) h
  threads r h := by cases r <;> cases h
  feeder h := nomatch h

/-- The worker that the join has waited for leaves nothing behind. -/
theorem Clean.work {s : Teardown} (h : Clean s) {r : Resource} (hdead : s.dead r = true) :
    s.work = [] := by
  refine h.order.worker (h.joined fun hjoin => ?_)
  obtain ⟨hdestroy, herase⟩ := objects_after_join h.order.ahead hjoin
  cases r with
  | manager => exact h.order.destroyed hdead hdestroy
  | account => exact h.order.erased hdead herase

theorem Clean.perform {s : Teardown} (h : Clean s) {a : Access}
    (hlive : ∀ r ∈ a.reaches, s.dead r = false) : Clean (s.perform a) := by
  obtain ⟨hahead, hexited, hdestroyed, -, -⟩ := perform_flags s a
  refine ⟨h.order.perform a, ?_, fun r hdead huse => ?_, fun hgone => ?_⟩
  · rw [hahead, hexited]
    exact h.joined
  · rw [dead_perform] at hdead
    rcases inUse_perform huse with hold | hr
    · exact h.threads r hdead hold
    · rw [hlive r hr] at hdead
      cases hdead
  · rw [hdestroyed] at hgone
    by_contra hfeeding
    rcases feeding_perform (by simpa using hfeeding) with hold | hr
    · rw [h.feeder hgone] at hold
      cases hold
    · have hlives : s.destroyed = false := hlive .manager hr
      rw [hlives] at hgone
      cases hgone

/-- A step of the teardown adds no thread, and starts no feeder. -/
theorem take_rest (s : Teardown) (first : TeardownStep) :
    (s.take first).threads = s.threads ∧ (s.take first).exited = s.exited ∧
      ((s.take first).feeding = true → s.feeding = true) := by
  cases first <;> first | exact ⟨rfl, rfl, id⟩ | exact ⟨rfl, rfl, fun h => nomatch h⟩

/-- The object that a step of the teardown destroys. -/
theorem dead_take {s : Teardown} {first : TeardownStep} {r : Resource}
    (h : (s.take first).dead r = true) :
    s.dead r = true ∨ first = .destroyManager ∧ r = .manager ∨ first = .eraseAccount ∧ r = .account := by
  cases first with
  | destroyManager =>
    cases r with
    | manager => exact .inr (.inl ⟨rfl, rfl⟩)
    | account => exact .inl h
  | eraseAccount =>
    cases r with
    | manager => exact .inl h
    | account => exact .inr (.inr ⟨rfl, rfl⟩)
  | _ => cases r <;> exact .inl h

theorem Clean.teardown {s : Teardown} (h : Clean s) {timesOut : Bool}
    (hu : s.Undisturbed (.teardown timesOut)) : Clean (s.teardown timesOut) := by
  have horder : InOrder (s.teardown timesOut) := h.order.step (.teardown timesOut)
  rcases teardown_cases s timesOut with hsame | ⟨first, rest, hahead, htake, hwaited⟩
  · rw [hsame]
    exact h
  have hclears : s.Clears timesOut first := hu first (by rw [hahead]; rfl)
  obtain ⟨hthreads, hexited, hfeeding⟩ := take_rest { s with ahead := rest } first
  rw [htake] at horder ⊢
  refine ⟨horder, fun hjoin => ?_, fun r hdead huse => ?_, fun hgone => ?_⟩
  · rw [hexited]
    by_cases hfirst : first = .join
    · subst hfirst
      rcases hwaited rfl with hdone | hgaveUp
      · exact hdone
      · exact hclears hgaveUp
    · have hrest : (({ s with ahead := rest } : Teardown).take first).ahead = rest := by
        cases first <;> rfl
      rw [hrest] at hjoin
      refine h.joined fun hmem => ?_
      rw [hahead, List.mem_cons] at hmem
      exact hmem.elim (fun heq => hfirst heq.symm) hjoin
  · have hused : s.InUse r := by
      unfold InUse at huse
      rw [hthreads] at huse
      exact huse
    rcases dead_take hdead with hold | ⟨rfl, rfl⟩ | ⟨rfl, rfl⟩
    · exact h.threads r hold hused
    · exact hclears.2 hused
    · exact hclears hused
  · by_contra hfeed
    have hfed : s.feeding = true := hfeeding (by simpa using hfeed)
    have hdead : (({ s with ahead := rest } : Teardown).take first).dead .manager = true := hgone
    rcases dead_take hdead with hold | ⟨rfl, -⟩ | ⟨-, hr⟩
    · rw [h.feeder hold] at hfed
      cases hfed
    · rw [hclears.1] at hfed
      cases hfed
    · cases hr

/-- A thread that has made its first access goes on with the others. -/
theorem inUse_set {s : Teardown} {thread : Nat} {a : Access} {rest : List Access} {r : Resource}
    (hthread : s.threads[thread]? = some (a :: rest))
    (h : ({ s with threads := s.threads.set thread rest } : Teardown).InUse r) : s.InUse r := by
  obtain ⟨accesses, hmem, b, hb, hr⟩ := h
  rcases List.mem_or_eq_of_mem_set hmem with hold | heq
  · exact ⟨accesses, hold, b, hb, hr⟩
  · subst heq
    exact ⟨a :: accesses, List.mem_of_getElem? hthread, b, List.mem_cons_of_mem a hb, hr⟩

theorem clean_step (s : Teardown) (e : TeardownEvent) (h : Clean s) (hu : s.Undisturbed e) :
    Clean (s.step e) := by
  cases e with
  | teardown timesOut => exact h.teardown hu
  | start actor =>
    have horder := h.order.step (.start actor)
    simp only [step] at horder ⊢
    split at horder
    · next hstart =>
      rw [if_pos hstart]
      refine ⟨horder, h.joined, fun r hdead huse => ?_, h.feeder⟩
      obtain ⟨thread, hmem, b, hb, hr⟩ := huse
      rcases List.mem_append.mp hmem with hold | hnew
      · exact h.threads r hdead ⟨thread, hold, b, hb, hr⟩
      · obtain rfl := List.mem_singleton.mp hnew
        have hlives := hu hstart b hb r hr
        rw [show s.dead r = true from hdead] at hlives
        cases hlives
    · next hstart =>
      rw [if_neg hstart]
      exact h
  | run thread =>
    simp only [step]
    split
    · next a rest hthread =>
      have hdropped : Clean { s with threads := s.threads.set thread rest } :=
        ⟨⟨h.order.ahead, h.order.destroyed, h.order.closed, h.order.erased, h.order.worker,
          h.order.items⟩, h.joined, fun r hdead huse => h.threads r hdead (inUse_set hthread huse),
          h.feeder⟩
      refine hdropped.perform fun r hr => ?_
      by_contra hlives
      exact h.threads r (eq_true_of_ne_false hlives)
        ⟨a :: rest, List.mem_of_getElem? hthread, a, List.mem_cons_self, hr⟩
    · exact h
  | work =>
    have horder : InOrder (s.step .work) := h.order.step .work
    cases hwork : s.work with
    | cons a rest =>
      have hstep : s.step .work = ({ s with work := rest } : Teardown).perform a := by
        simp only [step, hwork]
      have hlives : ∀ r, (s.step .work).dead r = false := fun r => by
        rw [hstep, dead_perform]
        by_contra hdead
        have hnone := h.work (eq_true_of_ne_false hdead)
        rw [hwork] at hnone
        cases hnone
      refine ⟨horder, ?_, fun r hr => ?_, fun hr => ?_⟩
      · obtain ⟨hahead, hexited, -, -, -⟩ := perform_flags { s with work := rest } a
        rw [hstep, hahead, hexited]
        exact h.joined
      · rw [hlives r] at hr
        cases hr
      · rw [show (s.step .work).destroyed = false from hlives .manager] at hr
        cases hr
    | nil =>
      by_cases hstopping : s.stopping = true
      · have hstep : s.step .work = { s with exited := true } := by
          simp only [step, hwork, if_pos hstopping]
        rw [hstep] at horder ⊢
        exact ⟨horder, fun _ => rfl, h.threads, h.feeder⟩
      · have hstep : s.step .work = s := by
          simp only [step, hwork, if_neg hstopping]
        rw [hstep]
        exact h
  | feed => exact h

theorem safe_of_clean {s : Teardown} (h : Clean s) (e : TeardownEvent) : s.Safe e := by
  intro r hr
  by_contra hdead
  have hgone : s.dead r = true := by simpa using hdead
  cases e with
  | teardown timesOut =>
    simp only [uses] at hr
    split at hr
    · cases hr
    · next hahead =>
      obtain rfl := List.mem_singleton.mp hr
      exact h.order.erased hgone (account_last h.order.ahead hahead)
  | start actor => cases hr
  | run thread =>
    obtain ⟨a, ha, hr⟩ := List.mem_flatMap.mp hr
    obtain ⟨accesses, hthread, hhead⟩ := Option.bind_eq_some_iff.mp (Option.mem_toList.mp ha)
    exact h.threads r hgone ⟨accesses, List.mem_of_getElem? hthread, a, List.mem_of_mem_head? hhead,
      Access.mem_reaches hr⟩
  | work =>
    obtain ⟨a, ha, -⟩ := List.mem_flatMap.mp hr
    have hmem : a ∈ s.work := List.mem_of_mem_head? (Option.mem_toList.mp ha)
    rw [h.work hgone] at hmem
    cases hmem
  | feed =>
    obtain ⟨a, ha, hr⟩ := List.mem_flatMap.mp hr
    simp only [next] at ha
    split at ha
    · next hfeeding =>
      obtain rfl := List.mem_singleton.mp ha
      obtain rfl := List.mem_singleton.mp hr
      rw [h.feeder hgone] at hfeeding
      cases hfeeding
    · cases ha

/-! ## Disturbed runs -/

/-- The probe begins with a call. -/
theorem probeAccesses_eq :
    probeAccesses =
      .call :: .call :: ((List.replicate (probeChunks - 1) [.call, .call]).flatten ++ [.touch, .call]) :=
  rfl

theorem dead_mono {s : Teardown} {r : Resource} (h : s.dead r = true) (e : TeardownEvent) :
    (s.step e).dead r = true := by
  cases e with
  | teardown timesOut =>
    show (s.teardown timesOut).dead r = true
    rcases teardown_cases s timesOut with hsame | ⟨first, rest, -, htake, -⟩
    · rw [hsame]
      exact h
    · rw [htake]
      cases first <;> cases r <;> first | exact h | rfl
  | start actor =>
    simp only [step]
    split <;> exact h
  | run thread =>
    simp only [step]
    split
    · rw [dead_perform]
      exact h
    · exact h
  | work =>
    simp only [step]
    split
    · rw [dead_perform]
      exact h
    · split <;> exact h
  | feed => exact h

/-- A thread keeps what it has still to do, whatever another thread adds. -/
theorem perform_threads (s : Teardown) (a : Access) {thread : Nat} {accesses : List Access}
    (h : s.threads[thread]? = some accesses) : (s.perform a).threads[thread]? = some accesses := by
  have hlt : thread < s.threads.length := (List.getElem?_eq_some_iff.mp h).1
  cases a with
  | spawnProbe =>
    simp only [perform]
    rw [List.getElem?_append_left hlt]
    exact h
  | _ => exact h

theorem feeder_goes_wrong {s : Teardown} (hfeeding : s.feeding = true) (hdestroyed : s.destroyed = true) :
    ∃ more, ¬ Along step Safe s more := by
  refine ⟨[.feed], fun hsafe => ?_⟩
  have hmem : .manager ∈ s.uses .feed := by simp [uses, next, hfeeding, Access.uses]
  have hlives : s.destroyed = false := hsafe.1 .manager hmem
  rw [hlives] at hdestroyed
  cases hdestroyed

/-- A thread that uses at once what is gone. -/
theorem thread_uses {s : Teardown} {thread : Nat} {a : Access} {rest : List Access} {r : Resource}
    (hthread : s.threads[thread]? = some (a :: rest)) (hr : r ∈ a.uses) (hdead : s.dead r = true) :
    ¬ s.Safe (.run thread) := by
  intro hsafe
  have hmem : r ∈ s.uses (.run thread) := by simpa [uses, next, hthread] using hr
  rw [hsafe r hmem] at hdead
  cases hdead

/-- A thread that goes on comes to each of its accesses, and the probe and the feeder that one of them
starts come to theirs. -/
theorem thread_goes_wrong {r : Resource} {a : Access} (hr : r ∈ a.reaches) (pre post : List Access)
    {s : Teardown} {thread : Nat} (hthread : s.threads[thread]? = some (pre ++ a :: post))
    (hdead : s.dead r = true) : ∃ more, ¬ Along step Safe s more := by
  have hlt : thread < s.threads.length := (List.getElem?_eq_some_iff.mp hthread).1
  induction pre generalizing s with
  | nil =>
    by_cases huses : r ∈ a.uses
    · exact ⟨[.run thread], fun hsafe => thread_uses hthread huses hdead hsafe.1⟩
    · have hgone := dead_mono hdead (.run thread)
      have hnext : ∃ more, ¬ Along step Safe (s.step (.run thread)) more := by
        cases a with
        | startFeeder =>
          cases r with
          | account => exact absurd (by decide) huses
          | manager => exact feeder_goes_wrong (by simp [step, hthread, perform]) hgone
        | spawnProbe =>
          cases r with
          | account => exact absurd (by decide) huses
          | manager =>
            have hprobe : (s.step (.run thread)).threads[s.threads.length]? = some probeAccesses := by
              simp [step, hthread, perform, spawns]
            exact ⟨[.run s.threads.length], fun hsafe =>
              thread_uses (hprobe.trans (congrArg some probeAccesses_eq)) (by decide) hgone hsafe.1⟩
        | _ => exact absurd hr huses
      obtain ⟨more, hmore⟩ := hnext
      exact ⟨.run thread :: more, fun hsafe => hmore hsafe.2⟩
  | cons b pre ih =>
    have hnext : (s.step (.run thread)).threads[thread]? = some (pre ++ a :: post) := by
      simp only [step, hthread, List.cons_append]
      exact perform_threads _ b (by simp [hlt])
    obtain ⟨more, hmore⟩ := ih hnext (dead_mono hdead _) (List.getElem?_eq_some_iff.mp hnext).1
    exact ⟨.run thread :: more, fun hsafe => hmore hsafe.2⟩

theorem inUse_goes_wrong {s : Teardown} {r : Resource} (huse : s.InUse r) (hdead : s.dead r = true) :
    ∃ more, ¬ Along step Safe s more := by
  obtain ⟨accesses, hmem, a, ha, hr⟩ := huse
  obtain ⟨thread, hthread⟩ := List.getElem?_of_mem hmem
  obtain ⟨pre, post, rfl⟩ := List.append_of_mem ha
  exact thread_goes_wrong hr pre post hthread hdead

/-- A worker that goes on comes to each of its accesses. -/
theorem work_goes_wrong {r : Resource} {a : Access} (hr : r ∈ a.uses) (pre post : List Access)
    {s : Teardown} (hwork : s.work = pre ++ a :: post) (hdead : s.dead r = true) :
    ∃ more, ¬ Along step Safe s more := by
  induction pre generalizing s post with
  | nil =>
    refine ⟨[.work], fun hsafe => ?_⟩
    have hmem : r ∈ s.uses .work := by simpa [uses, next, hwork] using hr
    rw [hsafe.1 r hmem] at hdead
    cases hdead
  | cons b pre ih =>
    have hnext : ∃ added, (s.step .work).work = pre ++ a :: (post ++ added) := by
      simp only [step, hwork, List.cons_append]
      rcases perform_work { s with work := pre ++ a :: post } b with hsame | ⟨-, item, -, hmore⟩
      · exact ⟨[], by rw [hsame, List.append_nil]⟩
      · exact ⟨item.accesses, by rw [hmore, List.append_assoc, List.cons_append]⟩
    obtain ⟨added, hnext⟩ := hnext
    obtain ⟨more, hmore⟩ := ih _ hnext (dead_mono hdead _)
    exact ⟨.work :: more, fun hsafe => hmore hsafe.2⟩

/-- A push that comes when the join has given up puts an item before the worker that outlives the
manager. -/
theorem gaveUp_goes_wrong {s : Teardown} {rest : List TeardownStep} (hahead : s.ahead = .destroyManager :: rest)
    (hclosed : s.closed = false) (hexited : s.exited = false) : ∃ more, ¬ Along step Safe s more := by
  let push : Actor := .onPush (some (.handleCallMessage 0 1))
  let pushed : Teardown := { s with threads := s.threads ++ [push.accesses] }
  have hpushed : s.step (.start push) = pushed := by
    simp [step, canStart, hclosed, push, pushed]
  have hqueued : ∃ threads, (pushed.step (.run s.threads.length)).step (.run s.threads.length) =
      { s with threads := threads, work := s.work ++ [.touch, .callHandle] } := by
    refine ⟨s.threads ++ [[]], ?_⟩
    simp [step, pushed, push, Actor.accesses, DispatchItem.accesses, perform, spawns, hexited]
  obtain ⟨threads, hqueued⟩ := hqueued
  have hgone : ∃ more, ¬ Along step Safe
      (({ s with threads := threads, work := s.work ++ [.touch, .callHandle] } : Teardown).step
        (.teardown false)) more := by
    refine work_goes_wrong (r := .manager) (a := .callHandle) (by decide) (s.work ++ [.touch]) [] ?_ ?_
    · simp [step, teardown, take, hahead]
    · simp [step, teardown, take, hahead, dead]
  obtain ⟨more, hmore⟩ := hgone
  refine ⟨.start push :: .run s.threads.length :: .run s.threads.length :: .teardown false :: more, ?_⟩
  intro hsafe
  refine hmore ?_
  rw [← hqueued, ← hpushed]
  exact hsafe.2.2.2.2

/-- What comes after the join. -/
theorem after_join {rest : List TeardownStep} (h : .join :: rest <:+ TeardownStep.teardownAccount) :
    rest.head? = some .destroyManager ∧ .closeSocket ∈ rest :=
  forall_ahead (p := fun l => l.head? = some .join →
    l.tail.head? = some .destroyManager ∧ TeardownStep.closeSocket ∈ l.tail) (by decide) h rfl

/-- The condition leaves no safe run out for good. -/
theorem disturbed_goes_wrong {s : Teardown} {e : TeardownEvent} (horder : InOrder s)
    (h : ¬ s.Undisturbed e) : ∃ more, ¬ Along step Safe (s.step e) more := by
  cases e with
  | teardown timesOut =>
    simp only [Undisturbed, not_forall] at h
    obtain ⟨first, hfirst, hclears⟩ := h
    obtain ⟨rest, hahead⟩ := List.head?_eq_some_iff.mp (Option.mem_def.mp hfirst)
    have hsuffix : first :: rest <:+ TeardownStep.teardownAccount := hahead ▸ horder.ahead
    cases first with
    | join =>
      obtain ⟨htimesOut, hexited⟩ := Classical.not_imp.mp hclears
      obtain ⟨hdestroy, hclose⟩ := after_join hsuffix
      obtain ⟨later, rfl⟩ := List.head?_eq_some_iff.mp hdestroy
      have hstep : s.step (.teardown timesOut) = { s with ahead := .destroyManager :: later } := by
        simp [step, teardown, take, hahead, htimesOut]
      rw [hstep]
      refine gaveUp_goes_wrong rfl ?_ (by simpa using hexited)
      by_contra hclosed
      exact horder.closed (eq_true_of_ne_false hclosed) (hahead ▸ List.mem_cons_of_mem _ hclose)
    | destroyManager =>
      have hstep : s.step (.teardown timesOut) = { s with ahead := rest, destroyed := true } := by
        simp [step, teardown, take, hahead]
      rw [hstep]
      rcases not_and_or.mp hclears with hfeeding | huse
      · exact feeder_goes_wrong (by simpa using hfeeding) rfl
      · exact inUse_goes_wrong (r := .manager) (not_not.mp huse) rfl
    | eraseAccount =>
      have hstep : s.step (.teardown timesOut) =
          { s with ahead := rest, erased := true, feeding := false } := by
        simp [step, teardown, take, hahead]
      rw [hstep]
      exact inUse_goes_wrong (r := .account) (not_not.mp hclears) rfl
    | _ => exact absurd trivial hclears
  | start actor =>
    simp only [Undisturbed, not_forall] at h
    obtain ⟨hstart, a, ha, r, hr, hdead⟩ := h
    have hstep : s.step (.start actor) = { s with threads := s.threads ++ [actor.accesses] } := by
      simp only [step, if_pos hstart]
    rw [hstep]
    refine inUse_goes_wrong ⟨actor.accesses, List.mem_append_right _ List.mem_cons_self, a, ha, hr⟩ ?_
    exact eq_true_of_ne_false hdead
  | run thread => exact absurd trivial h
  | work => exact absurd trivial h
  | feed => exact absurd trivial h

end Teardown

/-- In every run in which the join does not give up and nobody is in the way when the call manager and
the account go, whatever the actors do and in whichever order: no call is made with the call manager once
it is destroyed, and no step uses the account once it is erased. After any other step the actors can go
on to do so. -/
theorem teardown_safe_along (events : List TeardownEvent) :
    (Along Teardown.step Teardown.Undisturbed {} events → Along Teardown.step Teardown.Safe {} events) ∧
      ∀ e, ¬ (Runs.final Teardown.step {} events).Undisturbed e →
        ∃ more, ¬ Along Teardown.step Teardown.Safe {} (events ++ e :: more) := by
  constructor
  · intro h
    exact h.imp_of_inv Teardown.clean_step (fun _ e hclean _ => Teardown.safe_of_clean hclean e)
      Teardown.clean_start
  · intro e he
    have horder : (Runs.final Teardown.step {} events).InOrder :=
      (Runs.Always.of_keep (fun _ e h => h.step e) Teardown.inOrder_start).last
    obtain ⟨more, hmore⟩ := Teardown.disturbed_goes_wrong horder he
    exact ⟨more, fun hsafe => hmore (Runs.along_append.mp hsafe).2.2⟩

/-- A call message is handled while the join waits, an INVITE comes to nothing before it, and a push is
dropped after it. -/
def quietTeardown : List TeardownEvent :=
  [.start (.onPush (some (.handleCallMessage 1 0))), .run 0, .run 0, .work,
    .start (.onIncomingCall .unresolved), .run 1, .run 1, .run 1, .run 1, .run 1, .run 1,
    .teardown false, .teardown false, .teardown false, .teardown false, .teardown false,
    .teardown false, .work, .work, .teardown false, .work, .teardown false, .teardown false,
    .start (.onPush none), .run 2, .teardown false, .teardown false, .teardown false, .teardown false]

theorem quietTeardown_safe : Along Teardown.step Teardown.Safe {} quietTeardown :=
  (teardown_safe_along quietTeardown).1 (by decide)

/-- An INVITE that arrives when the call manager is gone and the SIP account still registered. -/
theorem invite_calls_destroyed_manager :
    ¬ Along Teardown.step Teardown.Safe {}
      (List.replicate 5 (.teardown false) ++ [.work] ++ List.replicate 2 (.teardown false) ++
        .start (.onIncomingCall (.started true)) :: List.replicate 5 (.run 0)) := by
  decide

end Signal2sip
