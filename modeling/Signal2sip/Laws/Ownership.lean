import Signal2sip.Daemon.State
import Mathlib.Logic.Function.Basic

/-!
# Objects and references

What is left of the daemon when only objects and references are looked at: which accounts and
`BridgeAccount`s exist, which legs do, what each refers to, and which handlers wait for a target. An
account owns its bridge and its legs; a leg refers to a bridge, a `BridgeAccount` and an account, and
owns none of them.

`Alive` says that no leg refers to something that is gone. `Owned` is the discipline that keeps it
so: every leg is owned by the account it refers to, and its bridge is that account's. The operations
below are the ways in which the program makes and destroys objects.

- `Owned.openLeg`, `Owned.dropLeg`, `Owned.dropBridge`, …: an operation at the right moment keeps the
  discipline;
- `not_alive_openLeg`, `not_alive_dropBridge`, `not_alive_dropSip`: at a wrong moment it leaves a leg
  with a dangling reference.
-/

namespace Signal2sip

/-- What an account refers to. -/
@[ext] structure AccountRefs where
  serial : Nat
  bridge : Option Nat
  slot : LegKind → Option Nat

/-- What a leg refers to. -/
structure LegRefs where
  kind : LegKind
  acc : ObjPtr
  bridge : Nat
  acct : ObjPtr

@[ext] structure Objects where
  account : String → Option AccountRefs
  sip : String → Option Nat
  leg : Nat → Option LegRefs
  waiting : Nat → ObjPtr → Prop
  next : Nat

namespace Objects

/-! ## Operations -/

/-- Change an account; nothing when there is none of the name. -/
def mapAccount (name : String) (f : AccountRefs → AccountRefs) (o : Objects) : Objects :=
  { o with account := Function.update o.account name ((o.account name).map f) }

/-- A new bridge and a new leg that refers to it. They are the account's, if the pointer leads to
one. -/
def openLeg (kind : LegKind) (acc acct : ObjPtr) (o : Objects) : Objects :=
  { o.mapAccount acct.name fun a =>
      if a.serial = acct.serial then
        { a with bridge := some o.next, slot := Function.update a.slot kind (some (o.next + 1)) }
      else a with
    leg := Function.update o.leg (o.next + 1) (some ⟨kind, acc, o.next, acct⟩)
    next := o.next + 2 }

/-- Delete a leg, and empty the slot that holds it. -/
def dropLeg (kind : LegKind) (name : String) (leg : Nat) (o : Objects) : Objects :=
  { o.mapAccount name fun a => { a with slot := Function.update a.slot kind none } with
    leg := Function.update o.leg leg none }

def dropBridge (name : String) (o : Objects) : Objects :=
  o.mapAccount name fun a => { a with bridge := none }

def wait (leg : Nat) (acct : ObjPtr) (o : Objects) : Objects :=
  { o with waiting := fun leg' acct' => (leg' = leg ∧ acct' = acct) ∨ o.waiting leg' acct' }

def resume (leg : Nat) (o : Objects) : Objects :=
  { o with waiting := fun leg' acct' => leg' ≠ leg ∧ o.waiting leg' acct' }

/-- Serial numbers are used up. -/
def grow (next : Nat) (o : Objects) : Objects := { o with next := next }

/-- A new account without legs. -/
def addAccount (name : String) (next : Nat) (o : Objects) : Objects :=
  { o with account := Function.update o.account name (some ⟨o.next, none, fun _ => none⟩)
           next := next }

def addSip (name : String) (serial : Nat) (o : Objects) : Objects :=
  { o with sip := Function.update o.sip name (some serial) }

def dropSip (name : String) (o : Objects) : Objects :=
  { o with sip := Function.update o.sip name none }

def dropAccount (name : String) (o : Objects) : Objects :=
  { o with account := Function.update o.account name none }

/-! ## Dangling references -/

/-- The pointer leads to the account. -/
def At (o : Objects) (p : ObjPtr) (a : AccountRefs) : Prop :=
  o.account p.name = some a ∧ a.serial = p.serial

/-- The bridge is some account's. -/
def HasBridge (o : Objects) (bridge : Nat) : Prop :=
  ∃ name a, o.account name = some a ∧ a.bridge = some bridge

/-- No leg refers to something that is gone. -/
def Alive (o : Objects) : Prop :=
  ∀ leg l, o.leg leg = some l →
    o.HasBridge l.bridge ∧ o.sip l.acc.name = some l.acc.serial ∧ ∃ a, o.At l.acct a

/-- Legs, bridges and waiting handlers belong to the accounts they refer to. -/
structure Owned (o : Objects) : Prop where
  /-- A leg sits in a slot of its account, and its bridge is the account's. -/
  owner : ∀ leg l, o.leg leg = some l →
    ∃ a, o.At l.acct a ∧ a.slot l.kind = some leg ∧ a.bridge = some l.bridge
  /-- A leg's `BridgeAccount` exists. -/
  acc : ∀ leg l, o.leg leg = some l → o.sip l.acc.name = some l.acc.serial
  /-- A slot holds a leg of its own. -/
  slot : ∀ name a kind leg, o.account name = some a → a.slot kind = some leg →
    ∃ l, o.leg leg = some l ∧ l.kind = kind ∧ l.acct = ⟨name, a.serial⟩
  /-- An account holds one leg at a time. -/
  one : ∀ name a, o.account name = some a →
    a.slot .bridgeCall = none ∨ a.slot .incomingSipCall = none
  /-- A bridge is one account's. -/
  bridge : ∀ name name' a a' b, o.account name = some a → o.account name' = some a' →
    a.bridge = some b → a'.bridge = some b → name = name'
  /-- A `BridgeAccount` is there with its account. -/
  sip : ∀ name serial, o.sip name = some serial → ∃ a, o.account name = some a
  /-- Who waits for a target has its leg. -/
  waiting : ∀ leg p a, o.waiting leg p → o.At p a → a.slot .incomingSipCall = some leg
  madeAccount : ∀ name a, o.account name = some a → a.serial < o.next
  madeBridge : ∀ name a b, o.account name = some a → a.bridge = some b → b < o.next
  madeLeg : ∀ leg l, o.leg leg = some l → leg < o.next
  madeWaiting : ∀ leg p, o.waiting leg p → p.serial < o.next

theorem Owned.alive {o : Objects} (h : o.Owned) : o.Alive := by
  intro leg l hl
  obtain ⟨a, hat, -, hbridge⟩ := h.owner leg l hl
  exact ⟨⟨_, a, hat.1, hbridge⟩, h.acc leg l hl, a, hat⟩

/-! ## Operations that keep the discipline -/

section Keep

variable {o : Objects} {name : String} {a : AccountRefs}

/-- An entry that is taken out is not there any more; the others are as before. -/
theorem update_none_some {κ α : Type} [DecidableEq κ] {f : κ → Option α} {k k' : κ} {x : α}
    (h : Function.update f k none k' = some x) : k' ≠ k ∧ f k' = some x := by
  by_cases heq : k' = k
  · rw [heq, Function.update_self] at h
    cases h
  · rw [Function.update_of_ne heq] at h
    exact ⟨heq, h⟩

/-- All that differs in the accounts is one of them. -/
structure Replaces (o o' : Objects) (name : String) (a' : AccountRefs) : Prop where
  self : o'.account name = some a'
  other : ∀ name', name' ≠ name → o'.account name' = o.account name'

theorem Replaces.cases {o' : Objects} {a' : AccountRefs} (h : Replaces o o' name a')
    {name' : String} {b : AccountRefs} (hb : o'.account name' = some b) :
    (name' = name ∧ b = a') ∨ (name' ≠ name ∧ o.account name' = some b) := by
  by_cases hname : name' = name
  · subst hname
    exact .inl ⟨rfl, Option.some.inj (hb.symm.trans h.self)⟩
  · exact .inr ⟨hname, (h.other name' hname).symm.trans hb⟩

theorem Replaces.exists {o' : Objects} {a' : AccountRefs} (h : Replaces o o' name a')
    {name' : String} {b : AccountRefs} (hb : o.account name' = some b) :
    ∃ b', o'.account name' = some b' := by
  by_cases hname : name' = name
  · subst hname
    exact ⟨a', h.self⟩
  · exact ⟨b, (h.other name' hname).trans hb⟩

/-- What holds of the new account and of all others holds of every account. -/
theorem Replaces.forall {o' : Objects} {a' : AccountRefs} (h : Replaces o o' name a')
    {P : String → AccountRefs → Prop} (hself : P name a')
    (hothers : ∀ name' b, o.account name' = some b → P name' b) :
    ∀ name' b, o'.account name' = some b → P name' b := by
  intro name' b hb
  rcases h.cases hb with ⟨rfl, rfl⟩ | ⟨-, hb⟩
  · exact hself
  · exact hothers name' b hb

/-- A bridge stays one account's if the new account's bridge is nobody else's. -/
theorem Replaces.bridge {o' : Objects} {a' : AccountRefs} (hrep : Replaces o o' name a')
    (h : o.Owned) (hown : ∀ name' b x, name' ≠ name → o.account name' = some b →
      a'.bridge = some x → b.bridge ≠ some x) :
    ∀ name₁ name₂ b₁ b₂ x, o'.account name₁ = some b₁ → o'.account name₂ = some b₂ →
      b₁.bridge = some x → b₂.bridge = some x → name₁ = name₂ := by
  intro name₁ name₂ b₁ b₂ x h₁ h₂ hx₁ hx₂
  rcases hrep.cases h₁ with ⟨hname₁, rfl⟩ | ⟨hname₁, hold₁⟩
  · rcases hrep.cases h₂ with ⟨hname₂, -⟩ | ⟨hname₂, hold₂⟩
    · exact hname₁.trans hname₂.symm
    · exact absurd hx₂ (hown _ _ x hname₂ hold₂ hx₁)
  · rcases hrep.cases h₂ with ⟨-, rfl⟩ | ⟨-, hold₂⟩
    · exact absurd hx₁ (hown _ _ x hname₁ hold₁ hx₂)
    · exact h.bridge _ _ _ _ x hold₁ hold₂ hx₁ hx₂

theorem Replaces.sip {o' : Objects} {a' : AccountRefs} (hrep : Replaces o o' name a')
    (h : o.Owned) : ∀ name' serial, o.sip name' = some serial → ∃ b, o'.account name' = some b := by
  intro name' serial hsip
  obtain ⟨b, hb⟩ := h.sip name' serial hsip
  exact hrep.exists hb

theorem mapAccount_replaces (f : AccountRefs → AccountRefs) (ha : o.account name = some a) :
    Replaces o (o.mapAccount name f) name (f a) where
  self := by
    show Function.update o.account name ((o.account name).map f) name = _
    rw [Function.update_self, ha, Option.map_some]
  other := fun _ hname => Function.update_of_ne hname _ _

/-- Two accounts that one pointer leads to are one. -/
theorem At.unique {p : ObjPtr} {b : AccountRefs} (ha : o.At p a) (hb : o.At p b) : a = b :=
  Option.some.inj (ha.1.symm.trans hb.1)

theorem Owned.dropLeg {kind : LegKind} {leg : Nat} (h : o.Owned) (ha : o.account name = some a)
    (hleg : a.slot kind = some leg)
    (hwait : kind = .incomingSipCall → ∀ p, o.At p a → ∀ leg, ¬ o.waiting leg p) :
    (o.dropLeg kind name leg).Owned := by
  obtain ⟨l, hl, hkind, hacct⟩ := h.slot name a kind leg ha hleg
  have hrep : Replaces o (o.dropLeg kind name leg) name
      { a with slot := Function.update a.slot kind none } :=
    ⟨(mapAccount_replaces _ ha).self, (mapAccount_replaces _ ha).other⟩
  have hlegs : ∀ {k l'}, (o.dropLeg kind name leg).leg k = some l' →
      k ≠ leg ∧ o.leg k = some l' := by
    intro k l' hk
    exact update_none_some hk
  have hkeep : ∀ {k l'}, k ≠ leg → o.leg k = some l' →
      (o.dropLeg kind name leg).leg k = some l' :=
    fun hne hk => (Function.update_of_ne hne _ _).trans hk
  constructor
  case owner =>
    intro k l' hk
    obtain ⟨hne, hk⟩ := hlegs hk
    obtain ⟨b, hat, hslot, hbridge⟩ := h.owner k l' hk
    by_cases hname : l'.acct.name = name
    · obtain rfl : b = a := Option.some.inj (hat.1.symm.trans (hname ▸ ha))
      have hother : l'.kind ≠ kind := by
        rintro rfl
        exact hne (Option.some.inj (hslot.symm.trans hleg))
      refine ⟨_, ⟨(congrArg _ hname).trans hrep.self, hat.2⟩, ?_, hbridge⟩
      exact (Function.update_of_ne hother _ _).trans hslot
    · exact ⟨b, ⟨(hrep.other _ hname).trans hat.1, hat.2⟩, hslot, hbridge⟩
  case acc => exact fun k l' hk => h.acc k l' (hlegs hk).2
  case slot =>
    intro name' b kind' x hb hx
    rcases hrep.cases hb with ⟨rfl, rfl⟩ | ⟨hname, hb⟩
    · obtain ⟨hother, hx⟩ := update_none_some hx
      obtain ⟨l', hl', hkind', hacct'⟩ := h.slot name' a kind' x ha hx
      refine ⟨l', hkeep ?_ hl', hkind', hacct'⟩
      rintro rfl
      obtain rfl := Option.some.inj (hl.symm.trans hl')
      exact hother (hkind'.symm.trans hkind)
    · obtain ⟨l', hl', hkind', hacct'⟩ := h.slot name' b kind' x hb hx
      refine ⟨l', hkeep ?_ hl', hkind', hacct'⟩
      rintro rfl
      obtain rfl := Option.some.inj (hl.symm.trans hl')
      rw [hacct] at hacct'
      exact hname (congrArg ObjPtr.name hacct').symm
  case one =>
    have hnone : ∀ kind', a.slot kind' = none → Function.update a.slot kind none kind' = none := by
      intro kind' hk
      rw [Function.update_apply]
      split
      · rfl
      · exact hk
    exact hrep.forall ((h.one name a ha).imp (hnone _) (hnone _)) h.one
  case bridge =>
    apply hrep.bridge h
    intro name' b x hname hb hx hx'
    exact hname (h.bridge _ _ _ _ x hb ha hx' hx)
  case sip => exact hrep.sip h
  case waiting =>
    rintro k p b hw ⟨hb, hserial⟩
    rcases hrep.cases hb with ⟨hname, rfl⟩ | ⟨-, hb⟩
    · have hat : o.At p a := ⟨hname ▸ ha, hserial⟩
      cases kind with
      | incomingSipCall => exact absurd hw (hwait rfl p hat k)
      | bridgeCall =>
        have hsame : Function.update a.slot .bridgeCall none .incomingSipCall =
            a.slot .incomingSipCall := Function.update_of_ne (by decide) _ _
        exact hsame.trans (h.waiting k p a hw hat)
    · exact h.waiting k p b hw ⟨hb, hserial⟩
  case madeAccount => exact hrep.forall (h.madeAccount name a ha) h.madeAccount
  case madeBridge =>
    intro name' b x hb hx
    rcases hrep.cases hb with ⟨-, rfl⟩ | ⟨-, hb⟩
    · exact h.madeBridge name a x ha hx
    · exact h.madeBridge name' b x hb hx
  case madeLeg => exact fun k l' hk => h.madeLeg k l' (hlegs hk).2
  case madeWaiting => exact h.madeWaiting

theorem Owned.dropBridge (h : o.Owned) (ha : o.account name = some a)
    (hnone : ∀ kind, a.slot kind = none) : (o.dropBridge name).Owned := by
  have hrep : Replaces o (o.dropBridge name) name { a with bridge := none } :=
    mapAccount_replaces _ ha
  constructor
  case owner =>
    intro k l hk
    obtain ⟨b, hat, hslot, hbridge⟩ := h.owner k l hk
    have hname : l.acct.name ≠ name := by
      intro hname
      obtain rfl : b = a := Option.some.inj (hat.1.symm.trans (hname ▸ ha))
      rw [hnone] at hslot
      cases hslot
    exact ⟨b, ⟨(hrep.other _ hname).trans hat.1, hat.2⟩, hslot, hbridge⟩
  case acc => exact h.acc
  case slot =>
    intro name' b kind x hb hx
    rcases hrep.cases hb with ⟨-, rfl⟩ | ⟨-, hb⟩
    · rw [hnone] at hx
      cases hx
    · exact h.slot name' b kind x hb hx
  case one => exact hrep.forall (.inl (hnone _)) h.one
  case bridge => exact hrep.bridge h fun name' b x _ _ hx => by cases hx
  case sip => exact hrep.sip h
  case waiting =>
    rintro k p b hw ⟨hb, hserial⟩
    rcases hrep.cases hb with ⟨hname, rfl⟩ | ⟨-, hb⟩
    · exact h.waiting k p a hw ⟨hname ▸ ha, hserial⟩
    · exact h.waiting k p b hw ⟨hb, hserial⟩
  case madeAccount => exact hrep.forall (h.madeAccount name a ha) h.madeAccount
  case madeBridge =>
    intro name' b x hb hx
    rcases hrep.cases hb with ⟨-, rfl⟩ | ⟨-, hb⟩
    · cases hx
    · exact h.madeBridge name' b x hb hx
  case madeLeg => exact h.madeLeg
  case madeWaiting => exact h.madeWaiting

theorem openLeg_replaces (kind : LegKind) (acc : ObjPtr) {acct : ObjPtr} (hat : o.At acct a) :
    Replaces o (o.openLeg kind acc acct) acct.name
      { a with bridge := some o.next, slot := Function.update a.slot kind (some (o.next + 1)) } := by
  have hrep := mapAccount_replaces (fun a =>
    if a.serial = acct.serial then
      { a with bridge := some o.next, slot := Function.update a.slot kind (some (o.next + 1)) }
    else a) hat.1
  rw [if_pos hat.2] at hrep
  exact ⟨hrep.self, hrep.other⟩

theorem openLeg_leg_cases {kind : LegKind} {acc acct : ObjPtr} {k : Nat} {l : LegRefs}
    (h : (o.openLeg kind acc acct).leg k = some l) :
    (k = o.next + 1 ∧ l = ⟨kind, acc, o.next, acct⟩) ∨ (k ≠ o.next + 1 ∧ o.leg k = some l) := by
  have hupdate : Function.update o.leg (o.next + 1) (some ⟨kind, acc, o.next, acct⟩) k = some l := h
  by_cases heq : k = o.next + 1
  · rw [heq, Function.update_self] at hupdate
    exact .inl ⟨heq, (Option.some.inj hupdate).symm⟩
  · rw [Function.update_of_ne heq] at hupdate
    exact .inr ⟨heq, hupdate⟩

theorem openLeg_leg_self {kind : LegKind} {acc acct : ObjPtr} :
    (o.openLeg kind acc acct).leg (o.next + 1) = some ⟨kind, acc, o.next, acct⟩ :=
  Function.update_self _ _ _

theorem openLeg_leg_old {kind : LegKind} {acc acct : ObjPtr} {k : Nat} {l : LegRefs}
    (hk : o.leg k = some l) (hmade : k < o.next) : (o.openLeg kind acc acct).leg k = some l := by
  have hne : k ≠ o.next + 1 := by omega
  exact (Function.update_of_ne hne _ _).trans hk

theorem Owned.openLeg {kind : LegKind} {acc acct : ObjPtr} (h : o.Owned) (hat : o.At acct a)
    (hnone : ∀ kind, a.slot kind = none) (hacc : o.sip acc.name = some acc.serial) :
    (o.openLeg kind acc acct).Owned := by
  have hrep := openLeg_replaces kind acc hat
  -- the account had no leg, so no leg is for it and nobody waits for it
  have hstranger : ∀ k l, o.leg k = some l → l.acct.name ≠ acct.name := by
    intro k l hk hname
    obtain ⟨b, hb, hslot, -⟩ := h.owner k l hk
    obtain rfl : b = a := Option.some.inj (hb.1.symm.trans (hname ▸ hat.1))
    rw [hnone] at hslot
    cases hslot
  constructor
  case owner =>
    intro k l hk
    rcases openLeg_leg_cases hk with ⟨rfl, rfl⟩ | ⟨-, hk⟩
    · exact ⟨_, ⟨hrep.self, hat.2⟩, Function.update_self _ _ _, rfl⟩
    · obtain ⟨b, hb, hslot, hbridge⟩ := h.owner k l hk
      exact ⟨b, ⟨(hrep.other _ (hstranger k l hk)).trans hb.1, hb.2⟩, hslot, hbridge⟩
  case acc =>
    intro k l hk
    rcases openLeg_leg_cases hk with ⟨-, rfl⟩ | ⟨-, hk⟩
    · exact hacc
    · exact h.acc k l hk
  case slot =>
    intro name' b kind' x hb hx
    rcases hrep.cases hb with ⟨rfl, rfl⟩ | ⟨-, hb⟩
    · by_cases hkind : kind' = kind
      · subst hkind
        have hslot : Function.update a.slot kind' (some (o.next + 1)) kind' = some x := hx
        rw [Function.update_self] at hslot
        obtain rfl := Option.some.inj hslot
        refine ⟨_, openLeg_leg_self, rfl, ?_⟩
        rw [hat.2]
      · have hslot : Function.update a.slot kind (some (o.next + 1)) kind' = some x := hx
        rw [Function.update_of_ne hkind, hnone] at hslot
        cases hslot
    · obtain ⟨l, hl, hkind, hacct⟩ := h.slot name' b kind' x hb hx
      exact ⟨l, openLeg_leg_old hl (h.madeLeg x l hl), hkind, hacct⟩
  case one =>
    have hother : ∀ kind', kind' ≠ kind →
        Function.update a.slot kind (some (o.next + 1)) kind' = none :=
      fun kind' hne => (Function.update_of_ne hne _ _).trans (hnone kind')
    apply hrep.forall _ h.one
    cases kind with
    | bridgeCall => exact .inr (hother .incomingSipCall (by decide))
    | incomingSipCall => exact .inl (hother .bridgeCall (by decide))
  case bridge =>
    -- the bridge is new
    apply hrep.bridge h
    intro name' b x _ hb hx hx'
    have hlt := h.madeBridge name' b x hb hx'
    obtain rfl := Option.some.inj hx
    omega
  case sip => exact hrep.sip h
  case waiting =>
    rintro k p b hw ⟨hb, hserial⟩
    rcases hrep.cases hb with ⟨hname, rfl⟩ | ⟨-, hb⟩
    · have hslot := h.waiting k p a hw ⟨hname ▸ hat.1, hserial⟩
      rw [hnone] at hslot
      cases hslot
    · exact h.waiting k p b hw ⟨hb, hserial⟩
  case madeAccount =>
    refine hrep.forall (Nat.lt_add_right 2 (h.madeAccount _ a hat.1)) ?_
    intro name' b hb
    exact Nat.lt_add_right 2 (h.madeAccount name' b hb)
  case madeBridge =>
    intro name' b x hb hx
    rcases hrep.cases hb with ⟨-, rfl⟩ | ⟨-, hb⟩
    · obtain rfl := Option.some.inj hx
      exact Nat.lt_add_of_pos_right (by decide)
    · exact Nat.lt_add_right 2 (h.madeBridge name' b x hb hx)
  case madeLeg =>
    intro k l hk
    rcases openLeg_leg_cases hk with ⟨rfl, -⟩ | ⟨-, hk⟩
    · exact Nat.lt_succ_self _
    · exact Nat.lt_add_right 2 (h.madeLeg k l hk)
  case madeWaiting => exact fun k p hw => Nat.lt_add_right 2 (h.madeWaiting k p hw)

theorem Owned.wait {leg : Nat} {p : ObjPtr} (h : o.Owned) (hat : o.At p a)
    (hslot : a.slot .incomingSipCall = some leg) : (o.wait leg p).Owned where
  owner := h.owner
  acc := h.acc
  slot := h.slot
  one := h.one
  bridge := h.bridge
  sip := h.sip
  waiting := by
    rintro k p' b (⟨rfl, rfl⟩ | hw) hb
    · rw [hb.unique hat]
      exact hslot
    · exact h.waiting k p' b hw hb
  madeAccount := h.madeAccount
  madeBridge := h.madeBridge
  madeLeg := h.madeLeg
  madeWaiting := by
    rintro k p' (⟨-, rfl⟩ | hw)
    · rw [← hat.2]
      exact h.madeAccount _ a hat.1
    · exact h.madeWaiting k p' hw

theorem Owned.resume (h : o.Owned) (leg : Nat) : (o.resume leg).Owned where
  owner := h.owner
  acc := h.acc
  slot := h.slot
  one := h.one
  bridge := h.bridge
  sip := h.sip
  waiting := fun k p b hw hb => h.waiting k p b hw.2 hb
  madeAccount := h.madeAccount
  madeBridge := h.madeBridge
  madeLeg := h.madeLeg
  madeWaiting := fun k p hw => h.madeWaiting k p hw.2

theorem Owned.grow {next : Nat} (h : o.Owned) (hle : o.next ≤ next) : (o.grow next).Owned where
  owner := h.owner
  acc := h.acc
  slot := h.slot
  one := h.one
  bridge := h.bridge
  sip := h.sip
  waiting := h.waiting
  madeAccount := fun name a ha => Nat.lt_of_lt_of_le (h.madeAccount name a ha) hle
  madeBridge := fun name a b ha hb => Nat.lt_of_lt_of_le (h.madeBridge name a b ha hb) hle
  madeLeg := fun k l hk => Nat.lt_of_lt_of_le (h.madeLeg k l hk) hle
  madeWaiting := fun k p hw => Nat.lt_of_lt_of_le (h.madeWaiting k p hw) hle

theorem Owned.addAccount {next : Nat} (h : o.Owned) (hnew : o.account name = none)
    (hlt : o.next < next) : (o.addAccount name next).Owned := by
  have hrep : Replaces o (o.addAccount name next) name ⟨o.next, none, fun _ => none⟩ :=
    ⟨Function.update_self _ _ _, fun _ hname => Function.update_of_ne hname _ _⟩
  constructor
  case owner =>
    intro k l hk
    obtain ⟨b, hb, hslot, hbridge⟩ := h.owner k l hk
    have hname : l.acct.name ≠ name := by
      intro hname
      rw [← hname, hb.1] at hnew
      cases hnew
    exact ⟨b, ⟨(hrep.other _ hname).trans hb.1, hb.2⟩, hslot, hbridge⟩
  case acc => exact h.acc
  case slot =>
    intro name' b kind x hb hx
    rcases hrep.cases hb with ⟨-, rfl⟩ | ⟨-, hb⟩
    · cases hx
    · exact h.slot name' b kind x hb hx
  case one => exact hrep.forall (.inl rfl) h.one
  case bridge => exact hrep.bridge h fun name' b x _ _ hx => by cases hx
  case sip => exact hrep.sip h
  case waiting =>
    rintro k p b hw ⟨hb, hserial⟩
    rcases hrep.cases hb with ⟨-, rfl⟩ | ⟨-, hb⟩
    · -- the new account's serial is newer than that of any account waited for
      have hlt := h.madeWaiting k p hw
      have heq : o.next = p.serial := hserial
      omega
    · exact h.waiting k p b hw ⟨hb, hserial⟩
  case madeAccount =>
    refine hrep.forall hlt ?_
    intro name' b hb
    exact Nat.lt_trans (h.madeAccount name' b hb) hlt
  case madeBridge =>
    intro name' b x hb hx
    rcases hrep.cases hb with ⟨-, rfl⟩ | ⟨-, hb⟩
    · cases hx
    · exact Nat.lt_trans (h.madeBridge name' b x hb hx) hlt
  case madeLeg => exact fun k l hk => Nat.lt_trans (h.madeLeg k l hk) hlt
  case madeWaiting => exact fun k p hw => Nat.lt_trans (h.madeWaiting k p hw) hlt

theorem Owned.addSip (h : o.Owned) (hnew : o.sip name = none) (ha : o.account name = some a)
    (serial : Nat) : (o.addSip name serial).Owned where
  owner := h.owner
  acc := by
    intro k l hk
    have hacc := h.acc k l hk
    have hname : l.acc.name ≠ name := by
      intro hname
      rw [← hname, hacc] at hnew
      cases hnew
    exact (Function.update_of_ne hname _ _).trans hacc
  slot := h.slot
  one := h.one
  bridge := h.bridge
  sip := by
    intro name' serial' hsip
    by_cases hname : name' = name
    · exact ⟨a, hname ▸ ha⟩
    · exact h.sip name' serial' ((Function.update_of_ne hname _ _).symm.trans hsip)
  waiting := h.waiting
  madeAccount := h.madeAccount
  madeBridge := h.madeBridge
  madeLeg := h.madeLeg
  madeWaiting := h.madeWaiting

theorem dropSip_sip {name' : String} {serial : Nat}
    (h : (o.dropSip name).sip name' = some serial) : name' ≠ name ∧ o.sip name' = some serial :=
  update_none_some h

theorem Owned.dropSip (h : o.Owned) (hunused : ∀ k l, o.leg k = some l → l.acc.name ≠ name) :
    (o.dropSip name).Owned where
  owner := h.owner
  acc := fun k l hk => (Function.update_of_ne (hunused k l hk) _ _).trans (h.acc k l hk)
  slot := h.slot
  one := h.one
  bridge := h.bridge
  sip := fun name' serial hsip => h.sip name' serial (dropSip_sip hsip).2
  waiting := h.waiting
  madeAccount := h.madeAccount
  madeBridge := h.madeBridge
  madeLeg := h.madeLeg
  madeWaiting := h.madeWaiting

theorem Owned.dropAccount (h : o.Owned) (hunused : ∀ k l, o.leg k = some l → l.acct.name ≠ name)
    (hsip : o.sip name = none) : (o.dropAccount name).Owned := by
  have hcases : ∀ {name' b}, (o.dropAccount name).account name' = some b →
      name' ≠ name ∧ o.account name' = some b := by
    intro name' b hb
    exact update_none_some hb
  have hother : ∀ name', name' ≠ name → (o.dropAccount name).account name' = o.account name' :=
    fun _ hname => Function.update_of_ne hname _ _
  constructor
  case owner =>
    intro k l hk
    obtain ⟨b, hb, hslot, hbridge⟩ := h.owner k l hk
    exact ⟨b, ⟨(hother _ (hunused k l hk)).trans hb.1, hb.2⟩, hslot, hbridge⟩
  case acc => exact h.acc
  case slot => exact fun name' b kind x hb hx => h.slot name' b kind x (hcases hb).2 hx
  case one => exact fun name' b hb => h.one name' b (hcases hb).2
  case bridge =>
    exact fun _ _ _ _ x h₁ h₂ hx₁ hx₂ => h.bridge _ _ _ _ x (hcases h₁).2 (hcases h₂).2 hx₁ hx₂
  case sip =>
    intro name' serial hserial
    obtain ⟨b, hb⟩ := h.sip name' serial hserial
    refine ⟨b, (hother name' ?_).trans hb⟩
    rintro rfl
    cases hsip.symm.trans hserial
  case waiting => exact fun k p b hw hb => h.waiting k p b hw ⟨(hcases hb.1).2, hb.2⟩
  case madeAccount => exact fun name' b hb => h.madeAccount name' b (hcases hb).2
  case madeBridge => exact fun name' b x hb hx => h.madeBridge name' b x (hcases hb).2 hx
  case madeLeg => exact h.madeLeg
  case madeWaiting => exact h.madeWaiting

end Keep

/-! ## Operations at the wrong moment -/

section Dangle

variable {o : Objects} {name : String} {a : AccountRefs} {kind : LegKind} {leg : Nat}

/-- A leg's bridge is its account's and nobody else's, so without it the leg dangles. -/
theorem not_alive_dropBridge (kind : LegKind) (h : o.Owned) (ha : o.account name = some a)
    (hslot : a.slot kind = some leg) : ¬ (o.dropBridge name).Alive := by
  intro halive
  obtain ⟨l, hl, -, hacct⟩ := h.slot name a kind leg ha hslot
  obtain ⟨b, hb, -, hbridge⟩ := h.owner leg l hl
  rw [hacct] at hb
  obtain rfl : b = a := Option.some.inj (hb.1.symm.trans ha)
  have hrep : Replaces o (o.dropBridge name) name { b with bridge := none } :=
    mapAccount_replaces _ ha
  obtain ⟨⟨name', c, hc, hcbridge⟩, -⟩ := halive leg l hl
  rcases hrep.cases hc with ⟨-, rfl⟩ | ⟨hname, hc⟩
  · cases hcbridge
  · exact hname (h.bridge name' name c b _ hc ha hcbridge hbridge)

/-- A new bridge takes the place of the one that the account's leg refers to. -/
theorem not_alive_openLeg (kind : LegKind) {kind' : LegKind} {acc acct : ObjPtr} (h : o.Owned)
    (hat : o.At acct a) (hslot : a.slot kind = some leg) : ¬ (o.openLeg kind' acc acct).Alive := by
  intro halive
  obtain ⟨l, hl, -, hacct⟩ := h.slot acct.name a kind leg hat.1 hslot
  obtain ⟨b, hb, -, hbridge⟩ := h.owner leg l hl
  rw [hacct] at hb
  obtain rfl : b = a := Option.some.inj (hb.1.symm.trans hat.1)
  have hrep := openLeg_replaces kind' acc hat
  obtain ⟨⟨name', c, hc, hcbridge⟩, -⟩ :=
    halive leg l (openLeg_leg_old hl (h.madeLeg leg l hl))
  rcases hrep.cases hc with ⟨-, rfl⟩ | ⟨hname, hc⟩
  · have hlt := h.madeBridge acct.name b _ hat.1 hbridge
    have heq : o.next = l.bridge := Option.some.inj hcbridge
    omega
  · exact hname (h.bridge name' acct.name c b _ hc hat.1 hcbridge hbridge)

/-- A leg for an account that is gone refers to it. -/
theorem not_alive_openLeg_dead {kind' : LegKind} {acc acct : ObjPtr}
    (hdead : ∀ a, ¬ o.At acct a) : ¬ (o.openLeg kind' acc acct).Alive := by
  intro halive
  obtain ⟨-, -, b, hb, hserial⟩ := halive _ _ openLeg_leg_self
  have hupdate : (o.account acct.name).map (fun a =>
      if a.serial = acct.serial then
        { a with bridge := some o.next, slot := Function.update a.slot kind' (some (o.next + 1)) }
      else a) = some b := by
    have hself : Function.update o.account acct.name _ acct.name = some b := hb
    rwa [Function.update_self] at hself
  cases ha : o.account acct.name with
  | none => rw [ha] at hupdate; cases hupdate
  | some a =>
    have hne : a.serial ≠ acct.serial := fun heq => hdead a ⟨ha, heq⟩
    rw [ha, Option.map_some, if_neg hne] at hupdate
    obtain rfl := Option.some.inj hupdate
    exact hne hserial

theorem not_alive_dropSip {l : LegRefs} (hl : o.leg leg = some l) (hacc : l.acc.name = name) :
    ¬ (o.dropSip name).Alive := by
  intro halive
  exact (dropSip_sip (halive leg l hl).2.1).1 hacc

end Dangle

end Objects

end Signal2sip
