import Signal2sip.Lib.Terminator
import Signal2sip.Signal.Padding
import Signal2sip.Signal.Crypto
import Signal2sip.Daemon.CallSignaling

/-!
# Padding comes off

Padding a message is a `Terminator.Padded`: the message, one 0x80, and zeros up to the last byte but
one of a block. The scan of `stripPaddingMessageBody` looks at one byte of `Terminator.padded_snoc`
after the other, so it returns the message of every padded vector, and a vector that is not padded
as it is. Nothing depends on what the message ends in.
-/

namespace Signal2sip.Padding

open Terminator (Padded padded_snoc not_padded_nil padded_iff_dropWhile)

/-- A message, one 0x80, and any number of zeros. -/
def IsPadded (m x : Bytes) : Prop := Padded 0x80 0x00 m x

/-! ## Lengths -/

/-- Rounding up to whole blocks. -/
theorem paddedMessageLength_spec (n : Nat) :
    paddedMessageLength n % 80 = 0 ∧ n < paddedMessageLength n ∧ paddedMessageLength n ≤ n + 80 := by
  have hblock : kPaddingBlockSize = 80 := rfl
  simp only [paddedMessageLength]
  split
  · next hpart =>
    rw [hblock] at hpart ⊢
    omega
  · next hwhole =>
    rw [hblock] at hwhole ⊢
    omega

/-! ## Padding -/

/-- What the copy leaves of the zeros is one place for the terminator and the rest. -/
theorem padMessageBody_eq_append (m : Bytes) :
    padMessageBody m =
      m ++ 0x80 :: List.replicate (paddedMessageLength (m.length + 1) - 2 - m.length) 0x00 := by
  obtain ⟨-, hlt, -⟩ := paddedMessageLength_spec (m.length + 1)
  have hrest : paddedMessageLength (m.length + 1) - 1 - m.length =
      (paddedMessageLength (m.length + 1) - 2 - m.length) + 1 := by omega
  simp only [padMessageBody, copyTo]
  rw [List.drop_replicate, hrest, List.replicate_succ, List.set_append_right _ _ (Nat.le_refl _),
    Nat.sub_self, List.set_cons_zero]

theorem isPadded_padMessageBody (m : Bytes) : IsPadded m (padMessageBody m) :=
  ⟨_, padMessageBody_eq_append m⟩

theorem length_padMessageBody (m : Bytes) :
    (padMessageBody m).length = paddedMessageLength (m.length + 1) - 1 := by
  obtain ⟨-, hlt, -⟩ := paddedMessageLength_spec (m.length + 1)
  rw [padMessageBody_eq_append, List.length_append, List.length_cons, List.length_replicate]
  omega

/-- The closed form that the senders are modelled with. -/
theorem padMessageBody_eq (m : Bytes) : padMessageBody m = Signal2sip.padMessageBody m := by
  have hlength : paddedMessageLength (m.length + 1) =
      Signal2sip.paddedMessageLength (m.length + 1) := by
    obtain ⟨hmod, hlt, hle⟩ := paddedMessageLength_spec (m.length + 1)
    rw [Signal2sip.paddedMessageLength]
    omega
  rw [padMessageBody_eq_append, hlength]
  rfl

/-! ## Stripping -/

theorem getD_of_lt {x : Bytes} {i : Nat} (h : i < x.length) : x.getD i 0 = x[i] := by
  rw [List.getD_eq_getElem?_getD, List.getElem?_eq_getElem h, Option.getD_some]

/-- The scan from `i` down, on a vector whose first `i` bytes are a padded message. -/
theorem stripFrom_of_isPadded {m x : Bytes} {i : Nat} (hi : i ≤ x.length)
    (h : IsPadded m (x.take i)) : stripFrom x i = m := by
  induction i with
  | zero => exact absurd h not_padded_nil
  | succ i ih =>
    have hlt : i < x.length := hi
    rw [IsPadded, List.take_succ_eq_append_getElem hlt, padded_snoc] at h
    rw [stripFrom, getD_of_lt hlt]
    rcases h with ⟨hmark, hm⟩ | ⟨hfill, hpadded⟩
    · rw [if_pos hmark, hm]
    · rw [if_neg (by rw [hfill]; decide), if_neg (not_not_intro hfill)]
      exact ih (Nat.le_of_lt hlt) hpadded

/-- The scan from `i` down, on a vector whose first `i` bytes are none. -/
theorem stripFrom_of_not_isPadded {x : Bytes} {i : Nat} (hi : i ≤ x.length)
    (h : ∀ m, ¬ IsPadded m (x.take i)) : stripFrom x i = x := by
  induction i with
  | zero => rfl
  | succ i ih =>
    have hlt : i < x.length := hi
    have hsnoc : ∀ m, ¬ ((x[i] = 0x80 ∧ x.take i = m) ∨ (x[i] = 0x00 ∧ IsPadded m (x.take i))) := by
      intro m hm
      refine h m ?_
      rw [IsPadded, List.take_succ_eq_append_getElem hlt, padded_snoc]
      exact hm
    rw [stripFrom, getD_of_lt hlt]
    rw [if_neg fun hmark => hsnoc _ (.inl ⟨hmark, rfl⟩)]
    split
    · rfl
    · next hfill =>
      rw [not_not] at hfill
      exact ih (Nat.le_of_lt hlt) fun m hm => hsnoc m (.inr ⟨hfill, hm⟩)

theorem strip_of_isPadded {m x : Bytes} (h : IsPadded m x) : stripPaddingMessageBody x = m := by
  refine stripFrom_of_isPadded (Nat.le_refl _) ?_
  rw [List.take_length]
  exact h

theorem strip_of_not_isPadded {x : Bytes} (h : ∀ m, ¬ IsPadded m x) :
    stripPaddingMessageBody x = x := by
  refine stripFrom_of_not_isPadded (Nat.le_refl _) ?_
  rw [List.take_length]
  exact h

/-- The closed form that decryption is modelled with. -/
theorem stripPaddingMessageBody_eq (x : Bytes) :
    stripPaddingMessageBody x = Signal2sip.stripPaddingMessageBody x := by
  rw [Signal2sip.stripPaddingMessageBody]
  split
  · next body hbody =>
    refine strip_of_isPadded ((padded_iff_dropWhile (by decide)).mpr ?_)
    rw [hbody, List.reverse_reverse]
  · next hnone =>
    refine strip_of_not_isPadded fun m hm => hnone m.reverse ?_
    exact (padded_iff_dropWhile (by decide)).mp hm

/-- Every message comes back from its padding, whose size fills blocks of 80 bytes but one; and the
strip of any vector is the one message that it is the padding of, or the vector itself. -/
theorem padding_strips (m x : Bytes) :
    (stripPaddingMessageBody (padMessageBody m) = m ∧
      (padMessageBody m).length % 80 = 79 ∧
      m.length < (padMessageBody m).length ∧ (padMessageBody m).length ≤ m.length + 80) ∧
    (∀ body, IsPadded body x →
      stripPaddingMessageBody x = body ∧ ∀ body', IsPadded body' x → body' = body) ∧
    ((¬ ∃ body, IsPadded body x) → stripPaddingMessageBody x = x) := by
  refine ⟨⟨strip_of_isPadded (isPadded_padMessageBody m), ?_⟩, ?_, ?_⟩
  · obtain ⟨hmod, hlt, hle⟩ := paddedMessageLength_spec (m.length + 1)
    rw [length_padMessageBody]
    omega
  · intro body hbody
    exact ⟨strip_of_isPadded hbody, fun body' hbody' => hbody'.unique (by decide) hbody⟩
  · intro hnone
    exact strip_of_not_isPadded fun body hbody => hnone ⟨body, hbody⟩

end Signal2sip.Padding
