import Signal2sip.Gendb.LinkUrl
import Signal2sip.Lib.Percent
import Signal2sip.Laws.Base64

/-!
# The link URL is unambiguous

`urlEncode` gives every byte a text of its own, without the delimiters of a query, so the URL comes
apart into the two values whatever the server put into the address. The key goes through base64 first;
its padding is gone, which the decoder does not need.
-/

namespace Signal2sip.LinkUrl

open Base64 (charByte base64NoPadding base64Decode decode_inserted Inserted)
open Percent (Spells Escaped Plain parse parse_url escaped_flatMap decode_flatMap)

/-- What a reader of the URL finds: the address and the key. -/
def readLink (url : Bytes) : Option (Bytes × Bytes) := do
  let (_, fields) ← parse url
  match fields with
  | [(uuid, address), (pubKey, key)] =>
    if uuid = ascii "uuid" ∧ pubKey = ascii "pub_key" then
      return (← Percent.decode address, base64Decode (← Percent.decode key))
    else none
  | _ => none

theorem unreserved_eq (c : UInt8) : Percent.unreserved c =
    (isalnum c || c = charByte '-' || c = charByte '_' || c = charByte '.' || c = charByte '~') := by
  have hdash : (c = charByte '-') = (c = 45) := rfl
  have hunder : (c = charByte '_') = (c = 95) := rfl
  have hdot : (c = charByte '.') = (c = 46) := rfl
  have htilde : (c = charByte '~') = (c = 126) := rfl
  simp only [hdash, hunder, hdot, htilde, Percent.unreserved]
  rw [Bool.or_right_comm _ (decide (c = 46)) (decide (c = 95))]
  rfl

theorem hexValue_hex {n : Nat} (hn : n < 16) :
    Percent.hexValue (hex.getD n 0) = some (UInt8.ofNat n) := by
  have hdigits : ∀ k < 16, Percent.hexValue (hex.getD k 0) = some (UInt8.ofNat k) := by decide
  exact hdigits n hn

theorem toNat_high (c : UInt8) : (c >>> 4).toNat = c.toNat / 16 := by
  rw [UInt8.toNat_shiftRight, Nat.shiftRight_eq_div_pow]
  rfl

theorem toNat_low (c : UInt8) : (c &&& 0xF).toNat = c.toNat % 16 := by
  rw [UInt8.toNat_and]
  exact Nat.and_two_pow_sub_one_eq_mod _ 4

theorem nibbles (c : UInt8) :
    (16 : UInt8) * UInt8.ofNat (c >>> 4).toNat + UInt8.ofNat (c &&& 0xF).toNat = c := by
  have hc := c.toNat_lt
  have h16 : UInt8.toNat 16 = 16 := rfl
  rw [UInt8.ofNat_toNat, UInt8.ofNat_toNat, ← UInt8.toNat_inj, UInt8.toNat_add, UInt8.toNat_mul,
    toNat_high, toNat_low, h16]
  omega

theorem spells_encodeChar (c : UInt8) : Spells c (encodeChar c) := by
  rw [encodeChar, ← unreserved_eq]
  split
  · next hc => exact .itself hc
  · have hhi : (c >>> 4).toNat < 16 := by
      have hc := c.toNat_lt
      rw [toNat_high]
      omega
    have hlo : (c &&& 0xF).toNat < 16 := by
      rw [toNat_low]
      omega
    have htriple := Spells.triple (hexValue_hex hhi) (hexValue_hex hlo)
    rwa [nibbles] at htriple

theorem escaped_urlEncode (text : Bytes) : Escaped (urlEncode text) :=
  escaped_flatMap spells_encodeChar text

theorem decode_urlEncode (text : Bytes) : Percent.decode (urlEncode text) = some text :=
  decode_flatMap spells_encodeChar text

theorem base64Decode_noPadding (b : Bytes) : base64Decode (base64NoPadding b) = b :=
  decode_inserted (.inr (.refl _))

theorem linkUrl_eq_url (address publicKey : Bytes) : linkUrl address publicKey =
    Percent.url (ascii "sgnl://linkdevice") [(ascii "uuid", urlEncode address),
      (ascii "pub_key", urlEncode (base64NoPadding publicKey))] := by
  have hstart : ascii "sgnl://linkdevice?uuid=" =
      ascii "sgnl://linkdevice" ++ 63 :: ascii "uuid" ++ [61] := by decide
  have hmiddle : ascii "&pub_key=" = 38 :: ascii "pub_key" ++ [61] := by decide
  rw [linkUrl, hstart, hmiddle, Percent.url]
  simp [Percent.writeField, List.intercalate_cons_cons, List.intercalate_singleton]

theorem readLink_linkUrl (address publicKey : Bytes) :
    readLink (linkUrl address publicKey) = some (address, publicKey) := by
  have huuid : Plain (ascii "uuid") := ⟨by decide, by decide, by decide⟩
  have hpubKey : Plain (ascii "pub_key") := ⟨by decide, by decide, by decide⟩
  have hplain : ∀ f ∈ [(ascii "uuid", urlEncode address),
      (ascii "pub_key", urlEncode (base64NoPadding publicKey))], Plain f.1 ∧ Plain f.2 := by
    intro f hf
    obtain rfl | hf := List.mem_cons.mp hf
    · exact ⟨huuid, (escaped_urlEncode _).plain⟩
    · obtain rfl := List.mem_singleton.mp hf
      exact ⟨hpubKey, (escaped_urlEncode _).plain⟩
  have hbase : 63 ∉ ascii "sgnl://linkdevice" := by decide
  have hparse := parse_url hbase (List.cons_ne_nil _ _) hplain
  rw [readLink, linkUrl_eq_url, hparse]
  simp only [Option.bind_eq_bind, Option.bind_some, decode_urlEncode, base64Decode_noPadding]
  rfl

/-- The URL gives the address and the key back, and so has only one pair of them. -/
theorem linkUrl_unambiguous :
    (∀ address publicKey, readLink (linkUrl address publicKey) = some (address, publicKey)) ∧
      (∀ text, Escaped (urlEncode text)) ∧
      Function.Injective fun link : Bytes × Bytes => linkUrl link.1 link.2 := by
  refine ⟨readLink_linkUrl, escaped_urlEncode, fun link link' heq => ?_⟩
  have hread := congrArg readLink heq
  rw [readLink_linkUrl, readLink_linkUrl] at hread
  exact Option.some.inj hread

end Signal2sip.LinkUrl
