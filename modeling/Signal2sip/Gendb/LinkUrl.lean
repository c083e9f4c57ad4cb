import Signal2sip.Util.Base64

/-!
# The link URL

What `printLinkUrl` puts into the QR code: the address that the server gave and the public key of the
provisioning connection. The address comes from a C string, so its bytes are whatever the server sent.
-/

namespace Signal2sip.LinkUrl

open Base64 (charByte base64NoPadding)

def ascii (text : String) : Bytes := text.toList.map charByte

/-- `isalnum` in the C locale. -/
def isalnum (c : UInt8) : Bool :=
  (charByte '0' ≤ c && c ≤ charByte '9') || (charByte 'A' ≤ c && c ≤ charByte 'Z') ||
    (charByte 'a' ≤ c && c ≤ charByte 'z')

def hex : Bytes := ascii "0123456789ABCDEF"

/-- What `urlEncode` appends for one character. -/
def encodeChar (c : UInt8) : Bytes :=
  if isalnum c || c = charByte '-' || c = charByte '_' || c = charByte '.' || c = charByte '~' then [c]
  else [charByte '%', hex.getD (c >>> 4).toNat 0, hex.getD (c &&& 0xF).toNat 0]

def urlEncode (input : Bytes) : Bytes := input.flatMap encodeChar

/-- The `url` of `printLinkUrl`. -/
def linkUrl (address publicKey : Bytes) : Bytes :=
  ascii "sgnl://linkdevice?uuid=" ++ urlEncode address ++ ascii "&pub_key=" ++
    urlEncode (base64NoPadding publicKey)

end Signal2sip.LinkUrl
