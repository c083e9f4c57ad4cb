import Signal2sip.Storage.Records

/-!
# `Padding.cpp`

The two functions as the source computes them: the length in whole blocks, the copy into a vector of
zeros, and the scan from the back with an index. A vector's size is below `2^63`, so no `size_t` here
wraps.
-/

namespace Signal2sip.Padding

def kPaddingBlockSize : Nat := 80

def paddedMessageLength (messageLength : Nat) : Nat :=
  let messageLengthWithTerminator := messageLength + 1
  let messagePartCount := messageLengthWithTerminator / kPaddingBlockSize
  let messagePartCount :=
    if messageLengthWithTerminator % kPaddingBlockSize ≠ 0 then messagePartCount + 1
    else messagePartCount
  messagePartCount * kPaddingBlockSize

/-- `std::copy(source.begin(), source.end(), target.begin())`. -/
def copyTo (source target : Bytes) : Bytes := source ++ target.drop source.length

def padMessageBody (messageBody : Bytes) : Bytes :=
  let padded := List.replicate (paddedMessageLength (messageBody.length + 1) - 1) 0
  let padded := copyTo messageBody padded
  padded.set messageBody.length 0x80

/-- The loop of `stripPaddingMessageBody`, with the indices below `i` to come. -/
def stripFrom (messageWithPadding : Bytes) : Nat → Bytes
  | 0 => messageWithPadding
  | i + 1 =>
    if messageWithPadding.getD i 0 = 0x80 then messageWithPadding.take i
    else if messageWithPadding.getD i 0 ≠ 0x00 then messageWithPadding
    else stripFrom messageWithPadding i

def stripPaddingMessageBody (messageWithPadding : Bytes) : Bytes :=
  stripFrom messageWithPadding messageWithPadding.length

end Signal2sip.Padding
