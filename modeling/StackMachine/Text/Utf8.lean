import StackMachine.Text.Quoted

/-!
Strict decoding of UTF-8. The first fault is reported with the bytes it covers: a byte that starts no
character, a character broken off by a byte that cannot continue it, or one cut short by the end.
-/

set_option autoImplicit false

namespace StackMachine.Text

/-- Why bytes are not UTF-8. -/
inductive Utf8Reason where
  | startByte
  | continuationByte
  | endOfData
  deriving Repr, DecidableEq

/-- A decoding fault: the reason, where it starts, how many bytes it covers, and the first of them. -/
structure Utf8Fault where
  reason : Utf8Reason
  position : Nat
  length : Nat
  byte : UInt8
  deriving Repr, DecidableEq

def Utf8Reason.message : Utf8Reason → String
  | .startByte => "invalid start byte"
  | .continuationByte => "invalid continuation byte"
  | .endOfData => "unexpected end of data"

def Utf8Fault.message (fault : Utf8Fault) : String :=
  let place :=
    if fault.length = 1 then
      "byte 0x" ++ String.ofList (hexadecimal 2 fault.byte.toNat) ++ " in position " ++
        toString fault.position
    else
      "bytes in position " ++ toString fault.position ++ "-" ++
        toString (fault.position + fault.length - 1)
  "'utf-8' codec can't decode " ++ place ++ ": " ++ fault.reason.message

def isContinuation (byte : UInt8) : Bool :=
  0x80 ≤ byte && byte < 0xc0

/-- The six bits that a continuation byte carries. -/
def continuationBits (byte : UInt8) : Nat :=
  byte.toNat % 64

/-- Whether the second byte of a character fits its first byte. The bounds keep out overlong forms,
surrogates and code points past the last one. -/
def fitsSecond (first second : UInt8) : Bool :=
  isContinuation second &&
    !(first == 0xe0 && second < 0xa0) && !(first == 0xed && 0xa0 ≤ second) &&
    !(first == 0xf0 && second < 0x90) && !(first == 0xf4 && 0x90 ≤ second)

def decodeUtf8From (position : Nat) : List UInt8 → Except Utf8Fault (List Char)
  | [] => .ok []
  | a :: rest =>
    let fault (reason : Utf8Reason) (length : Nat) : Except Utf8Fault (List Char) :=
      .error ⟨reason, position, length, a⟩
    if a < 0x80 then (Char.ofNat a.toNat :: ·) <$> decodeUtf8From (position + 1) rest
    else if a < 0xc2 || 0xf5 ≤ a then fault .startByte 1
    else
      match rest with
      | [] => fault .endOfData 1
      | b :: rest =>
        if !fitsSecond a b then fault .continuationByte 1
        else if a < 0xe0 then
          (Char.ofNat (a.toNat % 32 * 64 + continuationBits b) :: ·) <$>
            decodeUtf8From (position + 2) rest
        else
          match rest with
          | [] => fault .endOfData 2
          | c :: rest =>
            if !isContinuation c then fault .continuationByte 2
            else if a < 0xf0 then
              (Char.ofNat ((a.toNat % 16 * 64 + continuationBits b) * 64 + continuationBits c) :: ·) <$>
                decodeUtf8From (position + 3) rest
            else
              match rest with
              | [] => fault .endOfData 3
              | d :: rest =>
                if !isContinuation d then fault .continuationByte 3
                else
                  (Char.ofNat (((a.toNat % 8 * 64 + continuationBits b) * 64 + continuationBits c) * 64 +
                      continuationBits d) :: ·) <$>
                    decodeUtf8From (position + 4) rest

def decodeUtf8 (bytes : List UInt8) : Except Utf8Fault (List Char) :=
  decodeUtf8From 0 bytes

end StackMachine.Text
