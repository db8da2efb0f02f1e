import Mathlib.Data.List.Basic

/-!
# Packet types, constants, frames and session parameters

The vocabulary of `types.py`.  Byte strings are lists of bytes and Python
integers are natural numbers.  A value whose length the source fixes carries
that length with it, so a `SessionInfo` that `__post_init__` would reject cannot
be built.
-/

namespace Usmp

abbrev Bytes := List UInt8

/-- A byte string of one given length. -/
abbrev FixedBytes (size : Nat) := { bytes : Bytes // bytes.length = size }

inductive PacketType where
  | hello
  | challenge
  | helloAck
  | sessionOk
  | data
  | ping
  | pong
  | bye
  | dataFrag
  | helloRetry
  | rekey
  | error
  deriving DecidableEq, Repr

namespace PacketType

/-- `int(packet_type)`. -/
def toNat : PacketType → Nat
  | .hello => 0x01
  | .challenge => 0x02
  | .helloAck => 0x03
  | .sessionOk => 0x04
  | .data => 0x05
  | .ping => 0x06
  | .pong => 0x07
  | .bye => 0x08
  | .dataFrag => 0x09
  | .helloRetry => 0x0A
  | .rekey => 0x0B
  | .error => 0xFF

/-- `PacketType(value)`, where `none` is Python's `ValueError`. -/
def ofNat? : Nat → Option PacketType
  | 0x01 => some .hello
  | 0x02 => some .challenge
  | 0x03 => some .helloAck
  | 0x04 => some .sessionOk
  | 0x05 => some .data
  | 0x06 => some .ping
  | 0x07 => some .pong
  | 0x08 => some .bye
  | 0x09 => some .dataFrag
  | 0x0A => some .helloRetry
  | 0x0B => some .rekey
  | 0xFF => some .error
  | _ => none

/-- `PacketType(value).name`. -/
def name : PacketType → String
  | .hello => "HELLO"
  | .challenge => "CHALLENGE"
  | .helloAck => "HELLO_ACK"
  | .sessionOk => "SESSION_OK"
  | .data => "DATA"
  | .ping => "PING"
  | .pong => "PONG"
  | .bye => "BYE"
  | .dataFrag => "DATA_FRAG"
  | .helloRetry => "HELLO_RETRY"
  | .rekey => "REKEY"
  | .error => "ERROR"

@[simp] theorem ofNat?_toNat (type : PacketType) : ofNat? type.toNat = some type := by
  cases type <;> rfl

theorem toNat_lt (type : PacketType) : type.toNat < 256 := by
  cases type <;> decide

theorem toNat_of_ofNat? {value : Nat} {type : PacketType} (known : ofNat? value = some type) :
    type.toNat = value := by
  unfold ofNat? at known
  split at known <;> cases known <;> rfl

theorem toNat_injective {left right : PacketType} (equal : left.toNat = right.toNat) :
    left = right := by
  have same := congrArg ofNat? equal
  simpa using same

end PacketType

inductive CipherSuite where
  | aes256Gcm
  | chacha20Poly1305
  deriving DecidableEq, Repr

def usmpMagic : Nat := 0xABCD
def usmpVersion : Nat := 0x02
def usmpHeaderSize : Nat := 12
def usmpMaxPayload : Nat := 480
def usmpMaxFrames : Nat := 4
def usmpTagLen : Nat := 16
def usmpDeviceIdLen : Nat := 6
def usmpSessionIdLen : Nat := 16
def usmpSessionKeyLen : Nat := 32
def usmpGcmNonceLen : Nat := 12
def usmpMaxDataLen : Nat := usmpMaxPayload - usmpTagLen - usmpGcmNonceLen

/-- The largest sequence number, on which a session is spent. -/
def maxSeq : Nat := 0xFFFFFFFF

structure USMPFrame where
  magic : Nat
  version : Nat
  type : PacketType
  seq : Nat
  length : Nat
  crc : Nat
  payload : Bytes
  deriving DecidableEq, Repr

abbrev Key := FixedBytes usmpSessionKeyLen

structure SessionInfo where
  deviceId : FixedBytes usmpDeviceIdLen
  sessionId : FixedBytes usmpSessionIdLen
  txKey : Key
  rxKey : Key
  txSeq : Nat := 0
  rxSeq : Nat := 0
  rxWindowBitmap : Nat := 0
  cipherSuite : CipherSuite := .aes256Gcm
  deriving DecidableEq, Repr

end Usmp
