import Usmp.Crypto

/-!
# Concrete primitives

Executable stand-ins for the imported primitives, on which the model can be
evaluated.  They are not secure, but they have the documented sizes and
decryption undoes encryption, so the assumptions made of the primitives can be
met together.
-/

namespace Usmp

open LittleEndian

/-- A polynomial checksum of a byte string. -/
def sampleHash (data : Bytes) : Nat :=
  data.foldl (fun hash byte => (hash * 257 + byte.toNat + 1) % 2 ^ 256) 0

/-- The tag binds key, nonce, AAD and plaintext. -/
def sampleTag (key : Key) (nonce plaintext aad : Bytes) : Bytes :=
  leBytes usmpTagLen (sampleHash (key.1 ++ nonce ++ aad ++ plaintext))

def samplePrimitives : Primitives where
  aeadEncrypt _ key nonce plaintext aad := plaintext ++ sampleTag key nonce plaintext aad
  aeadDecrypt _ key nonce ciphertext aad :=
    let plaintext := ciphertext.take (ciphertext.length - usmpTagLen)
    if ciphertext.drop (ciphertext.length - usmpTagLen) = sampleTag key nonce plaintext aad then
      .ok plaintext
    else
      .error .invalidTag
  hkdf salt info secret :=
    let hash := sampleHash (salt ++ info ++ secret)
    ⟨leBytes 32 hash ++ leBytes 32 (hash + 1), by simp [usmpSessionKeyLen]⟩
  hmacSha256 key message := ⟨leBytes 32 (sampleHash (key ++ message)), by simp⟩

theorem length_sampleTag (key : Key) (nonce plaintext aad : Bytes) :
    (sampleTag key nonce plaintext aad).length = usmpTagLen := by
  simp [sampleTag]

theorem samplePrimitives_sized : samplePrimitives.SizedAead := by
  intro suite key nonce plaintext aad
  simp [samplePrimitives, length_sampleTag]

theorem samplePrimitives_correct : samplePrimitives.CorrectAead := by
  intro suite key nonce plaintext aad
  simp [samplePrimitives, length_sampleTag]

/-- 32 equal bytes. -/
def sampleKey (byte : UInt8) : Key := ⟨List.replicate 32 byte, by simp [usmpSessionKeyLen]⟩

def sampleSessionId : FixedBytes usmpSessionIdLen := ⟨List.replicate 16 2, by rfl⟩

def sampleDeviceId : FixedBytes usmpDeviceIdLen := ⟨List.replicate 6 1, by rfl⟩

theorem length_sampleSalt : (List.replicate 32 (5 : UInt8)).length = 32 := rfl

/-- Session parameters with constant keys. -/
def sampleInfo (txKey rxKey : UInt8) (txSeq : Nat := 0) : SessionInfo :=
  { deviceId := sampleDeviceId
    sessionId := sampleSessionId
    txKey := sampleKey txKey
    rxKey := sampleKey rxKey
    txSeq := txSeq }

end Usmp
