import Usmp.Frame

/-!
# Session cryptography

The functions of `_crypto.py` that a live session calls.  The primitives of the
`cryptography` package and of `hashlib` are parameters; what is assumed of them
is stated beside them and named where a theorem uses it.
-/

namespace Usmp

open LittleEndian

/-- How `aead.decrypt` fails. -/
inductive AeadFailure where
  | invalidTag
  | other
  deriving DecidableEq, Repr

/-- The primitives that the package imports. -/
structure Primitives where
  /-- `aead.encrypt(nonce, plaintext, aad)`: ciphertext followed by the tag. -/
  aeadEncrypt : CipherSuite → Key → (nonce plaintext aad : Bytes) → Bytes
  /-- `aead.decrypt(nonce, ct_tag, aad)`. -/
  aeadDecrypt : CipherSuite → Key → (nonce ciphertext aad : Bytes) → Except AeadFailure Bytes
  /-- `HKDF(SHA256, length=64, salt, info).derive(secret)`. -/
  hkdf : (salt info secret : Bytes) → FixedBytes (usmpSessionKeyLen * 2)
  /-- `hmac.new(key, message, sha256).digest()`. -/
  hmacSha256 : (key message : Bytes) → FixedBytes 32

/-- The documented size of an AEAD ciphertext: the plaintext and a 16-byte tag. -/
def Primitives.SizedAead (P : Primitives) : Prop :=
  ∀ suite key nonce plaintext aad,
    (P.aeadEncrypt suite key nonce plaintext aad).length = plaintext.length + usmpTagLen

/-- Decryption undoes encryption under equal key, nonce and AAD. -/
def Primitives.CorrectAead (P : Primitives) : Prop :=
  ∀ suite key nonce plaintext aad,
    P.aeadDecrypt suite key nonce (P.aeadEncrypt suite key nonce plaintext aad) aad =
      .ok plaintext

/-- `b"usmp-rekey"`. -/
def rekeyInfo : Bytes := [0x75, 0x73, 0x6D, 0x70, 0x2D, 0x72, 0x65, 0x6B, 0x65, 0x79]

/-- `key_material[:32]`. -/
def lowKey (material : FixedBytes (usmpSessionKeyLen * 2)) : Key :=
  ⟨material.1.take usmpSessionKeyLen, by simp [material.2, usmpSessionKeyLen]⟩

/-- `key_material[32:]`. -/
def highKey (material : FixedBytes (usmpSessionKeyLen * 2)) : Key :=
  ⟨material.1.drop usmpSessionKeyLen, by simp [material.2, usmpSessionKeyLen]⟩

/-- The two new directional keys `(new_tx_key, new_rx_key)`. -/
def deriveRekeyKeys (P : Primitives) (isInitiator : Bool) (txKey rxKey : Key)
    (sessionId : FixedBytes usmpSessionIdLen) (salt : Bytes) : Key × Key :=
  let secret := if isInitiator then txKey.1 ++ rxKey.1 else rxKey.1 ++ txKey.1
  let keyMaterial := P.hkdf salt (rekeyInfo ++ sessionId.1) secret
  if isInitiator then
    (lowKey keyMaterial, highKey keyMaterial)
  else
    (highKey keyMaterial, lowKey keyMaterial)

/-- Both ends of mirrored keys derive mirrored keys. -/
theorem deriveRekeyKeys_mirrored (P : Primitives) (txKey rxKey : Key)
    (sessionId : FixedBytes usmpSessionIdLen) (salt : Bytes) :
    deriveRekeyKeys P false rxKey txKey sessionId salt =
      (deriveRekeyKeys P true txKey rxKey sessionId salt).swap := rfl

/-- `magic(2) ‖ version(1) ‖ type(1) ‖ seq(4) ‖ length(2)`. -/
def buildAad (magic version type seq length : Nat) : Bytes :=
  leBytes 2 magic ++ leBytes 1 version ++ leBytes 1 type ++ leBytes 4 seq ++ leBytes 2 length

/-- `struct.pack("<I", seq) + session_id[:8]`. -/
def packNonce (seq : Nat) (sessionId : FixedBytes usmpSessionIdLen) : Bytes :=
  leBytes 4 seq ++ sessionId.1.take 8

/-- The result is `nonce(12) ‖ ciphertext ‖ tag(16)`. -/
def encrypt (P : Primitives) (key : Key) (nonce : Bytes) (seq type version magic : Nat)
    (plaintext : Bytes) (cipherSuite : CipherSuite := .aes256Gcm) : Bytes :=
  -- the AAD carries the length of the payload after encryption
  let encLength := 12 + plaintext.length + usmpTagLen
  let aad := buildAad magic version type seq encLength
  nonce ++ P.aeadEncrypt cipherSuite key nonce plaintext aad

def decrypt (P : Primitives) (key : Key) (nonce : Bytes)
    (seq type version magic length : Nat) (nonceCtTag : Bytes)
    (cipherSuite : CipherSuite := .aes256Gcm) : Except Exn Bytes :=
  if nonceCtTag.length < 12 + usmpTagLen then
    .error ⟨.cryptoError, "Payload too short"⟩
  else if nonceCtTag.take 12 ≠ nonce then
    .error ⟨.cryptoError, "Nonce mismatch"⟩
  else
    match P.aeadDecrypt cipherSuite key nonce (nonceCtTag.drop 12)
        (buildAad magic version type seq length) with
    | .ok plaintext => .ok plaintext
    | .error .invalidTag => .error ⟨.cryptoError, "Authentication tag verification failed"⟩
    | .error .other => .error ⟨.cryptoError, "Decryption failed"⟩

/-! ## Facts about nonces and AADs -/

theorem length_packNonce (seq : Nat) (sessionId : FixedBytes usmpSessionIdLen) :
    (packNonce seq sessionId).length = usmpGcmNonceLen := by
  simp [packNonce, sessionId.2, usmpSessionIdLen, usmpGcmNonceLen]

theorem packNonce_inj {left right : Nat} {leftId rightId : FixedBytes usmpSessionIdLen}
    (leftBound : left ≤ maxSeq) (rightBound : right ≤ maxSeq)
    (equal : packNonce left leftId = packNonce right rightId) : left = right := by
  have heads := (List.append_inj equal (by simp)).1
  simp only [maxSeq] at leftBound rightBound
  exact leBytes_inj (by omega) (by omega) heads

/-- On fields in range the AAD determines type, sequence and length. -/
theorem buildAad_inj {magic version type seq length magic' version' type' seq' length' : Nat}
    (typeBound : type < 256) (typeBound' : type' < 256)
    (seqBound : seq ≤ maxSeq) (seqBound' : seq' ≤ maxSeq)
    (equal : buildAad magic version type seq length =
      buildAad magic' version' type' seq' length') :
    type = type' ∧ seq = seq' ∧ (length < 65536 → length' < 65536 → length = length') := by
  simp only [maxSeq] at seqBound seqBound'
  obtain ⟨front, lengths⟩ := List.append_inj equal (by simp)
  obtain ⟨front, seqs⟩ := List.append_inj front (by simp)
  obtain ⟨_, types⟩ := List.append_inj front (by simp)
  exact ⟨leBytes_inj (by omega) (by omega) types, leBytes_inj (by omega) (by omega) seqs,
    fun lengthBound lengthBound' => leBytes_inj (by omega) (by omega) lengths⟩

theorem length_encrypt {P : Primitives} (sized : P.SizedAead) (key : Key)
    (seq type version magic : Nat) (sessionId : FixedBytes usmpSessionIdLen)
    (plaintext : Bytes) (suite : CipherSuite) :
    (encrypt P key (packNonce seq sessionId) seq type version magic plaintext suite).length =
      12 + plaintext.length + usmpTagLen := by
  simp only [encrypt, List.length_append, length_packNonce, sized _ _ _ _ _, usmpGcmNonceLen]
  omega

/-- `decrypt` undoes `encrypt` when both sides agree on key, nonce and header. -/
theorem decrypt_encrypt {P : Primitives} (sized : P.SizedAead) (correct : P.CorrectAead)
    (key : Key) (seq type version magic : Nat) (sessionId : FixedBytes usmpSessionIdLen)
    (plaintext : Bytes) (suite : CipherSuite) :
    decrypt P key (packNonce seq sessionId) seq type version magic
        (12 + plaintext.length + usmpTagLen)
        (encrypt P key (packNonce seq sessionId) seq type version magic plaintext suite) suite =
      .ok plaintext := by
  have long : ¬ 12 + plaintext.length + usmpTagLen < 12 + usmpTagLen := by omega
  have nonceSize : (packNonce seq sessionId).length = 12 := length_packNonce seq sessionId
  have head : (encrypt P key (packNonce seq sessionId) seq type version magic plaintext
      suite).take 12 = packNonce seq sessionId := by
    rw [encrypt]
    exact List.take_left' nonceSize
  have tail : (encrypt P key (packNonce seq sessionId) seq type version magic plaintext
      suite).drop 12 = P.aeadEncrypt suite key (packNonce seq sessionId) plaintext
        (buildAad magic version type seq (12 + plaintext.length + usmpTagLen)) := by
    rw [encrypt]
    exact List.drop_left' nonceSize
  rw [decrypt, length_encrypt sized, if_neg long, head, tail, correct]
  simp

end Usmp
