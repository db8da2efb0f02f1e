import Usmp.Session.Recv

/-!
# Sending under the send lock

Everything a session encrypts goes through `_send_encrypted_locked`.  This module
has that function up to its `write_frame`, and the pieces of its callers that
run while `_send_lock` is held.
-/

namespace Usmp

/-- What a holder of `_send_lock` is doing.  A PONG is sent from inside `recv`,
whose locals wait with it. -/
inductive Locked where
  /-- `send(data)`, at the chunk that starts at `offset`. -/
  | send (data : Bytes) (offset : Nat)
  | ping
  | rekey (salt : FixedBytes 32)
  | bye
  | pong (locals : RecvLocals)
  deriving DecidableEq, Repr

/-- `data[offset : offset + USMP_MAX_DATA_LEN]`. -/
def chunkAt (data : Bytes) (offset : Nat) : Bytes :=
  (data.drop offset).take usmpMaxDataLen

namespace Locked

/-- The arguments that the holder passes to `_send_encrypted_locked`. -/
def frame : Locked → PacketType × Bytes
  | .send data offset =>
      let chunk := chunkAt data offset
      (if offset + chunk.length < data.length then .dataFrag else .data, chunk)
  | .ping => (.ping, [])
  | .rekey salt => (.rekey, salt.1)
  | .bye => (.bye, [])
  | .pong _ => (.pong, [])

/-- The number of frames that the same call sent before this one. -/
def index : Locked → Nat
  | .send _ offset => offset / usmpMaxDataLen
  | _ => 0

end Locked

/-- One call of `encrypt`: its arguments and the frame it was made for. -/
structure SentFrame where
  /-- The call of `send`, `ping`, `rekey`, `bye` or `recv` that sent it. -/
  task : Nat
  index : Nat
  txKey : Key
  rxKey : Key
  type : PacketType
  seq : Nat
  nonce : Bytes
  plaintext : Bytes
  /-- What `encrypt` returned. -/
  payload : Bytes
  deriving DecidableEq, Repr

/-- The datagram, or the bytes on the stream, that carry the frame. -/
def SentFrame.bytes (sent : SentFrame) : Bytes :=
  frameBytes sent.type sent.payload sent.seq

/-- The frame that `_send_encrypted_locked` encrypts at the current sequence. -/
def encryptedFrame (P : Primitives) (info : SessionInfo) (task : Nat) (locked : Locked) :
    SentFrame :=
  let seq := info.txSeq
  let nonce := packNonce seq info.sessionId
  { task := task
    index := locked.index
    txKey := info.txKey
    rxKey := info.rxKey
    type := locked.frame.1
    seq := seq
    nonce := nonce
    plaintext := locked.frame.2
    payload := encrypt P info.txKey nonce seq locked.frame.1.toNat usmpVersion usmpMagic
      locked.frame.2 info.cipherSuite }

/-- `_send_encrypted_locked` up to `write_frame`.  The sequence is burned before
the write. -/
def sendEncryptedLocked (P : Primitives) (info : SessionInfo) (task : Nat) (locked : Locked) :
    Except Exn (SessionInfo × SentFrame) :=
  if info.txSeq ≥ maxSeq ∧ locked.frame.1 ≠ .bye then
    .error ⟨.sequenceError, "TX sequence overflowed"⟩
  else
    .ok ({ info with txSeq := min (info.txSeq + 1) maxSeq }, encryptedFrame P info task locked)

/-- The end of `rekey()`, after its frame was written: the initiator's new keys. -/
def initiatorKeys (P : Primitives) (info : SessionInfo) (salt : FixedBytes 32) : Key × Key :=
  deriveRekeyKeys P true info.txKey info.rxKey info.sessionId salt.1

/-! ## Genuine frames -/

theorem length_chunkAt (data : Bytes) (offset : Nat) :
    (chunkAt data offset).length = min usmpMaxDataLen (data.length - offset) := by
  simp [chunkAt]

theorem length_chunkAt_le (data : Bytes) (offset : Nat) :
    (chunkAt data offset).length ≤ usmpMaxDataLen := by
  rw [length_chunkAt]
  exact Nat.min_le_left _ _

theorem Locked.length_plaintext (locked : Locked) : locked.frame.2.length ≤ usmpMaxDataLen := by
  cases locked with
  | send data offset => exact length_chunkAt_le data offset
  | rekey salt =>
      rw [Locked.frame, salt.2]
      decide
  | ping | bye | pong locals => exact Nat.zero_le _

/-- What every frame of a session is: its fields are in range, and its payload is the
encryption of its plaintext. -/
structure SentFrame.Genuine (P : Primitives) (sessionId : FixedBytes usmpSessionIdLen)
    (suite : CipherSuite) (sent : SentFrame) : Prop where
  seq : sent.seq ≤ maxSeq
  plaintext : sent.plaintext.length ≤ usmpMaxDataLen
  nonce : sent.nonce = packNonce sent.seq sessionId
  payload : sent.payload = encrypt P sent.txKey (packNonce sent.seq sessionId) sent.seq
    sent.type.toNat usmpVersion usmpMagic sent.plaintext suite

theorem encryptedFrame_genuine (P : Primitives) {info : SessionInfo} (task : Nat)
    (locked : Locked) (bound : info.txSeq ≤ maxSeq) :
    (encryptedFrame P info task locked).Genuine P info.sessionId info.cipherSuite :=
  ⟨bound, locked.length_plaintext, rfl, rfl⟩

namespace SentFrame

variable {P : Primitives} {sessionId : FixedBytes usmpSessionIdLen} {suite : CipherSuite}
  {sent : SentFrame}

theorem Genuine.length_payload (sized : P.SizedAead) (genuine : sent.Genuine P sessionId suite) :
    sent.payload.length = 12 + sent.plaintext.length + usmpTagLen := by
  rw [genuine.payload, length_encrypt sized]

/-- A genuine frame fits the frame format, whose limit the fragment size comes from. -/
theorem Genuine.fits (sized : P.SizedAead) (genuine : sent.Genuine P sessionId suite) :
    sent.payload.length ≤ usmpMaxPayload := by
  have bound := genuine.plaintext
  rw [genuine.length_payload sized]
  simp only [usmpMaxDataLen, usmpMaxPayload, usmpTagLen, usmpGcmNonceLen] at bound ⊢
  omega

theorem Genuine.encode (sized : P.SizedAead) (genuine : sent.Genuine P sessionId suite) :
    encodeFrame sent.type sent.payload sent.seq = .ok sent.bytes :=
  encodeFrame_ok genuine.seq (genuine.fits sized)

/-- Under the sender's key the receiver gets the plaintext back. -/
theorem Genuine.openFrame (sized : P.SizedAead) (correct : P.CorrectAead)
    (genuine : sent.Genuine P sessionId suite) {info : SessionInfo}
    (rxKey : info.rxKey = sent.txKey) (sameId : info.sessionId = sessionId)
    (sameSuite : info.cipherSuite = suite) :
    Usmp.openFrame P true info (.ok (sentFrame sent.type sent.payload sent.seq)) =
      .ok (some (sentFrame sent.type sent.payload sent.seq, sent.plaintext)) := by
  have decrypted := decrypt_encrypt sized correct sent.txKey sent.seq sent.type.toNat usmpVersion
    usmpMagic sessionId sent.plaintext suite
  rw [← genuine.payload, ← genuine.length_payload sized] at decrypted
  simp only [Usmp.openFrame, Bool.not_true, Bool.false_and, Bool.false_eq_true, if_false,
    sentFrame, rxKey, sameId, sameSuite, decrypted]

theorem bytes_ne_nil (sent : SentFrame) : sent.bytes ≠ [] := by
  intro empty
  have size := length_frameBytes sent.type sent.payload sent.seq usmpVersion
  rw [SentFrame.bytes] at empty
  rw [empty, List.length_nil, usmpHeaderSize] at size
  omega

end SentFrame

end Usmp
