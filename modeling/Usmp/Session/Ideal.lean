import Usmp.Sample
import Usmp.Session.Send

/-!
# An ideal AEAD

Under an ideal AEAD nothing decrypts but what was encrypted.  A frame that a session
opens then agrees with a frame of the log in everything that authentication covers.
-/

namespace Usmp

/-- The AAD that the frame was encrypted with. -/
def SentFrame.aad (sent : SentFrame) : Bytes :=
  buildAad usmpMagic usmpVersion sent.type.toNat sent.seq
    (12 + sent.plaintext.length + usmpTagLen)

/-- Decryption succeeds only on a nonce, an AAD and a ciphertext that `encrypt` produced
under the same key, and gives the plaintext back. -/
def Primitives.Unforgeable (P : Primitives) (log : List SentFrame) : Prop :=
  ∀ suite key nonce ciphertext aad plaintext,
    P.aeadDecrypt suite key nonce ciphertext aad = .ok plaintext →
    ∃ sent ∈ log, sent.txKey = key ∧ sent.nonce = nonce ∧ sent.aad = aad ∧
      sent.payload = nonce ++ ciphertext ∧ sent.plaintext = plaintext

theorem Primitives.Unforgeable.mono {P : Primitives} {log more : List SentFrame}
    (unforgeable : P.Unforgeable log) (within : log ⊆ more) : P.Unforgeable more := by
  intro suite key nonce ciphertext aad plaintext opened
  rcases unforgeable suite key nonce ciphertext aad plaintext opened with ⟨sent, member, facts⟩
  exact ⟨sent, within member, facts⟩

/-- Primitives that encrypt as the samples do, and decrypt what the log holds. -/
def tablePrimitives (log : List SentFrame) : Primitives :=
  { samplePrimitives with
    aeadDecrypt := fun _ key nonce ciphertext aad =>
      match log.find? fun sent => sent.txKey = key && sent.nonce = nonce && sent.aad = aad &&
          sent.payload = nonce ++ ciphertext with
      | some sent => .ok sent.plaintext
      | none => .error .invalidTag }

theorem tablePrimitives_sized (log : List SentFrame) : (tablePrimitives log).SizedAead :=
  samplePrimitives_sized

theorem tablePrimitives_unforgeable (log : List SentFrame) :
    (tablePrimitives log).Unforgeable log := by
  intro suite key nonce ciphertext aad plaintext opened
  simp only [tablePrimitives] at opened
  split at opened <;> cases opened
  rename_i sent found
  have matches_ := List.find?_some found
  simp only [Bool.and_eq_true, decide_eq_true_eq] at matches_
  obtain ⟨⟨⟨sameKey, sameNonce⟩, sameAad⟩, samePayload⟩ := matches_
  exact ⟨sent, List.mem_of_find?_eq_some found, sameKey, sameNonce, sameAad, samePayload, rfl⟩

/-- A decryption that succeeds has found its nonce in front of the ciphertext. -/
theorem decrypt_ok {P : Primitives} {key : Key} {nonce payload plaintext : Bytes}
    {seq type version magic length : Nat} {suite : CipherSuite}
    (decrypted : decrypt P key nonce seq type version magic length payload suite =
      .ok plaintext) :
    payload = nonce ++ payload.drop 12 ∧
      P.aeadDecrypt suite key nonce (payload.drop 12)
        (buildAad magic version type seq length) = .ok plaintext := by
  unfold decrypt at decrypted
  split at decrypted
  · cases decrypted
  split at decrypted
  · cases decrypted
  rename_i sameNonce
  split at decrypted <;> cases decrypted
  rename_i opened
  refine ⟨?_, opened⟩
  rw [← not_not.mp sameNonce, List.take_append_drop]

/-- What opens is in the log. -/
theorem openFrame_logged {P : Primitives} {reliable : Bool} {info : SessionInfo}
    {result : Except Exn USMPFrame} {frame : USMPFrame} {plaintext : Bytes}
    {log : List SentFrame} (unforgeable : P.Unforgeable log)
    (bound : ∀ sent ∈ log, sent.seq ≤ maxSeq)
    (opened : openFrame P reliable info result = .ok (some (frame, plaintext)))
    (inRange : frame.seq ≤ maxSeq) :
    result = .ok frame ∧ ∃ sent ∈ log, sent.txKey = info.rxKey ∧ sent.type = frame.type ∧
      sent.seq = frame.seq ∧ sent.nonce = packNonce frame.seq info.sessionId ∧
      sent.payload = frame.payload ∧ sent.plaintext = plaintext := by
  unfold openFrame at opened
  split at opened
  · cases opened
  split at opened
  · cases opened
  split at opened <;> cases opened
  rename_i decrypted
  obtain ⟨whole, authentic⟩ := decrypt_ok decrypted
  obtain ⟨sent, member, key, nonce, aad, payload, isPlaintext⟩ :=
    unforgeable _ _ _ _ _ _ authentic
  obtain ⟨types, seqs, _⟩ := buildAad_inj (PacketType.toNat_lt _) (PacketType.toNat_lt _)
    (bound sent member) inRange aad
  exact ⟨rfl, sent, member, key, PacketType.toNat_injective types, seqs, nonce,
    payload.trans whole.symm, isPlaintext⟩

end Usmp
