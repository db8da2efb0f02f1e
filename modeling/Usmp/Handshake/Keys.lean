import Usmp.Lib.Dict
import Usmp.Sample

/-!
# Keys and authenticators of the handshake

`derive_session_keys`, the two HMAC messages of the handshake, and how a server finds
the PSK of a device.
-/

namespace Usmp

open LittleEndian

def usmpNonceLen : Nat := 32
def usmpPubKeyLen : Nat := 32
def usmpHmacLen : Nat := 32

/-- An X25519 private key. -/
abbrev PrivateKey := FixedBytes 32

/-- X25519, as the package imports it. -/
structure KeyExchange where
  /-- `priv.public_key().public_bytes_raw()`. -/
  publicKey : PrivateKey → FixedBytes usmpPubKeyLen
  /-- `priv_key.exchange(peer_key)`, where `none` is the `ValueError` of the package. -/
  exchange : PrivateKey → FixedBytes usmpPubKeyLen → Option (FixedBytes 32)

/-- Both ends of an exchange compute one secret. -/
def KeyExchange.Commutative (X : KeyExchange) : Prop :=
  ∀ left right, X.exchange left (X.publicKey right) = X.exchange right (X.publicKey left)

/-- `b"usmp-v2"`. -/
def sessionKeysInfo : Bytes := [0x75, 0x73, 0x6D, 0x70, 0x2D, 0x76, 0x32]

/-- The two directional session keys `(k_c2s, k_s2c)`. -/
def deriveSessionKeys (P : Primitives) (X : KeyExchange) (privKey : PrivateKey)
    (peerPub nonce pubC pubS : Bytes) : Except Exn (Key × Key) :=
  if size : peerPub.length = usmpPubKeyLen then
    match X.exchange privKey ⟨peerPub, size⟩ with
    | none => .error ⟨.valueError, "Error computing shared key."⟩
    | some sharedSecret =>
        if sharedSecret.1 = List.replicate 32 0 then
          .error ⟨.cryptoError, "X25519 produced all-zero shared secret (low-order point)"⟩
        else
          let keyMaterial := P.hkdf nonce (sessionKeysInfo ++ pubC ++ pubS) sharedSecret.1
          .ok (lowKey keyMaterial, highKey keyMaterial)
  else
    .error ⟨.valueError, "An X25519 public key is 32 bytes long"⟩

/-- Both ends derive the same pair of keys. -/
theorem deriveSessionKeys_agree (P : Primitives) {X : KeyExchange} (commutes : X.Commutative)
    (privC privS : PrivateKey) (nonce : Bytes) :
    deriveSessionKeys P X privC (X.publicKey privS).1 nonce (X.publicKey privC).1
        (X.publicKey privS).1 =
      deriveSessionKeys P X privS (X.publicKey privC).1 nonce (X.publicKey privC).1
        (X.publicKey privS).1 := by
  simp only [deriveSessionKeys, (X.publicKey privC).2, (X.publicKey privS).2, dif_pos,
    commutes privC privS]

/-! ## Authenticators -/

/-- `struct.pack("<H", USMP_MAGIC) + bytes([USMP_VERSION, type])`. -/
def macPrefix (type : PacketType) : Bytes :=
  leBytes 2 usmpMagic ++ leBytes 1 usmpVersion ++ leBytes 1 type.toNat

/-- What the HMAC of HELLO_ACK covers. -/
def clientMacMessage (nonce deviceId pubC pubS : Bytes) : Bytes :=
  macPrefix .helloAck ++ nonce ++ deviceId ++ pubC ++ pubS

/-- What the HMAC of SESSION_OK covers. -/
def serverMacMessage (nonce sessionId pubC pubS : Bytes) : Bytes :=
  macPrefix .sessionOk ++ nonce ++ sessionId ++ pubC ++ pubS

/-- Between fields of fixed sizes, one field of any size is determined. -/
theorem append_fields_inj {nonce middle pubC pubS nonce' middle' pubC' pubS' : Bytes}
    (nonceSize : nonce.length = nonce'.length) (pubCSize : pubC.length = pubC'.length)
    (pubSSize : pubS.length = pubS'.length)
    (equal : nonce ++ middle ++ pubC ++ pubS = nonce' ++ middle' ++ pubC' ++ pubS') :
    nonce = nonce' ∧ middle = middle' ∧ pubC = pubC' ∧ pubS = pubS' := by
  rcases List.append_inj' equal pubSSize with ⟨front, samePubS⟩
  rcases List.append_inj' front pubCSize with ⟨front, samePubC⟩
  rcases List.append_inj front nonceSize with ⟨sameNonce, sameMiddle⟩
  exact ⟨sameNonce, sameMiddle, samePubC, samePubS⟩

theorem clientMacMessage_inj {nonce deviceId pubC pubS nonce' deviceId' pubC' pubS' : Bytes}
    (nonceSize : nonce.length = nonce'.length) (pubCSize : pubC.length = pubC'.length)
    (pubSSize : pubS.length = pubS'.length)
    (equal : clientMacMessage nonce deviceId pubC pubS =
      clientMacMessage nonce' deviceId' pubC' pubS') :
    nonce = nonce' ∧ deviceId = deviceId' ∧ pubC = pubC' ∧ pubS = pubS' := by
  simp only [clientMacMessage, List.append_assoc, List.append_cancel_left_eq] at equal
  apply append_fields_inj nonceSize pubCSize pubSSize
  simpa only [List.append_assoc] using equal

theorem serverMacMessage_inj {nonce sessionId pubC pubS nonce' sessionId' pubC' pubS' : Bytes}
    (nonceSize : nonce.length = nonce'.length) (pubCSize : pubC.length = pubC'.length)
    (pubSSize : pubS.length = pubS'.length)
    (equal : serverMacMessage nonce sessionId pubC pubS =
      serverMacMessage nonce' sessionId' pubC' pubS') :
    nonce = nonce' ∧ sessionId = sessionId' ∧ pubC = pubC' ∧ pubS = pubS' := by
  simp only [serverMacMessage, List.append_assoc, List.append_cancel_left_eq] at equal
  apply append_fields_inj nonceSize pubCSize pubSSize
  simpa only [List.append_assoc] using equal

/-- The type byte tells the authenticators of the two sides apart. -/
theorem clientMacMessage_ne_serverMacMessage
    (nonce deviceId pubC pubS nonce' sessionId pubC' pubS' : Bytes) :
    clientMacMessage nonce deviceId pubC pubS ≠
      serverMacMessage nonce' sessionId pubC' pubS' := by
  intro equal
  simp only [clientMacMessage, serverMacMessage, List.append_assoc] at equal
  have prefixes := (List.append_inj equal (by simp [macPrefix])).1
  revert prefixes
  decide

/-! ## The PSK of a device -/

/-- What a callable PSK returns. -/
inductive CallableResult where
  | bytes (psk : Bytes)
  | awaitable
  | other
  | raises (exn : Exn)

/-- The `psk` argument of `server_handshake`. -/
inductive PskInput where
  | bytes (psk : Bytes)
  | table (entries : Dict Bytes Bytes)
  | callable (resolve : Bytes → CallableResult)

/-- How the PSK of a device is found: at once, by waiting, or not at all. -/
inductive PskLookup where
  | found (psk : Bytes)
  | waiting
  | failed (exn : Exn)

def PskInput.lookup (input : PskInput) (deviceId : Bytes) : PskLookup :=
  match input with
  | .table entries =>
      match (entries.get? deviceId).or (entries.get? []) with
      | some psk => .found psk
      | none => .failed ⟨.handshakeError, "Device ID not registered"⟩
  | .bytes psk => .found psk
  | .callable resolve =>
      match resolve deviceId with
      | .bytes psk => .found psk
      | .awaitable => .waiting
      | .other => .failed ⟨.handshakeError, "Callable PSK did not return bytes or Awaitable"⟩
      | .raises exn => .failed exn

/-! ## A concrete key exchange -/

/-- A commutative stand-in for X25519: byte-wise addition. -/
def sampleKeyExchange : KeyExchange where
  publicKey priv := ⟨priv.1.map (· + 1), by simp [priv.2, usmpPubKeyLen]⟩
  exchange priv pub := some ⟨List.zipWith (· + ·) priv.1 pub.1, by
    simp [priv.2, pub.2, usmpPubKeyLen]⟩

theorem sampleKeyExchange_commutative : sampleKeyExchange.Commutative := by
  intro left right
  simp only [sampleKeyExchange, Option.some.injEq, Subtype.mk.injEq]
  rw [List.zipWith_map_right, List.zipWith_map_right, List.zipWith_comm]
  congr 1
  funext x y
  rw [← UInt8.add_assoc, ← UInt8.add_assoc, UInt8.add_comm y x]

end Usmp
