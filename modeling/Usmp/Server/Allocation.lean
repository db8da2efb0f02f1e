import Usmp.Server.Accounting
import Usmp.Udp.Feed

/-!
# What starts a handshake

The listener tells a HELLO by its type byte and its size, and the stream that it makes for the
HELLO checks the magic and the declared length.  A handshake whose first datagram the stream
does not take as a frame occupies a slot for nothing.
-/

namespace Usmp

open LittleEndian UDPStream

namespace Server

/-- A new stream after what a step feeds to it. -/
def fedStream (P : Primitives) (id : Nat) (effects : List ServerEffect) : UDPStream :=
  effects.foldl (fun stream effect =>
    match effect with
    | .feed other data => if other = id then (stream.feedPacket P data).1 else stream
    | .sendto _ _ | .close _ => stream) { isServer := true }

/-- The stream holds the datagram, which is a HELLO with a payload of 54 bytes. -/
structure HoldsHello (stream : UDPStream) (data : Bytes) : Prop where
  buffer : stream.readBuffer = data
  magic : fieldAt data 0 2 = usmpMagic
  type : typeOf data = PacketType.hello.toNat
  length : lengthOf data = 54
  size : data.length = usmpHeaderSize + 54

/-- A handshake is allocated by the first datagram of its stream. -/
theorem allocated_of_connections {P : Primitives} {config : ServerConfig} {server : Server}
    {data : Bytes} {addr : Addr} {wall mono : Rat}
    (allocates : (server.handleUdpDatagram P config data addr wall mono).1.connections ≠
      server.connections) :
    routedType data = some 1 ∧ data.length = 66 ∧
      server.handleUdpDatagram P config data addr wall mono =
        server.allocateHandshake data addr := by
  rcases handleUdpDatagram_cases P config server data addr wall mono with
    same | ⟨isHello, _, starts, allocated⟩
  · exact absurd same.connections allocates
  · simp only [startsHandshake, Bool.and_eq_true, decide_eq_true_eq] at starts
    exact ⟨isHello, starts.1.1, allocated⟩

theorem fedStream_allocateHandshake (P : Primitives) (server : Server) (data : Bytes)
    (addr : Addr) :
    fedStream P server.connections.length (server.allocateHandshake data addr).2 =
      (({ isServer := true } : UDPStream).feedPacket P data).1 := by
  simp only [fedStream, allocateHandshake, List.foldl_cons, List.foldl_nil, if_true]

/-- A new stream takes a HELLO that it can tell for one. -/
theorem holdsHello_of_isFrame (P : Primitives) {data : Bytes} (isHello : routedType data = some 1)
    (size : data.length = 66) (frame : IsFrame data) :
    HoldsHello (({ isServer := true } : UDPStream).feedPacket P data).1 data := by
  have isType : typeOf data = 1 := by
    rw [routedType, frame.notUtack, size] at isHello
    exact Option.some.inj isHello
  have length : lengthOf data = 54 := by
    have whole := frame.size
    simp only [usmpHeaderSize] at whole
    omega
  have new : ({ isServer := true } : UDPStream).seenBefore data = false := by
    rw [seenBefore, isType]
    rfl
  have room : ({ isServer := true } : UDPStream).readBuffer.length + data.length ≤
      maxReadBuffer := by
    rw [size]
    decide
  rw [feedPacket_new P rfl frame new room]
  exact ⟨rfl, frame.magic, isType, length, size⟩

/-- The stream of an allocated handshake holds its HELLO exactly if the datagram that allocated
it is one that `feed_packet` takes for a frame. -/
theorem allocated_holds_hello_iff (P : Primitives) (config : ServerConfig) (server : Server)
    (data : Bytes) (addr : Addr) (wall mono : Rat)
    (allocates : (server.handleUdpDatagram P config data addr wall mono).1.connections ≠
      server.connections) :
    HoldsHello (fedStream P server.connections.length
        (server.handleUdpDatagram P config data addr wall mono).2) data ↔
      isFrame data = true := by
  rcases allocated_of_connections allocates with ⟨isHello, size, allocated⟩
  rw [allocated, fedStream_allocateHandshake, isFrame_iff]
  constructor
  · intro holds
    have fits : lengthOf data ≤ usmpMaxPayload := by
      rw [holds.length]
      decide
    exact ⟨holds.magic, fits, by rw [holds.size, holds.length]⟩
  · exact holdsHello_of_isFrame P isHello size

/-- A HELLO with a cookie for its address. -/
def sampleHello : Bytes := cookieHello ("10.0.0.1", 1) 40

theorem allocated_holds_hello_iff_sampleHello :
    HoldsHello (fedStream samplePrimitives (Server.new {}).connections.length
      ((Server.new {}).handleUdpDatagram samplePrimitives tightConfig sampleHello
        ("10.0.0.1", 1) 50 0).2) sampleHello := by
  have allocates : ((Server.new {}).handleUdpDatagram samplePrimitives tightConfig sampleHello
      ("10.0.0.1", 1) 50 0).1.connections ≠ (Server.new {}).connections := by
    decide +kernel
  apply (allocated_holds_hello_iff samplePrimitives tightConfig (Server.new {}) sampleHello
    ("10.0.0.1", 1) 50 0 allocates).mpr
  decide +kernel

/-- A UTACK for a HELLO, as long as a HELLO and with a cookie at its end. -/
def utackHello : Bytes :=
  utackHeader 1 0 ++ List.replicate 43 0 ++
    issueCookie samplePrimitives tightConfig.cookieSecret ("10.0.0.1", 1) 40

/-- The look-alike allocates a handshake, and its stream does not hold a HELLO. -/
theorem allocated_for_utackHello :
    isUtack utackHello = true ∧
      ((Server.new {}).handleUdpDatagram samplePrimitives tightConfig utackHello
        ("10.0.0.1", 1) 50 0).1.connections ≠ (Server.new {}).connections ∧
      ¬ HoldsHello (fedStream samplePrimitives (Server.new {}).connections.length
        ((Server.new {}).handleUdpDatagram samplePrimitives tightConfig utackHello
          ("10.0.0.1", 1) 50 0).2) utackHello := by
  refine ⟨by decide +kernel, by decide +kernel, ?_⟩
  intro holds
  have differs : fieldAt utackHello 0 2 ≠ usmpMagic := by decide +kernel
  exact differs holds.magic

end Server

end Usmp
