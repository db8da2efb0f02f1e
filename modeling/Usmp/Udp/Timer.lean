import Usmp.Lib.Smoothing
import Usmp.Sample
import Usmp.Udp.Wire

/-!
# The retransmission timer

`drain` estimates the round-trip time and waits as long as the estimate says.  `TimedPeer` is a
UDP end with a clock: its actions carry the time at which they happen, a wait times out when it
is over and not before, and what `drain` measures goes into the estimate.

The end records every write with the times of its transmissions, and every measured round trip.
-/

namespace Usmp

open Smoothing

/-- The Jacobson/Karn state of a stream. -/
structure RttState where
  srtt : Rat := 1 / 5
  rttvar : Rat := 1 / 10
  rto : Rat := 1 / 2
  deriving DecidableEq, Repr

namespace RttState

/-- The update of the estimate in `drain`. -/
def update (rtt : RttState) (sampleRtt : Rat) : RttState :=
  let err := sampleRtt - rtt.srtt
  let rttvar := rtt.rttvar + 1 / 4 * (|err| - rtt.rttvar)
  let srtt := rtt.srtt + 1 / 8 * err
  { srtt, rttvar, rto := max (1 / 10) (min 5 (srtt + 4 * rttvar)) }

/-- The estimate alone. -/
def estimate (rtt : RttState) : Estimate Rat := ⟨rtt.srtt, rtt.rttvar⟩

theorem estimate_update (rtt : RttState) (sampleRtt : Rat) :
    (rtt.update sampleRtt).estimate = rtt.estimate.observe (1 / 8) (1 / 4) sampleRtt := rfl

theorem estimate_foldl (rtt : RttState) (samples : List Rat) :
    (samples.foldl update rtt).estimate =
      samples.foldl (Estimate.observe (1 / 8) (1 / 4)) rtt.estimate := by
  induction samples generalizing rtt with
  | nil => rfl
  | cons sample rest ih => rw [List.foldl_cons, List.foldl_cons, ih, estimate_update]

/-- The timeout is cut to between 0.1 and 5 seconds. -/
theorem rto_range (samples : List Rat) :
    1 / 10 ≤ (samples.foldl update {}).rto ∧ (samples.foldl update {}).rto ≤ 5 := by
  induction samples using List.reverseRecOn with
  | nil => decide +kernel
  | append_singleton samples sample ih =>
      rw [List.foldl_append]
      exact ⟨le_max_left _ _, max_le (by norm_num) (min_le_left _ _)⟩

theorem within {samples : List Rat} {low high : Rat} (low_le : low ≤ 1 / 5) (le_high : 1 / 5 ≤ high)
    (inside : ∀ sample ∈ samples, low ≤ sample ∧ sample ≤ high) :
    let rtt := samples.foldl update {}
    (low ≤ rtt.srtt ∧ rtt.srtt ≤ high) ∧ 0 ≤ rtt.rttvar ∧
      rtt.rttvar ≤ max (1 / 10) (high - low) := by
  induction samples using List.reverseRecOn with
  | nil => exact ⟨⟨low_le, le_high⟩, by decide +kernel, le_max_left _ _⟩
  | append_singleton samples sample ih =>
      have old := ih fun other member => inside other (List.mem_append_left _ member)
      have mean : low ≤ (samples.foldl update {}).estimate.mean ∧
          (samples.foldl update {}).estimate.mean ≤ high := old.1
      have deviation : 0 ≤ (samples.foldl update {}).estimate.deviation ∧
          (samples.foldl update {}).estimate.deviation ≤ max (1 / 10) (high - low) := old.2
      have new := inside sample (List.mem_append_right _ List.mem_cons_self)
      have gain : (0 : Rat) ≤ 1 / 8 ∧ (1 / 8 : Rat) ≤ 1 := by norm_num
      have gain' : (0 : Rat) ≤ 1 / 4 ∧ (1 / 4 : Rat) ≤ 1 := by norm_num
      have next := Estimate.observe_within gain.1 gain.2 gain'.1 gain'.2 (le_max_right _ _) mean
        deviation new
      rw [List.foldl_append]
      exact next

/-- The deviation is never negative. -/
theorem rttvar_nonneg (samples : List Rat) : 0 ≤ (samples.foldl update {}).rttvar := by
  induction samples using List.reverseRecOn with
  | nil => decide +kernel
  | append_singleton samples sample ih =>
      rw [List.foldl_append]
      have gain : (0 : Rat) ≤ 1 / 4 ∧ (1 / 4 : Rat) ≤ 1 := by norm_num
      exact le_smooth gain.1 gain.2 ih (abs_nonneg _)

/-- The timeout covers the round trip measured last. -/
theorem covers (samples : List Rat) (sample : Rat) :
    min 5 sample ≤ ((samples ++ [sample]).foldl update {}).rto := by
  have gain : (0 : Rat) ≤ 1 / 8 ∧ (1 / 8 : Rat) ≤ 1 := by norm_num
  have margin := Estimate.le_margin gain.1 gain.2 (show (1 / 4 : Rat) ≤ 1 by norm_num)
    (show (0 : Rat) ≤ 4 by norm_num) (by norm_num)
    (show 0 ≤ (samples.foldl update {}).estimate.deviation from rttvar_nonneg samples) sample
  rw [List.foldl_append]
  exact (min_le_min_left 5 margin).trans (le_max_right _ _)

/-- How far the timeout may be above round trips around `target`, `count` samples after an
estimate. -/
def slack (rtt : RttState) (target spread : Rat) (count : Nat) : Rat :=
  9 * spread + (7 / 8) ^ count *
    (|rtt.srtt - target| + 4 * max rtt.rttvar (2 * |rtt.srtt - target|))

/-- Round trips around a target draw the timeout down to it. -/
theorem settles (earlier : List Rat) {later : List Rat} (some : later ≠ []) {target spread : Rat}
    (spread_nonneg : 0 ≤ spread)
    (close : ∀ sample ∈ later, |sample - target| ≤ spread) :
    ((earlier ++ later).foldl update {}).rto ≤
      max (1 / 10) (target + (earlier.foldl update {}).slack target spread later.length) := by
  rw [List.foldl_append]
  generalize earlier.foldl update {} = rtt
  have near : Estimate.Near target spread |rtt.srtt - target|
      (max rtt.rttvar (2 * |rtt.srtt - target|)) rtt.estimate :=
    ⟨le_add_of_nonneg_right spread_nonneg,
      (le_max_left _ _).trans (le_add_of_nonneg_right (mul_nonneg (by norm_num) spread_nonneg))⟩
  have gain : (0 : Rat) ≤ 1 / 8 ∧ (1 / 8 : Rat) ≤ 1 := by norm_num
  have gain' : (0 : Rat) ≤ 1 / 4 ∧ (1 / 4 : Rat) ≤ 1 := by norm_num
  have wider : (1 / 4 : Rat) * |rtt.srtt - target| ≤
      (1 / 4 - 1 / 8) * max rtt.rttvar (2 * |rtt.srtt - target|) := by
    have larger := le_max_right rtt.rttvar (2 * |rtt.srtt - target|)
    linarith
  have drawn := near.foldl gain.1 gain.2 gain'.1 gain'.2 wider close
  rw [← estimate_foldl, show (1 : Rat) - 1 / 8 = 7 / 8 by norm_num] at drawn
  have isRto : (later.foldl update rtt).rto = max (1 / 10) (min 5
      ((later.foldl update rtt).srtt + 4 * (later.foldl update rtt).rttvar)) := by
    rcases List.eq_nil_or_concat later with nothing | ⟨first, last, isLast⟩
    · exact absurd nothing some
    · rw [isLast, List.concat_eq_append, List.foldl_append]
      rfl
  have mean : (later.foldl update rtt).srtt - target ≤ _ := (le_abs_self _).trans drawn.mean
  have deviation : (later.foldl update rtt).rttvar ≤ _ := drawn.deviation
  rw [isRto]
  refine max_le_max_left _ ((min_le_right _ _).trans ?_)
  unfold slack
  linarith

end RttState

/-- How long an attempt of `drain` waits. -/
def attemptTimeout (baseRto : Rat) (attempt : Nat) : Rat :=
  min 5 (max (1 / 20) (baseRto * 2 ^ attempt))

/-- A call of `drain` that transmitted its frame. -/
structure Write where
  data : Bytes
  baseRto : Rat
  /-- The time of the first transmission. -/
  start : Rat
  /-- The times of the copies, the last one first. -/
  again : List Rat := []
  /-- When its wait returned. -/
  acked : Option Rat := none

namespace Write

/-- The round trip of a frame that was transmitted once. -/
def roundTrip (write : Write) : Option Rat :=
  if write.again = [] then write.acked.map (· - write.start) else none

/-- The time of the last transmission. -/
def last (write : Write) : Rat := write.again.headD write.start

/-- The datagrams of the write. -/
def copies (write : Write) : List Bytes := List.replicate (write.again.length + 1) write.data

/-- Each copy waits until the attempt before it has timed out. -/
def Spaced (baseRto start : Rat) : List Rat → Prop
  | [] => True
  | time :: earlier =>
      earlier.headD start + attemptTimeout baseRto earlier.length ≤ time ∧
        Spaced baseRto start earlier

/-- A write under a timeout between 0.1 and 5 seconds, with at most 5 transmissions. -/
structure Paced (write : Write) : Prop where
  base : 1 / 10 ≤ write.baseRto ∧ write.baseRto ≤ 5
  few : write.again.length < maxAttempts
  spaced : Spaced write.baseRto write.start write.again

end Write

/-- A UDP end with a clock. -/
structure TimedPeer where
  peer : UdpPeer
  rtt : RttState := {}
  /-- `base_rto` of the `drain` in progress. -/
  baseRto : Rat := 1 / 2
  /-- `start_time` of its attempt. -/
  startTime : Rat := 0
  clock : Rat := 0
  samples : List Rat := []
  /-- The last one first. -/
  writes : List Write := []

namespace TimedPeer

/-- The wait of `drain` returns.  Only a first attempt is measured. -/
def acked (timed : TimedPeer) (arq : Arq) (now : Rat) : TimedPeer :=
  let timed := { timed with
    writes := timed.writes.modifyHead fun write => { write with acked := some now } }
  if arq.attempt = 0 then
    let sampleRtt := now - timed.startTime
    { timed with rtt := timed.rtt.update sampleRtt, samples := timed.samples ++ [sampleRtt] }
  else
    timed

/-- The first transmission of a frame, if the end has begun one. -/
def transmitted (timed : TimedPeer) (now : Rat) : TimedPeer :=
  match timed.peer.arq with
  | some arq =>
      { timed with
        baseRto := timed.rtt.rto
        startTime := now
        writes := { data := arq.data, baseRto := timed.rtt.rto, start := now } :: timed.writes }
  | none => timed

/-- Another transmission of the frame, if the end has not given up. -/
def repeated (timed : TimedPeer) (now : Rat) : TimedPeer :=
  match timed.peer.arq with
  | some _ =>
      { timed with
        startTime := now
        writes := timed.writes.modifyHead fun write => { write with again := now :: write.again } }
  | none => timed

/-- When the attempt in progress times out. -/
def due (timed : TimedPeer) : Rat :=
  match timed.peer.arq with
  | some arq => timed.startTime + attemptTimeout timed.baseRto arq.attempt
  | none => timed.clock

/-- A step at a time.  The times inside the actions are those of `recv` and play no part here. -/
def step (P : Primitives) (timed : TimedPeer) (action : Rat × UdpAction) : Option TimedPeer :=
  if action.1 < timed.clock then
    none
  else
    let now := action.1
    let timed := { timed with clock := now }
    match action.2 with
    | .acquire task =>
        (timed.peer.step P (.acquire task)).map fun peer =>
          ({ timed with peer } : TimedPeer).transmitted now
    | .acked at_ =>
        match timed.peer.arq with
        | some arq =>
            (timed.peer.step P (.acked at_)).map fun peer =>
              ({ timed.acked arq now with peer } : TimedPeer).transmitted now
        | none => none
    | .timeout at_ =>
        if now < timed.due then
          none
        else
          (timed.peer.step P (.timeout at_)).map fun peer =>
            ({ timed with peer } : TimedPeer).repeated now
    | .call _ _ _ | .resume _ _ | .cancel _ | .feed _ =>
        (timed.peer.step P action.2).map fun peer => { timed with peer }

/-! ## What the records say -/

/-- The records agree with each other, with what was transmitted and with the log; `earlier`
are the round trips measured before. -/
structure Recorded (earlier : List Rat) (outbox : List Bytes) (log : List SentFrame)
    (timed : TimedPeer) : Prop where
  rtt : timed.rtt = timed.samples.foldl RttState.update {}
  nonneg : ∀ sample ∈ timed.samples, 0 ≤ sample
  karn : timed.samples = earlier ++ timed.writes.reverse.filterMap Write.roundTrip
  started : timed.startTime ≤ timed.clock
  paced : ∀ write ∈ timed.writes, write.Paced
  past : ∀ write ∈ timed.writes, write.last ≤ timed.clock
  inTurn : timed.writes.Pairwise fun newer older => older.last ≤ newer.start
  wire : outbox.filter (fun data => !UDPStream.isUtack data) =
    timed.writes.reverse.flatMap Write.copies
  inOrder : (timed.writes.reverse.map Write.data).Sublist (log.map SentFrame.bytes)

/-- The record of the write in progress. -/
structure Current (timed : TimedPeer) (arq : Arq) (write : Write) : Prop where
  data : write.data = arq.data
  base : write.baseRto = timed.baseRto
  attempt : write.again.length = arq.attempt
  last : write.last = timed.startTime
  waits : write.acked = none

section Recorded

variable {earlier : List Rat} {outbox : List Bytes} {log : List SentFrame} {timed : TimedPeer}
  {now : Rat} {arq : Arq} {write : Write} {rest : List Write}

theorem Recorded.tick (recorded : Recorded earlier outbox log timed) (later : timed.clock ≤ now) :
    Recorded earlier outbox log { timed with clock := now } := by
  refine ⟨recorded.rtt, recorded.nonneg, recorded.karn, recorded.started.trans later,
    recorded.paced, ?_, recorded.inTurn, recorded.wire, recorded.inOrder⟩
  intro write member
  exact (recorded.past write member).trans later

/-- The records do not depend on the end. -/
theorem Recorded.withPeer (recorded : Recorded earlier outbox log timed) (peer : UdpPeer) :
    Recorded earlier outbox log { timed with peer } :=
  ⟨recorded.rtt, recorded.nonneg, recorded.karn, recorded.started, recorded.paced, recorded.past,
    recorded.inTurn, recorded.wire, recorded.inOrder⟩

theorem roundTrips_cons (write : Write) (rest : List Write) :
    (write :: rest).reverse.filterMap Write.roundTrip =
      rest.reverse.filterMap Write.roundTrip ++ write.roundTrip.toList := by
  rw [List.reverse_cons, List.filterMap_append]
  cases trip : write.roundTrip with
  | none => simp [trip]
  | some time => simp [trip]

theorem copies_cons (write : Write) (rest : List Write) :
    (write :: rest).reverse.flatMap Write.copies =
      rest.reverse.flatMap Write.copies ++ write.copies := by
  rw [List.reverse_cons, List.flatMap_append, List.flatMap_singleton]

theorem roundTrip_of_waits (waits : write.acked = none) : write.roundTrip = none := by
  unfold Write.roundTrip
  rw [waits]
  split <;> rfl

theorem filter_frame {data : Bytes} (notUtack : UDPStream.isUtack data = false) :
    (outbox ++ [data]).filter (fun data => !UDPStream.isUtack data) =
      outbox.filter (fun data => !UDPStream.isUtack data) ++ [data] := by
  rw [List.filter_append]
  congr 1
  exact List.filter_cons_of_pos (by simp [notUtack])

/-- Nothing is transmitted. -/
theorem Recorded.quiet (recorded : Recorded earlier outbox log timed) (peer : UdpPeer)
    {replies : List Bytes} (utacks : ∀ reply ∈ replies, UDPStream.isUtack reply = true)
    (more : List SentFrame) :
    Recorded earlier (outbox ++ replies) (log ++ more) { timed with peer } := by
  refine ⟨recorded.rtt, recorded.nonneg, recorded.karn, recorded.started, recorded.paced,
    recorded.past, recorded.inTurn, ?_, ?_⟩
  · have silent : replies.filter (fun data => !UDPStream.isUtack data) = [] := by
      rw [List.filter_eq_nil_iff]
      intro reply member
      simp [utacks reply member]
    rw [List.filter_append, silent, List.append_nil]
    exact recorded.wire
  · rw [List.map_append]
    exact recorded.inOrder.trans (List.sublist_append_left _ _)

/-- The wait of the write in progress returns. -/
theorem Recorded.acked (recorded : Recorded earlier outbox log timed)
    (isWrites : timed.writes = write :: rest) (current : timed.Current arq write)
    (atClock : timed.clock = now) : Recorded earlier outbox log (timed.acked arq now) := by
  have records : (timed.acked arq now).writes = { write with acked := some now } :: rest := by
    unfold TimedPeer.acked
    dsimp only
    rw [isWrites]
    split <;> rfl
  have karn := recorded.karn
  have wire := recorded.wire
  have inOrder := recorded.inOrder
  have paced := recorded.paced
  have past := recorded.past
  have inTurn := recorded.inTurn
  rw [isWrites] at karn wire inOrder paced past inTurn
  rw [roundTrips_cons, roundTrip_of_waits current.waits] at karn
  -- only a frame that was transmitted once is measured
  have measured : (timed.acked arq now).samples = timed.samples ++
      ({ write with acked := some now } : Write).roundTrip.toList := by
    unfold TimedPeer.acked Write.roundTrip
    dsimp only
    have attempt := current.attempt
    have last := current.last
    unfold Write.last at last
    cases copies : write.again with
    | nil =>
        rw [copies] at attempt last
        have first : arq.attempt = 0 := attempt.symm
        rw [if_pos first, if_pos rfl, ← last]
        rfl
    | cons time times =>
        rw [copies] at attempt
        have again : arq.attempt ≠ 0 := by
          rw [← attempt]
          exact Nat.succ_ne_zero _
        rw [if_neg again, if_neg (List.cons_ne_nil _ _)]
        exact (List.append_nil _).symm
  have same : (timed.acked arq now).clock = timed.clock ∧
      (timed.acked arq now).startTime = timed.startTime := by
    unfold TimedPeer.acked
    dsimp only
    split <;> exact ⟨rfl, rfl⟩
  refine ⟨?_, ?_, ?_, ?_, ?_, ?_, ?_, ?_, ?_⟩
  · have rtt := recorded.rtt
    unfold TimedPeer.acked
    dsimp only
    split
    · rw [List.foldl_append, ← rtt]
      rfl
    · exact rtt
  · rw [measured]
    intro sample member
    rcases List.mem_append.mp member with old | new
    · exact recorded.nonneg sample old
    · rw [Option.mem_toList, Write.roundTrip] at new
      split at new
      · rename_i once
        cases new
        have last := current.last
        unfold Write.last at last
        rw [once] at last
        have started := recorded.started
        rw [← last, atClock] at started
        exact sub_nonneg.mpr started
      · cases new
  · rw [measured, karn, records, roundTrips_cons]
    simp
  · rw [same.1, same.2]
    exact recorded.started
  · rw [records]
    intro other member
    rcases List.mem_cons.mp member with rfl | old
    · have own := paced write List.mem_cons_self
      exact ⟨own.base, own.few, own.spaced⟩
    · exact paced other (List.mem_cons_of_mem _ old)
  · rw [records, same.1]
    intro other member
    rcases List.mem_cons.mp member with rfl | old
    · exact past write List.mem_cons_self
    · exact past other (List.mem_cons_of_mem _ old)
  · rw [records]
    exact List.pairwise_cons.mpr (List.pairwise_cons.mp inTurn)
  · rw [records, copies_cons, wire, copies_cons]
    rfl
  · rw [records, List.reverse_cons, List.map_append]
    rw [List.reverse_cons, List.map_append] at inOrder
    exact inOrder

/-- A frame is transmitted for the first time. -/
theorem Recorded.began (recorded : Recorded earlier outbox log timed) (atClock : timed.clock = now)
    {sent : SentFrame} (frame : IsFrame sent.bytes) (isArq : timed.peer.arq = some arq)
    (isData : arq.data = sent.bytes) :
    Recorded earlier (outbox ++ [sent.bytes]) (log ++ [sent]) (timed.transmitted now) := by
  have after : timed.transmitted now = { timed with
      baseRto := timed.rtt.rto
      startTime := now
      writes := { data := arq.data, baseRto := timed.rtt.rto, start := now } :: timed.writes } := by
    unfold transmitted
    rw [isArq]
  rw [after]
  refine ⟨recorded.rtt, recorded.nonneg, ?_, le_of_eq atClock.symm, ?_, ?_, ?_, ?_, ?_⟩
  · dsimp only
    rw [roundTrips_cons, roundTrip_of_waits rfl]
    simpa using recorded.karn
  · intro write member
    rcases List.mem_cons.mp member with rfl | old
    · have range := RttState.rto_range timed.samples
      rw [← recorded.rtt] at range
      exact ⟨range, Nat.zero_lt_succ _, trivial⟩
    · exact recorded.paced write old
  · intro write member
    rcases List.mem_cons.mp member with rfl | old
    · exact le_of_eq atClock.symm
    · exact recorded.past write old
  · refine List.pairwise_cons.mpr ⟨?_, recorded.inTurn⟩
    intro older member
    exact (recorded.past older member).trans_eq atClock
  · dsimp only
    rw [filter_frame frame.notUtack, recorded.wire, copies_cons, isData]
    rfl
  · dsimp only
    rw [List.reverse_cons, List.map_append, List.map_append]
    refine recorded.inOrder.append ?_
    rw [List.map_singleton, List.map_singleton, isData]

/-- A frame is transmitted again. -/
theorem Recorded.copied (recorded : Recorded earlier outbox log timed)
    (atClock : timed.clock = now) (isWrites : timed.writes = write :: rest)
    (current : timed.Current arq write)
    (timedOut : timed.startTime + attemptTimeout timed.baseRto arq.attempt ≤ now)
    (early : arq.attempt + 1 < maxAttempts) (notUtack : UDPStream.isUtack arq.data = false)
    {next : Arq} (isNext : timed.peer.arq = some next) :
    Recorded earlier (outbox ++ [arq.data]) log (timed.repeated now) := by
  have after : timed.repeated now = { timed with
      startTime := now
      writes := { write with again := now :: write.again } :: rest } := by
    unfold repeated
    rw [isNext, isWrites]
    rfl
  have karn := recorded.karn
  have wire := recorded.wire
  have inOrder := recorded.inOrder
  have paced := recorded.paced
  have past := recorded.past
  have inTurn := recorded.inTurn
  rw [isWrites] at karn wire inOrder paced past inTurn
  have own := paced write List.mem_cons_self
  rw [after]
  refine ⟨recorded.rtt, recorded.nonneg, ?_, le_of_eq atClock.symm, ?_, ?_, ?_, ?_, ?_⟩
  · dsimp only
    have noTrip : ({ write with again := now :: write.again } : Write).roundTrip = none :=
      roundTrip_of_waits current.waits
    rw [roundTrips_cons, roundTrip_of_waits current.waits] at karn
    rw [roundTrips_cons, noTrip]
    exact karn
  · intro other member
    rcases List.mem_cons.mp member with rfl | old
    · refine ⟨own.base, ?_, ?_, own.spaced⟩
      · rw [List.length_cons, current.attempt]
        exact early
      · have last := current.last
        unfold Write.last at last
        rw [last, current.base, current.attempt]
        exact timedOut
    · exact paced other (List.mem_cons_of_mem _ old)
  · intro other member
    rcases List.mem_cons.mp member with rfl | old
    · exact le_of_eq atClock.symm
    · exact past other (List.mem_cons_of_mem _ old)
  · exact List.pairwise_cons.mpr (List.pairwise_cons.mp inTurn)
  · dsimp only
    rw [filter_frame notUtack, wire, copies_cons, copies_cons, List.append_assoc]
    congr 1
    rw [Write.copies, Write.copies, ← current.data]
    exact List.replicate_succ'.symm
  · dsimp only
    rw [List.reverse_cons, List.map_append]
    rw [List.reverse_cons, List.map_append] at inOrder
    exact inOrder

end Recorded

/-! ## Runs -/

/-- What holds of an end in every state of its runs. -/
structure Timing (earlier : List Rat) (timed : TimedPeer) : Prop where
  holding : timed.peer.Holding
  recorded : Recorded earlier timed.peer.outbox timed.peer.session.sent timed
  current : ∀ arq, timed.peer.arq = some arq → ∃ write rest, timed.writes = write :: rest ∧
    timed.Current arq write ∧ UDPStream.isUtack arq.data = false

section Timing

variable {P : Primitives} {earlier : List Rat} {timed before after : TimedPeer} {peer : UdpPeer}
  {now : Rat} {action : UdpAction}

theorem Recorded.silent {outbox : List Bytes} {log : List SentFrame}
    (recorded : Recorded earlier outbox log timed) (sameOutbox : peer.outbox = outbox)
    (moreLog : ∃ more, peer.session.sent = log ++ more) :
    Recorded earlier peer.outbox peer.session.sent { timed with peer } := by
  rcases moreLog with ⟨more, isLog⟩
  have none : ∀ reply ∈ ([] : List Bytes), UDPStream.isUtack reply = true := by
    intro reply member
    cases member
  have quiet := recorded.quiet peer none more
  rw [List.append_nil] at quiet
  rw [sameOutbox, isLog]
  exact quiet

/-- After the lock was taken or a wait returned, the end may begin the next write. -/
theorem Recorded.transmits {old : UdpPeer}
    (recorded : Recorded earlier old.outbox old.session.sent timed) (atClock : timed.clock = now)
    (holding : peer.Holding) (wire : UdpPeer.Wire old action peer)
    (starts : (∃ task, action = .acquire task) ∨ ∃ now, action = .acked now)
    (ended : old.arqAfter action = none) :
    Timing earlier (({ timed with peer } : TimedPeer).transmitted now) := by
  cases wire with
  | began _ _ sent _ _ arq outbox log lock frame =>
      have began := (recorded.withPeer peer).began atClock frame arq rfl
      have records : ({ timed with peer } : TimedPeer).transmitted now = { timed with
          peer
          baseRto := timed.rtt.rto
          startTime := now
          writes := { data := sent.bytes, baseRto := timed.rtt.rto, start := now } ::
            timed.writes } := by
        unfold transmitted
        dsimp only
        rw [arq]
      rw [← outbox, ← log] at began
      rw [records] at began ⊢
      refine ⟨holding, began, ?_⟩
      intro current isCurrent
      cases arq.symm.trans isCurrent
      exact ⟨_, timed.writes, rfl, ⟨rfl, rfl, rfl, rfl, rfl⟩, frame.notUtack⟩
  | quiet _ _ arq outbox log lock gaveUp =>
      have none := arq.trans ended
      have records : ({ timed with peer } : TimedPeer).transmitted now = { timed with peer } := by
        unfold transmitted
        dsimp only
        rw [none]
      rw [records]
      refine ⟨holding, recorded.silent outbox log, ?_⟩
      intro current isCurrent
      cases none.symm.trans isCurrent
  | copied => rcases starts with ⟨_, impossible⟩ | ⟨_, impossible⟩ <;> cases impossible
  | fed => rcases starts with ⟨_, impossible⟩ | ⟨_, impossible⟩ <;> cases impossible

/-- The record of a write in progress depends on neither the clock nor the end. -/
theorem Current.tick {arq : Arq} {write : Write} (current : timed.Current arq write) (now : Rat)
    (peer : UdpPeer) : Current { timed with clock := now, peer } arq write :=
  ⟨current.data, current.base, current.attempt, current.last, current.waits⟩

/-- An action that neither begins a write nor waits for one. -/
theorem Timing.calm (timing : Timing earlier before)
    (onPeer : before.peer.step P action = some peer) (later : before.clock ≤ now)
    (notTimeout : ∀ now, action ≠ .timeout now) (notAcked : ∀ now, action ≠ .acked now)
    (notAcquire : ∀ task, action ≠ .acquire task) :
    Timing earlier { before with clock := now, peer } := by
  have ticked := timing.recorded.tick later
  constructor
  · exact timing.holding.next onPeer
  · cases timing.holding.wire onPeer with
    | began _ _ sent starts =>
        rcases starts with ⟨task, impossible⟩ | ⟨time, impossible⟩
        · exact absurd impossible (notAcquire task)
        · exact absurd impossible (notAcked time)
    | copied time => exact absurd rfl (notTimeout time)
    | fed data _ replies arq outbox session utacks =>
        have quiet := ticked.quiet peer utacks []
        rw [List.append_nil, ← outbox, ← session] at quiet
        exact quiet
    | quiet _ _ arq outbox log lock gaveUp => exact ticked.silent outbox log
  · intro arq isArq
    have old : before.peer.arq = some arq := by
      cases timing.holding.wire onPeer with
      | began _ _ sent starts =>
          rcases starts with ⟨task, impossible⟩ | ⟨time, impossible⟩
          · exact absurd impossible (notAcquire task)
          · exact absurd impossible (notAcked time)
      | copied time => exact absurd rfl (notTimeout time)
      | fed data _ replies same => exact same.symm.trans isArq
      | quiet _ _ settled =>
          rcases before.peer.arqAfter_eq action with none | same
          · cases none.symm.trans (settled.symm.trans isArq)
          · exact same.symm.trans (settled.symm.trans isArq)
    rcases timing.current arq old with ⟨write, rest, isWrites, isCurrent, notUtack⟩
    exact ⟨write, rest, isWrites, isCurrent.tick now peer, notUtack⟩

/-- An attempt timed out: its datagram is sent again, or the write fails. -/
theorem Timing.timedOut (timing : Timing earlier before) {time : Rat}
    (onPeer : before.peer.step P (.timeout time) = some peer) (later : before.clock ≤ now)
    (due : ({ before with clock := now } : TimedPeer).due ≤ now) :
    Timing earlier (({ before with clock := now, peer } : TimedPeer).repeated now) := by
  have ticked := timing.recorded.tick later
  have holding := timing.holding.next onPeer
  cases timing.holding.wire onPeer with
  | began _ _ sent starts =>
      rcases starts with ⟨_, impossible⟩ | ⟨_, impossible⟩ <;> cases impossible
  | copied _ arq _ inFlight early isPeer =>
      rcases timing.current arq inFlight with ⟨write, rest, isWrites, isCurrent, notUtack⟩
      subst isPeer
      have isDue : ({ before with clock := now } : TimedPeer).due =
          before.startTime + attemptTimeout before.baseRto arq.attempt := by
        unfold TimedPeer.due
        dsimp only
        rw [inFlight]
      rw [isDue] at due
      refine ⟨holding, (ticked.withPeer _).copied rfl isWrites (isCurrent.tick now _) due early
        notUtack rfl, ?_⟩
      intro next isNext
      cases isNext
      unfold repeated
      dsimp only
      rw [isWrites]
      refine ⟨_, rest, rfl, ⟨isCurrent.data, isCurrent.base, ?_, rfl, isCurrent.waits⟩, notUtack⟩
      exact congrArg (· + 1) isCurrent.attempt
  | quiet _ _ arq outbox log lock gaveUp =>
      have none : peer.arq = none := arq
      have records : ({ before with clock := now, peer } : TimedPeer).repeated now =
          { before with clock := now, peer } := by
        unfold repeated
        dsimp only
        rw [none]
      rw [records]
      refine ⟨holding, ticked.silent outbox log, ?_⟩
      intro current isCurrent
      cases none.symm.trans isCurrent

theorem Timing.next (timing : Timing earlier before) {action : Rat × UdpAction}
    (stepped : before.step P action = some after) : Timing earlier after := by
  rcases action with ⟨now, action⟩
  unfold step at stepped
  split at stepped
  · cases stepped
  rename_i later
  dsimp only at stepped later
  have later := not_lt.mp later
  have ticked := timing.recorded.tick later
  cases action with
  | call task op time =>
      rcases Option.map_eq_some_iff.mp stepped with ⟨peer, onPeer, rfl⟩
      exact timing.calm onPeer later (by simp) (by simp) (by simp)
  | resume task time =>
      rcases Option.map_eq_some_iff.mp stepped with ⟨peer, onPeer, rfl⟩
      exact timing.calm onPeer later (by simp) (by simp) (by simp)
  | cancel task =>
      rcases Option.map_eq_some_iff.mp stepped with ⟨peer, onPeer, rfl⟩
      exact timing.calm onPeer later (by simp) (by simp) (by simp)
  | feed data =>
      rcases Option.map_eq_some_iff.mp stepped with ⟨peer, onPeer, rfl⟩
      exact timing.calm onPeer later (by simp) (by simp) (by simp)
  | acquire task =>
      rcases Option.map_eq_some_iff.mp stepped with ⟨peer, onPeer, rfl⟩
      exact ticked.transmits rfl (timing.holding.next onPeer) (timing.holding.wire onPeer)
        (.inl ⟨task, rfl⟩) (timing.holding.arqAfter_acquire onPeer)
  | acked time =>
      dsimp only at stepped
      split at stepped
      case h_2 => cases stepped
      rename_i arq inFlight
      rcases Option.map_eq_some_iff.mp stepped with ⟨peer, onPeer, rfl⟩
      rcases timing.current arq inFlight with ⟨write, rest, isWrites, isCurrent, _⟩
      have returned := ticked.acked isWrites (isCurrent.tick now before.peer) rfl
      refine returned.transmits ?_ (timing.holding.next onPeer) (timing.holding.wire onPeer)
        (.inr ⟨time, rfl⟩) rfl
      unfold TimedPeer.acked
      dsimp only
      split <;> rfl
  | timeout time =>
      dsimp only at stepped
      split at stepped
      · cases stepped
      rename_i due
      rcases Option.map_eq_some_iff.mp stepped with ⟨peer, onPeer, rfl⟩
      exact timing.timedOut onPeer later (not_lt.mp due)

end Timing

/-- An established end, on a stream that measured `earlier` during the handshake. -/
def start (info : SessionInfo) (stream : UDPStream) (earlier : List Rat) (clock : Rat) :
    TimedPeer :=
  { peer := .established info stream
    rtt := earlier.foldl RttState.update {}
    startTime := clock
    clock
    samples := earlier }

theorem Timing.start (info : SessionInfo) (stream : UDPStream) {earlier : List Rat}
    (nonneg : ∀ sample ∈ earlier, 0 ≤ sample) (clock : Rat) :
    Timing earlier (start info stream earlier clock) := by
  refine ⟨.established info stream, ⟨rfl, nonneg, (List.append_nil _).symm, le_refl clock, ?_, ?_,
    .nil, rfl, .slnil⟩, ?_⟩
  · intro write impossible
    cases impossible
  · intro write impossible
    cases impossible
  · intro arq impossible
    cases impossible

theorem Timing.run {P : Primitives} {earlier : List Rat} {timed final : TimedPeer}
    {actions : List (Rat × UdpAction)} (timing : Timing earlier timed)
    (reached : Machine.run (step P) timed actions = some final) : Timing earlier final :=
  Machine.run_invariant' (Timing earlier) (fun _ _ _ timing stepped => timing.next stepped) timing
    reached

/-- What the estimate is worth. -/
structure Estimates (earlier : List Rat) (timed : TimedPeer) : Prop where
  /-- The samples are the round trips of the frames that were transmitted once. -/
  measured : timed.samples = earlier ++ timed.writes.reverse.filterMap Write.roundTrip
  nonneg : ∀ sample ∈ timed.samples, 0 ≤ sample
  range : 1 / 10 ≤ timed.rtt.rto ∧ timed.rtt.rto ≤ 5
  within : ∀ low high, low ≤ 1 / 5 → 1 / 5 ≤ high →
    (∀ sample ∈ timed.samples, low ≤ sample ∧ sample ≤ high) →
      (low ≤ timed.rtt.srtt ∧ timed.rtt.srtt ≤ high) ∧
        0 ≤ timed.rtt.rttvar ∧ timed.rtt.rttvar ≤ max (1 / 10) (high - low)
  /-- The timeout covers the last sample. -/
  covers : ∀ before sample, timed.samples = before ++ [sample] → min 5 sample ≤ timed.rtt.rto
  /-- Round trips around a target draw the timeout towards it, whatever came before. -/
  settles : ∀ before later target spread, timed.samples = before ++ later → later ≠ [] →
    0 ≤ spread → (∀ sample ∈ later, |sample - target| ≤ spread) →
      timed.rtt.rto ≤ max (1 / 10)
        (target + (before.foldl RttState.update {}).slack target spread later.length)

theorem rtt_estimates (P : Primitives) (info : SessionInfo) (stream : UDPStream)
    (earlier : List Rat) (nonneg : ∀ sample ∈ earlier, 0 ≤ sample) (clock : Rat)
    (actions : List (Rat × UdpAction)) (final : TimedPeer)
    (reached : Machine.run (step P) (start info stream earlier clock) actions = some final) :
    Estimates earlier final := by
  rcases (Timing.start info stream nonneg clock).run reached with ⟨_, recorded, _⟩
  refine ⟨recorded.karn, recorded.nonneg, ?_, ?_, ?_, ?_⟩
  · rw [recorded.rtt]
    exact RttState.rto_range _
  · intro low high low_le le_high inside
    rw [recorded.rtt]
    exact RttState.within low_le le_high inside
  · intro before sample isSamples
    rw [recorded.rtt, isSamples]
    exact RttState.covers before sample
  · intro before later target spread isSamples some spread_nonneg close
    rw [recorded.rtt, isSamples]
    exact RttState.settles before some spread_nonneg close

/-- The server's UTACK for a frame with a whole message. -/
def sampleUtack (seq : Nat) : Bytes :=
  (UdpPeer.established (sampleInfo 4 3) { isServer := true }).stream.buildUtack samplePrimitives
    PacketType.data.toNat seq

/-- The first message is transmitted twice, so its round trip is not measured; that of the second
one is 0.05 seconds. -/
def sampleWrites : List (Rat × UdpAction) :=
  [(0, .call 0 (.send [7]) 0), (0, .acquire 0), (3 / 5, .timeout 0),
    (7 / 10, .feed (sampleUtack 0)), (7 / 10, .acked 0), (1, .call 1 (.send [8]) 0),
    (1, .acquire 1), (21 / 20, .feed (sampleUtack 1)), (21 / 20, .acked 1)]

theorem rtt_estimates_sampleWrites :
    ∃ final,
      Machine.run (step samplePrimitives)
          (start (sampleInfo 3 4) { isServer := false } [1 / 4] 0) sampleWrites = some final ∧
        final.samples = [1 / 4, 1 / 20] ∧ Estimates [1 / 4] final := by
  rcases Machine.exists_run (step samplePrimitives)
    (start (sampleInfo 3 4) { isServer := false } [1 / 4] 0) sampleWrites
    (fun final => final.samples = [1 / 4, 1 / 20]) (by decide +kernel) with
    ⟨final, reached, samples⟩
  exact ⟨final, reached, samples, rtt_estimates samplePrimitives (sampleInfo 3 4)
    { isServer := false } [1 / 4] (by decide +kernel) 0 sampleWrites final reached⟩

theorem attemptTimeout_range {baseRto : Rat} (range : 1 / 10 ≤ baseRto) (attempt : Nat) :
    1 / 10 ≤ attemptTimeout baseRto attempt ∧ attemptTimeout baseRto attempt ≤ 5 ∧
      attemptTimeout baseRto attempt ≤ attemptTimeout baseRto (attempt + 1) := by
  have one : (1 : Rat) ≤ 2 ^ attempt := one_le_pow₀ (by norm_num)
  have positive : 0 ≤ baseRto := le_trans (by norm_num) range
  have longer : baseRto * 2 ^ attempt ≤ baseRto * 2 ^ (attempt + 1) := by
    rw [pow_succ]
    exact mul_le_mul_of_nonneg_left (le_mul_of_one_le_right (by positivity) (by norm_num)) positive
  unfold attemptTimeout
  refine ⟨le_min (by norm_num) ?_, min_le_left _ _, ?_⟩
  · exact (range.trans (le_mul_of_one_le_right positive one)).trans (le_max_right _ _)
  · exact min_le_min_left _ (max_le_max_left _ longer)

/-- What an end transmits, and when. -/
structure Pacing (timed : TimedPeer) : Prop where
  /-- The frames on the wire are the copies of one write after the other. -/
  wire : timed.peer.outbox.filter (fun data => !UDPStream.isUtack data) =
    timed.writes.reverse.flatMap Write.copies
  /-- Frames are first transmitted in the order in which they were encrypted. -/
  inOrder : (timed.writes.reverse.map Write.data).Sublist
    (timed.peer.session.sent.map SentFrame.bytes)
  paced : ∀ write ∈ timed.writes, write.Paced
  /-- The waits of a write double from at least 0.1 to at most 5 seconds. -/
  waits : ∀ write ∈ timed.writes, ∀ attempt,
    1 / 10 ≤ attemptTimeout write.baseRto attempt ∧ attemptTimeout write.baseRto attempt ≤ 5 ∧
      attemptTimeout write.baseRto attempt ≤ attemptTimeout write.baseRto (attempt + 1)
  /-- A write begins after the last transmission of the one before it. -/
  inTurn : timed.writes.Pairwise fun newer older => older.last ≤ newer.start

theorem retransmissions_paced (P : Primitives) (info : SessionInfo) (stream : UDPStream)
    (earlier : List Rat) (nonneg : ∀ sample ∈ earlier, 0 ≤ sample) (clock : Rat)
    (actions : List (Rat × UdpAction)) (final : TimedPeer)
    (reached : Machine.run (step P) (start info stream earlier clock) actions = some final) :
    Pacing final := by
  rcases (Timing.start info stream nonneg clock).run reached with ⟨_, recorded, _⟩
  refine ⟨recorded.wire, recorded.inOrder, recorded.paced, ?_, recorded.inTurn⟩
  intro write member attempt
  exact attemptTimeout_range (recorded.paced write member).base.1 attempt

theorem retransmissions_paced_sampleWrites :
    ∃ final,
      Machine.run (step samplePrimitives)
          (start (sampleInfo 3 4) { isServer := false } [1 / 4] 0) sampleWrites = some final ∧
        final.peer.outbox.length = 3 ∧ Pacing final := by
  rcases Machine.exists_run (step samplePrimitives)
    (start (sampleInfo 3 4) { isServer := false } [1 / 4] 0) sampleWrites
    (fun final => final.peer.outbox.length = 3) (by decide +kernel) with
    ⟨final, reached, copies⟩
  exact ⟨final, reached, copies, retransmissions_paced samplePrimitives (sampleInfo 3 4)
    { isServer := false } [1 / 4] (by decide +kernel) 0 sampleWrites final reached⟩

end TimedPeer

end Usmp
