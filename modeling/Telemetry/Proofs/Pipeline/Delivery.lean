import Telemetry.Config.Memory
import Telemetry.Input.Scripted
import Telemetry.Proofs.Calibration.Thresholds
import Telemetry.Proofs.Node.Start
import Telemetry.Proofs.Pipeline.Run
import Telemetry.Proofs.Wire.Codec
import Telemetry.Timer.Recording

/-! What reaches the far end of the link, however sampling, processing and sending interleave. -/
namespace Telemetry

/-- A frame's packet carries the frame's own data where the engine passed it on raw. Where it was thresholded, it
carries the mask of the channels above the thresholds that the engine was left with. -/
def Work.Carries (work : Work) : Payload → Prop
  | .raw data => work.mode = .rawPassthrough ∧ data = work.frame.data
  | .threshold mask => work.mode = .thresholding ∧ work.calibration.Marks work.frame.data mask

theorem Work.parse_packet? {work : Work} {datagram : Bytes} (h : work.packet? = some datagram) :
    ∃ payload, work.Carries payload ∧
      Packet.parse datagram = .ok ⟨work.frame.nodeId, work.frame.counter.toUInt8, payload⟩ := by
  obtain ⟨frame, mode, calibration⟩ := work
  cases mode with
  | rawPassthrough =>
    obtain rfl := Option.some.inj h
    exact ⟨.raw frame.data, ⟨rfl, rfl⟩, Packet.parse_ofDecoded _⟩
  | calibrating => cases h
  | thresholding =>
    obtain rfl := Option.some.inj h
    exact ⟨.threshold (calibration.classify frame.data), ⟨rfl, Calibration.marks_classify _ _⟩,
      Packet.parse_ofDecoded _⟩

/-- A datagram that was delivered, with the number of its tick and the work behind it. -/
structure Delivery where
  number : Nat
  work : Work
  datagram : Bytes

/-- The datagram parses to the node id at its tick, the low byte of the tick's number, and the data
smoothed at that tick, raw or as the mask above the thresholds that the engine had when it took the frame. -/
def Delivery.Genuine (ticks : List Tick) (delivery : Delivery) : Prop :=
  ∃ tick payload, ticks[delivery.number]? = some tick ∧
    delivery.work.frame =
      ⟨tick.nodeId, .ofNat delivery.number, Tick.smoothedAt ticks delivery.number⟩ ∧
    delivery.work.Carries payload ∧
    Packet.parse delivery.datagram = .ok ⟨tick.nodeId, .ofNat (delivery.number % 256), payload⟩

private theorem toUInt8_ofNat (number : Nat) :
    (UInt32.ofNat number).toUInt8 = UInt8.ofNat (number % 256) := by
  apply UInt8.toNat_inj.mp
  simp

theorem Delivery.genuine_of_frame {ticks : List Tick} {number : Nat} {work : Work} {datagram : Bytes}
    (hFrame : (Tick.frames ticks)[number]? = some work.frame) (hPacket : work.packet? = some datagram) :
    Genuine ticks ⟨number, work, datagram⟩ := by
  rw [Tick.frames, List.getElem?_mapIdx, Option.map_eq_some_iff] at hFrame
  obtain ⟨tick, hTick, hFrame⟩ := hFrame
  obtain ⟨payload, hPayload, hParse⟩ := Work.parse_packet? hPacket
  refine ⟨tick, payload, hTick, hFrame.symm, hPayload, ?_⟩
  rw [hParse, ← hFrame, toUInt8_ofNat]

/-- As long as the ticks have not gone through all bytes, a genuine datagram tells the number of its tick. -/
theorem Delivery.Genuine.number_eq {ticks : List Tick} {delivery : Delivery} (h : delivery.Genuine ticks)
    (hFew : ticks.length ≤ 256) {decoded : Decoded} (hParse : Packet.parse delivery.datagram = .ok decoded) :
    delivery.number = decoded.counter.toNat := by
  obtain ⟨tick, payload, hTick, -, -, hGenuine⟩ := h
  have hNumber : delivery.number < 256 :=
    Nat.lt_of_lt_of_le (List.getElem?_eq_some_iff.mp hTick).1 hFew
  obtain rfl := Except.ok.inj (hGenuine.symm.trans hParse)
  rw [Nat.mod_eq_of_lt hNumber]
  exact (UInt8.toNat_ofNat_of_lt' hNumber).symm

/-- Nothing sampled, queued or sent so far. -/
structure Node.Untouched {Timer Input Store : Type} (node : Node Timer Input Store) : Prop where
  filters : node.filters = .zero
  counter : node.counter = 0
  samples : node.samples.items = []
  packets : node.packets.items = []
  sent : node.link.sent = []

theorem Node.untouched_of_start {Timer Input Store : Type} [AlarmTimer Timer] [ConfigStore Store]
    {config : NodeConfig} {timer : Timer} {input : Input} {link : Link} {store : Store}
    {node : Node Timer Input Store} (h : (Node.start config timer input link store).value = .ok node)
    (hLink : link.sent = []) : node.Untouched := by
  obtain ⟨schedule, started, nodeId, percent, stored, engine, -, rfl⟩ := Node.eq_assemble_of_start h
  exact ⟨rfl, rfl, rfl, rfl, hLink⟩

namespace Pipeline

variable {Timer Input Store : Type} [AlarmTimer Timer] [AnalogInput Input] [ConfigStore Store]
  {earlier : List Tick} {done : List Work} {node : Node Timer Input Store}

theorem Invariant.step (h : Invariant earlier done node) (action : Action Timer Input Store) :
    Invariant (earlier ++ tickOf node action) (done ++ workOf node action) (step node action) := by
  cases action with
  | alarm =>
    rw [workOf, List.append_nil, tickOf]
    · cases hPause : node.state.flags.pauseSampling
      · exact h.sampled hPause
      · rw [if_pos rfl, List.append_nil]
        exact h.paused hPause
    · simp
  | engineTurn =>
    rw [tickOf, List.append_nil]
    · exact h.engineTurn
    · simp
  | transmitTurn =>
    obtain ⟨packets, link, idleCycles, stats, hp, hv⟩ := node.value_transmitTurn
    simp only [tickOf, workOf, List.append_nil, Pipeline.step, hv]
    exact h.congr rfl rfl rfl hp
  | deferredTurn =>
    obtain ⟨timer, store, events, state, -, hv⟩ := node.value_deferredTurn
    simp only [tickOf, workOf, List.append_nil, Pipeline.step, hv]
    exact h.congr rfl rfl rfl (.refl _)
  | flags | nodeId | percent | beginCalibration | link | outside | requestStop =>
    simp only [tickOf, workOf, List.append_nil]
    exact h.congr rfl rfl rfl (.refl _)

theorem Invariant.run (h : Invariant earlier done node) (actions : List (Action Timer Input Store)) :
    Invariant (earlier ++ ticks node actions) (done ++ works node actions) (run node actions) := by
  induction actions generalizing earlier done node with
  | nil =>
    rw [ticks, works, observed, observed, List.append_nil, List.append_nil]
    exact h
  | cons action rest ih =>
    have hNext := ih (h.step action)
    rw [List.append_assoc, List.append_assoc] at hNext
    exact hNext

private theorem exists_deliveries {ticks : List Tick} (numbers : List (Fin (Tick.frames ticks).length))
    (sent : List Work) (hFrames : sent.map Work.frame = numbers.map ((Tick.frames ticks)[·]))
    (hSent : ∀ work ∈ sent, work.packet?.isSome) :
    ∃ deliveries : List Delivery,
      deliveries.map Delivery.datagram = sent.filterMap Work.packet? ∧
      deliveries.map Delivery.number = numbers.map Fin.val ∧
      deliveries.map Delivery.work = sent ∧
      ∀ delivery ∈ deliveries, delivery.Genuine ticks := by
  induction numbers generalizing sent with
  | nil =>
    obtain rfl := List.map_eq_nil_iff.mp hFrames
    exact ⟨[], rfl, rfl, rfl, by simp⟩
  | cons number rest ih =>
    obtain ⟨work, later, rfl, hFrame, hLater⟩ := List.map_eq_cons_iff.mp hFrames
    obtain ⟨datagram, hPacket⟩ := Option.isSome_iff_exists.mp (hSent work List.mem_cons_self)
    obtain ⟨deliveries, hDatagrams, hNumbers, hWorks, hGenuine⟩ :=
      ih later hLater fun other hOther => hSent other (List.mem_cons_of_mem _ hOther)
    refine ⟨⟨number, work, datagram⟩ :: deliveries, ?_, ?_, ?_, ?_⟩
    · rw [List.map_cons, hDatagrams, List.filterMap_cons_some hPacket]
    · rw [List.map_cons, hNumbers, List.map_cons]
    · rw [List.map_cons, hWorks]
    · intro delivery hDelivery
      rcases List.mem_cons.mp hDelivery with rfl | hDelivery
      · apply Delivery.genuine_of_frame _ hPacket
        rw [hFrame]
        exact List.getElem?_eq_getElem number.isLt
      · exact hGenuine delivery hDelivery

/-- Whatever the order of steps, the capacities and the failures: the datagrams delivered other than
keep-alives are packets of sampling ticks, in the order of the ticks and each at most once. -/
theorem deliveries_in_order (node : Node Timer Input Store) (hNode : node.Untouched)
    (actions : List (Action Timer Input Store)) :
    ∃ deliveries : List Delivery,
      (run node actions).link.delivered = deliveries.map Delivery.datagram ∧
      (deliveries.map Delivery.number).Pairwise (· < ·) ∧
      (deliveries.map Delivery.work).Sublist (works node actions) ∧
      ∀ delivery ∈ deliveries, delivery.Genuine (ticks node actions) := by
  have h : Invariant (ticks node actions) (works node actions) (run node actions) := by
    have hStart : Invariant [] [] node := by
      refine ⟨hNode.filters, hNode.counter, ?_, ?_⟩
      · rw [hNode.samples]
        exact .refl _
      · rw [hNode.packets, Link.delivered, hNode.sent]
        exact .refl _
    exact hStart.run actions
  obtain ⟨taken, hTaken, hDelivered⟩ :=
    List.sublist_filterMap_iff.mp ((List.sublist_append_left _ _).trans h.packets)
  -- Without the frames that became no packet, works and datagrams match one for one.
  let sent := taken.filter fun work => work.packet?.isSome
  have hSent : sent.Sublist (works node actions) := List.filter_sublist.trans hTaken
  obtain ⟨numbers, hFrames, hOrder⟩ := List.sublist_eq_map_getElem
    ((hSent.map Work.frame).trans ((List.sublist_append_left _ _).trans h.frames))
  obtain ⟨deliveries, hDatagrams, hNumbers, hWorks, hGenuine⟩ :=
    exists_deliveries numbers sent hFrames fun work hWork => (List.mem_filter.mp hWork).2
  refine ⟨deliveries, ?_, ?_, ?_, hGenuine⟩
  · rw [hDelivered, hDatagrams, List.filterMap_filter]
    apply List.filterMap_congr
    intro work _
    cases work.packet? <;> rfl
  · rw [hNumbers, List.pairwise_map]
    exact hOrder
  · rw [hWorks]
    exact hSent

/-- A node with room for one sample, an empty store, thresholds of its own, one scripted reading and a link that
takes everything. -/
def trial : Node RecordingTimer ScriptedInput MemoryStore :=
  Node.assemble { sampleQueueCapacity := 1 } ⟨1000, 7⟩ {} ⟨[#v[10, 20, 30, 40]], #v[0, 0, 0, 0]⟩
    { description := "" } (Node.initialState {} 5 50) {}
    { calibration := ⟨#v[{ threshold := 5 }, { threshold := 25 }, { threshold := 29 }, { threshold := 40 }]⟩
      seenEpoch := 0 }

/-- Five ticks. The second finds no room, the fourth meets a link that fails, and the last is passed on raw; the node
id is changed after two of them. -/
def lossy : List (Action RecordingTimer ScriptedInput MemoryStore) :=
  [.alarm, .alarm, .engineTurn, .transmitTurn, .nodeId 6, .alarm, .engineTurn, .transmitTurn,
    .link (some (.refuse "down")), .alarm, .engineTurn, .transmitTurn, .link none,
    .flags { rawMode := true, networkReady := true, networkEnabled := true }, .alarm, .engineTurn, .transmitTurn]

/-- Three of the five ticks are delivered, in order, and the third has two bits set. -/
theorem deliveries_in_order_of_lossy : trial.Untouched ∧ (ticks trial lossy).length = 5 ∧
    (run trial lossy).link.delivered.map Packet.parse =
      [.ok ⟨5, 0, .threshold 0⟩, .ok ⟨6, 2, .threshold 0b0101⟩, .ok ⟨6, 4, .raw #v[10, 20, 30, 40]⟩] ∧
    ∃ deliveries : List Delivery,
      (run trial lossy).link.delivered = deliveries.map Delivery.datagram ∧
      deliveries.map Delivery.number = [0, 2, 4] ∧
      ∀ delivery ∈ deliveries, delivery.Genuine (ticks trial lossy) := by
  have hNode : trial.Untouched := ⟨rfl, rfl, rfl, rfl, rfl⟩
  have hTicks : (ticks trial lossy).length = 5 := rfl
  have hParsed : (run trial lossy).link.delivered.map Packet.parse =
      [.ok ⟨5, 0, .threshold 0⟩, .ok ⟨6, 2, .threshold 0b0101⟩, .ok ⟨6, 4, .raw #v[10, 20, 30, 40]⟩] := by
    decide +kernel
  obtain ⟨deliveries, hDatagrams, -, -, hGenuine⟩ := deliveries_in_order trial hNode lossy
  refine ⟨hNode, hTicks, hParsed, deliveries, hDatagrams, ?_, hGenuine⟩
  rw [hDatagrams, List.map_map] at hParsed
  obtain ⟨first, later, rfl, hFirst, hLater⟩ := List.map_eq_cons_iff.mp hParsed
  obtain ⟨second, last, rfl, hSecond, hLast⟩ := List.map_eq_cons_iff.mp hLater
  obtain ⟨third, rfl, hThird⟩ := List.map_eq_singleton_iff.mp hLast
  have hFew : (ticks trial lossy).length ≤ 256 := by
    rw [hTicks]
    decide
  rw [List.map_cons, List.map_cons, List.map_singleton, (hGenuine first (by simp)).number_eq hFew hFirst,
    (hGenuine second (by simp)).number_eq hFew hSecond, (hGenuine third (by simp)).number_eq hFew hThird]
  rfl

end Pipeline

end Telemetry
