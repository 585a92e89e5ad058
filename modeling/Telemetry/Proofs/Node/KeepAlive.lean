import Mathlib.Data.List.DropRight
import Telemetry.Node.Start
import Telemetry.Proofs.Node.Tasks

/-! Keep-alives: over any packets and timeouts, on a network that comes and goes and a link that fails at will, the
count of idle timeouts is what is left of those since the last send when whole rounds are taken off. -/
namespace Telemetry

namespace Node

variable {Timer Input Store : Type} {node : Node Timer Input Store}

theorem transmit_of_disabled (h : node.state.flags.networkEnabled = false) (packet : Bytes) :
    (node.transmit packet).value = (.skipped, node.count .packetsSkipped) := by
  rw [transmit, h]
  rfl

/-- On an enabled network a packet is sent, whatever comes of it. -/
theorem transmit_of_enabled (h : node.state.flags.networkEnabled = true) (packet : Bytes) :
    ∃ outcome stats, (node.transmit packet).value =
      (outcome, { node.tried packet with state := { node.state with stats } }) := by
  rw [transmit, h]
  rcases hFault : node.link.fault with _ | reason | message
  · exact ⟨_, _, rfl⟩
  · exact ⟨_, _, rfl⟩
  · exact ⟨_, node.state.stats, rfl⟩

theorem idle_of_short (h : node.idleCycles + 1 < node.keepaliveEvery) :
    node.idle.value = (.idle, { node with idleCycles := node.idleCycles + 1 }) := by
  rw [idle, if_pos h]
  rfl

theorem idle_of_disabled (h : ¬ node.idleCycles + 1 < node.keepaliveEvery)
    (hDisabled : node.state.flags.networkEnabled = false) :
    node.idle.value = (.idle, { node with idleCycles := 0 }) := by
  rw [idle, if_neg h, hDisabled]
  rfl

/-- A keep-alive that is due is sent on an enabled network, whatever comes of it. -/
theorem idle_of_due (h : ¬ node.idleCycles + 1 < node.keepaliveEvery)
    (hEnabled : node.state.flags.networkEnabled = true) :
    ∃ outcome stats, node.idle.value =
      (outcome, { node.tried keepalivePayload with state := { node.state with stats } }) := by
  rw [idle, if_neg h, hEnabled]
  rcases hFault : node.link.fault with _ | reason | message
  · exact ⟨_, _, rfl⟩
  · exact ⟨_, _, rfl⟩
  · exact ⟨_, node.state.stats, rfl⟩

end Node

namespace KeepAlive

/-- A call of the transmit task: a packet or a timeout, with the flags and the link that it finds. -/
structure Turn where
  flags : Flags
  fault : Option LinkFault
  packet : Option Bytes

/-- Timeouts since the last packet that found the network enabled. -/
def timeouts (turns : List Turn) : Nat :=
  (turns.rtakeWhile fun turn => !(turn.packet.isSome && turn.flags.networkEnabled)).countP (·.packet.isNone)

variable {Timer Input Store : Type}

/-- The node at the time of a call. -/
def found (node : Node Timer Input Store) (turn : Turn) : Node Timer Input Store :=
  { node.withFlags turn.flags with link := { node.link with fault := turn.fault } }

def step (node : Node Timer Input Store) (turn : Turn) : Node Timer Input Store :=
  match turn.packet with
  | some packet => ((found node turn).transmit packet).value.2
  | none => (found node turn).idle.value.2

def run (node : Node Timer Input Store) (turns : List Turn) : Node Timer Input Store :=
  turns.foldl step node

theorem step_of_timeout (node : Node Timer Input Store) {turn : Turn} (h : turn.packet = none) :
    step node turn = (found node turn).idle.value.2 := by
  rw [step, h]

theorem timeouts_concat_timeout (turns : List Turn) {turn : Turn} (h : turn.packet = none) :
    timeouts (turns ++ [turn]) = timeouts turns + 1 := by
  rw [timeouts, List.rtakeWhile_concat_pos _ _ _ (by simp [h]), List.countP_append, List.countP_singleton, h]
  rfl

theorem timeouts_concat_skipped (turns : List Turn) {turn : Turn} {packet : Bytes} (h : turn.packet = some packet)
    (hDisabled : turn.flags.networkEnabled = false) : timeouts (turns ++ [turn]) = timeouts turns := by
  rw [timeouts, List.rtakeWhile_concat_pos _ _ _ (by simp [hDisabled]), List.countP_append, List.countP_singleton, h]
  rfl

theorem timeouts_concat_sent (turns : List Turn) {turn : Turn} {packet : Bytes} (h : turn.packet = some packet)
    (hEnabled : turn.flags.networkEnabled = true) : timeouts (turns ++ [turn]) = 0 := by
  rw [timeouts, List.rtakeWhile_concat_neg _ _ _ (by simp [h, hEnabled])]
  rfl

theorem toNat_keepaliveEvery (node : Node Timer Input Store) :
    node.keepaliveEvery.toNat = max 1 node.keepaliveAfter.toNat := by
  change (if node.keepaliveAfter ≤ 1 then 1 else node.keepaliveAfter).toNat = _
  split
  · rename_i h
    exact (Nat.max_eq_left (UInt32.le_iff_toNat_le.mp h)).symm
  · rename_i h
    exact (Nat.max_eq_right (UInt32.le_iff_toNat_le.mp (UInt32.le_of_lt (UInt32.not_le.mp h)))).symm

/-- The count of idle timeouts is that of all timeouts with whole rounds taken off. -/
structure Counted (round count : Nat) (node : Node Timer Input Store) : Prop where
  every : node.keepaliveEvery.toNat = round
  idle : node.idleCycles.toNat = count % round

variable {round count : Nat} {node : Node Timer Input Store} {turn : Turn}

theorem Counted.idle_lt (h : Counted round count node) : count % round < round := by
  apply Nat.mod_lt
  rw [← h.every, toNat_keepaliveEvery]
  exact Nat.le_max_left 1 _

/-- A round is no longer than the largest word, so one more timeout does not overflow the count. -/
theorem Counted.idle_succ_lt (h : Counted round count node) : node.idleCycles.toNat + 1 < UInt32.size := by
  have hRound : round < UInt32.size := h.every ▸ node.keepaliveEvery.toNat_lt
  have hBelow := h.idle_lt
  rw [h.idle]
  omega

theorem Counted.toNat_succ (h : Counted round count node) :
    (node.idleCycles + 1).toNat = count % round + 1 := by
  have hFits := h.idle_succ_lt
  rw [← h.idle, UInt32.toNat_add]
  exact Nat.mod_eq_of_lt hFits

theorem Counted.short_iff_lt (h : Counted round count node) :
    node.idleCycles + 1 < node.keepaliveEvery ↔ count % round + 1 < round := by
  rw [UInt32.lt_iff_toNat_lt, h.toNat_succ, h.every]

/-- A timeout completes a round exactly if all timeouts, this one among them, make up whole rounds. -/
theorem Counted.short_iff (h : Counted round count node) :
    node.idleCycles + 1 < node.keepaliveEvery ↔ ¬ round ∣ count + 1 := by
  rw [h.short_iff_lt, Nat.dvd_iff_mod_eq_zero, ← Nat.mod_add_mod]
  constructor
  · intro hShort hZero
    rw [Nat.mod_eq_of_lt hShort] at hZero
    exact absurd hZero (Nat.succ_ne_zero _)
  · intro hNonzero
    rcases Nat.lt_or_eq_of_le (Nat.succ_le_of_lt h.idle_lt) with hShort | hFull
    · exact hShort
    · rw [Nat.succ_eq_add_one] at hFull
      rw [hFull, Nat.mod_self] at hNonzero
      exact absurd rfl hNonzero

theorem Counted.found (h : Counted round count node) (turn : Turn) : Counted round count (found node turn) :=
  ⟨h.every, h.idle⟩

/-- A timeout is one more; it makes the task send a keep-alive where it completes a round on an enabled network. -/
theorem Counted.timeout (h : Counted round count node) (hTurn : turn.packet = none) :
    Counted round (count + 1) (step node turn) ∧ (step node turn).link =
      if round ∣ count + 1 ∧ turn.flags.networkEnabled then (KeepAlive.found node turn).link.send keepalivePayload
      else (KeepAlive.found node turn).link := by
  have hFound := h.found turn
  rw [step_of_timeout node hTurn]
  by_cases hShort : (KeepAlive.found node turn).idleCycles + 1 < (KeepAlive.found node turn).keepaliveEvery
  · have hPart : ¬ round ∣ count + 1 := hFound.short_iff.mp hShort
    rw [Node.idle_of_short hShort, if_neg fun hDue => hPart hDue.1]
    refine ⟨⟨h.every, hFound.toNat_succ.trans ?_⟩, rfl⟩
    rw [← Nat.mod_add_mod, Nat.mod_eq_of_lt (hFound.short_iff_lt.mp hShort)]
  · have hWhole : round ∣ count + 1 := not_not.mp fun hPart => hShort (hFound.short_iff.mpr hPart)
    have hZero : (count + 1) % round = 0 := Nat.mod_eq_zero_of_dvd hWhole
    cases hNetwork : turn.flags.networkEnabled with
    | false =>
      rw [Node.idle_of_disabled hShort hNetwork, if_neg (by simp)]
      exact ⟨⟨h.every, hZero.symm⟩, rfl⟩
    | true =>
      obtain ⟨outcome, stats, hValue⟩ := Node.idle_of_due hShort hNetwork
      rw [hValue, if_pos ⟨hWhole, rfl⟩]
      exact ⟨⟨h.every, hZero.symm⟩, rfl⟩

/-- A packet that is sent starts the count afresh; one that is skipped does not. -/
theorem step_packet (node : Node Timer Input Store) {packet : Bytes} (hTurn : turn.packet = some packet) :
    (step node turn).keepaliveEvery = node.keepaliveEvery ∧
    (step node turn).idleCycles = (if turn.flags.networkEnabled then 0 else node.idleCycles) ∧
    (step node turn).link =
      if turn.flags.networkEnabled then (found node turn).link.send packet else (found node turn).link := by
  have hStep : step node turn = ((found node turn).transmit packet).value.2 := by
    rw [step, hTurn]
  rw [hStep]
  cases hNetwork : turn.flags.networkEnabled with
  | false =>
    rw [Node.transmit_of_disabled hNetwork]
    exact ⟨rfl, rfl, rfl⟩
  | true =>
    obtain ⟨outcome, stats, hValue⟩ := Node.transmit_of_enabled
      (show (found node turn).state.flags.networkEnabled = true from hNetwork) packet
    rw [hValue]
    exact ⟨rfl, rfl, rfl⟩

/-- With the network disabled a packet is skipped, and a timeout counts at most. -/
theorem link_step_of_disabled (node : Node Timer Input Store) (h : turn.flags.networkEnabled = false) :
    (step node turn).link = (found node turn).link := by
  rcases hTurn : turn.packet with _ | packet
  · rw [step_of_timeout node hTurn]
    by_cases hShort : (found node turn).idleCycles + 1 < (found node turn).keepaliveEvery
    · rw [Node.idle_of_short hShort]
    · rw [Node.idle_of_disabled hShort h]
  · rw [(step_packet node hTurn).2.2, h]
    rfl

theorem run_concat (node : Node Timer Input Store) (turns : List Turn) (turn : Turn) :
    run node (turns ++ [turn]) = step (run node turns) turn :=
  List.foldl_concat _ _ _ _

/-- Induction on the last call: what it adds to the count is what it adds to the timeouts. -/
theorem counted_run (h : node.idleCycles = 0) (turns : List Turn) :
    Counted (max 1 node.keepaliveAfter.toNat) (timeouts turns) (run node turns) := by
  induction turns using List.reverseRecOn with
  | nil =>
    refine ⟨toNat_keepaliveEvery node, ?_⟩
    rw [run, List.foldl_nil, h]
    exact (Nat.zero_mod _).symm
  | append_singleton turns turn ih =>
    rw [run_concat]
    rcases hTurn : turn.packet with _ | packet
    · rw [timeouts_concat_timeout turns hTurn]
      exact (ih.timeout hTurn).1
    · obtain ⟨hEvery, hIdle, -⟩ := step_packet (run node turns) hTurn
      refine ⟨hEvery ▸ ih.every, ?_⟩
      rw [hIdle]
      cases hNetwork : turn.flags.networkEnabled with
      | false =>
        rw [timeouts_concat_skipped turns hTurn hNetwork]
        exact ih.idle
      | true =>
        rw [timeouts_concat_sent turns hTurn hNetwork]
        exact (Nat.zero_mod _).symm

/-- Whatever comes before, the task keeps count of the idle timeouts without an overflow, tries a keep-alive at every
timeout that makes up whole rounds with those since the last packet sent, and leaves the link of a disabled network
alone. -/
theorem keepalives_regular (node : Node Timer Input Store) (h : node.idleCycles = 0) (turns : List Turn) :
    let reached := run node turns
    let every := max 1 node.keepaliveAfter.toNat
    reached.idleCycles.toNat = timeouts turns % every ∧
    reached.idleCycles.toNat + 1 < UInt32.size ∧
    (∀ turn, turn.packet = none → (step reached turn).link =
      if every ∣ timeouts (turns ++ [turn]) ∧ turn.flags.networkEnabled then
        (found reached turn).link.send keepalivePayload
      else (found reached turn).link) ∧
    (∀ turn packet, turn.packet = some packet → (step reached turn).link =
      if turn.flags.networkEnabled then (found reached turn).link.send packet else (found reached turn).link) ∧
    ∀ turn, turn.flags.networkEnabled = false → (step reached turn).link = (found reached turn).link := by
  intro reached every
  have hCounted : Counted every (timeouts turns) reached := counted_run h turns
  refine ⟨hCounted.idle, hCounted.idle_succ_lt, ?_, ?_, fun turn => link_step_of_disabled reached⟩
  · intro turn hTurn
    rw [timeouts_concat_timeout turns hTurn]
    exact (hCounted.timeout hTurn).2
  · intro turn packet hTurn
    exact (step_packet reached hTurn).2.2

/-- A node with a keep-alive after three timeouts. -/
def trial : Node Unit Unit Unit :=
  Node.assemble { keepaliveAfter := 3 } ⟨1000, 7⟩ () () { description := "" } (Node.initialState {} 5 50) ()
    { calibration := .reset, seenEpoch := 0 }

/-- A packet that is sent, and two timeouts around one that is skipped. -/
def quiet : List Turn :=
  [⟨{ networkEnabled := true }, none, some [1]⟩, ⟨{ networkEnabled := true }, none, none⟩,
    ⟨{}, none, some [2]⟩, ⟨{}, none, none⟩]

/-- The next timeout is the third since the packet sent: a keep-alive goes out if it finds the network enabled. -/
theorem keepalives_regular_trial :
    trial.idleCycles = 0 ∧ (run trial quiet).idleCycles.toNat = 2 ∧
    (step (run trial quiet) ⟨{ networkEnabled := true }, none, none⟩).link.sent = [[1], keepalivePayload] ∧
    (step (run trial quiet) ⟨{}, none, none⟩).link.sent = [[1]] := by
  obtain ⟨hIdle, -, hTimeout, -, hDisabled⟩ := keepalives_regular trial rfl quiet
  have hDue : max 1 trial.keepaliveAfter.toNat ∣
      timeouts (quiet ++ [⟨{ networkEnabled := true }, none, none⟩]) := ⟨1, rfl⟩
  refine ⟨rfl, hIdle, ?_, ?_⟩
  · rw [hTimeout _ rfl, if_pos ⟨hDue, rfl⟩]
    rfl
  · rw [hDisabled _ rfl]
    rfl

end KeepAlive

end Telemetry
