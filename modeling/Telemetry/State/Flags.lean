import Telemetry.Basic

/-! Sticky event flags: raised by whoever asks for something, looked at by whoever does it. -/
namespace Telemetry

inductive Flag where
  | networkReady | networkEnabled | nodeIdChanged | pauseSampling
  | calibrating | rawMode | thresholdChanged | debugDump
  deriving DecidableEq, Repr

namespace Flag

/-- Every flag, in the order in which flags are listed. -/
def all : List Flag :=
  [networkReady, networkEnabled, nodeIdChanged, pauseSampling,
    calibrating, rawMode, thresholdChanged, debugDump]

def name : Flag → String
  | networkReady => "network-ready"
  | networkEnabled => "network-enabled"
  | nodeIdChanged => "node-id-changed"
  | pauseSampling => "pause-sampling"
  | calibrating => "calibrating"
  | rawMode => "raw-mode"
  | thresholdChanged => "threshold-changed"
  | debugDump => "debug-dump"

/-- Place of the flag in the bit pattern. -/
def bit : Flag → UInt32
  | networkReady => 7
  | networkEnabled => 8
  | nodeIdChanged => 9
  | pauseSampling => 10
  | calibrating => 11
  | rawMode => 12
  | thresholdChanged => 13
  | debugDump => 14

end Flag

/-- A set of flags. -/
structure Flags where
  networkReady : Bool := false
  networkEnabled : Bool := false
  nodeIdChanged : Bool := false
  pauseSampling : Bool := false
  calibrating : Bool := false
  rawMode : Bool := false
  thresholdChanged : Bool := false
  debugDump : Bool := false
  deriving DecidableEq, Repr, Inhabited

namespace Flags

/-- No flag. -/
def none : Flags := {}

def has (flags : Flags) : Flag → Bool
  | .networkReady => flags.networkReady
  | .networkEnabled => flags.networkEnabled
  | .nodeIdChanged => flags.nodeIdChanged
  | .pauseSampling => flags.pauseSampling
  | .calibrating => flags.calibrating
  | .rawMode => flags.rawMode
  | .thresholdChanged => flags.thresholdChanged
  | .debugDump => flags.debugDump

/-- The set with exactly the flags of which `test` holds. -/
def ofTest (test : Flag → Bool) : Flags where
  networkReady := test .networkReady
  networkEnabled := test .networkEnabled
  nodeIdChanged := test .nodeIdChanged
  pauseSampling := test .pauseSampling
  calibrating := test .calibrating
  rawMode := test .rawMode
  thresholdChanged := test .thresholdChanged
  debugDump := test .debugDump

@[simp] theorem has_ofTest (test : Flag → Bool) (flag : Flag) : (ofTest test).has flag = test flag := by
  cases flag <;> rfl

theorem ext_has {a b : Flags} (h : ∀ flag, a.has flag = b.has flag) : a = b := by
  obtain ⟨_, _, _, _, _, _, _, _⟩ := a
  obtain ⟨_, _, _, _, _, _, _, _⟩ := b
  have := h .networkReady
  have := h .networkEnabled
  have := h .nodeIdChanged
  have := h .pauseSampling
  have := h .calibrating
  have := h .rawMode
  have := h .thresholdChanged
  have := h .debugDump
  simp_all [has]

def ofList (flags : List Flag) : Flags :=
  ofTest fun flag => flags.contains flag

def toList (flags : Flags) : List Flag :=
  Flag.all.filter flags.has

/-- Raises all flags of `raised`. -/
def set (flags raised : Flags) : Flags :=
  ofTest fun flag => flags.has flag || raised.has flag

/-- Drops all flags of `dropped`. -/
def clear (flags dropped : Flags) : Flags :=
  ofTest fun flag => flags.has flag && !dropped.has flag

/-- Raises or drops. -/
def assign (flags chosen : Flags) (on : Bool) : Flags :=
  if on then flags.set chosen else flags.clear chosen

/-- Whether every flag of `wanted` is up. -/
def contains (flags wanted : Flags) : Bool :=
  Flag.all.all fun flag => !wanted.has flag || flags.has flag

/-- Drops the flags of `wanted` and says whether all of them were up. -/
def take (flags wanted : Flags) : Bool × Flags :=
  (flags.contains wanted, flags.clear wanted)

/-- Bit pattern. -/
def bits (flags : Flags) : UInt32 :=
  flags.toList.foldl (fun mask flag => mask ||| ((1 : UInt32) <<< flag.bit)) 0

def names (flags : Flags) : List String :=
  flags.toList.map Flag.name

/-- The names in brackets. -/
def display (flags : Flags) : String :=
  "[" ++ ", ".intercalate flags.names ++ "]"

end Flags

end Telemetry
