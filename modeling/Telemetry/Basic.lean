/-! Sizes and defaults shared by every part of a telemetry node. -/
namespace Telemetry

/-- Analog channels sampled on every tick. -/
abbrev channelCount : Nat := 4

/-- One value per channel. -/
abbrev Reading := Vector UInt16 channelCount

/-- Octets, first sent first. -/
abbrev Bytes := List UInt8

/-- Release number shown on the command line. -/
def version : String := "0.1.0"

/-- Largest value a 12-bit conversion produces. -/
def adcMax : UInt16 := 4095

/-- Node id used when the configuration store has none. -/
def defaultNodeId : UInt8 := 10

/-- Threshold percentage used when the configuration store has none. -/
def defaultThresholdPercent : UInt8 := 50

/-- Samples per second unless configured otherwise. -/
def defaultSampleRateHz : UInt32 := 60

/-- Local port unless configured otherwise. -/
def defaultLocalPort : UInt16 := 16500

/-- Remote port unless configured otherwise. -/
def defaultRemotePort : UInt16 := 16501

/-- Remote address unless configured otherwise. -/
def defaultRemoteIp : String := "192.168.0.101"

end Telemetry
