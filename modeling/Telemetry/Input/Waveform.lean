import Telemetry.Input.Analog

/-! A converter stand-in: slow sine waves around mid-scale with reproducible noise. -/
namespace Telemetry

structure WaveformInput where
  sampleRateHz : Float
  /-- Peak deviation from mid-scale. -/
  amplitude : Float := 1500
  /-- Peak noise in counts. -/
  noise : UInt16 := 24
  /-- Conversions made on each channel. -/
  ticks : Vector UInt64 channelCount := Vector.replicate channelCount 0
  /-- State of the noise generator. -/
  generator : UInt32

namespace WaveformInput

/-- Middle of the conversion range. -/
def midScale : Float := 2047.5

/-- A full turn in radians. -/
def turn : Float := .ofBits 0x401921FB54442D18

/-- A source read at the given rate. The generator starts from an odd seed. -/
def new (sampleRateHz seed : UInt32) : WaveformInput where
  sampleRateHz := (max sampleRateHz 1).toFloat
  generator := seed ||| 1

/-- Amplitudes are kept within the conversion range; one that is no number stays so. -/
def withAmplitude (input : WaveformInput) (amplitude : Float) : WaveformInput :=
  let raised := if amplitude < 0 then 0 else amplitude
  { input with amplitude := if raised > midScale then midScale else raised }

def withNoise (input : WaveformInput) (noise : UInt16) : WaveformInput :=
  { input with noise }

/-- Next value of the linear congruential noise generator. -/
def nextState (state : UInt32) : UInt32 :=
  state * 1664525 + 1013904223

/-- Next noise value; without noise the generator stands still. -/
def drawNoise (input : WaveformInput) : Int × WaveformInput :=
  if input.noise = 0 then (0, input)
  else
    let state := nextState input.generator
    let span := input.noise.toUInt32 * 2 + 1
    (((state >>> 8) % span).toNat - input.noise.toNat, { input with generator := state })

/-- Noise-free value of a channel at its n-th conversion, rounded away from zero at halves. -/
def wave (input : WaveformInput) (channel : Nat) (tick : UInt64) : Int :=
  let time := tick.toFloat / input.sampleRateHz
  let frequency := 0.5 + 0.25 * channel.toFloat
  (midScale + input.amplitude * (turn * frequency * time).sin).round.toInt32.toInt

def clampToScale (value : Int) : UInt16 :=
  UInt16.ofNat (min value.toNat adcMax.toNat)

/-- Channel `c` oscillates at `0.5 + 0.25 * c` Hz. -/
def read (input : WaveformInput) (channel : Nat) : UInt16 × WaveformInput :=
  if h : channel < channelCount then
    let tick := input.ticks[channel]
    let (noise, drawn) := input.drawNoise
    (clampToScale (input.wave channel tick + noise),
      { drawn with ticks := drawn.ticks.set channel (tick + 1) })
  else (0, input)

/-- Reads channel after channel. -/
def readAll (input : WaveformInput) : Reading × WaveformInput :=
  let (r0, i0) := input.read 0
  let (r1, i1) := i0.read 1
  let (r2, i2) := i1.read 2
  let (r3, i3) := i2.read 3
  (#v[r0, r1, r2, r3], i3)

instance : AnalogInput WaveformInput where
  read := WaveformInput.read
  readAll := WaveformInput.readAll

end WaveformInput

end Telemetry
