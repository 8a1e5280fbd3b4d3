import KanaVoice.Inference.Stage
import KanaVoice.Storage.FileTree
set_option autoImplicit false

/-!
# Sound files

Speech is a wave of one channel at the native rate.  In a file its samples have 16 bits and may
stand several times in a row, for a higher rate or for two channels.
-/

namespace KanaVoice

/-! ## Sixteen-bit samples

A sample is scaled by the volume, clipped to one on either side and rounded to 16 bits.  A file of a
higher rate or of two channels holds each sample several times in a row; the rate counts in whole
multiples of the native one, and a lower rate leaves nothing. -/

/-- Number of channels. -/
def channelCount (stereo : Bool) : Nat := if stereo then 2 else 1

/-- How often each sample is written at an output rate. -/
def repeatCount (rate : UInt32) (stereo : Bool) : Nat :=
  rate.toNat / nativeRate * channelCount stereo

/-- A value cut off at one on either side; NaN stays. -/
def clip (v : Float32) : Float32 := if v < -1 then -1 else if 1 < v then 1 else v

/-- The largest 16-bit sample. -/
def maxPcm : Nat := 32767

/-- A sample at a volume, in 16 bits. -/
def quantize (sample volume : Float32) : Int16 :=
  .ofInt (Single.toIntRounded maxPcm (clip (sample * volume) * Single.ofNat maxPcm))

/-- The 16-bit samples of a wave at a volume, each so many times. -/
def pcmSamples (volume : Float32) (count : Nat) (wave : List Float32) : List Int16 :=
  wave.flatMap fun sample => List.replicate count (quantize sample volume)

/-! ## WAV files

A RIFF/WAVE file of uncompressed 16-bit samples: a header of 44 bytes that gives the sizes, the
rate and the number of channels, and then the samples, low byte first, those of a frame one
after another. -/

/-- Uncompressed 16-bit sound. -/
structure Wav where
  rate : Nat
  channels : Nat
  samples : List Int16
  deriving DecidableEq

namespace Wav

/-- Bits in a sample. -/
def bitsPerSample : Nat := 16

/-- Bytes in a sample. -/
def bytesPerSample : Nat := 2

/-- Bytes before the samples. -/
def headerLength : Nat := 44

/-- Bytes of all samples. -/
def dataLength (w : Wav) : Nat := bytesPerSample * w.samples.length

/-- Bytes of one sample of each channel. -/
def blockAlign (w : Wav) : Nat := w.channels * bytesPerSample

/-- Bytes in a second. -/
def byteRate (w : Wav) : Nat := w.rate * w.blockAlign

/-- The lowest `count` bytes of a number, lowest first. -/
def littleEndian : Nat → Nat → List UInt8
  | 0, _ => []
  | count + 1, n => UInt8.ofNat n :: littleEndian count (n / 256)

/-- Four characters that name a chunk. -/
def tag (name : String) : List UInt8 := name.toList.map fun c => UInt8.ofNat c.toNat

/-- The header. -/
def header (w : Wav) : List UInt8 :=
  tag "RIFF" ++ littleEndian 4 (36 + w.dataLength) ++ tag "WAVE" ++
  tag "fmt " ++ littleEndian 4 16 ++ littleEndian 2 1 ++ littleEndian 2 w.channels ++
  littleEndian 4 w.rate ++ littleEndian 4 w.byteRate ++ littleEndian 2 w.blockAlign ++
  littleEndian 2 bitsPerSample ++ tag "data" ++ littleEndian 4 w.dataLength

/-- The two bytes of a sample. -/
def sampleBytes (s : Int16) : List UInt8 := littleEndian 2 s.toUInt16.toNat

/-- The bytes of the file. -/
def bytes (w : Wav) : List UInt8 := w.header ++ w.samples.flatMap sampleBytes

/-- The file of a mono wave at the native rate, played at a volume, at an output rate. -/
def ofWave (wave : List Float32) (volume : Float32) (rate : UInt32) (stereo : Bool) : Wav where
  rate := rate.toNat
  channels := channelCount stereo
  samples := pcmSamples volume (repeatCount rate stereo) wave

theorem length_littleEndian (count n : Nat) : (littleEndian count n).length = count := by
  induction count generalizing n with
  | zero => rfl
  | succ count ih => simp [littleEndian, ih]

end Wav

/-! ## Recordings

Samples of one channel with their rate, which is as far as speech goes before a query's volume,
rate and channels come in. -/

/-- Samples of one channel. -/
structure Recording where
  samples : List Float32
  rate : UInt32
  deriving DecidableEq

namespace Recording

/-- The recording as a file of one channel at its own rate and full volume. -/
def wav (r : Recording) : Wav where
  rate := r.rate.toNat
  channels := 1
  samples := r.samples.map (quantize · 1)

/-- The length in seconds. -/
def duration (r : Recording) : Float :=
  Single.nearestDouble .positive r.samples.length 0 / Single.nearestDouble .positive r.rate.toNat 0

/-- The tree with the recording written to a file. -/
def write (r : Recording) (tree : FileTree) (path : Path) : Except IoFault FileTree :=
  tree.write path ⟨r.wav.bytes.toArray⟩

end Recording

end KanaVoice
