import KanaVoice.Proofs.Except
import KanaVoice.Sound.Wav
set_option autoImplicit false

/-!
# Reading sound files

A RIFF file is a name, the length of what follows, a kind, and chunks; each chunk is a name, the
length of its body, and the body, with a byte between it and the next one if that length is odd.  In
a file of the kind `WAVE` the chunk `fmt ` says how the samples in the chunk `data` are to be taken.
The reader here goes by this description alone, and what it makes of the bytes of a sound is the
sound again.
-/

namespace KanaVoice

namespace Riff

/-! ## Readers -/

/-- What takes bytes from the front. -/
abbrev Reader := StateT (List UInt8) Option

/-- The next bytes. -/
def take (count : Nat) : Reader (List UInt8) := fun bytes =>
  if bytes.length < count then none else some (bytes.take count, bytes.drop count)

/-- The number that bytes make, the lowest first. -/
def value : List UInt8 → Nat
  | [] => 0
  | byte :: rest => byte.toNat + 256 * value rest

/-- The next number of so many bytes. -/
def number (count : Nat) : Reader Nat := do pure (value (← take count))

/-- A chunk. -/
structure Chunk where
  name : List UInt8
  size : Nat
  body : List UInt8

/-- The next chunk. -/
def chunk : Reader Chunk := do
  let name ← take 4
  let size ← number 4
  let body ← take size
  let _ ← take (size % 2)
  pure { name, size, body }

/-- All chunks up to the end. -/
def chunks? (bytes : List UInt8) : Option (List Chunk) :=
  if bytes = [] then some []
  else
    match chunk bytes with
    | none => none
    | some (first, rest) =>
      if rest.length < bytes.length then (chunks? rest).map (first :: ·) else none
termination_by bytes.length

/-- How samples are to be taken. -/
structure Format where
  code : Nat
  channels : Nat
  rate : Nat
  byteRate : Nat
  blockAlign : Nat
  bits : Nat

/-- The next format. -/
def format : Reader Format := do
  let code ← number 2
  let channels ← number 2
  let rate ← number 4
  let byteRate ← number 4
  let blockAlign ← number 2
  let bits ← number 2
  pure { code, channels, rate, byteRate, blockAlign, bits }

/-- Signed samples of two bytes each. -/
def samples : List UInt8 → List Int16
  | low :: high :: rest => .ofNat (value [low, high]) :: samples rest
  | _ => []

/-- What a sound file says. -/
structure Contents where
  riffSize : Nat
  format : Format
  dataSize : Nat
  samples : List Int16

/-- The letters `RIFF`. -/
def riffName : List UInt8 := [82, 73, 70, 70]

/-- The letters `WAVE`. -/
def waveKind : List UInt8 := [87, 65, 86, 69]

/-- The letters `fmt `. -/
def formatName : List UInt8 := [102, 109, 116, 32]

/-- The letters `data`. -/
def dataName : List UInt8 := [100, 97, 116, 97]

/-- Reads a sound file to its end. -/
def read? (bytes : List UInt8) : Option Contents := do
  let (first, body) ← (take 4).run bytes
  let (riffSize, body) ← (number 4).run body
  let (kind, body) ← (take 4).run body
  if first = riffName ∧ kind = waveKind ∧ riffSize + 8 = bytes.length then
    let all ← chunks? body
    let header ← all.find? (·.name = formatName)
    let (format, _) ← format.run header.body
    let data ← all.find? (·.name = dataName)
    some { riffSize, format, dataSize := data.size, samples := samples data.body }
  else none

/-! ## What a reader takes -/

/-- In front of anything the reader takes just these bytes, for this value. -/
def Reads {α : Type} (r : Reader α) (bytes : List UInt8) (a : α) : Prop :=
  ∀ rest, r (bytes ++ rest) = some (a, rest)

namespace Reads

variable {α β : Type} {r : Reader α} {f : α → Reader β} {bytes more : List UInt8} {a : α} {b : β}

theorem pure (a : α) : Reads (Pure.pure a) [] a := by
  intro rest
  rfl

theorem bind (h : Reads r bytes a) (next : Reads (f a) more b) :
    Reads (r >>= f) (bytes ++ more) b := by
  intro rest
  show (r (bytes ++ more ++ rest)).bind (fun p => f p.1 p.2) = _
  rw [List.append_assoc, h, Option.bind_some]
  exact next rest

/-- The rest of the reader may take nothing. -/
theorem bindNil (h : Reads r bytes a) (next : Reads (f a) [] b) : Reads (r >>= f) bytes b := by
  have ends : Reads (r >>= f) (bytes ++ []) b := h.bind next
  rwa [List.append_nil] at ends

end Reads

theorem reads_take {count : Nat} {bytes : List UInt8} (h : bytes.length = count) :
    Reads (take count) bytes bytes := by
  intro rest
  have long : ¬ (bytes ++ rest).length < count := by
    rw [List.length_append]
    omega
  rw [take, if_neg long, ← h, List.take_left, List.drop_left]

theorem value_littleEndian {count n : Nat} (h : n < 256 ^ count) :
    value (Wav.littleEndian count n) = n := by
  induction count generalizing n with
  | zero =>
    obtain rfl : n = 0 := by simpa using h
    rfl
  | succ count ih =>
    have rest : n / 256 < 256 ^ count := by
      rw [Nat.pow_succ] at h
      exact Nat.div_lt_of_lt_mul (by rwa [Nat.mul_comm])
    rw [Wav.littleEndian, value, ih rest]
    have low : (UInt8.ofNat n).toNat = n % 256 := by simp
    rw [low]
    exact Nat.mod_add_div n 256

theorem reads_number {count n : Nat} (h : n < 256 ^ count) :
    Reads (number count) (Wav.littleEndian count n) n := by
  refine (reads_take (Wav.length_littleEndian count n)).bindNil ?_
  rw [value_littleEndian h]
  exact .pure n

/-- A chunk of even length is read as it is written. -/
theorem reads_chunk {name body : List UInt8} (four : name.length = 4)
    (fits : body.length < 256 ^ 4) (even : body.length % 2 = 0) :
    Reads chunk (name ++ (Wav.littleEndian 4 body.length ++ body))
      { name, size := body.length, body } := by
  have padding : Reads (take (body.length % 2)) [] [] := reads_take even.symm
  refine (reads_take four).bind ((reads_number fits).bind ((reads_take rfl).bindNil ?_))
  exact padding.bindNil (.pure _)

theorem chunks?_nil : chunks? [] = some [] := by
  rw [chunks?, if_pos rfl]

theorem chunks?_append {bytes rest : List UInt8} {first : Chunk} (h : Reads chunk bytes first) :
    chunks? (bytes ++ rest) = (chunks? rest).map (first :: ·) := by
  have nonempty : bytes ≠ [] := by
    rintro rfl
    cases h []
  have shorter : rest.length < (bytes ++ rest).length := by
    rw [List.length_append]
    have := List.length_pos_iff.2 nonempty
    omega
  rw [chunks?, if_neg (by simp [nonempty]), h rest]
  simp only [if_pos shorter]

/-! ## Samples -/

theorem samples_sampleBytes (s : Int16) (rest : List UInt8) :
    samples (Wav.sampleBytes s ++ rest) = s :: samples rest := by
  have fits : s.toUInt16.toNat < 256 ^ 2 := s.toUInt16.toNat_lt
  have whole : Int16.ofNat s.toUInt16.toNat = s := congrArg Int16.ofUInt16 UInt16.ofNat_toNat
  show Int16.ofNat (value (Wav.littleEndian 2 s.toUInt16.toNat)) :: samples rest = _
  rw [value_littleEndian fits, whole]

theorem samples_flatMap (l : List Int16) : samples (l.flatMap Wav.sampleBytes) = l := by
  induction l with
  | nil => rfl
  | cons s rest ih => rw [List.flatMap_cons, samples_sampleBytes, ih]

theorem length_flatMap_sampleBytes (l : List Int16) :
    (l.flatMap Wav.sampleBytes).length = 2 * l.length := by
  induction l with
  | nil => rfl
  | cons s rest ih =>
    have two : (Wav.sampleBytes s).length = 2 := Wav.length_littleEndian 2 _
    rw [List.flatMap_cons, List.length_append, ih, two, List.length_cons]
    omega

end Riff

/-! ## Sounds -/

namespace Wav

open Riff

/-- The header has room for the numbers of the sound, and its last frame is complete. -/
structure WellFormed (w : Wav) : Prop where
  rate : 0 < w.rate
  channels : w.channels = 1 ∨ w.channels = 2
  frames : w.channels ∣ w.samples.length
  byteRate : w.byteRate < 2 ^ 32
  riffSize : 36 + w.dataLength < 2 ^ 32

variable {w : Wav}

theorem WellFormed.rate_lt (h : w.WellFormed) : w.rate < 2 ^ 32 := by
  have fits := h.byteRate
  unfold Wav.byteRate blockAlign bytesPerSample at fits
  rcases h.channels with one | two
  · rw [one] at fits
    omega
  · rw [two] at fits
    omega

/-- The format of the sound, as its header has it. -/
def riffFormat (w : Wav) : Format where
  code := 1
  channels := w.channels
  rate := w.rate
  byteRate := w.byteRate
  blockAlign := w.blockAlign
  bits := bitsPerSample

/-- The bytes of the format. -/
def formatBytes (w : Wav) : List UInt8 :=
  littleEndian 2 1 ++ (littleEndian 2 w.channels ++ (littleEndian 4 w.rate ++
    (littleEndian 4 w.byteRate ++ (littleEndian 2 w.blockAlign ++ littleEndian 2 bitsPerSample))))

theorem length_formatBytes (w : Wav) : w.formatBytes.length = 16 := by
  simp only [formatBytes, List.length_append, length_littleEndian]

theorem reads_formatBytes (h : w.WellFormed) : Reads format w.formatBytes w.riffFormat := by
  have channels : w.channels < 256 ^ 2 := by
    have := h.channels
    omega
  have blockAlign : w.blockAlign < 256 ^ 2 := by
    have := h.channels
    unfold Wav.blockAlign bytesPerSample
    omega
  refine (reads_number (by decide)).bind ((reads_number channels).bind ?_)
  refine (reads_number h.rate_lt).bind ((reads_number h.byteRate).bind ?_)
  exact (reads_number blockAlign).bind ((reads_number (by decide)).bindNil (.pure _))

/-- The chunk that holds the format. -/
def formatChunk (w : Wav) : List UInt8 :=
  formatName ++ (littleEndian 4 w.formatBytes.length ++ w.formatBytes)

/-- The chunk that holds the samples. -/
def dataChunk (w : Wav) : List UInt8 :=
  dataName ++ (littleEndian 4 (w.samples.flatMap sampleBytes).length ++
    w.samples.flatMap sampleBytes)

/-- The file as a name, a length, a kind and two chunks. -/
theorem bytes_eq (w : Wav) :
    w.bytes = riffName ++ (littleEndian 4 (36 + w.dataLength) ++
      (waveKind ++ (w.formatChunk ++ (w.dataChunk ++ [])))) := by
  have riff : tag "RIFF" = riffName := by decide
  have wave : tag "WAVE" = waveKind := by decide
  have format : tag "fmt " = formatName := by decide
  have data : tag "data" = dataName := by decide
  unfold bytes header dataLength bytesPerSample formatChunk dataChunk
  rw [riff, wave, format, data, length_formatBytes, length_flatMap_sampleBytes, formatBytes]
  simp only [List.append_assoc, List.append_nil]

theorem length_bytes (w : Wav) : w.bytes.length = headerLength + w.dataLength := by
  rw [bytes_eq, formatChunk, dataChunk]
  simp only [List.length_append, length_littleEndian, length_formatBytes,
    length_flatMap_sampleBytes, riffName, waveKind, formatName, dataName, List.length_cons,
    List.length_nil, headerLength, dataLength, bytesPerSample]
  omega

theorem chunks?_bytes (h : w.WellFormed) :
    chunks? (w.formatChunk ++ (w.dataChunk ++ [])) =
      some [⟨formatName, w.formatBytes.length, w.formatBytes⟩,
        ⟨dataName, w.dataLength, w.samples.flatMap sampleBytes⟩] := by
  have dataSize : (w.samples.flatMap sampleBytes).length = w.dataLength :=
    length_flatMap_sampleBytes w.samples
  have fits := h.riffSize
  have format : Reads chunk w.formatChunk ⟨formatName, w.formatBytes.length, w.formatBytes⟩ := by
    refine reads_chunk rfl ?_ ?_
    · rw [length_formatBytes]
      decide
    · rw [length_formatBytes]
  have data : Reads chunk w.dataChunk ⟨dataName, w.dataLength, w.samples.flatMap sampleBytes⟩ := by
    rw [← dataSize]
    refine reads_chunk rfl ?_ ?_
    · omega
    · rw [dataSize]
      exact Nat.mul_mod_right 2 w.samples.length
  rw [chunks?_append format, chunks?_append data, chunks?_nil]
  rfl

/-- What is read from the bytes of a sound is the sound. -/
theorem read?_bytes (h : w.WellFormed) :
    read? w.bytes = some {
      riffSize := 36 + w.dataLength
      format := w.riffFormat
      dataSize := w.dataLength
      samples := w.samples } := by
  have size : 36 + w.dataLength + 8 = w.bytes.length := by
    rw [length_bytes, headerLength]
    omega
  have riff : Reads (take 4) riffName riffName := reads_take rfl
  have length : Reads (number 4) (littleEndian 4 (36 + w.dataLength)) (36 + w.dataLength) :=
    reads_number h.riffSize
  have kind : Reads (take 4) waveKind waveKind := reads_take rfl
  have format := reads_formatBytes h []
  rw [List.append_nil] at format
  unfold read? StateT.run
  rw [← size, bytes_eq, riff]
  simp only [Option.bind_eq_bind, Option.bind_some]
  rw [length]
  simp only [Option.bind_some]
  rw [kind]
  simp only [Option.bind_some]
  rw [chunks?_bytes h, if_pos ⟨trivial, trivial, trivial⟩]
  show (Riff.format w.formatBytes).bind (fun read => some (⟨36 + w.dataLength, read.1,
    w.dataLength, Riff.samples (w.samples.flatMap sampleBytes)⟩ : Contents)) = _
  rw [format, samples_flatMap]
  rfl

end Wav

end KanaVoice
