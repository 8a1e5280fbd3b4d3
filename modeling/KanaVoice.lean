import KanaVoice.Engine.Basic
import KanaVoice.Query.Json
import KanaVoice.Proofs.Except
import KanaVoice.Proofs.Outcome
import KanaVoice.Proofs.Speech.StreamLength
import KanaVoice.Proofs.Speech.Placement
import KanaVoice.Proofs.Sound.Regulation
import KanaVoice.Proofs.Symbol.Encoding
import KanaVoice.Proofs.Inference.Stages
import KanaVoice.Proofs.Library.Loading
import KanaVoice.Proofs.Engine.Alignment
import KanaVoice.Proofs.Kana.Phrase
import KanaVoice.Proofs.Kana.RoundTrip
import KanaVoice.Proofs.Single.Unit
import KanaVoice.Proofs.Speech.Slots
import KanaVoice.Proofs.Speech.Spoken
import KanaVoice.Proofs.Inference.Runs
import KanaVoice.Proofs.Engine.KanaSpeech
import KanaVoice.Proofs.Transition
import KanaVoice.Proofs.Inference.Calls
import KanaVoice.Proofs.Library.Attempt
import KanaVoice.Proofs.Library.Reading
import KanaVoice.Proofs.Library.LoadStates
import KanaVoice.Proofs.Engine.Readiness
import KanaVoice.Proofs.Engine.Request
import KanaVoice.Proofs.Engine.LoadStates
import KanaVoice.Proofs.Engine.LoadAttempts
import KanaVoice.Proofs.Engine.WithoutVoices
import KanaVoice.Proofs.Speech.WithoutProsody
import KanaVoice.Proofs.Engine.ProsodyPasses
import KanaVoice.Proofs.Coupling
import KanaVoice.Proofs.Inference.Conduct
import KanaVoice.Proofs.Library.Verdict
import KanaVoice.Proofs.Library.Alike
import KanaVoice.Proofs.Library.Opening
import KanaVoice.Proofs.Engine.Alike
import KanaVoice.Proofs.Engine.Unnoticed
import KanaVoice.Proofs.Engine.RecordedFile
import KanaVoice.Proofs.Sound.Riff
import KanaVoice.Proofs.Sound.SoundFile
import KanaVoice.Proofs.Engine.Steps
import KanaVoice.Proofs.Engine.LoadTime
import KanaVoice.Proofs.Text.Basic
import KanaVoice.Proofs.Library.Directory
import KanaVoice.Proofs.Engine.Resolution
import KanaVoice.Proofs.Library.Files
import KanaVoice.Proofs.Library.Checklist
import KanaVoice.Proofs.Engine.Startup
import KanaVoice.Proofs.Engine.MissingModels
import KanaVoice.Proofs.Engine.Precedence
import KanaVoice.Proofs.Engine.QueryKana
import KanaVoice.Proofs.Speech.Utterance
import KanaVoice.Proofs.Speech.WellFormed
import KanaVoice.Proofs.Kana.Phonemes
import KanaVoice.Proofs.Speech.BuiltInSymbols
import KanaVoice.Proofs.Engine.BuiltInSymbols
import KanaVoice.Proofs.Json.Number
import KanaVoice.Proofs.Json.Text
import KanaVoice.Proofs.Json.Record
import KanaVoice.Proofs.Query.Json
import KanaVoice.Proofs.Speech.AccentStream
import KanaVoice.Proofs.Speech.Parts
import KanaVoice.Proofs.Speech.Joined
import KanaVoice.Proofs.Single.Zero
import KanaVoice.Proofs.Single.Rounding
import KanaVoice.Proofs.Single.Arithmetic
import KanaVoice.Proofs.Single.Packing
import KanaVoice.Proofs.Single.Values
import KanaVoice.Proofs.Single.PowerOfTwo
import KanaVoice.Proofs.Speech.Contour
import KanaVoice.Proofs.Kana.JoinedTexts
import KanaVoice.Proofs.Single.Sign
import KanaVoice.Proofs.Sound.Repetition
import KanaVoice.Proofs.Inference.CallDiscipline
import KanaVoice.Proofs.Inference.Embedding
import KanaVoice.Proofs.Inference.Prediction
import KanaVoice.Proofs.Speech.Upspeak
import KanaVoice.Proofs.Symbol.ReadBack
import KanaVoice.Proofs.Kana.Display
import KanaVoice.Proofs.Engine.Speakers
import KanaVoice.Proofs.Single.Order
import KanaVoice.Proofs.Sound.Limits
import KanaVoice.Proofs.Single.Negation
import KanaVoice.Proofs.Sound.Quantization
import KanaVoice.Proofs.Speech.IndexedPlacement
import KanaVoice.Proofs.Kana.LongestMatch
import KanaVoice.Proofs.Kana.Scanner
