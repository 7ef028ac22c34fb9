import WeatherRelay.Compressed
import WeatherRelay.Health.Reader
import WeatherRelay.Main
import WeatherRelay.Pipeline
import WeatherRelay.Shutdown
import WeatherRelay.Proofs.Binary.Exact
import WeatherRelay.Proofs.Time.Line
import WeatherRelay.Proofs.RainStore.Bucket
import WeatherRelay.Proofs.Table.Increasing
import WeatherRelay.Proofs.RainStore.Recording
import WeatherRelay.Proofs.RainStore.Retention
import WeatherRelay.Proofs.RainStore.ExactSum
import WeatherRelay.Proofs.RainStore.DailyTotal
import WeatherRelay.Proofs.Session.Calls
import WeatherRelay.Proofs.Session.Transcript
import WeatherRelay.Proofs.Session.Progress
import WeatherRelay.Proofs.Transmitter.WireDiscipline
import WeatherRelay.Proofs.History
import WeatherRelay.Proofs.FanOut.System
import WeatherRelay.Proofs.FanOut.Flow
import WeatherRelay.Proofs.FanOut.Answers
import WeatherRelay.Proofs.FanOut.Departed
import WeatherRelay.Proofs.FanOut.Lossless
import WeatherRelay.Proofs.RainStore.Outcome
import WeatherRelay.Proofs.Session.Typestate
import WeatherRelay.Proofs.Text.Utf8
import WeatherRelay.Proofs.Session.ByteStream
import WeatherRelay.Proofs.Chain.System
import WeatherRelay.Proofs.Chain.Order
import WeatherRelay.Proofs.Chain.Complete
import WeatherRelay.Proofs.Decimal.Digits
import WeatherRelay.Proofs.Time.Calendar
import WeatherRelay.Proofs.Time.Stamp
import WeatherRelay.Proofs.Json.RoundTrip
import WeatherRelay.Proofs.Health.Reading
import WeatherRelay.Proofs.Health.Runs
import WeatherRelay.Proofs.Health.Concurrent
import WeatherRelay.Proofs.Binary.Order
import WeatherRelay.Proofs.WeatherLine.Fields
import WeatherRelay.Proofs.WeatherLine.Decoding
import WeatherRelay.Proofs.WeatherLine.SingleLine
import WeatherRelay.Proofs.Session.Encounter
import WeatherRelay.Proofs.Transmitter.LoginTest
import WeatherRelay.Proofs.Shutdown.System
import WeatherRelay.Proofs.Transmitter.Isolation
import WeatherRelay.Proofs.Shutdown.Safety
import WeatherRelay.Proofs.RainStore.DayGrowth
import WeatherRelay.Proofs.Time.LocalDay
import WeatherRelay.Proofs.RainStore.AheadOfNow
import WeatherRelay.Proofs.RainStore.Backlog
import WeatherRelay.Proofs.RainStore.AnyOrder
import WeatherRelay.Proofs.RainStore.SkippedMidnight
import WeatherRelay.Proofs.Binary.Value
import WeatherRelay.Proofs.WeatherLine.Layout
import WeatherRelay.Proofs.Position.Degrees
import WeatherRelay.Proofs.Position.OnGlobe
import WeatherRelay.Proofs.WeatherLine.RainField
import WeatherRelay.Proofs.Text.Trimmed
import WeatherRelay.Proofs.Station.NormalForm
import WeatherRelay.Proofs.Station.Slots
import WeatherRelay.Proofs.FanOut.GivenUp
import WeatherRelay.Proofs.Json.Numerals
import WeatherRelay.Proofs.Reading.RoundTrip
import WeatherRelay.Proofs.Binary.Nearest
import WeatherRelay.Proofs.Decimal.Shortest
import WeatherRelay.Proofs.Decimal.ThroughDouble
import WeatherRelay.Proofs.Reading.Numbers
import WeatherRelay.Proofs.Base91.Numeral
import WeatherRelay.Proofs.Position.Compressed
import WeatherRelay.Proofs.Shutdown.Owners
import WeatherRelay.Proofs.Periodic.Intervals
import WeatherRelay.Proofs.Passcode.ByteSum
import WeatherRelay.Proofs.RainStore.Tiling
import WeatherRelay.Proofs.Reading.DerivedMetrics
import WeatherRelay.Proofs.Position.Accuracy
import WeatherRelay.Proofs.Chain.Relay
import WeatherRelay.Proofs.WeatherLine.UniqueDecoding
