import LogSieve.Main
import LogSieve.Proofs.Attempt
import LogSieve.Proofs.Command.Layers
import LogSieve.Proofs.Command.PassThrough
import LogSieve.Proofs.Command.Plan
import LogSieve.Proofs.Command.Single
import LogSieve.Proofs.Environment.Expansion
import LogSieve.Proofs.Filter.Expression
import LogSieve.Proofs.Filter.Partition
import LogSieve.Proofs.Json.Numeral
import LogSieve.Proofs.Json.OneLine
import LogSieve.Proofs.Json.Quoted
import LogSieve.Proofs.Json.ReadBack
import LogSieve.Proofs.Log.Accounts
import LogSieve.Proofs.Log.CompactLines
import LogSieve.Proofs.Log.Decoded
import LogSieve.Proofs.Log.FirstContent
import LogSieve.Proofs.Log.Interleaved
import LogSieve.Proofs.Log.KeyValue
import LogSieve.Proofs.Log.Lines
import LogSieve.Proofs.Log.Scan
import LogSieve.Proofs.Log.Transparent
import LogSieve.Proofs.Log.Watch
import LogSieve.Proofs.Number.Exact
import LogSieve.Proofs.Number.Magnitude
import LogSieve.Proofs.Number.Monotone
import LogSieve.Proofs.Number.Nearest
import LogSieve.Proofs.Number.ReadBack
import LogSieve.Proofs.Number.Rounding
import LogSieve.Proofs.Number.Style
import LogSieve.Proofs.Record.Alike
import LogSieve.Proofs.Record.Fields
import LogSieve.Proofs.Record.Limits
import LogSieve.Proofs.Record.Lookup
import LogSieve.Proofs.Record.NumberText
import LogSieve.Proofs.Render.Alike
import LogSieve.Proofs.Render.Distinct
import LogSieve.Proofs.Render.Logfmt
import LogSieve.Proofs.Render.LogfmtPassThrough
import LogSieve.Proofs.Render.OneLine
import LogSieve.Proofs.Render.PassThrough
import LogSieve.Proofs.Run.Alike
import LogSieve.Proofs.Run.Faults
import LogSieve.Proofs.Run.FrequencyTable
import LogSieve.Proofs.Run.Instants
import LogSieve.Proofs.Run.Isolated
import LogSieve.Proofs.Run.Merge
import LogSieve.Proofs.Run.Pass
import LogSieve.Proofs.Run.StableSort
import LogSieve.Proofs.Run.Undated
import LogSieve.Proofs.Settings.Faults
import LogSieve.Proofs.Settings.FieldNames
import LogSieve.Proofs.Settings.Layers
import LogSieve.Proofs.Settings.Order
import LogSieve.Proofs.Settings.Schema
import LogSieve.Proofs.Settings.Shield
import LogSieve.Proofs.Settings.Steps
import LogSieve.Proofs.Stream.Delivered
import LogSieve.Proofs.Stream.Lines
import LogSieve.Proofs.Stream.Replay
import LogSieve.Proofs.Text.Ascii
import LogSieve.Proofs.Text.Blank
import LogSieve.Proofs.Text.Case
import LogSieve.Proofs.Text.Utf8
import LogSieve.Proofs.Time.Calendar
import LogSieve.Proofs.Time.ReadBack
import LogSieve.Proofs.Time.Spelling
import LogSieve.Proofs.Time.Written
import LogSieve.Proofs.Yaml.Datum
import LogSieve.Proofs.Settings.FieldNames
