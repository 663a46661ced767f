import KeyPath.Main
import KeyPath.Value.Equality
import KeyPath.Proofs.Assoc
import KeyPath.Proofs.Document.Lazy
import KeyPath.Proofs.Json.Reading
import KeyPath.Proofs.Json.Quoted
import KeyPath.Proofs.Value.Members
import KeyPath.Proofs.Value.Part
import KeyPath.Proofs.Value.Data
import KeyPath.Proofs.Lookup.Walk
import KeyPath.Proofs.Lookup.Outcome
import KeyPath.Proofs.Lookup.Delegation
import KeyPath.Proofs.Lookup.Composition
import KeyPath.Proofs.Lookup.Answers
import KeyPath.Proofs.Lookup.Wrapping
import KeyPath.Proofs.Document.RoundTrip
import KeyPath.Proofs.Command.Ending
import KeyPath.Proofs.Yaml.Part
import KeyPath.Proofs.Yaml.SameValue
import KeyPath.Proofs.Document.Agreement
import KeyPath.Proofs.Document.Loaded
import KeyPath.Proofs.Document.Symbols
import KeyPath.Proofs.Key.Typed
import KeyPath.Proofs.Command.Location
import KeyPath.Proofs.Json.Depth
import KeyPath.Proofs.Document.Reload
import KeyPath.Proofs.Command.Pipe
import KeyPath.Proofs.Command.Absence
import KeyPath.Proofs.Command.Events
import KeyPath.Proofs.Command.Source
import KeyPath.Proofs.Command.Flags
import KeyPath.Proofs.Command.Muted
import KeyPath.Proofs.Command.Settling
import KeyPath.Proofs.Command.Verbosity
import KeyPath.Proofs.Text.Quoted
import KeyPath.Proofs.Number.Interval
import KeyPath.Proofs.Number.Shortest
import KeyPath.Proofs.Number.Text
import KeyPath.Proofs.Text.Joined
import KeyPath.Proofs.Value.Inspect
import KeyPath.Proofs.Yaml.Rounded
import KeyPath.Proofs.Yaml.Key
import KeyPath.Proofs.Yaml.Alike
import KeyPath.Proofs.Document.Collapse
import KeyPath.Proofs.Document.Order
import KeyPath.Proofs.Key.Written
import KeyPath.Proofs.Command.Words
import KeyPath.Proofs.Key.Path
import KeyPath.Proofs.Value.Equality
import KeyPath.Proofs.Lookup.Equality
import KeyPath.Proofs.Key.Order
import KeyPath.Proofs.Value.Hash
import KeyPath.Proofs.Value.Position
import KeyPath.Proofs.Command.Choices
import KeyPath.Proofs.Command.Interleaved
import KeyPath.Proofs.Text.Digits
import KeyPath.Proofs.Key.Grammar
