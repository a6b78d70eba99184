import Retrace.Text.Ranges
import Retrace.Text.Blank
import Retrace.Text.Word
import Retrace.Text.CaseTables
import Retrace.Text.LowerCase
import Retrace.Text.Unprintable
import Retrace.Text.Quoted
import Retrace.Text.Pieces
import Retrace.Text.Utf8
import Retrace.Decimal.Double
import Retrace.Decimal.Shortest
import Retrace.Decimal.Written
import Retrace.Json.Basic
import Retrace.Json.Writer
import Retrace.Json.Literal
import Retrace.Json.Document
import Retrace.Json.Reader
import Retrace.Decoding.Fault
import Retrace.Decoding.Basic
import Retrace.Decoding.Record
import Retrace.Entries
import Retrace.Fragment
import Retrace.Event
import Retrace.Event.Decoding
import Retrace.Locator
import Retrace.Action
import Retrace.Decoding.Choice
import Retrace.Action.Decoding
import Retrace.Bundle
import Retrace.Replay
import Retrace.Compilation
import Retrace.Stream
import Retrace.Files.Node
import Retrace.Files.Path
import Retrace.Files.Disk
import Retrace.Decimal.Padded
import Retrace.Moment
import Retrace.Store.Basic
import Retrace.Store.Listing
import Retrace.Store.Loading
import Retrace.Store.Saving
import Retrace.Store.Bundles
import Retrace.Http.Message
import Retrace.Http.MediaType
import Retrace.Http.Endpoint
import Retrace.Http.Problem
import Retrace.Http.Collector
import Retrace.Text.Alphanumeric
import Retrace.Environment
import Retrace.Environment.Assignments
import Retrace.Settings
import Retrace.CommandLine.Invocation
import Retrace.CommandLine.Execution
import Retrace.CommandLine.Snapshot
import Retrace.Main
import Retrace.Proofs.Plan.Waits
import Retrace.Proofs.Plan.Parts
import Retrace.Proofs.Json.Values
import Retrace.Proofs.Json.Strings
import Retrace.Proofs.Json.Numbers
import Retrace.Proofs.Json.Layout
import Retrace.Proofs.Json.Reading
import Retrace.Proofs.Decoding.Values
import Retrace.Proofs.Decoding.Records
import Retrace.Proofs.Decoding.Bundles
import Retrace.Proofs.Decoding.Origins
import Retrace.Proofs.Files.Tree
import Retrace.Proofs.Files.Disk
import Retrace.Proofs.Files.Growth
import Retrace.Proofs.Files.Frames
import Retrace.Proofs.Files.Order
import Retrace.Proofs.Files.Listing
import Retrace.Proofs.Decimal.Padded
import Retrace.Proofs.Bundles.Texts
import Retrace.Proofs.Store.Chronology
import Retrace.Proofs.Store.Recording
import Retrace.Proofs.Json.Soundness
import Retrace.Proofs.Store.Contents
import Retrace.Proofs.Store.Steps
import Retrace.Proofs.Store.Interleaving
import Retrace.Proofs.Store.Recall
import Retrace.Proofs.Bundles.Labels
import Retrace.Proofs.Bundles.Acceptance
import Retrace.Proofs.Decoding.Members
import Retrace.Proofs.Decoding.Gathering
import Retrace.Proofs.Decoding.Events
import Retrace.Proofs.Http.Addresses
import Retrace.Proofs.Http.Sessions
import Retrace.Proofs.Http.Replays
import Retrace.Proofs.Text.LowerCase
import Retrace.Proofs.Text.Blank
import Retrace.Proofs.Text.Occurrences
import Retrace.Proofs.Fragment.Attributes
import Retrace.Proofs.Fragment.Tags
import Retrace.Proofs.Fragment.VisibleText
import Retrace.Proofs.Text.Quoting
import Retrace.Proofs.Plan.Quotations
import Retrace.Proofs.Fragment.Locators
import Retrace.Proofs.Plan.Edits
import Retrace.Proofs.Files.Spelling
import Retrace.Proofs.Store.Containment
import Retrace.Proofs.Files.Passage
import Retrace.Proofs.CommandLine.Compiling
import Retrace.Proofs.Bundles.Bystanders
import Retrace.Proofs.Store.Reloading
import Retrace.Proofs.CommandLine.Recompiling
import Retrace.Proofs.Plan.Submissions
import Retrace.Proofs.Plan.Landmarks
import Retrace.Proofs.Plan.Readings
import Retrace.Proofs.Decoding.Additions
import Retrace.Proofs.Store.Walks
import Retrace.Proofs.Store.Foreign
import Retrace.Proofs.Fragment.InputType
import Retrace.Proofs.Decoding.Outcomes
import Retrace.Proofs.Decoding.Recognition
import Retrace.Proofs.Decoding.Renderings
import Retrace.Proofs.Decoding.Rearranging
import Retrace.Proofs.Decoding.Envelopes
import Retrace.Proofs.Bundles.Reading
import Retrace.Proofs.Store.Collecting
import Retrace.Proofs.Plan.Payloads
import Retrace.Proofs.Store.Agreement
