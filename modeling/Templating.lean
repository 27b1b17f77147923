import Templating.Json.Reader
import Templating.Value.Display
import Templating.ViewBag
import Templating.Model
import Templating.Diagnostic.Json
import Templating.Error
import Templating.Markup.Attribute
import Templating.Fingerprint
import Templating.Context
import Templating.Pipeline.Compile
import Templating.Pipeline.Static
import Templating.Cache.Request
import Templating.Engine.Basic
import Templating.Engine.Render
import Templating.Yaml.Document
import Templating.Config.Load
import Templating.Inspect
import Templating.Cache.Machine
import Templating.Proofs.Cache.Eviction
import Templating.Proofs.Cache.Ledger
import Templating.Proofs.Cache.Listing
import Templating.Proofs.Cache.Refinement
import Templating.Proofs.Cache.Calls
import Templating.Proofs.Cache.Completion
import Templating.Proofs.Cache.Owners
import Templating.Proofs.Cache.Provenance
import Templating.Proofs.Cache.Runs
import Templating.Proofs.Cache.Settling
import Templating.Proofs.Cache.Sharing
import Templating.Proofs.Cache.Transparency
import Templating.Proofs.Engine.Bound
import Templating.Proofs.Engine.Growth
import Templating.Proofs.Engine.Independence
import Templating.Proofs.Cache.Nesting
import Templating.Proofs.Cache.Reentry
import Templating.Proofs.Cache.InFlight
import Templating.Proofs.Cache.Peers
import Templating.Proofs.Engine.Lookup
import Templating.Proofs.Markup.Outline
import Templating.Proofs.Engine.Discreet
import Templating.Proofs.Engine.NonInterference
import Templating.Proofs.Context.Acts
import Templating.Proofs.Context.Bodies
import Templating.Proofs.Context.Sections
import Templating.Proofs.Engine.Trace
import Templating.Proofs.Engine.Course
import Templating.Proofs.Engine.Layouts
import Templating.Proofs.Engine.Failure
import Templating.Proofs.Engine.Inclusion
import Templating.Proofs.Engine.Histories
import Templating.Proofs.Cache.Waiting
import Templating.Proofs.Cache.Getters
import Templating.Proofs.Engine.Upkeep
import Templating.Proofs.Engine.Turns
import Templating.Proofs.Engine.Filling
import Templating.Proofs.Engine.Typing
import Templating.Proofs.Engine.Stock
import Templating.Proofs.Engine.Ranks
import Templating.Proofs.Engine.Finishing
import Templating.Proofs.Engine.Termination
import Templating.Proofs.Markup.Format
import Templating.Proofs.Fingerprint.Framing
import Templating.Proofs.Page.Deeds
import Templating.Proofs.Page.Capture
import Templating.Proofs.Page.Placing
import Templating.Proofs.Engine.Frames
import Templating.Proofs.Markup.Encoding
import Templating.Proofs.Value.Exchange
import Templating.Proofs.Cache.Filing
import Templating.Proofs.Engine.Naming
import Templating.Proofs.Json.Numeral
import Templating.Proofs.Json.Scanner
import Templating.Proofs.Json.Roundtrip
import Templating.Proofs.Number.Layout
import Templating.Proofs.Diagnostic.Exchange
import Templating.Proofs.Pipeline.Precompiled
import Templating.Proofs.Engine.Selection
import Templating.Proofs.Cache.Mirror
import Templating.Proofs.Cache.Looking
import Templating.Proofs.Engine.Presence
import Templating.Proofs.Config.Decoding
import Templating.Proofs.Cache.Scanning
import Templating.Proofs.Cache.Restarts
