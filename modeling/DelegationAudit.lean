import DelegationAudit.Audit.Classify
import DelegationAudit.Audit.Environment
import DelegationAudit.Audit.Finding
import DelegationAudit.Audit.Report
import DelegationAudit.Audit.Scan
import DelegationAudit.Audit.Settings
import DelegationAudit.Audit.Topology
import DelegationAudit.CommandLine
import DelegationAudit.CommandLine.Options
import DelegationAudit.Discovery
import DelegationAudit.Dns.Code
import DelegationAudit.Dns.Message
import DelegationAudit.Dns.Name
import DelegationAudit.Dns.Name.Printer
import DelegationAudit.Dns.Name.Reader
import DelegationAudit.Dns.Presentation
import DelegationAudit.Dns.Rdata
import DelegationAudit.Dns.Rdata.Fault
import DelegationAudit.Dns.Rdata.Reader
import DelegationAudit.Dns.Rdata.Wire
import DelegationAudit.Dns.Record
import DelegationAudit.Dns.Token
import DelegationAudit.Failure
import DelegationAudit.Idna.Composed
import DelegationAudit.Idna.Direction
import DelegationAudit.Idna.Fault
import DelegationAudit.Idna.Label
import DelegationAudit.Idna.Mapping
import DelegationAudit.Idna.Punycode
import DelegationAudit.Idna.Rules
import DelegationAudit.Journal
import DelegationAudit.Json.Basic
import DelegationAudit.Json.Printer
import DelegationAudit.Json.Reader
import DelegationAudit.Json.Shape
import DelegationAudit.Lookup
import DelegationAudit.Main
import DelegationAudit.Net.Address
import DelegationAudit.Net.Address.Reader
import DelegationAudit.Net.Block
import DelegationAudit.Network
import DelegationAudit.Number.Binary
import DelegationAudit.Number.Decimal
import DelegationAudit.Number.Integer
import DelegationAudit.Number.Reading
import DelegationAudit.Ownership.Cache
import DelegationAudit.Ownership.Lookup
import DelegationAudit.Ownership.Origin
import DelegationAudit.Proofs.AddressText
import DelegationAudit.Proofs.AllOrNothing
import DelegationAudit.Proofs.Ancestors
import DelegationAudit.Proofs.AnyOrder
import DelegationAudit.Proofs.Arguments
import DelegationAudit.Proofs.Assembly
import DelegationAudit.Proofs.Bookkeeping
import DelegationAudit.Proofs.Classification
import DelegationAudit.Proofs.CodePoints
import DelegationAudit.Proofs.Completion
import DelegationAudit.Proofs.Contents
import DelegationAudit.Proofs.Deadline
import DelegationAudit.Proofs.Delegation
import DelegationAudit.Proofs.Enrichment
import DelegationAudit.Proofs.ExactTime
import DelegationAudit.Proofs.Findings
import DelegationAudit.Proofs.ForeignTexts
import DelegationAudit.Proofs.Forgery
import DelegationAudit.Proofs.FrontEnds
import DelegationAudit.Proofs.FrontRecord
import DelegationAudit.Proofs.HostGrammar
import DelegationAudit.Proofs.Inspection
import DelegationAudit.Proofs.Isolation
import DelegationAudit.Proofs.Itinerary
import DelegationAudit.Proofs.LabelEncoding
import DelegationAudit.Proofs.LineBreaks
import DelegationAudit.Proofs.Listing
import DelegationAudit.Proofs.Looks
import DelegationAudit.Proofs.LookupFailures
import DelegationAudit.Proofs.Merging
import DelegationAudit.Proofs.MessageFormat
import DelegationAudit.Proofs.Messages
import DelegationAudit.Proofs.NameText
import DelegationAudit.Proofs.Numerals
import DelegationAudit.Proofs.OriginAnswers
import DelegationAudit.Proofs.OriginName
import DelegationAudit.Proofs.OriginReading
import DelegationAudit.Proofs.Outcomes
import DelegationAudit.Proofs.ParentText
import DelegationAudit.Proofs.Printing
import DelegationAudit.Proofs.Probing
import DelegationAudit.Proofs.Provenance
import DelegationAudit.Proofs.Recall
import DelegationAudit.Proofs.RecordText
import DelegationAudit.Proofs.Remembrance
import DelegationAudit.Proofs.Reordering
import DelegationAudit.Proofs.Replies
import DelegationAudit.Proofs.Rotation
import DelegationAudit.Proofs.Scoring
import DelegationAudit.Proofs.Script
import DelegationAudit.Proofs.ServedNames
import DelegationAudit.Proofs.Sheet
import DelegationAudit.Proofs.Steady
import DelegationAudit.Proofs.Subnets
import DelegationAudit.Proofs.Switches
import DelegationAudit.Proofs.Tallies
import DelegationAudit.Proofs.TextAnswers
import DelegationAudit.Proofs.Traffic
import DelegationAudit.Proofs.TwoRuns
import DelegationAudit.Proofs.Union
import DelegationAudit.Proofs.Upshot
import DelegationAudit.Proofs.Verdict
import DelegationAudit.Proofs.Visits
import DelegationAudit.Proofs.Weights
import DelegationAudit.Proofs.ZoneForm
import DelegationAudit.Proofs.ZoneGate
import DelegationAudit.Proofs.ZoneText
import DelegationAudit.Response.Advice
import DelegationAudit.Response.Assembly
import DelegationAudit.Response.Page
import DelegationAudit.Response.Summary
import DelegationAudit.Text.Blank
import DelegationAudit.Text.Case
import DelegationAudit.Text.Digit
import DelegationAudit.Text.Octets
import DelegationAudit.Text.Packed
import DelegationAudit.Text.Quoted
import DelegationAudit.Web
import DelegationAudit.Web.Escape
import DelegationAudit.Web.Host
import DelegationAudit.Web.Path
import DelegationAudit.Web.Target
import DelegationAudit.Zone
