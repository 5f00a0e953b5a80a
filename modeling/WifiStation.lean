import WifiStation.App.Connection
import WifiStation.App.Frame
import WifiStation.App.Health
import WifiStation.App.Message
import WifiStation.App.Reporter
import WifiStation.App.Session
import WifiStation.App.Socket
import WifiStation.App.Tracker
import WifiStation.Cli.Arguments
import WifiStation.Cli.Grammar
import WifiStation.Cli.Help
import WifiStation.Cli.Plan
import WifiStation.Cli.Run
import WifiStation.Daemon.Address
import WifiStation.Daemon.Error
import WifiStation.Decimal.Binary64
import WifiStation.Decimal.Shortest
import WifiStation.Dhcp.Client
import WifiStation.Dhcp.ClientService
import WifiStation.Dhcp.Exchange
import WifiStation.Dhcp.Lease
import WifiStation.Dhcp.Packet
import WifiStation.Dhcp.Server
import WifiStation.Dhcp.ServerService
import WifiStation.Dhcp.Status
import WifiStation.Dhcp.Transport
import WifiStation.Dhcp.Trial
import WifiStation.Dhcp.Wire
import WifiStation.Http.MediaType
import WifiStation.Http.Message
import WifiStation.Http.Site
import WifiStation.Http.Status
import WifiStation.Json.Record
import WifiStation.Json.Tree
import WifiStation.Json.Value
import WifiStation.Keyed
import WifiStation.Link
import WifiStation.Main
import WifiStation.Net.Endpoint
import WifiStation.Net.Ipv4
import WifiStation.Net.Ipv6
import WifiStation.Net.Kernel
import WifiStation.Net.Mac
import WifiStation.Network
import WifiStation.Place
import WifiStation.Power
import WifiStation.Profile.Basic
import WifiStation.Profile.Store
import WifiStation.Profile.Stored
import WifiStation.Proofs.App.Alignment
import WifiStation.Proofs.App.Delivery
import WifiStation.Proofs.App.Feed
import WifiStation.Proofs.App.FrameFields
import WifiStation.Proofs.App.LinkEvents
import WifiStation.Proofs.App.Reports
import WifiStation.Proofs.App.Subscriber
import WifiStation.Proofs.App.WholeFrames
import WifiStation.Proofs.Daemon.Address
import WifiStation.Proofs.Dhcp.ClientShape
import WifiStation.Proofs.Dhcp.ClientStep
import WifiStation.Proofs.Dhcp.Codec
import WifiStation.Proofs.Dhcp.Exclusive
import WifiStation.Proofs.Dhcp.Exhaustion
import WifiStation.Proofs.Dhcp.Expiry
import WifiStation.Proofs.Dhcp.FailureFlag
import WifiStation.Proofs.Dhcp.Grammar
import WifiStation.Proofs.Dhcp.Interface
import WifiStation.Proofs.Dhcp.LeaseTable
import WifiStation.Proofs.Dhcp.LeaseTime
import WifiStation.Proofs.Dhcp.Ledger
import WifiStation.Proofs.Dhcp.LinkLoss
import WifiStation.Proofs.Dhcp.RetryBudget
import WifiStation.Proofs.Dhcp.Segment
import WifiStation.Proofs.Dhcp.Server
import WifiStation.Proofs.Dhcp.ServiceRun
import WifiStation.Proofs.Dhcp.Takeover
import WifiStation.Proofs.Dhcp.Tenancy
import WifiStation.Proofs.Dhcp.Transactions
import WifiStation.Proofs.Http.Overlap
import WifiStation.Proofs.Http.Passphrase
import WifiStation.Proofs.Http.Stages
import WifiStation.Proofs.Json.Grammar
import WifiStation.Proofs.Json.Layout
import WifiStation.Proofs.Json.ReadBack
import WifiStation.Proofs.Keyed
import WifiStation.Proofs.LastSaid
import WifiStation.Proofs.Net.EndpointText
import WifiStation.Proofs.Net.MacText
import WifiStation.Proofs.Net.Prefix
import WifiStation.Proofs.Profile.Kept
import WifiStation.Proofs.Profile.Origin
import WifiStation.Proofs.Profile.OtherMembers
import WifiStation.Proofs.Publisher
import WifiStation.Proofs.Runs
import WifiStation.Proofs.Settings.Subnet
import WifiStation.Proofs.Supplicant.Envelope
import WifiStation.Proofs.Supplicant.Fields
import WifiStation.Proofs.Supplicant.LateReply
import WifiStation.Proofs.Supplicant.LinkHistory
import WifiStation.Proofs.Supplicant.Quoting
import WifiStation.Proofs.Supplicant.Radio
import WifiStation.Proofs.Supplicant.ReplyWait
import WifiStation.Proofs.Supplicant.ScanReply
import WifiStation.Proofs.Supplicant.Steps
import WifiStation.Proofs.Text.Utf8
import WifiStation.Settings.Basic
import WifiStation.Settings.Decode
import WifiStation.Settings.Error
import WifiStation.Settings.Fault
import WifiStation.Settings.Report
import WifiStation.Settings.Text
import WifiStation.Supplicant.Channel
import WifiStation.Supplicant.Command
import WifiStation.Supplicant.Dialogue
import WifiStation.Supplicant.Error
import WifiStation.Supplicant.Event
import WifiStation.Supplicant.Launch
import WifiStation.Supplicant.Monitor
import WifiStation.Supplicant.Rehearsal
import WifiStation.Supplicant.Scan
import WifiStation.Supplicant.Script
import WifiStation.Supplicant.Service
import WifiStation.Text.Class
import WifiStation.Text.Duration
import WifiStation.Text.Number
import WifiStation.Text.Quoted
import WifiStation.Text.Split
import WifiStation.Text.Utf8
import WifiStation.Toml.Lexeme
import WifiStation.Toml.Text
import WifiStation.Toml.Value
import WifiStation.Watch
import WifiStation.Wire.BigEndian
