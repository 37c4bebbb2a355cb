import Watering.Command
import Watering.Config.Build
import Watering.Config.Entry
import Watering.Config.Finding
import Watering.Config.Load
import Watering.Config.Reader
import Watering.Config.Timing
import Watering.Controller.Inbox
import Watering.Controller.Outcome
import Watering.Controller.Reports
import Watering.Controller.Requests
import Watering.Controller.Service
import Watering.Controller.State
import Watering.Controller.Upkeep
import Watering.Controller.Zones
import Watering.Document.Json
import Watering.Document.Json.Number
import Watering.Document.Json.Printer
import Watering.Document.Record
import Watering.Document.Toml
import Watering.Document.Toml.Entry
import Watering.Document.Toml.Number
import Watering.Document.Toml.Space
import Watering.Document.Toml.Table
import Watering.Document.Toml.Text
import Watering.Document.Value
import Watering.Frame.Flags
import Watering.Frame.Function
import Watering.Frame.Message
import Watering.Frame.Payload
import Watering.Frame.Wire
import Watering.Journal
import Watering.Journal.Document
import Watering.Network
import Watering.Octet
import Watering.Proofs.Command
import Watering.Proofs.Config.Contents
import Watering.Proofs.Config.Layout
import Watering.Proofs.Config.Outputs
import Watering.Proofs.Config.Sharing
import Watering.Proofs.Config.Timetable
import Watering.Proofs.Controller.Accounted
import Watering.Proofs.Controller.Agreement
import Watering.Proofs.Controller.Answer
import Watering.Proofs.Controller.Asking
import Watering.Proofs.Controller.Batch
import Watering.Proofs.Controller.Bounds
import Watering.Proofs.Controller.Bulletin
import Watering.Proofs.Controller.Change
import Watering.Proofs.Controller.Checked
import Watering.Proofs.Controller.Chronicle
import Watering.Proofs.Controller.Cleared
import Watering.Proofs.Controller.Clock
import Watering.Proofs.Controller.Commanding
import Watering.Proofs.Controller.Countdown
import Watering.Proofs.Controller.Course
import Watering.Proofs.Controller.Dialogue
import Watering.Proofs.Controller.Dropped
import Watering.Proofs.Controller.Failure
import Watering.Proofs.Controller.Grounds
import Watering.Proofs.Controller.Group
import Watering.Proofs.Controller.Halt
import Watering.Proofs.Controller.Handling
import Watering.Proofs.Controller.Intake
import Watering.Proofs.Controller.Isolation
import Watering.Proofs.Controller.Itemwise
import Watering.Proofs.Controller.Lapse
import Watering.Proofs.Controller.Line
import Watering.Proofs.Controller.Moves
import Watering.Proofs.Controller.Operation
import Watering.Proofs.Controller.Permission
import Watering.Proofs.Controller.Privacy
import Watering.Proofs.Controller.Refusal
import Watering.Proofs.Controller.Replies
import Watering.Proofs.Controller.Sampling
import Watering.Proofs.Controller.Served
import Watering.Proofs.Controller.Serving
import Watering.Proofs.Controller.Sets
import Watering.Proofs.Controller.Setting
import Watering.Proofs.Controller.Settling
import Watering.Proofs.Controller.Stationed
import Watering.Proofs.Controller.Stray
import Watering.Proofs.Controller.Strides
import Watering.Proofs.Controller.Switching
import Watering.Proofs.Controller.Takings
import Watering.Proofs.Controller.Upkeep
import Watering.Proofs.Frame.Bounds
import Watering.Proofs.Frame.Canonical
import Watering.Proofs.Frame.Fidelity
import Watering.Proofs.Frame.Grammar
import Watering.Proofs.Frame.RoundTrip
import Watering.Proofs.Journal
import Watering.Proofs.Network.AllOff
import Watering.Proofs.Network.Exchange
import Watering.Proofs.Network.Line
import Watering.Proofs.Network.Reading
import Watering.Proofs.Plant
import Watering.Proofs.Program
import Watering.Proofs.Radio.Air
import Watering.Proofs.Radio.Attempted
import Watering.Proofs.Radio.Broker
import Watering.Proofs.Radio.Bus
import Watering.Proofs.Radio.Delivery
import Watering.Proofs.Radio.Link
import Watering.Proofs.Radio.Logged
import Watering.Proofs.Radio.Pair
import Watering.Proofs.Radio.Reception
import Watering.Proofs.Radio.Sequencing
import Watering.Proofs.Schedule.Agenda
import Watering.Proofs.Schedule.Conservation
import Watering.Proofs.Schedule.Expansion
import Watering.Proofs.Schedule.Firing
import Watering.Proofs.Schedule.History
import Watering.Proofs.Schedule.Kept
import Watering.Proofs.Schedule.Ledger
import Watering.Proofs.Schedule.Lit
import Watering.Proofs.Schedule.Named
import Watering.Proofs.Schedule.Operation
import Watering.Proofs.Schedule.Order
import Watering.Proofs.Schedule.Quick
import Watering.Proofs.Schedule.Spacing
import Watering.Proofs.Schedule.Starts
import Watering.Proofs.Schedule.Timeline
import Watering.Proofs.Schedule.Timely
import Watering.Proofs.Schedule.Turns
import Watering.Proofs.Site.Layout
import Watering.Proofs.Text.Words
import Watering.Proofs.Valves
import Watering.Proofs.Zone.Board
import Watering.Proofs.Zone.Edits
import Watering.Proofs.Zone.Mask
import Watering.Proofs.Zone.Records
import Watering.Proofs.Zone.Timers
import Watering.Radio.Broker
import Watering.Radio.Bus
import Watering.Radio.Carrier
import Watering.Radio.Link
import Watering.Radio.Scripted
import Watering.Radio.UnitTable
import Watering.Registers
import Watering.Schedule.Actuator
import Watering.Schedule.Agenda
import Watering.Schedule.Schedule
import Watering.Schedule.Scheduler
import Watering.Sensor.Bank
import Watering.Sensor.Simulator
import Watering.Site.Site
import Watering.Site.Station
import Watering.Text.Blank
import Watering.Text.Hex
import Watering.Text.Numeral
import Watering.Text.UpperCase
import Watering.Text.Utf8
import Watering.Time.Calendar
import Watering.Time.Stamp
import Watering.Valves
import Watering.Zone.Board
import Watering.Zone.Document
import Watering.Zone.Mask
import Watering.Zone.Status

