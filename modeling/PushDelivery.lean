import PushDelivery.Breaker.Basic
import PushDelivery.Broker.Body
import PushDelivery.Broker.Queues
import PushDelivery.Broker.Stream
import PushDelivery.Decimal.Binary64
import PushDelivery.Decimal.Integer
import PushDelivery.Decimal.Literal
import PushDelivery.Decimal.Rounding
import PushDelivery.Decimal.Shortest
import PushDelivery.Delivery.Courier
import PushDelivery.Delivery.Dispatch
import PushDelivery.Delivery.Error
import PushDelivery.Delivery.Ledger
import PushDelivery.Delivery.Request
import PushDelivery.Delivery.Scene
import PushDelivery.Gateway.Client
import PushDelivery.Guard.Address
import PushDelivery.Guard.Decision
import PushDelivery.Guard.Error
import PushDelivery.Guard.Redis
import PushDelivery.Guard.Store
import PushDelivery.Health.Report
import PushDelivery.Http.Exchange
import PushDelivery.Http.Response
import PushDelivery.Http.Routes
import PushDelivery.Json.Basic
import PushDelivery.Json.Document
import PushDelivery.Json.Numeral
import PushDelivery.Json.Parts
import PushDelivery.Json.Printer
import PushDelivery.Json.Record
import PushDelivery.Json.Token
import PushDelivery.Metrics.Exposition
import PushDelivery.Metrics.Registry
import PushDelivery.Metrics.Tally
import PushDelivery.Notification.Job
import PushDelivery.Notification.Report
import PushDelivery.Rehearsal.Script
import PushDelivery.Retry.Loop
import PushDelivery.Retry.Policy
import PushDelivery.Run.Basic
import PushDelivery.Service.Backend
import PushDelivery.Service.Operations
import PushDelivery.Service.Schedule
import PushDelivery.Service.Task
import PushDelivery.Settings.Basic
import PushDelivery.Settings.Dotenv
import PushDelivery.Settings.Field
import PushDelivery.Settings.Files
import PushDelivery.Settings.Load
import PushDelivery.Settings.Path
import PushDelivery.Settings.Value
import PushDelivery.Template.Client
import PushDelivery.Template.Render
import PushDelivery.Template.Substitution
import PushDelivery.Text.Alphanumeric
import PushDelivery.Text.Blank
import PushDelivery.Text.Bounds
import PushDelivery.Text.Hidden
import PushDelivery.Text.LowerCase
import PushDelivery.Text.Percent
import PushDelivery.Text.Quoted
import PushDelivery.Text.Utf8
import PushDelivery.Time.Clock
import PushDelivery.Time.Moment
import PushDelivery.Transport.Consumer
import PushDelivery.Transport.Link
import PushDelivery.Transport.Settlement
import PushDelivery.Transport.Station
import PushDelivery.Transport.Supervisor
import PushDelivery.Proofs.Delivery.Replies
import PushDelivery.Proofs.Runs.Paths
import PushDelivery.Proofs.Delivery.Attempts
import PushDelivery.Proofs.Delivery.Course
import PushDelivery.Proofs.Delivery.Resending
import PushDelivery.Proofs.Delivery.Repeats
import PushDelivery.Proofs.Delivery.Reporting
import PushDelivery.Proofs.Delivery.Overlap
import PushDelivery.Proofs.Broker.Waiting
import PushDelivery.Proofs.Transport.DeadLetters
import PushDelivery.Proofs.Breaker.Steps
import PushDelivery.Proofs.Breaker.Traffic
import PushDelivery.Proofs.Breaker.Recovery
import PushDelivery.Proofs.Delivery.Endings
import PushDelivery.Proofs.Delivery.Statistics
import PushDelivery.Proofs.Delivery.History
import PushDelivery.Proofs.Runs.Performance
import PushDelivery.Proofs.Transport.Settling
import PushDelivery.Proofs.Transport.LostReports
import PushDelivery.Proofs.Transport.Redelivery
import PushDelivery.Proofs.Broker.Handouts
import PushDelivery.Proofs.Transport.Intake
import PushDelivery.Proofs.Transport.Conservation
import PushDelivery.Proofs.Transport.Linked
import PushDelivery.Proofs.Transport.Accounts
import PushDelivery.Proofs.Service.Stages
import PushDelivery.Proofs.Service.Turns
import PushDelivery.Proofs.Json.Values
import PushDelivery.Proofs.Json.Tokens
import PushDelivery.Proofs.Json.Documents
import PushDelivery.Proofs.Json.Records
import PushDelivery.Proofs.Notification.Jobs
import PushDelivery.Proofs.Notification.Letters
import PushDelivery.Proofs.Guard.Agreement
import PushDelivery.Proofs.Transport.Announcements
import PushDelivery.Proofs.Guard.Windows
import PushDelivery.Proofs.Guard.Chronicle
import PushDelivery.Proofs.Breaker.Cooling
import PushDelivery.Proofs.Runs.Likeness
import PushDelivery.Proofs.Delivery.Foresight
import PushDelivery.Proofs.Delivery.Bookkeeping
import PushDelivery.Proofs.Transport.Unfolding
import PushDelivery.Proofs.Transport.Foretelling
import PushDelivery.Proofs.Transport.Schedules
import PushDelivery.Proofs.Transport.Confluence
import PushDelivery.Proofs.Retry.Invocations
import PushDelivery.Proofs.Template.Occurrences
import PushDelivery.Proofs.Template.Pieces
import PushDelivery.Proofs.Template.Interference
import PushDelivery.Proofs.Delivery.Budget
import PushDelivery.Proofs.Gateway.Contract
import PushDelivery.Proofs.Breaker.Forgiveness
import PushDelivery.Proofs.Text.Blanks
import PushDelivery.Proofs.Delivery.Batches
import PushDelivery.Proofs.Decimal.Sizes
import PushDelivery.Proofs.Decimal.Powers
import PushDelivery.Proofs.Retry.Waits
import PushDelivery.Proofs.Template.Shape
import PushDelivery.Proofs.Notification.Reports
import PushDelivery.Proofs.Delivery.Admissions
import PushDelivery.Proofs.Runs.Following
import PushDelivery.Proofs.Delivery.Outages
import PushDelivery.Proofs.Delivery.FailingOpen
import PushDelivery.Proofs.Guard.Upkeep
import PushDelivery.Proofs.Broker.Wakeups
import PushDelivery.Proofs.Decimal.Digits
import PushDelivery.Proofs.Decimal.Literals
import PushDelivery.Proofs.Decimal.Nearest
import PushDelivery.Proofs.Decimal.Printing
import PushDelivery.Proofs.Settings.Spellings
import PushDelivery.Proofs.Settings.Variables
