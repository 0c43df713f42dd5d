import SignalControl.Actuator
import SignalControl.Address
import SignalControl.Attempt
import SignalControl.Command
import SignalControl.Config.Client
import SignalControl.Config.File
import SignalControl.Config.Setting
import SignalControl.Controller
import SignalControl.Controller.Dialogue
import SignalControl.Controller.Operation
import SignalControl.Controller.PageRequest
import SignalControl.Controller.StageChange
import SignalControl.Controller.StageError
import SignalControl.Envelope
import SignalControl.Envelope.Description
import SignalControl.Http.Certificate
import SignalControl.Http.Domain
import SignalControl.Http.Domain.Direction
import SignalControl.Http.Domain.Direction.Table
import SignalControl.Http.Domain.Joining
import SignalControl.Http.Domain.Joining.Table
import SignalControl.Http.Domain.Mapping
import SignalControl.Http.Domain.Mapping.Table
import SignalControl.Http.Domain.Mark
import SignalControl.Http.Domain.Punycode
import SignalControl.Http.Exchange
import SignalControl.Http.Host
import SignalControl.Http.Host.Ipv4
import SignalControl.Http.Host.Ipv6
import SignalControl.Http.Percent
import SignalControl.Http.Permits
import SignalControl.Http.ScriptedDevice
import SignalControl.Http.Status
import SignalControl.Http.Url
import SignalControl.Http.Url.Authority
import SignalControl.Http.Url.Path
import SignalControl.Http.Url.Scheme
import SignalControl.Input
import SignalControl.Json
import SignalControl.Level
import SignalControl.Log
import SignalControl.NameTable
import SignalControl.Page
import SignalControl.Page.Plain
import SignalControl.Page.Record
import SignalControl.Plan
import SignalControl.Profile
import SignalControl.Proofs.AlertVerdict
import SignalControl.Proofs.AttemptCount
import SignalControl.Proofs.Attempts
import SignalControl.Proofs.BaseUrl
import SignalControl.Proofs.BatchSequence
import SignalControl.Proofs.Bookkeeping
import SignalControl.Proofs.CommandEffect
import SignalControl.Proofs.CommandEncoding
import SignalControl.Proofs.CommandedInputs
import SignalControl.Proofs.DescribedProfile
import SignalControl.Proofs.Discovery
import SignalControl.Proofs.DocumentIntegers
import SignalControl.Proofs.FaultNames
import SignalControl.Proofs.FormEffect
import SignalControl.Proofs.InputsGrammar
import SignalControl.Proofs.KnownKeys
import SignalControl.Proofs.Lines
import SignalControl.Proofs.MainPage
import SignalControl.Proofs.MissingInput
import SignalControl.Proofs.NameMoves
import SignalControl.Proofs.OverrideBatch
import SignalControl.Proofs.OverrideSafety
import SignalControl.Proofs.PageJson
import SignalControl.Proofs.Panel
import SignalControl.Proofs.PhaseEffect
import SignalControl.Proofs.PhaseNumber
import SignalControl.Proofs.PhaseReading
import SignalControl.Proofs.PhaseTarget
import SignalControl.Proofs.PlanCommands
import SignalControl.Proofs.PlanDependence
import SignalControl.Proofs.ProfileAcceptance
import SignalControl.Proofs.ReachedStage
import SignalControl.Proofs.RecordShape
import SignalControl.Proofs.RefusedDescription
import SignalControl.Proofs.RenderedInputs
import SignalControl.Proofs.RequestedPages
import SignalControl.Proofs.ResetEffect
import SignalControl.Proofs.ResetRelease
import SignalControl.Proofs.Resolution
import SignalControl.Proofs.ResultLedger
import SignalControl.Proofs.RetryBudget
import SignalControl.Proofs.Rounds
import SignalControl.Proofs.Search
import SignalControl.Proofs.SectionKeys
import SignalControl.Proofs.SettledCalls
import SignalControl.Proofs.SoughtInputs
import SignalControl.Proofs.StageLog
import SignalControl.Proofs.StageOutcome
import SignalControl.Proofs.StageTrace
import SignalControl.Proofs.WorkBound
import SignalControl.Retry
import SignalControl.Stage
import SignalControl.Text.Blank
import SignalControl.Text.Composition
import SignalControl.Text.Composition.Table
import SignalControl.Text.Decimal
import SignalControl.Text.Quoted
import SignalControl.Text.Radix
import SignalControl.Text.Ranges
import SignalControl.Text.Search
import SignalControl.Text.Unprintable
import SignalControl.Text.Utf8
import SignalControl.Toml.Date
import SignalControl.Toml.DateTable
import SignalControl.Toml.Document
import SignalControl.Toml.Draft
import SignalControl.Toml.Layout
import SignalControl.Toml.Number
import SignalControl.Toml.Quoted
import SignalControl.Toml.Value
import SignalControl.Verdict
