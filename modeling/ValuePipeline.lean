import ValuePipeline.Config.Load
import ValuePipeline.Proofs.Route
import ValuePipeline.Registry
import ValuePipeline.Steps.Bounds
import ValuePipeline.Steps.Duration
import ValuePipeline.Steps.Moment
import ValuePipeline.Steps.Number
import ValuePipeline.Steps.Replace
import ValuePipeline.Steps.Text
import ValuePipeline.ValueType
import ValuePipeline.Proofs.Resolution
import ValuePipeline.Proofs.Bridge
import ValuePipeline.Proofs.Tree
import ValuePipeline.Proofs.Workbench
import ValuePipeline.Proofs.Record
import ValuePipeline.Proofs.Compile
import ValuePipeline.Proofs.Session
import ValuePipeline.Proofs.Meaning
import ValuePipeline.Proofs.Execution
import ValuePipeline.Proofs.Flat
import ValuePipeline.Proofs.Branch
import ValuePipeline.Proofs.Forest
import ValuePipeline.Proofs.Split
import ValuePipeline.Proofs.Stages
import ValuePipeline.Proofs.Apart
import ValuePipeline.Proofs.Frame
import ValuePipeline.Proofs.Reorder
import ValuePipeline.Proofs.Accesses
import ValuePipeline.Proofs.Polling
import ValuePipeline.Proofs.Suspension
import ValuePipeline.Proofs.Setup
import ValuePipeline.Proofs.Registry
import ValuePipeline.Proofs.Assembly
import ValuePipeline.Proofs.Texts
import ValuePipeline.Proofs.Trimming
import ValuePipeline.Proofs.Rules
import ValuePipeline.Proofs.Rejection
import ValuePipeline.Proofs.Registration
import ValuePipeline.Proofs.Creation
import ValuePipeline.Proofs.Telling
import ValuePipeline.Proofs.RuleReading
import ValuePipeline.Proofs.Loading
import ValuePipeline.Proofs.Calendar
import ValuePipeline.Proofs.Reckoning
import ValuePipeline.Proofs.Lengths
import ValuePipeline.Proofs.Instants
import ValuePipeline.Proofs.Months
import ValuePipeline.Proofs.Shifts
import ValuePipeline.Proofs.Padding
import ValuePipeline.Proofs.Interval
import ValuePipeline.Proofs.Rounding
import ValuePipeline.Proofs.Scaling
import ValuePipeline.Proofs.Announcements
import ValuePipeline.Proofs.Naming
import ValuePipeline.Proofs.LogFilter
