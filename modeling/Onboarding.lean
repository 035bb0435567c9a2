import Onboarding.CommandLine.Help
import Onboarding.CommandLine.Invocation
import Onboarding.CommandLine.Options
import Onboarding.CommandLine.Outcome
import Onboarding.CommandLine.Program
import Onboarding.Credential.Keeping
import Onboarding.Credential.Record
import Onboarding.Credential.Store
import Onboarding.Domain.Composition
import Onboarding.Domain.Direction
import Onboarding.Domain.Folding
import Onboarding.Domain.Mapping
import Onboarding.Domain.Name
import Onboarding.Domain.Punycode
import Onboarding.Domain.Spelling
import Onboarding.Exchange.Address
import Onboarding.Exchange.Answer
import Onboarding.Exchange.Failure
import Onboarding.Exchange.Host
import Onboarding.Exchange.MediaType
import Onboarding.Exchange.Reply
import Onboarding.Exchange.Request
import Onboarding.Files.Disk
import Onboarding.Files.Path
import Onboarding.Form.Entries
import Onboarding.Form.Rule
import Onboarding.Form.Schema
import Onboarding.Form.State
import Onboarding.Json.Lexeme
import Onboarding.Json.Number
import Onboarding.Json.Printer
import Onboarding.Json.Record
import Onboarding.Json.Tree
import Onboarding.Json.Value
import Onboarding.Landing
import Onboarding.Main
import Onboarding.Numeric.Binary64
import Onboarding.Numeric.Word
import Onboarding.Registration.Applicant
import Onboarding.Registration.Field
import Onboarding.Registration.Online
import Onboarding.Registration.Service
import Onboarding.Registration.Submission
import Onboarding.Registration.Wizard
import Onboarding.Registration.WizardView
import Onboarding.Screen.Area
import Onboarding.Screen.Bar
import Onboarding.Screen.Canvas
import Onboarding.Screen.Key
import Onboarding.Screen.LineInput
import Onboarding.Screen.Paragraph
import Onboarding.Screen.Style
import Onboarding.Session
import Onboarding.Settings.Basic
import Onboarding.Settings.Datum
import Onboarding.Settings.Environment
import Onboarding.Settings.KeyPath
import Onboarding.Settings.Loading
import Onboarding.Settings.Written
import Onboarding.Text.Blank
import Onboarding.Text.Cluster
import Onboarding.Text.ClusterClass
import Onboarding.Text.Columns
import Onboarding.Text.Decoding
import Onboarding.Text.Emoji
import Onboarding.Text.Extender
import Onboarding.Text.Offset
import Onboarding.Text.Pattern
import Onboarding.Text.Percent
import Onboarding.Text.Quoted
import Onboarding.Text.Ranges
import Onboarding.Text.Split
import Onboarding.Text.Unprintable
import Onboarding.Text.Wide
import Onboarding.Time.Moment
import Onboarding.Time.Stamp
import Onboarding.Toml.Clock
import Onboarding.Toml.Document
import Onboarding.Toml.Number
import Onboarding.Toml.Quoted
import Onboarding.Toml.Table
import Onboarding.Wizard.Description
import Onboarding.Wizard.History
import Onboarding.Wizard.Location
import Onboarding.Wizard.Navigation
import Onboarding.Wizard.Plan
import Onboarding.Wizard.Scripted
import Onboarding.Wizard.Visit
import Onboarding.Proofs.Form.Faults
import Onboarding.Proofs.Wizard.Lookup
import Onboarding.Proofs.Wizard.Moves
import Onboarding.Proofs.Wizard.Trail
import Onboarding.Proofs.Registration.Fields
import Onboarding.Proofs.Registration.OnPage
import Onboarding.Proofs.Registration.Keys
import Onboarding.Proofs.Registration.HandingOver
import Onboarding.Proofs.Registration.Applicants
import Onboarding.Proofs.Screen.Typing
import Onboarding.Proofs.Registration.Entering
import Onboarding.Proofs.Registration.Turning
import Onboarding.Proofs.Session.Turns
import Onboarding.Proofs.Session.Submissions
import Onboarding.Proofs.Registration.Retrying
import Onboarding.Proofs.CommandLine.Acceptance
import Onboarding.Proofs.Json.Spelling
import Onboarding.Proofs.Json.Documents
import Onboarding.Proofs.Json.Records
import Onboarding.Proofs.Registration.Tokens
import Onboarding.Proofs.Json.Prefixes
import Onboarding.Proofs.Credential.Reading
import Onboarding.Proofs.Credential.Storing
import Onboarding.Proofs.CommandLine.Commands
import Onboarding.Proofs.Registration.Completeness
import Onboarding.Proofs.Session.SigningIn
import Onboarding.Proofs.Wizard.Outstanding
import Onboarding.Proofs.Numeric.Rounding
import Onboarding.Proofs.Numeric.Shortest
import Onboarding.Proofs.Json.Numbers
import Onboarding.Proofs.Json.Data
import Onboarding.Proofs.Exchange.Bodies
import Onboarding.Proofs.Wizard.Sights
import Onboarding.Proofs.Registration.Secrecy
import Onboarding.Proofs.Settings.Values
import Onboarding.Proofs.Settings.Choices
import Onboarding.Proofs.Settings.Layering
import Onboarding.Proofs.Settings.RoundTrip
import Onboarding.Proofs.Registration.Inputs
import Onboarding.Proofs.Wizard.Advancing
import Onboarding.Proofs.Registration.Waiting
import Onboarding.Proofs.CommandLine.Announcing
import Onboarding.Proofs.Form.Addresses
import Onboarding.Proofs.Screen.Editing
import Onboarding.Proofs.Exchange.Refusals
import Onboarding.Proofs.Registration.Displaying
import Onboarding.Proofs.Wizard.Drawing
import Onboarding.Proofs.Wizard.Stack
import Onboarding.Proofs.Registration.Accounting
import Onboarding.Proofs.Exchange.Statuses
import Onboarding.Proofs.Wizard.Calls
import Onboarding.Proofs.Registration.Addressing
import Onboarding.Proofs.Credential.Lasting
import Onboarding.Proofs.Settings.Overriding
import Onboarding.Proofs.Form.Checking
import Onboarding.Proofs.Registration.Records
