import Depository.Access.Actor
import Depository.Access.Workspace
import Depository.Backend.Basic
import Depository.Backend.Config
import Depository.Backend.Secret
import Depository.Backend.Validation
import Depository.Cipher.Aes
import Depository.Cipher.Field
import Depository.Cipher.Gcm
import Depository.Cipher.Owner
import Depository.Cipher.Sha256
import Depository.Database.Layout
import Depository.Database.Listing
import Depository.Database.Row
import Depository.Deadline
import Depository.Failure
import Depository.HostKey
import Depository.Http.Address
import Depository.Http.Body
import Depository.Http.Connection
import Depository.Http.Percent
import Depository.Http.Query
import Depository.Http.Response
import Depository.Http.Route
import Depository.Http.Server
import Depository.Ini.Document
import Depository.Ini.Line
import Depository.Ini.Scalar
import Depository.Instant
import Depository.Json.Basic
import Depository.Json.Cell
import Depository.Json.Reader
import Depository.Json.Writer
import Depository.JsonLog
import Depository.Log
import Depository.Members
import Depository.Number.Basic
import Depository.Number.Numeral
import Depository.Number.Shortest
import Depository.OAuth.Token
import Depository.Path
import Depository.Probe.Backends
import Depository.Probe.Call
import Depository.Probe.Check
import Depository.Probe.Objects
import Depository.Probe.Run
import Depository.Probe.Script
import Depository.Probe.Test
import Depository.Probe.Transcript
import Depository.Proofs.Backend.Interchange
import Depository.Proofs.Backend.NormalForm
import Depository.Proofs.Backend.Secret
import Depository.Proofs.Backend.SecretFields
import Depository.Proofs.Backend.Validation
import Depository.Proofs.Cipher.Authenticity
import Depository.Proofs.Cipher.Field
import Depository.Proofs.Database.Listing
import Depository.Proofs.HostKey
import Depository.Proofs.Merge
import Depository.Proofs.Probe.CheckFile
import Depository.Proofs.Probe.Cleanup
import Depository.Proofs.Probe.Completion
import Depository.Proofs.Probe.Course
import Depository.Proofs.Probe.Discipline
import Depository.Proofs.Probe.Drive
import Depository.Proofs.Probe.Law
import Depository.Proofs.Probe.Outcome
import Depository.Proofs.Probe.Punctuality
import Depository.Proofs.Probe.Release
import Depository.Proofs.Probe.Remote
import Depository.Proofs.Probe.Sequel
import Depository.Proofs.Probe.Session
import Depository.Proofs.Probe.Teardown
import Depository.Proofs.Probe.Verifier
import Depository.Proofs.Race.Decision
import Depository.Proofs.Race.Simulation
import Depository.Proofs.Remotes
import Depository.Proofs.Revealed
import Depository.Proofs.Sealed
import Depository.Proofs.Service.Agrees
import Depository.Proofs.Service.Anchor
import Depository.Proofs.Service.Asks
import Depository.Proofs.Service.Authorisation
import Depository.Proofs.Service.Changes
import Depository.Proofs.Service.Clear
import Depository.Proofs.Service.Coherence
import Depository.Proofs.Service.Conditions
import Depository.Proofs.Service.Custody
import Depository.Proofs.Service.Deposit
import Depository.Proofs.Service.Discretion
import Depository.Proofs.Service.Echo
import Depository.Proofs.Service.Ends
import Depository.Proofs.Service.Guards
import Depository.Proofs.Service.Heedless
import Depository.Proofs.Service.Keeps
import Depository.Proofs.Service.Legible
import Depository.Proofs.Service.Loading
import Depository.Proofs.Service.Lockstep
import Depository.Proofs.Service.Normality
import Depository.Proofs.Service.Opening
import Depository.Proofs.Service.Overlap
import Depository.Proofs.Service.Parts
import Depository.Proofs.Service.Plain
import Depository.Proofs.Service.Record
import Depository.Proofs.Service.Recording
import Depository.Proofs.Service.References
import Depository.Proofs.Service.Rehearsal
import Depository.Proofs.Service.Remove
import Depository.Proofs.Service.Repository
import Depository.Proofs.Service.Request
import Depository.Proofs.Service.Rows
import Depository.Proofs.Service.Save
import Depository.Proofs.Service.Secrecy
import Depository.Proofs.Service.Simulation
import Depository.Proofs.Service.Spares
import Depository.Proofs.Service.Succeeds
import Depository.Proofs.Service.Tells
import Depository.Proofs.Service.Test
import Depository.Proofs.Service.Tokens
import Depository.Proofs.Service.Told
import Depository.Proofs.Service.Traceless
import Depository.Proofs.Service.Trail
import Depository.Proofs.Service.Transfer
import Depository.Proofs.Service.Trial
import Depository.Proofs.Service.Upkeep
import Depository.Proofs.Service.Validity
import Depository.Proofs.Service.Wire
import Depository.Proofs.Settings.DataSource
import Depository.Proofs.Settings.Independence
import Depository.Proofs.Settings.Variables
import Depository.Proofs.Text.Base64
import Depository.Proofs.Text.Lines
import Depository.Proofs.Text.Utf8
import Depository.Proofs.Variant
import Depository.Race
import Depository.Remotes
import Depository.Schema.Checked
import Depository.Schema.Issue
import Depository.Schema.Reader
import Depository.Service.Access
import Depository.Service.Operation
import Depository.Service.Read
import Depository.Service.Records
import Depository.Service.Remove
import Depository.Service.Save
import Depository.Service.Tables
import Depository.Service.Test
import Depository.Service.World
import Depository.Settings.Basic
import Depository.Settings.DataSource
import Depository.SmbPath
import Depository.Startup
import Depository.Storage.Basic
import Depository.Storage.Input
import Depository.Storage.View
import Depository.Text.Base64
import Depository.Text.Blank
import Depository.Text.Hex
import Depository.Text.Lines
import Depository.Text.Units
import Depository.Text.Utf8
import Depository.Text.Uuid
import Depository.Variant
