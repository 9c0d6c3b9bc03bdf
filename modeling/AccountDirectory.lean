import AccountDirectory.Account.Basic
import AccountDirectory.Account.Json
import AccountDirectory.Address
import AccountDirectory.Claims
import AccountDirectory.Credential
import AccountDirectory.Crypto.Bcrypt
import AccountDirectory.Crypto.Blowfish
import AccountDirectory.Crypto.Sha2
import AccountDirectory.Database.Accounts
import AccountDirectory.Database.Cell
import AccountDirectory.Database.Groups
import AccountDirectory.Database.Query
import AccountDirectory.Database.Schema
import AccountDirectory.Database.Setup
import AccountDirectory.Database.Statement
import AccountDirectory.Database.Store
import AccountDirectory.Database.Term
import AccountDirectory.Database.Url
import AccountDirectory.Decimal.Shortest
import AccountDirectory.Failure
import AccountDirectory.Group.Basic
import AccountDirectory.Group.Json
import AccountDirectory.Http.Fault
import AccountDirectory.Http.Forms
import AccountDirectory.Http.MediaType
import AccountDirectory.Http.Query
import AccountDirectory.Http.Refusal
import AccountDirectory.Http.Request
import AccountDirectory.Http.Response
import AccountDirectory.Http.Route
import AccountDirectory.Http.Service
import AccountDirectory.Identifier
import AccountDirectory.Interaction
import AccountDirectory.Json.Failure
import AccountDirectory.Json.Number
import AccountDirectory.Json.Reader
import AccountDirectory.Json.Record
import AccountDirectory.Json.Scalar
import AccountDirectory.Json.Skip
import AccountDirectory.Json.Text
import AccountDirectory.Json.Tree
import AccountDirectory.Json.Value
import AccountDirectory.Log.Event
import AccountDirectory.Log.Filter
import AccountDirectory.Log.Format
import AccountDirectory.Login
import AccountDirectory.PasswordTool
import AccountDirectory.Permission
import AccountDirectory.Session
import AccountDirectory.Settings
import AccountDirectory.Startup
import AccountDirectory.Store.Call
import AccountDirectory.Store.Memory
import AccountDirectory.Store.Table
import AccountDirectory.Text.Alphanumeric
import AccountDirectory.Text.Base16
import AccountDirectory.Text.Blank
import AccountDirectory.Text.Bytes
import AccountDirectory.Text.Numeral
import AccountDirectory.Text.Pattern.Basic
import AccountDirectory.Text.Pattern.Parser
import AccountDirectory.Text.Percent
import AccountDirectory.Text.Quoted
import AccountDirectory.Text.Radix64
import AccountDirectory.Text.Unprintable
import AccountDirectory.Text.Utf8
import AccountDirectory.Time.Calendar
import AccountDirectory.Time.Instant
import AccountDirectory.Time.Text
import AccountDirectory.Token.Basic
import AccountDirectory.Token.Header
import AccountDirectory.Token.PublicKey
import AccountDirectory.Token.Registered
import AccountDirectory.Main
import AccountDirectory.Proofs.Store.Table
import AccountDirectory.Proofs.Store.Run
import AccountDirectory.Proofs.Http.Handler
import AccountDirectory.Proofs.Http.Effect
import AccountDirectory.Proofs.Http.Visit
import AccountDirectory.Proofs.Http.Confinement
import AccountDirectory.Proofs.Http.Admission
import AccountDirectory.Proofs.Text.Bytes
import AccountDirectory.Proofs.Text.Radix64
import AccountDirectory.Proofs.Json.Reader
import AccountDirectory.Proofs.Json.Text
import AccountDirectory.Proofs.Json.Number
import AccountDirectory.Proofs.Json.Scalar
import AccountDirectory.Proofs.Json.Record
import AccountDirectory.Proofs.Account.Json
import AccountDirectory.Proofs.Token.Segment
import AccountDirectory.Proofs.Token.Payload
import AccountDirectory.Proofs.Http.Issue
import AccountDirectory.Proofs.Http.Authority
import AccountDirectory.Proofs.Crypto.Bcrypt
import AccountDirectory.Proofs.Http.Bearer
import AccountDirectory.Proofs.Text.Canonical
import AccountDirectory.Proofs.Token.Acceptance
import AccountDirectory.Proofs.Store.Operation
import AccountDirectory.Proofs.Store.Uniqueness
import AccountDirectory.Proofs.Store.Inactivation
import AccountDirectory.Proofs.Http.Credentials
import AccountDirectory.Proofs.Interaction
import AccountDirectory.Proofs.Store.InPlace
import AccountDirectory.Proofs.Http.Unchanged
import AccountDirectory.Proofs.Http.Interleaving
import AccountDirectory.Proofs.Database.Meaning
import AccountDirectory.Proofs.Database.Query
import AccountDirectory.Proofs.Database.Records
import AccountDirectory.Proofs.Database.Agreement
import AccountDirectory.Proofs.Database.Acknowledgement
import AccountDirectory.Proofs.Store.Missing
import AccountDirectory.Proofs.Database.Missing
import AccountDirectory.Proofs.Store.Answers
import AccountDirectory.Proofs.Store.Identifiers
import AccountDirectory.Proofs.Http.Lifecycle
import AccountDirectory.Proofs.Http.Noted
import AccountDirectory.Proofs.Store.Alike
import AccountDirectory.Proofs.Http.Secrecy
import AccountDirectory.Proofs.Login
import AccountDirectory.Proofs.Settings
import AccountDirectory.Proofs.Session
import AccountDirectory.Proofs.Http.Denial
import AccountDirectory.Proofs.Account.Identity
import AccountDirectory.Proofs.Http.Identity
import AccountDirectory.Proofs.Identifier
import AccountDirectory.Proofs.Http.WriteBack
import AccountDirectory.Proofs.Text.Numeral
import AccountDirectory.Proofs.Store.Audit
import AccountDirectory.Proofs.Store.Conflict
import AccountDirectory.Proofs.Crypto.Blowfish
import AccountDirectory.Proofs.Crypto.Key
import AccountDirectory.Proofs.Credential
import AccountDirectory.Proofs.Http.Interchange
import AccountDirectory.Proofs.Account.Administration
import AccountDirectory.Proofs.Store.GroupInactivation
import AccountDirectory.Proofs.Http.Paging
import AccountDirectory.Proofs.Database.Classification
import AccountDirectory.Proofs.Database.Constraint
