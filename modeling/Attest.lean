import Attest.Binary64.Basic
import Attest.Binary64.Decimal
import Attest.Binary64.Text
import Attest.Json.Basic
import Attest.Json.Read
import Attest.Json.Write
import Attest.Text.Printable
import Attest.Text.Combining
import Attest.Text.Blank
import Attest.Text.Quoted
import Attest.Text.Runs
import Attest.Text.Category
import Attest.Text.Script
import Attest.Text.PropertyTables
import Attest.Text.Contributory
import Attest.Text.Property
import Attest.Text.Fold
import Attest.Text.Age
import Attest.Text.Terminal
import Attest.Encoding.Hex
import Attest.Calendar.Date
import Attest.Calendar.Parse
import Attest.Uuid
import Attest.ValueError
import Attest.Identity
import Attest.Timestamp
import Attest.Canonical
import Attest.Json.Describe
import Attest.Api.Basic
import Attest.Api.Values
import Attest.Api.Dispatch
import Attest.Digest.Sha256
import Attest.Digest.Sha512
import Attest.Digest.Hmac
import Attest.Encoding.Base64Url
import Attest.Curve.Modular
import Attest.Curve.Ed25519
import Attest.Curve.P256
import Attest.Key.Algorithm
import Attest.Key.Error
import Attest.Key.Jwk
import Attest.Key.SigningKey
import Attest.Key.Jws
import Attest.Decode.Basic
import Attest.Decode.Record
import Attest.Entropy
import Attest.Key.Generate
import Attest.Api.Keys
import Attest.Credential.Error
import Attest.Credential.Field
import Attest.Regex.CharSet
import Attest.Regex.Syntax
import Attest.Regex.Bracket
import Attest.Regex.Strict
import Attest.Regex.Parse
import Attest.Regex.Footprint
import Attest.Regex
import Attest.Schema.Meta
import Attest.Schema.Drafts
import Attest.Schema.Uri
import Attest.Schema.Registry
import Attest.Schema.Validate
import Attest.Schema.Rules
import Attest.Credential.Template
import Attest.Api.Templates
import Attest.Credential.KeyConfig
import Attest.Credential.Claims
import Attest.Api.Issuance
import Attest.Log
import Attest.Key.Store
import Attest.Credential.Vault
import Attest.Api.Vault
import Attest.Yaml.Token
import Attest.Yaml.Scanner
import Attest.Yaml.Event
import Attest.Yaml.Document
import Attest.Command.FileTree
import Attest.Log.Render
import Attest.Command.Host
import Attest.Command.Fault
import Attest.Command.Load
import Attest.Command.Similarity
import Attest.Command.Options
import Attest.Command.Parse
import Attest.Api.Redact
import Attest.Command.Keygen
import Attest.Command.Issue
import Attest.Command.Inspect
import Attest.Command.Program
import Attest.Api.Command
import Attest.Main
import Attest.Proofs.Objects
import Attest.Proofs.TemplateChecks
import Attest.Proofs.ClaimConstruction
import Attest.Proofs.IssueOutcome
import Attest.Proofs.Payload
import Attest.Proofs.Base64UrlRoundTrip
import Attest.Proofs.CanonicalRead
import Attest.Proofs.CanonicalForm
import Attest.Proofs.Coercion
import Attest.Proofs.UuidText
import Attest.Proofs.Reissue
import Attest.Proofs.TemplateValidation
import Attest.Proofs.KeyLoading
import Attest.Proofs.TokenRoundTrip
import Attest.Proofs.KeyRotation
import Attest.Proofs.IssueUnderRotation
import Attest.Proofs.NullFields
import Attest.Proofs.BatchReport
import Attest.Proofs.Timestamps
import Attest.Proofs.HexText
import Attest.Proofs.DateText
import Attest.Proofs.DateTimeText
import Attest.Proofs.CoercionTable
import Attest.Proofs.TimestampText
import Attest.Proofs.EcmaNumberText
import Attest.Proofs.JcsAgreement
import Attest.Proofs.QuotedReadBack
