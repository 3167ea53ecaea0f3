import CredRegistry.Cipher.Aes
import CredRegistry.Cipher.Gcm
import CredRegistry.Cipher.TokenKey
import CredRegistry.Cluster.ApiServer
import CredRegistry.Cluster.Basic
import CredRegistry.Cluster.Manifest
import CredRegistry.Cluster.Memory
import CredRegistry.Cluster.Moment
import CredRegistry.Cluster.Provision
import CredRegistry.Config.Load
import CredRegistry.Config.Logging
import CredRegistry.Config.Schema
import CredRegistry.Config.Settings
import CredRegistry.Credential.GitOpsConfig
import CredRegistry.Credential.Provider
import CredRegistry.Credential.Record
import CredRegistry.Credential.Timestamp
import CredRegistry.Database.Address
import CredRegistry.Database.Basic
import CredRegistry.Database.Cell
import CredRegistry.Database.Location
import CredRegistry.Database.Migration
import CredRegistry.Database.Numeral
import CredRegistry.Database.Place
import CredRegistry.Decimal.Binary64
import CredRegistry.Decimal.Read
import CredRegistry.Decimal.Shortest
import CredRegistry.Dialogue
import CredRegistry.Dict
import CredRegistry.Host.Environment
import CredRegistry.Host.Files
import CredRegistry.Host.Secret
import CredRegistry.Http
import CredRegistry.Json.Error
import CredRegistry.Json.Reader
import CredRegistry.Json.Schema
import CredRegistry.Json.Source
import CredRegistry.Json.Value
import CredRegistry.Log
import CredRegistry.Log.Filter
import CredRegistry.Log.Lines
import CredRegistry.Proofs.Cipher.KeyText
import CredRegistry.Proofs.Cipher.TokenKey
import CredRegistry.Proofs.Cluster.Carry
import CredRegistry.Proofs.Cluster.Faults
import CredRegistry.Proofs.Cluster.FirstCreation
import CredRegistry.Proofs.Cluster.Manifest
import CredRegistry.Proofs.Cluster.Provision
import CredRegistry.Proofs.Cluster.Replace
import CredRegistry.Proofs.Cluster.Secrets
import CredRegistry.Proofs.Cluster.Session
import CredRegistry.Proofs.Cluster.Shelf
import CredRegistry.Proofs.Cluster.Target
import CredRegistry.Proofs.Cluster.Turns
import CredRegistry.Proofs.Cluster.Versions
import CredRegistry.Proofs.Cluster.Writes
import CredRegistry.Proofs.Config.Load
import CredRegistry.Proofs.Config.TokenKey
import CredRegistry.Proofs.Config.Written
import CredRegistry.Proofs.Credential.Calendar
import CredRegistry.Proofs.Credential.GitOpsConfig
import CredRegistry.Proofs.Credential.Timestamp
import CredRegistry.Proofs.Database.Migration
import CredRegistry.Proofs.Database.Table
import CredRegistry.Proofs.Host.Environment
import CredRegistry.Proofs.Host.Files
import CredRegistry.Proofs.Json.Lookup
import CredRegistry.Proofs.Json.Reading
import CredRegistry.Proofs.Json.RoundTrip
import CredRegistry.Proofs.Json.Schema
import CredRegistry.Proofs.Json.Source
import CredRegistry.Proofs.Json.Spelled
import CredRegistry.Proofs.RepoList.Again
import CredRegistry.Proofs.RepoList.Contention
import CredRegistry.Proofs.RepoList.Course
import CredRegistry.Proofs.RepoList.Decoding
import CredRegistry.Proofs.RepoList.Exhaustion
import CredRegistry.Proofs.RepoList.Faults
import CredRegistry.Proofs.RepoList.Foreign
import CredRegistry.Proofs.RepoList.Kept
import CredRegistry.Proofs.RepoList.Order
import CredRegistry.Proofs.RepoList.Race
import CredRegistry.Proofs.RepoList.RoundTrip
import CredRegistry.Proofs.RepoList.Sequence
import CredRegistry.Proofs.RepoList.Value
import CredRegistry.Proofs.Retry
import CredRegistry.Proofs.Secrecy.Cluster
import CredRegistry.Proofs.Secrecy.Coupled
import CredRegistry.Proofs.Secrecy.Lists
import CredRegistry.Proofs.Secrecy.Rows
import CredRegistry.Proofs.Secrecy.Runs
import CredRegistry.Proofs.Service.Aftermath
import CredRegistry.Proofs.Service.Bustle
import CredRegistry.Proofs.Service.Errand
import CredRegistry.Proofs.Service.Office
import CredRegistry.Proofs.Service.Reads
import CredRegistry.Proofs.Service.Site
import CredRegistry.Proofs.Service.Success
import CredRegistry.Proofs.Store.Archive
import CredRegistry.Proofs.Store.Listing
import CredRegistry.Proofs.Store.Lookups
import CredRegistry.Proofs.Store.Rows
import CredRegistry.Proofs.Text.Bytes
import CredRegistry.Proofs.Yaml.Blank
import CredRegistry.Proofs.Yaml.Reading
import CredRegistry.Proofs.Yaml.Untyped
import CredRegistry.Proofs.Yaml.Writing
import CredRegistry.RepoList.Decode
import CredRegistry.RepoList.Encode
import CredRegistry.RepoList.Entry
import CredRegistry.RepoList.Merge
import CredRegistry.RepoList.Reconcile
import CredRegistry.Retry
import CredRegistry.Service
import CredRegistry.Store.Basic
import CredRegistry.Text.Alphanumeric
import CredRegistry.Text.Base64
import CredRegistry.Text.Blank
import CredRegistry.Text.CaseFold
import CredRegistry.Text.Category
import CredRegistry.Text.CharSet
import CredRegistry.Text.CodeRanges
import CredRegistry.Text.Hex
import CredRegistry.Text.Pattern
import CredRegistry.Text.Pattern.Reading
import CredRegistry.Text.Percent
import CredRegistry.Text.Printable
import CredRegistry.Text.Quoted
import CredRegistry.Text.UpperCase
import CredRegistry.Text.Utf8
import CredRegistry.Yaml.Error
import CredRegistry.Yaml.Event
import CredRegistry.Yaml.Event.Grammar
import CredRegistry.Yaml.MarkedText
import CredRegistry.Yaml.Node
import CredRegistry.Yaml.Pen
import CredRegistry.Yaml.Plain
import CredRegistry.Yaml.Reading
import CredRegistry.Yaml.ScalarText
import CredRegistry.Yaml.Token
import CredRegistry.Yaml.Token.Lexer
import CredRegistry.Yaml.Token.Name
import CredRegistry.Yaml.Token.Scalar
import CredRegistry.Yaml.Value
import CredRegistry.Yaml.Writer
