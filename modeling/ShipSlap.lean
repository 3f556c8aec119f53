import ShipSlap.Advertiser.Bundle
import ShipSlap.Advertiser.Concurrent
import ShipSlap.Advertiser.Config
import ShipSlap.Advertiser.Error
import ShipSlap.Advertiser.Host
import ShipSlap.Advertiser.Service
import ShipSlap.Bytes.Basic
import ShipSlap.Bytes.Hex
import ShipSlap.Curve.Ecdsa
import ShipSlap.Curve.Field
import ShipSlap.Curve.Point
import ShipSlap.Decimal.Binary64
import ShipSlap.Decimal.Format
import ShipSlap.Decimal.Read
import ShipSlap.Decimal.Shortest
import ShipSlap.FileTree
import ShipSlap.Hash.Hmac
import ShipSlap.Hash.Sha256
import ShipSlap.Idna.Domain
import ShipSlap.Idna.Mapping
import ShipSlap.Idna.Punycode
import ShipSlap.Json.Basic
import ShipSlap.Json.Decode
import ShipSlap.Json.Loose
import ShipSlap.Json.Read
import ShipSlap.Key.Basic
import ShipSlap.Key.Derivation
import ShipSlap.Key.Wallet
import ShipSlap.Ledger
import ShipSlap.Linkage
import ShipSlap.Lookup.Config
import ShipSlap.Lookup.Docs
import ShipSlap.Lookup.Error
import ShipSlap.Lookup.Query
import ShipSlap.Lookup.Service
import ShipSlap.Name.Error
import ShipSlap.Name.Topic
import ShipSlap.Name.Uri
import ShipSlap.Proofs.Advertiser.Discovery
import ShipSlap.Proofs.Advertiser.Issuance
import ShipSlap.Proofs.Advertiser.Lifecycle
import ShipSlap.Proofs.Advertiser.Revocation
import ShipSlap.Proofs.Bytes.Hex
import ShipSlap.Proofs.Curve.BasePoint
import ShipSlap.Proofs.Curve.Group
import ShipSlap.Proofs.Curve.Jacobian
import ShipSlap.Proofs.Curve.Prime
import ShipSlap.Proofs.Hash.Sha256
import ShipSlap.Proofs.Key.ChildKeys
import ShipSlap.Proofs.Key.Encoding
import ShipSlap.Proofs.Key.InvoiceNumber
import ShipSlap.Proofs.Linkage
import ShipSlap.Proofs.Lookup.Admission
import ShipSlap.Proofs.Lookup.Dialects
import ShipSlap.Proofs.Lookup.QueryMembers
import ShipSlap.Proofs.Lookup.Run
import ShipSlap.Proofs.Lookup.WindowCount
import ShipSlap.Proofs.Name.Grammar
import ShipSlap.Proofs.Name.HttpsFamily
import ShipSlap.Proofs.Script.Concatenation
import ShipSlap.Proofs.Script.MinimalPush
import ShipSlap.Proofs.Store.Answer
import ShipSlap.Proofs.Store.Query
import ShipSlap.Proofs.Store.Run
import ShipSlap.Proofs.Store.Writes
import ShipSlap.Proofs.Text.Utf8
import ShipSlap.Proofs.Token.Layout
import ShipSlap.Proofs.Token.PushDrop
import ShipSlap.Proofs.Token.SignedBytes
import ShipSlap.Protocol
import ShipSlap.Regex.Ast
import ShipSlap.Regex.Compile
import ShipSlap.Regex.Names
import ShipSlap.Regex.Parse
import ShipSlap.Script.Chunk
import ShipSlap.Settings
import ShipSlap.Store.Backend
import ShipSlap.Store.Memory
import ShipSlap.Store.Record
import ShipSlap.Telemetry.Config
import ShipSlap.Telemetry.Filter
import ShipSlap.Telemetry.Logging
import ShipSlap.Text.Alphanumeric
import ShipSlap.Text.Bidi
import ShipSlap.Text.Blank
import ShipSlap.Text.Digits
import ShipSlap.Text.Joining
import ShipSlap.Text.Lower
import ShipSlap.Text.Marks
import ShipSlap.Text.Normalization
import ShipSlap.Text.Printable
import ShipSlap.Text.Quote
import ShipSlap.Text.Ranges
import ShipSlap.Text.Utf8
import ShipSlap.Token.Fields
import ShipSlap.Token.PushDrop
import ShipSlap.Toml.Document
import ShipSlap.Toml.Scalar
import ShipSlap.Toml.Section
import ShipSlap.Toml.Value
import ShipSlap.Url.Address
import ShipSlap.Url.Authority
import ShipSlap.Url.Form
import ShipSlap.Url.Host
import ShipSlap.Url.Percent
