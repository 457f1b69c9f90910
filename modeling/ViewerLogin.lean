import ViewerLogin.Account.Basic
import ViewerLogin.Account.Directory
import ViewerLogin.Call.Basic
import ViewerLogin.Client.Exchange
import ViewerLogin.Client.Outcome
import ViewerLogin.Client.Status
import ViewerLogin.Configuration.Basic
import ViewerLogin.Configuration.Setting
import ViewerLogin.Datagram
import ViewerLogin.Decimal.Binary64
import ViewerLogin.Decimal.Integer
import ViewerLogin.Decimal.Power
import ViewerLogin.Decimal.Shortest
import ViewerLogin.Grid
import ViewerLogin.IpAddress
import ViewerLogin.Json.Basic
import ViewerLogin.Json.Numeral
import ViewerLogin.Json.Printer
import ViewerLogin.Json.Reader
import ViewerLogin.Json.Token
import ViewerLogin.Json.Tree
import ViewerLogin.Proofs.Account.Directory
import ViewerLogin.Proofs.Account.FoldedName
import ViewerLogin.Proofs.Account.Roll
import ViewerLogin.Proofs.Call
import ViewerLogin.Proofs.Call.Meaning
import ViewerLogin.Proofs.Client.Answer
import ViewerLogin.Proofs.Client.Echo
import ViewerLogin.Proofs.Client.Login
import ViewerLogin.Proofs.Client.Outcome
import ViewerLogin.Proofs.Client.Reading
import ViewerLogin.Proofs.Configuration.Entry
import ViewerLogin.Proofs.Configuration.Overlay
import ViewerLogin.Proofs.Decimal.Spelling
import ViewerLogin.Proofs.Home.Part
import ViewerLogin.Proofs.Home.Section
import ViewerLogin.Proofs.IpAddress
import ViewerLogin.Proofs.Json.Lexing
import ViewerLogin.Proofs.Json.Meaning
import ViewerLogin.Proofs.Json.Members
import ViewerLogin.Proofs.Json.Nesting
import ViewerLogin.Proofs.Json.Numeral
import ViewerLogin.Proofs.Json.NumeralSpelling
import ViewerLogin.Proofs.Json.PieceSpelling
import ViewerLogin.Proofs.Json.RoundTrip
import ViewerLogin.Proofs.Json.Text
import ViewerLogin.Proofs.Json.Token
import ViewerLogin.Proofs.Json.Tree
import ViewerLogin.Proofs.Json.Writable
import ViewerLogin.Proofs.Request
import ViewerLogin.Proofs.Request.Field
import ViewerLogin.Proofs.Request.Form
import ViewerLogin.Proofs.Request.Format
import ViewerLogin.Proofs.Request.Reading
import ViewerLogin.Proofs.Request.Selection
import ViewerLogin.Proofs.Request.Unset
import ViewerLogin.Proofs.Response.Coordinates
import ViewerLogin.Proofs.Response.Decoding
import ViewerLogin.Proofs.Response.Form
import ViewerLogin.Proofs.Response.Home
import ViewerLogin.Proofs.Response.Insertion
import ViewerLogin.Proofs.Response.Integers
import ViewerLogin.Proofs.Response.Keys
import ViewerLogin.Proofs.Response.Normal
import ViewerLogin.Proofs.Response.Restriction
import ViewerLogin.Proofs.Response.Rights
import ViewerLogin.Proofs.Response.Separate
import ViewerLogin.Proofs.Response.Spelling
import ViewerLogin.Proofs.Response.Stable
import ViewerLogin.Proofs.Response.Writable
import ViewerLogin.Proofs.Service.Admission
import ViewerLogin.Proofs.Service.Agreement
import ViewerLogin.Proofs.Service.Attempt
import ViewerLogin.Proofs.Service.CallSpelling
import ViewerLogin.Proofs.Service.Demand
import ViewerLogin.Proofs.Service.History
import ViewerLogin.Proofs.Service.Isolation
import ViewerLogin.Proofs.Service.NameSpelling
import ViewerLogin.Proofs.Service.Reply
import ViewerLogin.Proofs.Service.Secrecy
import ViewerLogin.Proofs.Text.LetterCase
import ViewerLogin.Proofs.Text.Split
import ViewerLogin.Proofs.Text.Trim
import ViewerLogin.Proofs.Text.Utf8
import ViewerLogin.Proofs.Toml.Agreement
import ViewerLogin.Proofs.Wire.Bracketed
import ViewerLogin.Proofs.Wire.Codec
import ViewerLogin.Proofs.Wire.Coordinate
import ViewerLogin.Proofs.Wire.Entry
import ViewerLogin.Proofs.Wire.Form
import ViewerLogin.Proofs.Wire.Integer
import ViewerLogin.Proofs.Wire.Member
import ViewerLogin.Proofs.Wire.Spelling
import ViewerLogin.Proofs.Wire.Stable
import ViewerLogin.Proofs.Wire.Tidy
import ViewerLogin.Request.Basic
import ViewerLogin.Request.Canonical
import ViewerLogin.Request.Selector
import ViewerLogin.Response.Basic
import ViewerLogin.Response.Block
import ViewerLogin.Response.Canonical
import ViewerLogin.Response.Field
import ViewerLogin.Response.Friend
import ViewerLogin.Response.Home
import ViewerLogin.Response.Inventory
import ViewerLogin.Response.Maturity
import ViewerLogin.Response.Presentation
import ViewerLogin.Service.Basic
import ViewerLogin.Service.Endpoint
import ViewerLogin.Service.Run
import ViewerLogin.Text.Blank
import ViewerLogin.Text.Hex
import ViewerLogin.Text.LowerCase
import ViewerLogin.Text.LowerCase.Table
import ViewerLogin.Text.Split
import ViewerLogin.Text.Utf8
import ViewerLogin.Toml.Basic
import ViewerLogin.Toml.DateTime
import ViewerLogin.Toml.Document
import ViewerLogin.Toml.Node
import ViewerLogin.Toml.Plain
import ViewerLogin.Toml.Quoted
import ViewerLogin.Toml.Statement
import ViewerLogin.Toml.Token
import ViewerLogin.Uuid
import ViewerLogin.Wire.Codec
import ViewerLogin.Wire.Coordinate
import ViewerLogin.Wire.Error
import ViewerLogin.Wire.Word
