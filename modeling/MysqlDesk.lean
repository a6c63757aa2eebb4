import MysqlDesk.Binary64.Basic
import MysqlDesk.Binary64.Shortest
import MysqlDesk.Calendar.Moment
import MysqlDesk.Calendar.Reader
import MysqlDesk.Cell
import MysqlDesk.Dictionary
import MysqlDesk.Dsn.Basic
import MysqlDesk.Dsn.Dump
import MysqlDesk.Dsn.Edit
import MysqlDesk.Dsn.Mask
import MysqlDesk.Dsn.Reader
import MysqlDesk.Error.Basic
import MysqlDesk.Error.Database
import MysqlDesk.Error.Driver
import MysqlDesk.Json.Reader
import MysqlDesk.Json.Value
import MysqlDesk.Json.Writer
import MysqlDesk.Log.General
import MysqlDesk.Log.Output
import MysqlDesk.Pool
import MysqlDesk.Program
import MysqlDesk.Proofs.Dictionary
import MysqlDesk.Proofs.Dsn.Edit
import MysqlDesk.Proofs.Dsn.Grammar
import MysqlDesk.Proofs.Dsn.Login
import MysqlDesk.Proofs.Dsn.Masking
import MysqlDesk.Proofs.Dsn.Reading
import MysqlDesk.Proofs.Dsn.RoundTrip
import MysqlDesk.Proofs.Dsn.Session
import MysqlDesk.Proofs.Dsn.Stretch
import MysqlDesk.Proofs.Log.Flush
import MysqlDesk.Proofs.Program.Run
import MysqlDesk.Proofs.Program.TimeLimit
import MysqlDesk.Proofs.Script.Session
import MysqlDesk.Proofs.Table.Comment
import MysqlDesk.Proofs.Table.Literal
import MysqlDesk.Proofs.Template.Filling
import MysqlDesk.Proofs.Template.Octets
import MysqlDesk.Proofs.Template.Outcome
import MysqlDesk.Proofs.Template.Readable
import MysqlDesk.Proofs.Template.Staging
import MysqlDesk.Proofs.Template.Tally
import MysqlDesk.Proofs.Template.Token
import MysqlDesk.Proofs.Text.ByteOrder
import MysqlDesk.Proofs.Text.Cut
import MysqlDesk.Proofs.Text.Utf8
import MysqlDesk.ResultSet
import MysqlDesk.Schema
import MysqlDesk.Script
import MysqlDesk.Span
import MysqlDesk.Table
import MysqlDesk.Template.Octets
import MysqlDesk.Template.Piece
import MysqlDesk.Template.Substitute
import MysqlDesk.Template.Tally
import MysqlDesk.Text.Blank
import MysqlDesk.Text.CaseData
import MysqlDesk.Text.CodeSet
import MysqlDesk.Text.Cut
import MysqlDesk.Text.Lowercase
import MysqlDesk.Text.Numeral
import MysqlDesk.Text.Utf8
import MysqlDesk.Text.Visible
import MysqlDesk.Text.VisibleData
import MysqlDesk.Variable
import MysqlDesk.Wire.Column
import MysqlDesk.Wire.Connection
import MysqlDesk.Wire.Param
import MysqlDesk.Wire.Report
import MysqlDesk.Proofs.Delivery.Answer
import MysqlDesk.Proofs.Delivery.Program
import MysqlDesk.Proofs.Delivery.Reading
import MysqlDesk.Proofs.Dsn.NormalForm
import MysqlDesk.Proofs.Error.Wording
import MysqlDesk.Proofs.Wire.Extraction
import MysqlDesk.Proofs.Template.Joining
import MysqlDesk.Proofs.Text.Numeral
import MysqlDesk.Proofs.Dsn.HostPort
import MysqlDesk.Proofs.Template.Cursor
import MysqlDesk.Template.HashTable
import MysqlDesk.Proofs.Template.HashTable
import MysqlDesk.Proofs.Dsn.Remasking
import MysqlDesk.Proofs.Table.Splicing
import MysqlDesk.Proofs.ResultSet.Place
import MysqlDesk.ResultSet.Indexed
import MysqlDesk.Proofs.ResultSet.History
import MysqlDesk.Proofs.Log.Events
import MysqlDesk.Proofs.Log.Destinations
import MysqlDesk.Proofs.Log.EventTime
import MysqlDesk.Proofs.Calendar.Written
