import Realty.Calendar
import Realty.CommandLine
import Realty.Decimal
import Realty.Distinct
import Realty.Double.Basic
import Realty.Double.Fixed
import Realty.Double.Shortest
import Realty.Explain
import Realty.Fault
import Realty.Filter.Area
import Realty.Filter.Compile
import Realty.Filter.Facet
import Realty.Filter.Rejection
import Realty.Geo.Distance
import Realty.Geo.Fragment
import Realty.Geo.Reading
import Realty.Geo.Ring
import Realty.Geo.Wkt
import Realty.Json.Encode
import Realty.Json.Parse
import Realty.Listing.Checked
import Realty.Listing.Row
import Realty.Listing.Summary
import Realty.ListingNumber
import Realty.Main
import Realty.Nesting
import Realty.Predicate.Basic
import Realty.ResultOrder
import Realty.Search.Cache
import Realty.Search.Page
import Realty.Search.Service
import Realty.Settings
import Realty.Sql.Bind
import Realty.Sql.Clause
import Realty.Sql.Column
import Realty.Sql.Condition
import Realty.Sql.Pattern
import Realty.Sql.Query
import Realty.Sql.Rendering
import Realty.Sql.Schema
import Realty.Sql.Template
import Realty.Status
import Realty.Text.Blank
import Realty.Text.Case
import Realty.Text.Digit
import Realty.Text.Numeral
import Realty.Text.Printable
import Realty.Text.Quoted
import Realty.Text.Replace
import Realty.Text.Split
import Realty.Text.Utf8
import Realty.Text.Word
import Realty.Value.Basic
import Realty.Value.Coerce
import Realty.Web.App
import Realty.Web.Cors
import Realty.Web.Query
import Realty.Proofs.Filter.Outcome
import Realty.Proofs.Sql.Reading
import Realty.Proofs.Sql.Joining
import Realty.Proofs.Sql.Clause
import Realty.Proofs.Sql.Comparison
import Realty.Proofs.Sql.Meaning
import Realty.Proofs.Geo.Fragment
import Realty.Proofs.Double.Decode
import Realty.Proofs.Double.Shortest
import Realty.Proofs.Double.Text
import Realty.Proofs.Json.Key
import Realty.Proofs.Filter.Mapping
import Realty.Proofs.Search.Database
import Realty.Proofs.Search.Session
import Realty.Proofs.Search.Table
import Realty.Proofs.Search.Paging
import Realty.Proofs.Filter.Union
import Realty.Proofs.Search.SchoolPaging
import Realty.Proofs.Sql.Exclusive
import Realty.Proofs.Sql.Params
import Realty.Proofs.Sql.Renders
import Realty.Proofs.Filter.Terms
import Realty.Proofs.Search.Statement
import Realty.Proofs.Search.Calls
import Realty.Proofs.Search.Staleness
import Realty.Proofs.Sql.Binding
import Realty.Proofs.Sql.Leaves
import Realty.Proofs.Filter.Leaves
import Realty.Proofs.Search.Parameters
import Realty.Proofs.Sql.Casts
import Realty.Proofs.Filter.Overflow
import Realty.Proofs.Search.Overflow
import Realty.Proofs.Sql.Blank
import Realty.Proofs.Sql.Skeleton
import Realty.Proofs.Search.Injection
import Realty.Proofs.Search.Eviction
import Realty.Proofs.Filter.Lookup
import Realty.Proofs.Geo.Ring
import Realty.Proofs.Sql.Arithmetic
import Realty.Proofs.Geo.Polygon
import Realty.Proofs.Geo.RayCast
import Realty.Proofs.Fields
import Realty.Proofs.Json.Written
import Realty.Proofs.Filter.Written
import Realty.Proofs.Search.SharedKey
import Realty.Proofs.Filter.Readings
import Realty.Proofs.Filter.Schools
import Realty.Proofs.Text.Parts
import Realty.Proofs.Web.Repeated
import Realty.Proofs.Search.SchoolWindow
import Realty.Proofs.Geo.Turn
import Realty.Proofs.Geo.Convex
import Realty.Proofs.Geo.Cut
import Realty.Proofs.Double.Rounding
import Realty.Proofs.Sql.Like
import Realty.Proofs.Double.Reading
import Realty.Proofs.Double.Comparison
import Realty.Proofs.Geo.Vertices
import Realty.Proofs.Geo.Wkt
import Realty.Proofs.Double.Range
import Realty.Proofs.Filter.Replaced
import Realty.Proofs.Filter.NumberText
import Realty.Proofs.Double.Order
import Realty.Proofs.Filter.Ranges
import Realty.Proofs.Geo.Placeholders
import Realty.Proofs.Sql.Alone
import Realty.Proofs.Json.Numbers
import Realty.Proofs.Json.Document
import Realty.Proofs.Filter.PolygonText
import Realty.Proofs.Text.Trim
import Realty.Proofs.Text.Case
import Realty.Proofs.Value.Choices
import Realty.Proofs.Status.Label
import Realty.Proofs.Status.Lookup
import Realty.Proofs.Sql.Columns
import Realty.Proofs.Search.Transparency
