import RowFilter.Query.Tree
import RowFilter.Service.Session
import RowFilter.Proofs.Query.Assembly
import RowFilter.Proofs.Sql.Predicate
import RowFilter.Proofs.Sql.Sink
import RowFilter.Proofs.Sql.Token
import RowFilter.Proofs.Query.Like
import RowFilter.Proofs.Query.Row
import RowFilter.Proofs.Sql.Meaning
import RowFilter.Proofs.Sql.Blank
import RowFilter.Proofs.Sql.Shape
import RowFilter.Proofs.Calendar.Reading
import RowFilter.Proofs.Text.Split
import RowFilter.Proofs.Filter.Value
import RowFilter.Proofs.Filter.Encoding
import RowFilter.Proofs.Sql.Binding
import RowFilter.Proofs.Sql.Raw
import RowFilter.Proofs.Sql.Selection
import RowFilter.Proofs.Sql.Grammar
import RowFilter.Proofs.Catalogue.Declared
import RowFilter.Proofs.Sql.Unambiguous
import RowFilter.Proofs.Text.Case
import RowFilter.Proofs.Described
import RowFilter.Proofs.Catalogue.Normal
import RowFilter.Proofs.Service.History
import RowFilter.Proofs.Text.Snake
import RowFilter.Proofs.Catalogue.Lookup
import RowFilter.Proofs.Filter.Grammar
import RowFilter.Proofs.Filter.Operand
import RowFilter.Proofs.Filter.Construction
import RowFilter.Proofs.Filter.Entry
import RowFilter.Proofs.Filter.RawValue
import RowFilter.Proofs.Filter.Record
import RowFilter.Proofs.Query.Refusal
import RowFilter.Proofs.Query.Course
import RowFilter.Proofs.Query.Order
import RowFilter.Proofs.Service.Answer
import RowFilter.Proofs.Service.Echo
import RowFilter.Proofs.Sql.Order
import RowFilter.Proofs.Query.Translation
import RowFilter.Proofs.Sql.Recorded
import RowFilter.Proofs.Query.Members
import RowFilter.Proofs.Sql.Members
import RowFilter.Proofs.Service.Members
import RowFilter.Proofs.Text.Blank
import RowFilter.Proofs.Sql.Scan
import RowFilter.Proofs.Service.Columns
import RowFilter.Proofs.Sql.Template
import RowFilter.Proofs.Sql.Percent
import RowFilter.Proofs.Sql.Spelling
import RowFilter.Proofs.Filter.Integer
import RowFilter.Proofs.Filter.Decimal
import RowFilter.Proofs.Calendar.Grammar
import RowFilter.Proofs.Filter.Temporal
import RowFilter.Proofs.Calendar.Order
import RowFilter.Proofs.Query.Alignment
import RowFilter.Proofs.Sql.Alignment
import RowFilter.Proofs.Service.Loading
import RowFilter.Proofs.Service.Allowed
import RowFilter.Proofs.Text.Camel
import RowFilter.Proofs.Sql.Joined
