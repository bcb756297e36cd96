import Tabula.Service
import Tabula.Settings.Toml
import Tabula.Proofs.Related
import Tabula.Proofs.Outcome
import Tabula.Proofs.Choices
import Tabula.Proofs.Json.Fields
import Tabula.Proofs.Text.Blank
import Tabula.Proofs.Calendar.Date
import Tabula.Proofs.Number.Double
import Tabula.Proofs.Number.Rounding
import Tabula.Proofs.Value.Order
import Tabula.Proofs.Value.Types
import Tabula.Proofs.Value.Json
import Tabula.Proofs.Schema.Lawful
import Tabula.Proofs.Schema.Lookup
import Tabula.Proofs.Filter.Truth
import Tabula.Proofs.Filter.Compile
import Tabula.Proofs.Engine.Tables
import Tabula.Proofs.Engine.SetUp
import Tabula.Proofs.Select.Plans
import Tabula.Proofs.Select.Lookups
import Tabula.Proofs.Select.Product
import Tabula.Proofs.Select.Records
import Tabula.Proofs.Select.Pages
import Tabula.Proofs.Table.Changes
import Tabula.Proofs.Table.Rows
import Tabula.Proofs.Table.Integrity
import Tabula.Proofs.Table.Removal
import Tabula.Proofs.Table.Retained
import Tabula.Proofs.Transaction.Calls
import Tabula.Proofs.Transaction.Rollback
import Tabula.Proofs.Transaction.Integrity
import Tabula.Proofs.Write.Compile
import Tabula.Proofs.Write.NewRows
import Tabula.Proofs.Write.Kept
import Tabula.Proofs.Table.Numbers
import Tabula.Proofs.Transaction.Numbers
import Tabula.Proofs.Write.Acceptance
import Tabula.Proofs.Write.Restated
import Tabula.Proofs.Service.Runs
import Tabula.Proofs.Service.Integrity
import Tabula.Proofs.Service.Retained
import Tabula.Proofs.Service.Catalogs
import Tabula.Proofs.Service.Fetch
import Tabula.Proofs.Service.Save
import Tabula.Proofs.Service.Delete
import Tabula.Proofs.Engine.Reshaping
import Tabula.Proofs.Transaction.Reshaping
import Tabula.Proofs.Service.WriteBack
import Tabula.Proofs.Json.Finite
import Tabula.Proofs.Service.Texts
import Tabula.Proofs.Service.Codecs
import Tabula.Proofs.Value.JsonPaths
import Tabula.Proofs.Transaction.Keys
import Tabula.Proofs.Schema.Path
import Tabula.Proofs.Schema.Registration
import Tabula.Proofs.Select.Registration
import Tabula.Proofs.Schema.Memo
import Tabula.Proofs.Schema.Histories
import Tabula.Proofs.Engine.Histories
import Tabula.Proofs.Strict.Basic
import Tabula.Proofs.Strict.Table
import Tabula.Proofs.Strict.Query
import Tabula.Proofs.Strict.Transaction
import Tabula.Proofs.Strict.Service
import Tabula.Proofs.Filter.Matching
import Tabula.Proofs.Text.Lowercase
import Tabula.Proofs.Filter.IgnoreCase
import Tabula.Proofs.Write.Validity
import Tabula.Proofs.Write.Rewrites
import Tabula.Proofs.Service.Update
import Tabula.Proofs.Value.Sorting
import Tabula.Proofs.Value.Laws
import Tabula.Proofs.Select.Sorting
import Tabula.Proofs.Select.JoinOrder
import Tabula.Proofs.Select.Spelling
import Tabula.Proofs.Filter.Comparisons
import Tabula.Proofs.Service.Comparisons
import Tabula.Proofs.Schema.Declaration
import Tabula.Proofs.Settings.Build
