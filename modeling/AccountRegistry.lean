import AccountRegistry.Text.LowerCase
import AccountRegistry.Text.DecimalDigit
import AccountRegistry.Text.Blank
import AccountRegistry.Text.Percent
import AccountRegistry.Text.Split
import AccountRegistry.Json.Fault
import AccountRegistry.Json.Printer
import AccountRegistry.Json.Skip
import AccountRegistry.Shape.FromText
import AccountRegistry.Shape.Write
import AccountRegistry.Account
import AccountRegistry.Query.Sort
import AccountRegistry.Query.Page
import AccountRegistry.Store.Memory
import AccountRegistry.Service.Error
import AccountRegistry.Settings.Check
import AccountRegistry.Relational.Store
import AccountRegistry.Settings.Loading
import AccountRegistry.Service.Startup
import AccountRegistry.Service.App
import AccountRegistry.Service.Identity
import AccountRegistry.Proofs.Filter.Meaning
import AccountRegistry.Proofs.Store.Pages
import AccountRegistry.Proofs.Store.Visibility
import AccountRegistry.Proofs.Sql.Agreement
import AccountRegistry.Proofs.Sql.Placeholders
import AccountRegistry.Proofs.Listing.Rendering
import AccountRegistry.Proofs.Filter.Decided
import AccountRegistry.Proofs.Store.History
import AccountRegistry.Proofs.Relational.PageRead
import AccountRegistry.Proofs.Service.Discretion
import AccountRegistry.Proofs.Text.Numeral
import AccountRegistry.Proofs.Listing.Parameters
import AccountRegistry.Proofs.Listing.Acceptance
import AccountRegistry.Proofs.Listing.Report
import AccountRegistry.Proofs.Time.Calendar
import AccountRegistry.Proofs.Listing.Logging
import AccountRegistry.Proofs.Service.Serving
import AccountRegistry.Proofs.Service.Setup
import AccountRegistry.Proofs.Store.LetterCase
import AccountRegistry.Proofs.Condition.Kleene
import AccountRegistry.Proofs.Store.Selection
import AccountRegistry.Proofs.Filter.Complement
import AccountRegistry.Proofs.Listing.Paging
import AccountRegistry.Proofs.Time.Spelling
import AccountRegistry.Proofs.Json.Written
import AccountRegistry.Proofs.Shape.Written
import AccountRegistry.Proofs.Time.Written
import AccountRegistry.Proofs.Account
import AccountRegistry.Proofs.Store.Files
import AccountRegistry.Proofs.Relational.Instants
import AccountRegistry.Proofs.Relational.Rows
import AccountRegistry.Proofs.Json.Words
import AccountRegistry.Proofs.Listing.EncodedParameters
import AccountRegistry.Proofs.Relational.Masking
import AccountRegistry.Proofs.Relational.ConnectionParts
import AccountRegistry.Proofs.Filter.Company
import AccountRegistry.Proofs.Listing.Sorting
import AccountRegistry.Proofs.Names
import AccountRegistry.Proofs.Relational.Columns
