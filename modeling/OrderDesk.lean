import OrderDesk.Answer
import OrderDesk.BotApi.Client
import OrderDesk.BotApi.Message
import OrderDesk.BotApi.Request
import OrderDesk.BotApi.Update
import OrderDesk.Callback.Action
import OrderDesk.Callback.Data
import OrderDesk.Cart
import OrderDesk.Catalog.Item
import OrderDesk.Catalog.Manager
import OrderDesk.Catalog.Shelf
import OrderDesk.Chat
import OrderDesk.Config
import OrderDesk.Conversation.Browsing
import OrderDesk.Conversation.Calculator
import OrderDesk.Conversation.CartEditing
import OrderDesk.Conversation.Checkout
import OrderDesk.Conversation.Dispatch
import OrderDesk.Conversation.Guide
import OrderDesk.Conversation.Keyboards
import OrderDesk.Conversation.Listing
import OrderDesk.Conversation.Menu
import OrderDesk.Conversation.Ordering
import OrderDesk.Conversation.Turn
import OrderDesk.Customer
import OrderDesk.Decimal.Binary
import OrderDesk.Decimal.Integer
import OrderDesk.Decimal.Reader
import OrderDesk.Decimal.Shortest
import OrderDesk.Delivery
import OrderDesk.Failure
import OrderDesk.Instant
import OrderDesk.Json.Reader
import OrderDesk.Json.Value
import OrderDesk.Json.Writer
import OrderDesk.Order
import OrderDesk.Pattern.CharSet
import OrderDesk.Pattern.Matcher
import OrderDesk.Pattern.Node
import OrderDesk.Pattern.Reader
import OrderDesk.Phrase.Book
import OrderDesk.Phrase.Message
import OrderDesk.Phrase.Reader
import OrderDesk.Phrase.Russian
import OrderDesk.Pricing
import OrderDesk.Program
import OrderDesk.Proofs.Cart
import OrderDesk.Proofs.Conversation.Coherence
import OrderDesk.Proofs.Conversation.Deed
import OrderDesk.Proofs.Conversation.Handlers
import OrderDesk.Proofs.Conversation.Request
import OrderDesk.Proofs.Conversation.Surroundings
import OrderDesk.Proofs.Conversation.Ways
import OrderDesk.Proofs.Orders.Amounts
import OrderDesk.Proofs.Orders.Deadline
import OrderDesk.Proofs.Orders.Identifiers
import OrderDesk.Proofs.Orders.Lines
import OrderDesk.Proofs.Orders.Prices
import OrderDesk.Proofs.Orders.WellFormed
import OrderDesk.Proofs.Program.Along
import OrderDesk.Proofs.Store.Collect
import OrderDesk.Proofs.Store.Customers
import OrderDesk.Proofs.Store.Writes
import OrderDesk.Proofs.World.History
import OrderDesk.Proofs.World.Reach
import OrderDesk.Record.Actions
import OrderDesk.Record.Failures
import OrderDesk.Record.Fields
import OrderDesk.Record.Records
import OrderDesk.Record.Transcript
import OrderDesk.Rehearsal
import OrderDesk.Settings
import OrderDesk.Sql.Datum
import OrderDesk.Sql.Statement
import OrderDesk.Step
import OrderDesk.Store.Call
import OrderDesk.Store.Database
import OrderDesk.Store.Memory
import OrderDesk.Store.Script
import OrderDesk.Store.Tables
import OrderDesk.Text.Basic
import OrderDesk.Text.Folding
import OrderDesk.Text.Quoted
import OrderDesk.Text.Word
import OrderDesk.Url.Address
import OrderDesk.Url.Domain
import OrderDesk.Url.Host
import OrderDesk.Url.Path
import OrderDesk.Url.Percent
import OrderDesk.Url.Punycode
import OrderDesk.Uuid
import OrderDesk.World
import OrderDesk.Proofs.Store.Catalog
import OrderDesk.Proofs.Conversation.Confinement
import OrderDesk.Proofs.Store.Portion
import OrderDesk.Proofs.World.Isolation
import OrderDesk.Proofs.Callback.Data
import OrderDesk.Proofs.Callback.Action
import OrderDesk.Proofs.Conversation.Buttons
import OrderDesk.Proofs.Conversation.Shown
import OrderDesk.Proofs.Conversation.Presses
import OrderDesk.Proofs.World.Presses
import OrderDesk.Proofs.Text.Split
import OrderDesk.Proofs.Callback.Grammar
import OrderDesk.Proofs.Store.Announcements
import OrderDesk.Proofs.World.Shelf
import OrderDesk.Proofs.Conversation.Graph
import OrderDesk.Proofs.Orders.Payment
import OrderDesk.Proofs.Conversation.Overflow
import OrderDesk.Proofs.Conversation.Results
import OrderDesk.Proofs.Conversation.Refusals
import OrderDesk.Proofs.Conversation.Albums
import OrderDesk.Proofs.Sql.Meaning
import OrderDesk.Proofs.Store.Engine
import OrderDesk.Proofs.Store.Rows
import OrderDesk.Proofs.Store.CatalogTable
import OrderDesk.Proofs.Store.Heap
import OrderDesk.Proofs.Store.Refinement
import OrderDesk.Proofs.Orders.ShortIds
import OrderDesk.Proofs.World.Controls
import OrderDesk.Proofs.Orders.Setback
import OrderDesk.Proofs.Uuid
import OrderDesk.Proofs.Json.RoundTrip
import OrderDesk.Proofs.Record.RoundTrip
import OrderDesk.Proofs.Store.ReadBack
import OrderDesk.Proofs.Store.Sending
import OrderDesk.Proofs.Conversation.Said
import OrderDesk.Proofs.World.Removal
import OrderDesk.Proofs.World.Ranking
import OrderDesk.Proofs.Sql.Update
import OrderDesk.Proofs.Store.Updates
import OrderDesk.Proofs.Program.Rounds
import OrderDesk.Proofs.Store.Transactions
import OrderDesk.Proofs.Text.Blank
import OrderDesk.Proofs.Pattern.CharSet
import OrderDesk.Proofs.Pattern.Matcher
import OrderDesk.Proofs.Answer
import OrderDesk.Proofs.Decimal.Unsigned
import OrderDesk.Proofs.Conversation.Quotation
import OrderDesk.Proofs.Conversation.Flow
import OrderDesk.Proofs.World.Calculator
import OrderDesk.Proofs.World.Estimate
import OrderDesk.Proofs.World.Questions
import OrderDesk.Proofs.Cart.Edits
import OrderDesk.Proofs.Catalog.Paging
import OrderDesk.Proofs.Catalog.Renumbering
