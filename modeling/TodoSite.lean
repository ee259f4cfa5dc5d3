import TodoSite.Address
import TodoSite.AppState
import TodoSite.Asset
import TodoSite.Browser.App
import TodoSite.Browser.Document
import TodoSite.Browser.Session
import TodoSite.Client
import TodoSite.Component
import TodoSite.Decimal.Layout
import TodoSite.Decimal.Shortest
import TodoSite.Form
import TodoSite.Http.MediaType
import TodoSite.Http.MediaType.Table
import TodoSite.Http.Message
import TodoSite.Http.Uri
import TodoSite.Hydration
import TodoSite.ItemForm
import TodoSite.ItemStore
import TodoSite.Json.Fault
import TodoSite.Json.Number
import TodoSite.Json.Record
import TodoSite.Json.Scan
import TodoSite.Json.Skip
import TodoSite.Json.Value
import TodoSite.KeySequence
import TodoSite.Main
import TodoSite.Markup
import TodoSite.Markup.Script
import TodoSite.Model
import TodoSite.Model.Json
import TodoSite.Model.Reader
import TodoSite.NameMap
import TodoSite.Network
import TodoSite.Page
import TodoSite.Path
import TodoSite.Proofs.AppState
import TodoSite.Proofs.AppState.Keys
import TodoSite.Proofs.AppState.Run
import TodoSite.Proofs.Exchange.Agreement
import TodoSite.Proofs.Exchange.Keys
import TodoSite.Proofs.Exchange.Names
import TodoSite.Proofs.Exchange.Snapshot
import TodoSite.Proofs.Exchange.Traces
import TodoSite.Proofs.Exchange.World
import TodoSite.Proofs.Form
import TodoSite.Proofs.Json.Record
import TodoSite.Proofs.Json.Strings
import TodoSite.Proofs.Json.Tokens
import TodoSite.Proofs.KeySequence
import TodoSite.Proofs.KeySequence.Search
import TodoSite.Proofs.Markup.Escape
import TodoSite.Proofs.Markup.Script
import TodoSite.Proofs.Model.Json
import TodoSite.Proofs.NameMap
import TodoSite.Proofs.Page.State
import TodoSite.Proofs.Page.Template
import TodoSite.Proofs.Path
import TodoSite.Proofs.Path.Written
import TodoSite.Proofs.Repository.Items
import TodoSite.Proofs.Repository.Tree
import TodoSite.Proofs.Repository.Written
import TodoSite.Proofs.Text.Blank
import TodoSite.Proofs.Text.Pieces
import TodoSite.Proofs.Text.Replace
import TodoSite.Proofs.Text.Utf8
import TodoSite.Proofs.TodoList
import TodoSite.Proofs.TodoList.Run
import TodoSite.RemoteError
import TodoSite.Repository
import TodoSite.Repository.Export
import TodoSite.Repository.Node
import TodoSite.Router
import TodoSite.Server.Settings
import TodoSite.Server.SocketAddress
import TodoSite.Server.Startup
import TodoSite.Text.Blank
import TodoSite.Text.Hidden
import TodoSite.Text.Pieces
import TodoSite.Text.Quoted
import TodoSite.Text.Utf8
import TodoSite.TodoList
import TodoSite.View
import TodoSite.Proofs.Repository.Export
import TodoSite.Proofs.Router
import TodoSite.Proofs.Http.Uri
import TodoSite.Proofs.Client
import TodoSite.Proofs.ItemForm
import TodoSite.Proofs.Repository.Origin
import TodoSite.Proofs.Component
import TodoSite.Proofs.Browser.App
import TodoSite.Proofs.Component.History
import TodoSite.Proofs.Browser.Session
import TodoSite.Proofs.Path.Way
import TodoSite.Proofs.Repository.Effect
import TodoSite.Proofs.Repository.Apart
import TodoSite.Proofs.Repository.Order
import TodoSite.Proofs.Repository.Refusal
import TodoSite.Proofs.Path.Canonical
import TodoSite.Proofs.Repository.Walk
import TodoSite.Proofs.Markup.Parts
import TodoSite.Proofs.TodoList.Order
import TodoSite.Proofs.Markup.App
import TodoSite.Proofs.AppState.Fetch
import TodoSite.Proofs.Repository.Accepted
import TodoSite.Proofs.Repository.Seed
import TodoSite.Proofs.Component.Dispatch
import TodoSite.Proofs.Router.Page
import TodoSite.Proofs.Server.Startup
