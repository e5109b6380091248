import FlashSale.Catalogue.Registry
import FlashSale.Http.Head
import FlashSale.Main
import FlashSale.Rehearsal
import FlashSale.Startup.Start
import FlashSale.Watcher.Script
import FlashSale.Proofs.RateLimit.Eviction
import FlashSale.Proofs.RateLimit.Ordered
import FlashSale.Proofs.Text.Decimal
import FlashSale.Proofs.Gateway.Run
import FlashSale.Proofs.Gateway.Cap
import FlashSale.Proofs.Catalogue.Accepted
import FlashSale.Proofs.Store.History
import FlashSale.Proofs.Store.Stream
import FlashSale.Proofs.Watcher.Following
import FlashSale.Proofs.Watcher.Convergence
import FlashSale.Proofs.Watcher.Disruption
import FlashSale.Proofs.Catalogue.Listing
import FlashSale.Proofs.Watcher.Run
import FlashSale.Proofs.Watcher.Served
import FlashSale.Proofs.Watcher.Exchanges
import FlashSale.Proofs.Watcher.Reconnect
import FlashSale.Proofs.Gateway.Inert
import FlashSale.Proofs.Text.Utf8
import FlashSale.Proofs.Text.Pieces
import FlashSale.Proofs.Text.Percent
import FlashSale.Proofs.RequestId
import FlashSale.Proofs.Http.Pairs
import FlashSale.Proofs.Http.Transparency
import FlashSale.Proofs.Json.Grammar
import FlashSale.Proofs.Json.Data
import FlashSale.Proofs.Json.Reading
import FlashSale.Proofs.Json.Rendering
import FlashSale.Proofs.Answer.ReadBack
import FlashSale.Proofs.Catalogue.Stored
import FlashSale.Proofs.Text.Base64
import FlashSale.Proofs.Store.Etcd.Documents
import FlashSale.Proofs.Store.Etcd.Delivery
import FlashSale.Proofs.Signature
import FlashSale.Proofs.Gateway.Admission
import FlashSale.Proofs.Store.Subscriptions
import FlashSale.Proofs.Gateway.Offers
import FlashSale.Proofs.Store.Etcd.Lines
import FlashSale.Proofs.Http.Routing
import FlashSale.Proofs.Catalogue.RoundTrip
import FlashSale.Proofs.RateLimit.Memory
import FlashSale.Proofs.Watcher.Scripted
import FlashSale.Proofs.Watcher.Shutdown
import FlashSale.Proofs.Gateway.Bootstrap
import FlashSale.Proofs.Catalogue.Publication
import FlashSale.Proofs.Http.Queries
import FlashSale.Proofs.Http.Cookies
import FlashSale.Proofs.Settings.Endpoints
import FlashSale.Proofs.Settings.WatchedKey
import FlashSale.Proofs.Settings.Overrides
import FlashSale.Proofs.Startup.Options
import FlashSale.Proofs.Toml.Names
import FlashSale.Proofs.Settings.File
import FlashSale.Proofs.Startup.Layers
