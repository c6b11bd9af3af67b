import Stateform.Auth.Context
import Stateform.Auth.Credentials
import Stateform.Auth.Fetches
import Stateform.Auth.Jwt
import Stateform.Auth.KeyCache
import Stateform.Auth.Pipeline
import Stateform.Cache.Bounded
import Stateform.Cache.Control
import Stateform.Cache.Directives
import Stateform.Cache.Freshness
import Stateform.Cache.Invalidation
import Stateform.Cache.Key
import Stateform.Cache.Layers
import Stateform.Cache.Replay
import Stateform.Cache.ResponseCache
import Stateform.Cache.Shared
import Stateform.Cache.Variants
import Stateform.Cache.Vary
import Stateform.Config.Schema
import Stateform.Config.Validation
import Stateform.ControlPlane.Admin
import Stateform.ControlPlane.Agreement
import Stateform.ControlPlane.Broadcast
import Stateform.ControlPlane.Current
import Stateform.ControlPlane.DataPlane
import Stateform.ControlPlane.Delivery
import Stateform.ControlPlane.Loader
import Stateform.ControlPlane.Progress
import Stateform.ControlPlane.Registration
import Stateform.ControlPlane.Reloads
import Stateform.ControlPlane.Server
import Stateform.ControlPlane.Steps
import Stateform.ControlPlane.Watcher
import Stateform.Core.ActiveConfig
import Stateform.Core.Answers
import Stateform.Core.Concurrency
import Stateform.Core.Connections
import Stateform.Core.Copies
import Stateform.Core.Deadlock
import Stateform.Core.Effects
import Stateform.Core.Fleet
import Stateform.Core.Gauge
import Stateform.Core.Hashing
import Stateform.Core.HeaderValues
import Stateform.Core.Health
import Stateform.Core.HotReload
import Stateform.Core.Latency
import Stateform.Core.LeastConnections
import Stateform.Core.Listener
import Stateform.Core.Override
import Stateform.Core.Panics
import Stateform.Core.Pipeline
import Stateform.Core.Probes
import Stateform.Core.Recorder
import Stateform.Core.Recovery
import Stateform.Core.RequestCount
import Stateform.Core.RequestIds
import Stateform.Core.Response
import Stateform.Core.Retries
import Stateform.Core.RoundRobin
import Stateform.Core.Server
import Stateform.Core.Settling
import Stateform.Core.Shutdown
import Stateform.Core.Stages
import Stateform.Core.StoreKey
import Stateform.Core.Upstream
import Stateform.Http.Header
import Stateform.Http.Text
import Stateform.Library.BinarySearch
import Stateform.Library.Counter
import Stateform.Library.Expiry
import Stateform.Library.FloorMean
import Stateform.Library.LastWrite
import Stateform.Library.Multimap
import Stateform.Library.Numbered
import Stateform.Library.PathMap
import Stateform.Library.Progress
import Stateform.Library.Quota
import Stateform.Library.RoundRobin
import Stateform.Library.Run
import Stateform.Library.Semaphore
import Stateform.Library.SortedSet
import Stateform.Library.Spacing
import Stateform.Library.TokenBucket
import Stateform.Library.Versions
import Stateform.Library.Waiting
import Stateform.Library.Watch
import Stateform.Library.Words
import Stateform.RateLimit.Aborts
import Stateform.RateLimit.Denials
import Stateform.RateLimit.Distributed
import Stateform.RateLimit.Expiry
import Stateform.RateLimit.Isolation
import Stateform.RateLimit.Key
import Stateform.RateLimit.Keys
import Stateform.RateLimit.Limiter
import Stateform.RateLimit.Refill
import Stateform.RateLimit.Remaining
import Stateform.RateLimit.Retry
import Stateform.RateLimit.RetryAfter
import Stateform.RateLimit.Scripts
import Stateform.RateLimit.SharedBucket
import Stateform.RateLimit.Window
import Stateform.Router.Matching
import Stateform.Router.Order
import Stateform.Router.Predicate
import Stateform.Router.Relevance
import Stateform.Router.Router
import Stateform.Router.Trie
import Stateform.Router.TrieRefinement
import Stateform.Router.TrieRuns
