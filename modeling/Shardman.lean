import Shardman.Agent.Cleaning
import Shardman.Agent.Privileges
import Shardman.Api.Acknowledged
import Shardman.Api.Authority
import Shardman.Api.Identifiers
import Shardman.Bucket.HashNames
import Shardman.Bucket.Numeric
import Shardman.Bucket.Spellings
import Shardman.Bucket.Window
import Shardman.Bucket.Wire
import Shardman.Cli.Bootstrap
import Shardman.Client.Agree
import Shardman.Client.Cache
import Shardman.Client.Local
import Shardman.Client.Stale
import Shardman.Control.Bootstrap
import Shardman.Control.Eviction
import Shardman.Control.Failover
import Shardman.Control.FailoverAlone
import Shardman.Control.Promotion
import Shardman.Control.ReadHistory
import Shardman.Control.RetentionTick
import Shardman.Control.SealTick
import Shardman.Control.Snapshots
import Shardman.Control.Tenure
import Shardman.Store.Coherence
import Shardman.Store.Concurrent
import Shardman.Store.ConfigCache
import Shardman.Store.Isolated
import Shardman.Store.Progress
import Shardman.Store.Registration
import Shardman.Watch.Converge
import Shardman.Watch.Delivery
