import Shardman.Foundation.Program
import Shardman.Store.Operations

namespace Shardman
namespace Control

open Fsm
open Bucket
open Store
open Foundation

/-!
# Resolving keys to shards

A resolve classifies its key and then looks for the shards of the bucket.  When
a bucket has no fresh active shard it is given one: a silent active shard is
rotated out, and a bucket without any shard in service gets a standby.  All of
this is a sequence of separate queries and transactions; nothing holds between
two of them except what the database enforces.
-/

/-- A program of the control plane. -/
abbrev Routine (X : Type) := Program Op Reply X

/-- Issue one operation of the store. -/
abbrev ask (op : Op) : Routine (Reply op) := Program.ask op

inductive ResolveError
  | store (failure : StoreError)
  | routing
deriving DecidableEq, Repr

structure WriteResult where
  routing : RouteKind
  bucketID : String
  reason : Option RouteReason
  shardID : Nat
  uuid : String
  endpoint : String
  state : String
deriving DecidableEq, Repr

structure ReadShard where
  shardID : Nat
  uuid : String
  endpoint : String
  state : String
deriving DecidableEq, Repr

structure ReadResult where
  routing : RouteKind
  bucketID : String
  reason : Option RouteReason
  shards : List ReadShard
deriving DecidableEq, Repr

def writeResult (platform : Platform) (routing : RouteKind) (bucketID : String) (reason : Option RouteReason)
    (shard : Shard) : WriteResult :=
  ⟨routing, bucketID, reason, shard.id, platform.uuidString shard.shardUUID, endpoint shard, shard.state.text⟩

def readShard (platform : Platform) (shard : Shard) : ReadShard :=
  ⟨shard.id, platform.uuidString shard.shardUUID, endpoint shard, shard.state.text⟩

/-! ## Keeping an active shard in place -/

/-- Promote a standby, then fetch the row in a query of its own. -/
def promoteStandbyToActive (bucketID : String) : Routine (Except StoreError Shard) := do
  let promoted : Except StoreError Nat <- ask (.promoteStandby bucketID)
  match promoted with
  | .error failure => pure (.error failure)
  | .ok id =>
      let found : Option Shard <- ask (.getShardByID id)
      match found with
      | some shard => pure (.ok shard)
      | none => pure (.error .notFound)

/-- Promote a standby unless the bucket turns out to have a shard in service.
`none` says that it has a fresh active shard after all. -/
def autoPromoteIfNoActive (bucketID : String) : Routine (Except StoreError (Option Shard)) := do
  let active : Option Shard <- ask (.activeForBucket bucketID)
  match active with
  | some _ => pure (.ok none)
  | none =>
      let hasActiveOrDraining : Bool <- ask (.hasActiveInBucket bucketID)
      if hasActiveOrDraining then
        pure (.error .notFound)
      else
        let stale : Option Shard <- ask (.staleActiveForBucket bucketID)
        match stale with
        | some _ => pure (.error .notFound)
        | none =>
            let promoted <- promoteStandbyToActive bucketID
            pure (promoted.map some)

/-- Rotate a silent active shard out.  A rotation that finds nothing to rotate
or loses a race is no error. -/
def failoverStaleActive (bucketID : String) : Routine (Except StoreError Unit) := do
  let stale : Option Shard <- ask (.staleActiveForBucket bucketID)
  match stale with
  | none => pure (.ok ())
  | some stale =>
      let rotated : Except StoreError Unit <- ask (.sealRotate bucketID (.failover stale))
      match rotated with
      | .ok () => pure (.ok ())
      | .error .notFound => pure (.ok ())
      | .error .conflict => pure (.ok ())
      | .error failure => pure (.error failure)

def ensureActive (bucketID : String) : Routine (Except StoreError Shard) := do
  let active : Option Shard <- ask (.activeForBucket bucketID)
  match active with
  | some shard => pure (.ok shard)
  | none =>
      match <- failoverStaleActive bucketID with
      | .error failure => pure (.error failure)
      | .ok () =>
          let active : Option Shard <- ask (.activeForBucket bucketID)
          match active with
          | some shard => pure (.ok shard)
          | none =>
              match <- autoPromoteIfNoActive bucketID with
              | .error failure => pure (.error failure)
              | .ok (some promoted) => pure (.ok promoted)
              | .ok none =>
                  let active : Option Shard <- ask (.activeForBucket bucketID)
                  match active with
                  | some shard => pure (.ok shard)
                  | none => pure (.error .notFound)

/-! ## Resolving -/

/-- The window of a configuration; absent columns count as zero. -/
def classifyWriteFor (platform : Platform) (config : ClusterConfig) (now : Time) (shardKey : Key) :
    Option WriteRoute :=
  classifyWrite platform config.bucketSpec now shardKey (config.retentionDepth.getD 0)
    (config.maxFutureBuckets.getD 0)

def classifyReadFor (platform : Platform) (config : ClusterConfig) (now : Time) (shardKey : Key) :
    Option WriteRoute :=
  classifyRead platform config.bucketSpec now shardKey (config.retentionDepth.getD 0)
    (config.maxFutureBuckets.getD 0)

def resolveWrite (platform : Platform) (shardKey : Key) : Routine (Except ResolveError WriteResult) := do
  let loaded : Except StoreError ClusterConfig <- ask .getConfig
  match loaded with
  | .error failure => pure (.error (.store failure))
  | .ok config =>
      let now : Time <- ask .clock
      match classifyWriteFor platform config now shardKey with
      | none => pure (.error .routing)
      | some route =>
          match route.kind with
          | .error =>
              let found : Option Shard <- ask .getErrorShard
              match found with
              | none => pure (.error (.store .notFound))
              | some shard => pure (.ok (writeResult platform .error errorBucketID route.reason shard))
          | .bucket =>
              match <- ensureActive route.bucketID with
              | .error failure => pure (.error (.store failure))
              | .ok shard => pure (.ok (writeResult platform .bucket route.bucketID none shard))

def resolveRead (platform : Platform) (shardKey : Key) : Routine (Except ResolveError ReadResult) := do
  let loaded : Except StoreError ClusterConfig <- ask .getConfig
  match loaded with
  | .error failure => pure (.error (.store failure))
  | .ok config =>
      let now : Time <- ask .clock
      match classifyReadFor platform config now shardKey with
      | none => pure (.error .routing)
      | some route =>
          match route.kind with
          | .error =>
              if route.reason = some .evicted then
                pure (.ok ⟨.error, "", route.reason, []⟩)
              else
                let found : Option Shard <- ask .getErrorShard
                match found with
                | none => pure (.error (.store .notFound))
                | some shard =>
                    pure (.ok ⟨.error, errorBucketID, route.reason, [readShard platform shard]⟩)
          | .bucket =>
              let shards : List Shard <- ask (.shardsForBucketRead route.bucketID)
              if shards = [] then
                match <- ensureActive route.bucketID with
                | .error failure => pure (.error (.store failure))
                | .ok promoted =>
                    pure (.ok ⟨.bucket, route.bucketID, none, [readShard platform promoted]⟩)
              else
                pure (.ok ⟨.bucket, route.bucketID, none, shards.map (readShard platform)⟩)

end Control
end Shardman
