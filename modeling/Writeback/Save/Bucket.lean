import Writeback.Save.Record

/-!
# Buckets of new objects

New objects wait in a bucket of their type, one for foreground and one for background creates, and
leave it in the order they came. A background bucket sends all it holds in one request, a
foreground bucket at most the batch limit. The bodies of answers are held in the bucket until it
is empty.
-/

namespace Writeback

/-- A requested save: which object, and which handle learns how it ends. -/
structure Save where
  object : Nat
  handle : Nat
deriving DecidableEq, Repr

structure BucketKey where
  typeName : String
  background : Bool
deriving DecidableEq, Repr

namespace BucketKey

def ofSaveable (s : Saveable) : BucketKey := ⟨s.model.singular, s.background⟩

def name (k : BucketKey) : String := if k.background then k.typeName ++ "_bg" else k.typeName

/-- The order in which buckets are listed: by type, foreground first. -/
def before (a b : BucketKey) : Bool :=
  a.typeName < b.typeName || (a.typeName == b.typeName && (!a.background || b.background))

end BucketKey

/-- A batch that went out together, and the body that answered it. -/
structure HeldResponse where
  batch : List Save
  body : Json
deriving DecidableEq, Repr

/-- New objects of one type that wait for a batch, and the answers to earlier batches. -/
structure Bucket where
  key : BucketKey
  plural : String
  pending : List Save := []
  held : List HeldResponse := []
  /-- A cycle of this bucket is queued or running. -/
  inFlight : Bool := false
deriving DecidableEq, Repr

namespace Bucket

def push (b : Bucket) (save : Save) : Bucket := { b with pending := b.pending ++ [save] }

def batchSize (b : Bucket) (limit : Nat) : Nat :=
  if b.key.background then b.pending.length else min limit b.pending.length

def nextBatch (b : Bucket) (limit : Nat) : List Save := b.pending.take (b.batchSize limit)

def afterBatch (b : Bucket) (limit : Nat) : Bucket :=
  { b with pending := b.pending.drop (b.batchSize limit) }

/-- The bucket with nothing left in it, out of flight. -/
def emptied (b : Bucket) : Bucket := { b with pending := [], held := [], inFlight := false }

end Bucket

end Writeback
