import StubResolver.Duration
import StubResolver.Text.FieldList

/-!
A store of values that expire a fixed time after they were set. Expired items stay until they are
read or deleted in bulk. A key may be stored without a value, which marks it as known to have none.
-/

set_option autoImplicit false

namespace StubResolver

abbrev Instant := Duration

/-- The moment `d` after `t`, unless it is past the end of the clock's range. -/
def Instant.after? (t : Instant) (d : Duration) : Option Instant :=
  if t.nanos + d.nanos < 0x8000000000000000 * 1000000000 then some ⟨t.nanos + d.nanos⟩ else none

structure CacheItem (α : Type) where
  /-- Nothing for a key that is known to have no value. -/
  value : Option α
  /-- Nothing for an item that never expires. -/
  expiration : Option Instant
  deriving DecidableEq, Repr

def CacheItem.expiredAt {α : Type} (i : CacheItem α) (now : Instant) : Bool :=
  match i.expiration with
  | some e => e.nanos < now.nanos
  | none => false

inductive CacheError where
  | keyNotFound (key : String)
  deriving DecidableEq, Repr

def CacheError.message : CacheError → String
  | keyNotFound key => s!"Key {key} does not exist in the cache."

structure Cache (α : Type) where
  items : List (String × CacheItem α)
  /-- How long items live; nothing if they never expire. -/
  expiration : Option Duration
  /-- Whether the janitor, which runs once in every such span, has been left running. -/
  janitor : Bool
  deriving DecidableEq, Repr

namespace Cache

variable {α : Type}

/-- A lifetime of zero keeps items forever, and needs no janitor. -/
def empty (d : Duration) : Cache α :=
  if d.nanos = 0 then ⟨[], none, false⟩ else ⟨[], some d, true⟩

def item? (c : Cache α) (key : String) : Option (CacheItem α) := c.items.lookup key

def delete (c : Cache α) (key : String) : Cache α := { c with items := c.items.filter (·.1 != key) }

/-- Stores a value, or with `none` the mark of absence. A moment too
late for the clock never comes. -/
def set (c : Cache α) (key : String) (value : Option α) (now : Instant) : Cache α :=
  let item : CacheItem α := ⟨value, c.expiration.bind fun d => now.after? d⟩
  { c with items := (key, item) :: c.items.filter (·.1 != key) }

/-- The value under a key that is neither missing nor expired. An expired item is removed. -/
def get (c : Cache α) (key : String) (now : Instant) : Option α × Cache α :=
  match c.item? key with
  | none => (none, c)
  | some i => if i.expiredAt now then (none, c.delete key) else (i.value, c)

def replace (c : Cache α) (key : String) (value : Option α) (now : Instant) :
    Except CacheError Unit × Cache α :=
  match c.get key now with
  | (none, c) => (.error (.keyNotFound key), c)
  | (some _, c) => (.ok (), c.set key value now)

def getAll (c : Cache α) (now : Instant) : List (String × α) :=
  c.items.filterMap fun p => if p.2.expiredAt now then none else p.2.value.map (p.1, ·)

def deleteExpired (c : Cache α) (now : Instant) : Cache α :=
  { c with items := c.items.filter fun p => !p.2.expiredAt now }

def flush (c : Cache α) : Cache α := { c with items := [] }

/-- Counts expired items and marks of absence too. -/
def size (c : Cache α) : Nat := c.items.length

def stopJanitor (c : Cache α) : Cache α := { c with janitor := false }

def janitorRuns (c : Cache α) (d : Duration) : Nat :=
  match c.janitor, c.expiration with
  | true, some e => d.nanos / e.nanos
  | _, _ => 0

def fields (c : Cache α) : String :=
  Text.fieldList "Cache" [("items", toString c.size),
    ("expiration", Text.optional (c.expiration.map Duration.text))] false

end Cache

end StubResolver
