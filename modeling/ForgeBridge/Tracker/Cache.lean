import ForgeBridge.Tracker.Resolution

/-!
The issues that were looked up lately. Of more than the cache can hold, the one that was not used for
the longest time goes; an entry that is too old is not served.
-/

namespace ForgeBridge.Tracker

/-- A summary with the time when it was stored. -/
structure Entry where
  summary : Summary
  storedAt : Nat
deriving DecidableEq

/-- Entries by key, those used last in front. -/
structure Cache where
  entries : List (String × Entry)
deriving DecidableEq

namespace Cache

/-- How many entries there can be. -/
def capacity : Nat := 1024

/-- How long an entry is served: five minutes, in nanoseconds. -/
def lifetime : Nat := 300 * 1000000000

def empty : Cache := ⟨[]⟩

def isExpired (now : Nat) (e : Entry) : Bool := lifetime < now - e.storedAt

/-- The entry of a key. -/
def get? (c : Cache) (key : String) : Option Entry := c.entries.lookup key

/-- The cache without a key. -/
def erase (c : Cache) (key : String) : Cache := ⟨c.entries.filter (·.1 ≠ key)⟩

/-- Puts an entry in front. A key that is new takes the place of the last one when the cache is
full. -/
def put (c : Cache) (key : String) (e : Entry) : Cache :=
  let others := (c.erase key).entries
  ⟨(key, e) :: others.take (capacity - 1)⟩

/-- Serves a key from the cache: an entry that is not too old is in front then, one that is too old
is gone. -/
def serve (c : Cache) (now : Nat) (key : String) : Option Summary × Cache :=
  match c.get? key with
  | none => (none, c)
  | some e => if isExpired now e then (none, c.erase key) else (some e.summary, c.put key e)

/-- Stores a summary. -/
def store (c : Cache) (now : Nat) (key : String) (s : Summary) : Cache := c.put key ⟨s, now⟩

end Cache

end ForgeBridge.Tracker
