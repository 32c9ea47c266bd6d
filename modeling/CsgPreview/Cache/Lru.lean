import CsgPreview.Log
import CsgPreview.Decimal.Fixed

/-!
A cache bounded by the total weight of what it holds, evicting the least recently used entries.

Every lookup, hit or miss, advances a clock; a hit stamps the entry with the new time. Beside
the entries a map from stamps to keys, kept in stamp order, says which entry is oldest. Storing
replaces an entry of the same key; a value heavier than the whole budget is not kept. After a
store, or a smaller budget, keys leave from the front of the stamp map until the total fits.
The total is a machine word: adding a weight wraps past the largest word. Lookups through
`getOrCompute` count hits and misses; clearing keeps the counters.
-/

namespace CsgPreview.Cache

/-- A stored value with its weight and the time of its last use. -/
structure Entry (V : Type) where
  value : V
  weight : Nat
  stamp : Nat

/-- A weight-bounded cache with its counters; `order` maps stamps to keys, oldest first. -/
structure LruCache (V : Type) where
  name : String
  entries : List (String × Entry V) := []
  order : List (Nat × String) := []
  total : Nat := 0
  max : Nat
  clock : Nat := 0
  hits : Nat := 0
  misses : Nat := 0
  evictions : Nat := 0

/-- Counters and sizes of a cache at one moment. -/
structure CacheStats where
  name : String
  entries : Nat
  weight : Nat
  maxWeight : Nat
  hits : Nat
  misses : Nat
  evictions : Nat
  deriving Inhabited

def CacheStats.hitRate (s : CacheStats) : Float32 :=
  let lookups := s.hits + s.misses
  if lookups == 0 then 0 else (s.hits.toFloat32 / lookups.toFloat32) * 100

def CacheStats.text (s : CacheStats) : String :=
  s.name ++ ": " ++ toString s.entries ++ " entries, " ++ toString s.weight ++ " / " ++
    toString s.maxWeight ++ " bytes, hit rate " ++ Decimal.fixedOfFloat32 s.hitRate 1 ++ "%"

def wordModulus : Nat := 18446744073709551616

def wordAdd (a b : Nat) : Nat := (a + b) % wordModulus

def wordSub (a b : Nat) : Nat := (a + wordModulus - b) % wordModulus

/-- Map a stamp to a key in a stamp map, in its place by stamp; a stamp already there is
replaced. -/
def orderInsert (stamp : Nat) (key : String) : List (Nat × String) → List (Nat × String)
  | [] => [(stamp, key)]
  | (s, k) :: rest =>
    if s < stamp then (s, k) :: orderInsert stamp key rest
    else if stamp < s then (stamp, key) :: (s, k) :: rest
    else (stamp, key) :: rest

def orderErase (stamp : Nat) : List (Nat × String) → Option String × List (Nat × String)
  | [] => (none, [])
  | (s, k) :: rest =>
    if s = stamp then (some k, rest)
    else ((orderErase stamp rest).1, (s, k) :: (orderErase stamp rest).2)

namespace LruCache

variable {V : Type}

def create (name : String) (max : Nat) : LruCache V := { name, max }

def find? (c : LruCache V) (key : String) : Option (Entry V) :=
  (c.entries.find? (·.1 == key)).map (·.2)

/-- Advance the clock and, on a hit, stamp the entry with it and move its key to the new stamp in
the stamp map. -/
def touch (c : LruCache V) (key : String) : LruCache V × Option V :=
  let clock := c.clock + 1
  match c.find? key with
  | none => ({ c with clock }, none)
  | some e =>
    let order := match orderErase e.stamp c.order with
      | (some k, rest) => orderInsert clock k rest
      | (none, _) => c.order
    ({ c with clock, order, entries := c.entries.map fun (k, x) =>
        if k == key then (k, { x with stamp := clock }) else (k, x) }, some e.value)

def remove (c : LruCache V) (key : String) : LruCache V :=
  match c.find? key with
  | none => c
  | some e =>
    { c with entries := c.entries.filter (·.1 != key), order := (orderErase e.stamp c.order).2,
             total := wordSub c.total e.weight }

/-- Evict until the total fits the budget: take the first key of the stamp map and drop its entry.
Each round takes a stamp out, so there are at most as many rounds as stamps. -/
def evictToBudget (c : LruCache V) : Logged (LruCache V) :=
  let rec go : Nat → LruCache V → Logged (LruCache V)
    | 0, c => pure c
    | fuel + 1, c =>
      if c.total > c.max then
        match c.order with
        | [] => pure c
        | (_, key) :: order =>
          match c.find? key with
          | none => go fuel { c with order }
          | some e => do
            report .debug .lru (c.name ++ ": evicted entry of weight " ++ toString e.weight)
            go fuel { c with order, entries := c.entries.filter (·.1 != key),
                             total := wordSub c.total e.weight, evictions := c.evictions + 1 }
      else pure c
  go (c.order.length + 1) c

def get (c : LruCache V) (key : String) : LruCache V × Option V := c.touch key

def contains (c : LruCache V) (key : String) : Bool := (c.find? key).isSome

/-- Store a value of a given weight, replacing the entry of the key, and evict past the budget;
a value heavier than the budget is not kept. -/
def insert (c : LruCache V) (key : String) (value : V) (weight : Nat) : Logged (LruCache V) := do
  let c := c.remove key
  if weight > c.max then
    report .debug .lru (c.name ++ ": not caching entry of weight " ++ toString weight ++
      " (budget " ++ toString c.max ++ ")")
    return c
  let clock := c.clock + 1
  let order := orderInsert clock key c.order
  let entries := c.entries ++ [(key, ⟨value, weight, clock⟩)]
  evictToBudget { c with clock, order, entries, total := wordAdd c.total weight }

/-- The cached value of a key counted as a hit, or a miss; on a miss the caller computes and
stores the value. -/
def lookup (c : LruCache V) (key : String) : LruCache V × Option V :=
  match c.touch key with
  | (c, some v) => ({ c with hits := c.hits + 1 }, some v)
  | (c, none) => ({ c with misses := c.misses + 1 }, none)

/-- The cached value of a key counted as a hit, or else the value `compute` gives, stored with
the weight `weight` gives it. `compute` runs only on a miss; when it fails nothing is stored. -/
def getOrCompute {ε : Type} (c : LruCache V) (key : String) (compute : Unit → Except ε V)
    (weight : V → Nat) : Logged (LruCache V × Except ε V) :=
  match c.lookup key with
  | (c, some v) => pure (c, .ok v)
  | (c, none) =>
    match compute () with
    | .error e => pure (c, .error e)
    | .ok v => do return (← c.insert key v (weight v), .ok v)

def setMax (c : LruCache V) (max : Nat) : Logged (LruCache V) := evictToBudget { c with max }

def clear (c : LruCache V) : LruCache V := { c with entries := [], order := [], total := 0 }

def size (c : LruCache V) : Nat := c.entries.length

def stats (c : LruCache V) : CacheStats :=
  ⟨c.name, c.entries.length, c.total, c.max, c.hits, c.misses, c.evictions⟩

end LruCache

end CsgPreview.Cache
