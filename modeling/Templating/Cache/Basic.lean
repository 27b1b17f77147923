import Templating.Config.Basic
import Templating.Error
import Templating.Pipeline.Basic

/-!
The slots of a cache and the short actions on them.

A cache lists one slot for each key, the least recently used key first.  A slot that has left
the list is never listed again, but whoever obtained it before goes on to use it.  The caller
that holds a slot is the only one to read or write its state; the status is a copy of the
state's kind that anyone may read.  Every definition in this module is one action that other
callers cannot interrupt; `Session` and `Machine` put them together.
-/

namespace Templating

/-- A value that was published with the number that tells it from all others. -/
structure Shared (α : Type u) where
  serial : Nat
  content : α
deriving DecidableEq

/-- What a slot holds: nothing yet, an artifact, or a failure with the inputs that led to it. -/
inductive SlotState (L : Type u) where
  | vacant
  | ready (artifact : Shared (Artifact L))
  | failed (fingerprint : Fingerprint) (error : TemplateError)

inductive Status where
  | vacant
  | ready
  | failed
deriving DecidableEq, Repr, Inhabited

def SlotState.status : SlotState L → Status
  | .vacant => .vacant
  | .ready _ => .ready
  | .failed _ _ => .failed

structure Slot (L : Type u) where
  state : SlotState L := .vacant
  status : Status := .vacant

namespace Slot

instance : Inhabited (Slot L) := ⟨{}⟩

def isReady (slot : Slot L) : Bool :=
  slot.status = .ready

/-- A settled slot counts towards the capacity. -/
def isSettled (slot : Slot L) : Bool :=
  slot.status ≠ .vacant

end Slot

abbrev SlotId := Nat

structure Cache (L : Type u) where
  /-- How many settled slots may be listed; any number, if absent. -/
  capacity : Option Nat
  failurePolicy : FailurePolicy
  /-- The slot of each key, the least recently used key first. -/
  entries : List (String × SlotId) := []
  /-- All slots that were ever made. -/
  slots : Array (Slot L) := #[]
  /-- The slots whose locks are taken, the latest first. -/
  held : List SlotId := []
  /-- How many artifacts were published. -/
  published : Nat := 0

namespace Cache

/-- An empty cache; a capacity of zero is no bound. -/
def create (capacity : Option Nat) (failurePolicy : FailurePolicy) : Cache L where
  capacity := capacity.filter (· ≠ 0)
  failurePolicy := failurePolicy

def ofConfig (config : Config) : Cache L :=
  create config.cacheCapacity config.failurePolicy

def slot (cache : Cache L) (id : SlotId) : Slot L :=
  cache.slots.getD id {}

def setSlot (cache : Cache L) (id : SlotId) (slot : Slot L) : Cache L :=
  { cache with slots := cache.slots.setIfInBounds id slot }

/-! ## Under the lock of the list -/

def find? (cache : Cache L) (key : String) : Option SlotId :=
  cache.entries.lookup key

def isCurrent (cache : Cache L) (key : String) (id : SlotId) : Bool :=
  cache.find? key = some id

def others (cache : Cache L) (key : String) : List (String × SlotId) :=
  cache.entries.filter fun entry => entry.1 ≠ key

def touch (cache : Cache L) (key : String) (id : SlotId) : Cache L :=
  { cache with entries := cache.others key ++ [(key, id)] }

/-- The slot of a key, which becomes the most recently used one.  A key without a slot gets a
vacant one. -/
def slotFor (cache : Cache L) (key : String) : SlotId × Cache L :=
  match cache.find? key with
  | some id => (id, cache.touch key id)
  | none =>
      let id := cache.slots.size
      (id, { cache with
        entries := cache.entries ++ [(key, id)]
        slots := cache.slots.push {} })

def unlist (cache : Cache L) (key : String) : Cache L :=
  { cache with entries := cache.others key }

/-- Takes a slot off the list if it is still the one of its key. -/
def discard (cache : Cache L) (key : String) (id : SlotId) : Cache L :=
  if cache.isCurrent key id then cache.unlist key else cache

def clear (cache : Cache L) : Cache L :=
  { cache with entries := [] }

/-- The keys whose slots hold artifacts, the least recently used first. -/
def keys (cache : Cache L) : List String :=
  (cache.entries.filter fun entry => (cache.slot entry.2).isReady).map Prod.fst

/-- How many artifacts are listed; keys that are being compiled for the first time do not
count. -/
def size (cache : Cache L) : Nat :=
  cache.entries.countP fun entry => (cache.slot entry.2).isReady

def isEmpty (cache : Cache L) : Bool :=
  cache.size = 0

def settledCount (cache : Cache L) : Nat :=
  cache.entries.countP fun entry => (cache.slot entry.2).isSettled

/-! ## Under the lock of a slot -/

def isHeld (cache : Cache L) (id : SlotId) : Bool :=
  cache.held.contains id

def hold (cache : Cache L) (id : SlotId) : Cache L :=
  { cache with held := id :: cache.held }

def release (cache : Cache L) (id : SlotId) : Cache L :=
  { cache with held := cache.held.erase id }

/-- The answer that a slot has for a fingerprint: the artifact of the same fingerprint, or, if
failures are remembered, the failure of the same fingerprint. -/
def answer? (cache : Cache L) (id : SlotId) (fingerprint : Fingerprint) :
    Option (Except TemplateError (Shared (Artifact L))) :=
  match (cache.slot id).state with
  | .ready artifact =>
      if artifact.content.fingerprint = fingerprint then some (.ok artifact) else none
  | .failed failed error =>
      if failed = fingerprint ∧ cache.failurePolicy = .remember then some (.error error) else none
  | .vacant => none

def artifact? (cache : Cache L) (id : SlotId) : Option (Shared (Artifact L)) :=
  match (cache.slot id).state with
  | .ready artifact => some artifact
  | _ => none

/-- Replaces the state of a slot and leaves its status. -/
def write (cache : Cache L) (id : SlotId) (state : SlotState L) : Cache L :=
  cache.setSlot id { cache.slot id with state }

/-- Brings the status of a slot in step with its state. -/
def publish (cache : Cache L) (id : SlotId) : Cache L :=
  cache.setSlot id { cache.slot id with status := (cache.slot id).state.status }

def share (cache : Cache L) (artifact : Artifact L) : Shared (Artifact L) × Cache L :=
  (⟨cache.published, artifact⟩, { cache with published := cache.published + 1 })

/-! ## Eviction -/

/-- How far a scan for victims has come, and how many settled slots it has left. -/
structure Scan where
  index : Nat
  settled : Nat
deriving DecidableEq, Repr

/-- Only settled slots that nobody holds are evicted. -/
def isEvictable (cache : Cache L) (id : SlotId) : Bool :=
  (cache.slot id).isSettled && !cache.isHeld id

/-- One step of a scan: it ends at the end of the list or when few enough settled slots are
left, and otherwise evicts the slot in front of it or passes it. -/
def scanStep (capacity : Nat) (cache : Cache L) (scan : Scan) :
    Option (Scan × Cache L × Option String) :=
  match cache.entries[scan.index]? with
  | none => none
  | some (key, id) =>
      if scan.settled ≤ capacity then none
      else if cache.isEvictable id then
        some ({ scan with settled := scan.settled - 1 },
          { cache with entries := cache.entries.eraseIdx scan.index }, some key)
      else some ({ scan with index := scan.index + 1 }, cache, none)

/-- Each step brings a scan closer to the end of the list. -/
theorem scanStep_shorter {capacity : Nat} {cache next : Cache L} {scan nextScan : Scan}
    {evicted : Option String}
    (stepped : cache.scanStep capacity scan = some (nextScan, next, evicted)) :
    next.entries.length - nextScan.index < cache.entries.length - scan.index := by
  unfold scanStep at stepped
  split at stepped
  · contradiction
  · next key id found =>
      have within : scan.index < cache.entries.length := (List.getElem?_eq_some_iff.mp found).1
      split at stepped
      · contradiction
      · split at stepped
        · simp only [Option.some.injEq, Prod.mk.injEq] at stepped
          obtain ⟨rfl, rfl, _⟩ := stepped
          simp only [List.length_eraseIdx, within, if_true]
          omega
        · simp only [Option.some.injEq, Prod.mk.injEq] at stepped
          obtain ⟨rfl, rfl, _⟩ := stepped
          simp only
          omega

/-- Scans to the end and lists the keys that were evicted. -/
def evict (capacity : Nat) (cache : Cache L) (scan : Scan) : Cache L × List String :=
  match _stepped : cache.scanStep capacity scan with
  | none => (cache, [])
  | some (nextScan, next, evicted) =>
      let (last, more) := evict capacity next nextScan
      (last, evicted.toList ++ more)
termination_by cache.entries.length - scan.index
decreasing_by exact scanStep_shorter _stepped

/-- Evicts the least recently used slots until the capacity is kept, as far as slots can be
evicted. -/
def enforceCapacity (cache : Cache L) : Cache L × List String :=
  match cache.capacity with
  | none => (cache, [])
  | some capacity => cache.evict capacity ⟨0, cache.settledCount⟩

end Cache
end Templating
