import Templating.Cache.Machine
import Templating.Cache.Request

/-!
The reference for a cache with one caller: a ledger of keys with what became of them, the least
recently used key first.

A ledger has no slots, no locks and no vacant entries.  Each call is answered in one go, and a
call that puts an entry in drops entries from the front until the capacity is kept.
-/

namespace Templating

/-- What a key is listed with once its compile has ended. -/
inductive Settled (L : Type u) where
  | ready (artifact : Shared (Artifact L))
  | failed (fingerprint : Fingerprint) (error : TemplateError)

namespace Settled

def artifact? : Settled L → Option (Shared (Artifact L))
  | .ready artifact => some artifact
  | .failed _ _ => none

def answer? (failurePolicy : FailurePolicy) (fingerprint : Fingerprint) :
    Settled L → Option (Except TemplateError (Shared (Artifact L)))
  | .ready artifact =>
      if artifact.content.fingerprint = fingerprint then some (.ok artifact) else none
  | .failed recorded error =>
      if recorded = fingerprint ∧ failurePolicy = .remember then some (.error error) else none

end Settled

structure Ledger (L : Type u) where
  /-- How many entries are kept; any number, if absent or zero. -/
  capacity : Option Nat
  failurePolicy : FailurePolicy
  entries : List (String × Settled L) := []
  published : Nat := 0

namespace Ledger

def find? (ledger : Ledger L) (key : String) : Option (Settled L) :=
  ledger.entries.lookup key

def artifact? (ledger : Ledger L) (key : String) : Option (Shared (Artifact L)) :=
  (ledger.find? key).bind Settled.artifact?

def others (ledger : Ledger L) (key : String) : List (String × Settled L) :=
  ledger.entries.filter fun entry => entry.1 ≠ key

/-- Moves a key that is listed to the end. -/
def touch (ledger : Ledger L) (key : String) : Ledger L :=
  match ledger.find? key with
  | none => ledger
  | some settled => { ledger with entries := ledger.others key ++ [(key, settled)] }

/-- Drops entries from the front until the capacity is kept. -/
def trim (ledger : Ledger L) : Ledger L :=
  match ledger.capacity with
  | none | some 0 => ledger
  | some bound => { ledger with entries := ledger.entries.drop (ledger.entries.length - bound) }

/-- Puts an entry at the end, in place of the one of its key, and keeps the capacity. -/
def put (ledger : Ledger L) (key : String) (settled : Settled L) : Ledger L :=
  { ledger with entries := ledger.others key ++ [(key, settled)] }.trim

def answer? (ledger : Ledger L) (key : String) (fingerprint : Fingerprint) :
    Option (Except TemplateError (Shared (Artifact L))) :=
  (ledger.find? key).bind (Settled.answer? ledger.failurePolicy fingerprint)

/-- Puts in what a compile has come to.  A failure that is not remembered changes nothing. -/
def settle (ledger : Ledger L) (key : String) (fingerprint : Fingerprint) :
    Except TemplateError (Artifact L) → Except TemplateError (Shared (Artifact L)) × Ledger L
  | .ok artifact =>
      let shared : Shared (Artifact L) := ⟨ledger.published, artifact⟩
      (.ok shared, { ledger with published := ledger.published + 1 }.put key (.ready shared))
  | .error error =>
      match ledger.failurePolicy with
      | .remember => (.error error, ledger.put key (.failed fingerprint error))
      | .retry => (.error error, ledger)

/-- Answers from the entry of a key or by a compile that comes to `outcome`, and tells whether
the compile has run. -/
def obtain (ledger : Ledger L) (key : String) (fingerprint : Fingerprint)
    (outcome : Except TemplateError (Artifact L)) :
    (Except TemplateError (Shared (Artifact L)) × Bool) × Ledger L :=
  let touched := ledger.touch key
  match touched.answer? key fingerprint with
  | some result => ((result, false), touched)
  | none =>
      let (result, settled) := touched.settle key fingerprint outcome
      ((result, true), settled)

def remove (ledger : Ledger L) (key : String) : Ledger L :=
  { ledger with entries := ledger.others key }

def clear (ledger : Ledger L) : Ledger L :=
  { ledger with entries := [] }

def keys (ledger : Ledger L) : List String :=
  (ledger.entries.filter fun entry => entry.2.artifact?.isSome).map Prod.fst

def size (ledger : Ledger L) : Nat :=
  ledger.keys.length

def isEmpty (ledger : Ledger L) : Bool :=
  ledger.keys.isEmpty

/-- Answers a request whose compile does not use the cache. -/
def serve (ledger : Ledger L) : Request L → Answer L × Ledger L
  | .obtain key fingerprint _ _ outcome =>
      let ((result, compiled), after) := ledger.obtain key fingerprint outcome
      (.obtained result compiled, after)
  | .get key => (.found (ledger.artifact? key), ledger.touch key)
  | .contains key => (.flag (ledger.artifact? key).isSome, ledger.touch key)
  | .remove key => (.flag (ledger.artifact? key).isSome, ledger.remove key)
  | .clear => (.cleared, ledger.clear)

def serveAll (ledger : Ledger L) : List (Request L) → List (Answer L × Ledger L)
  | [] => []
  | request :: rest => ledger.serve request :: (ledger.serve request).2.serveAll rest

end Ledger

def Request.isFlat : Request L → Bool
  | .obtain _ _ _ during _ => during.isEmpty
  | _ => true

def Report.answer : Report L → Answer L
  | .obtained result during _ => .obtained result during.isSome
  | .found artifact _ => .found artifact
  | .flag value _ => .flag value
  | .cleared _ => .cleared

/-- A report holds the answer of a ledger, and its cache cannot be told from the ledger. -/
structure Report.Shows (report : Report L) (served : Answer L × Ledger L) : Prop where
  answer : report.answer = served.1
  keys : report.after.keys = served.2.keys
  size : report.after.size = served.2.size
  isEmpty : report.after.isEmpty = served.2.isEmpty

end Templating
