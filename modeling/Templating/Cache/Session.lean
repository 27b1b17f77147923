import Templating.Cache.Basic
import Templating.Journal
import Templating.Pipeline.Compile

/-!
A cache used by one caller at a time, with a journal of what it does.

`Session.obtain` is the central call: it answers from the slot of a key, or holds the slot,
compiles, and settles the slot.  While a slot is held the compile may call the cache again.  A
call that waits for a held slot would wait for itself, and has no result.
-/

namespace Templating

structure Session (L : Type u) where
  cache : Cache L
  journal : Array Event := #[]

namespace Session

def record (session : Session L) (event : Event) : Session L :=
  { session with journal := session.journal.push event }

def recordAll (session : Session L) (events : List Event) : Session L :=
  events.foldl record session

/-- What a caller finds that has got hold of the slot of its key. -/
inductive Acquired (L : Type u) where
  /-- The slot has left the list meanwhile, and the caller starts over. -/
  | outdated
  | answered (result : Except TemplateError (Shared (Artifact L)))
  /-- The caller holds the slot and has to compile. -/
  | granted (slot : SlotId)

/-- Gets hold of the slot of a key; no result, if the slot is held already. -/
def acquire (session : Session L) (key : String) (fingerprint : Fingerprint) :
    Option (Acquired L × Session L) :=
  let (slot, cache) := session.cache.slotFor key
  if cache.isHeld slot then none
  else if !cache.isCurrent key slot then some (.outdated, { session with cache })
  else
    match cache.answer? slot fingerprint with
    | some (.ok artifact) =>
        some (.answered (.ok artifact), { session with cache }.record (.cacheHit key))
    | some (.error error) =>
        some (.answered (.error error), { session with cache }.record (.cachedFailure key))
    | none => some (.granted slot, { session with cache := cache.hold slot })

/-- Writes what a compile has come to into the slot that is held for it. -/
def settleSlot (session : Session L) (slot : SlotId) (key : String) (fingerprint : Fingerprint)
    (outcome : Except TemplateError (Artifact L)) :
    Except TemplateError (Shared (Artifact L)) × Session L :=
  match outcome with
  | .ok artifact =>
      let (shared, cache) := session.cache.share artifact
      let cache := (cache.write slot (.ready shared)).publish slot
      (.ok shared, { session with cache }.record (.compiled key))
  | .error error =>
      let session := session.record (.compileFailed key error)
      let cache :=
        match session.cache.failurePolicy with
        | .remember => (session.cache.write slot (.failed fingerprint error)).publish slot
        | .retry =>
            match (session.cache.slot slot).state with
            | .vacant => session.cache.discard key slot
            | _ => session.cache
      (.error error, { session with cache })

def enforceCapacity (session : Session L) : Session L :=
  let (cache, evicted) := session.cache.enforceCapacity
  { session with cache }.recordAll (evicted.map .evicted)

def release (session : Session L) (slot : SlotId) : Session L :=
  { session with cache := session.cache.release slot }

/-- Settles a slot, keeps the capacity and lets go of the slot. -/
def settle (session : Session L) (slot : SlotId) (key : String) (fingerprint : Fingerprint)
    (outcome : Except TemplateError (Artifact L)) :
    Except TemplateError (Shared (Artifact L)) × Session L :=
  let (result, session) := session.settleSlot slot key fingerprint outcome
  (result, session.enforceCapacity.release slot)

/-- The artifact of a key for a fingerprint, from the cache or by a compile.  A compile leaves
what else it has to report; without a compile there is no report. -/
def obtain (session : Session L) (key : String) (fingerprint : Fingerprint)
    (compile : Session L → Option (Except TemplateError (Artifact L) × ρ × Session L)) :
    Option ((Except TemplateError (Shared (Artifact L)) × Option ρ) × Session L) :=
  match session.acquire key fingerprint with
  | none => none
  | some (.outdated, _) => none
  | some (.answered result, session) => some ((result, none), session)
  | some (.granted slot, session) =>
      match compile session with
      | none => none
      | some (outcome, report, session) =>
          let (result, session) := session.settle slot key fingerprint outcome
          some ((result, some report), session)

def getOrCompile (session : Session L) (pipeline : Pipeline L) (input : CompileInput)
    (options : PipelineOptions) :
    Option (Except TemplateError (Shared (Artifact L)) × Session L) :=
  let answered := session.obtain input.key input.fingerprint fun session =>
    let (outcome, events) := compileTemplate pipeline input options
    some (outcome, (), session.recordAll events)
  answered.map fun ((result, _), session) => (result, session)

/-- The artifact that is cached under a key, which becomes the most recently used one. -/
def get (session : Session L) (key : String) :
    Option (Option (Shared (Artifact L)) × Session L) :=
  match session.cache.find? key with
  | none => some (none, session)
  | some slot =>
      let cache := session.cache.touch key slot
      if cache.isHeld slot then none
      else some (cache.artifact? slot, { session with cache })

def contains (session : Session L) (key : String) : Option (Bool × Session L) :=
  (session.get key).map fun (artifact, session) => (artifact.isSome, session)

def remove (session : Session L) (key : String) : Bool × Session L :=
  match session.cache.find? key with
  | none => (false, session)
  | some slot =>
      ((session.cache.slot slot).isReady, { session with cache := session.cache.unlist key })

def clear (session : Session L) : Session L :=
  { session with cache := session.cache.clear }

end Session
end Templating
