import Templating.Cache.Basic

/-!
A cache used by many callers at once.

A machine holds the cache and the callers, each with one call and the point that it has
reached.  `Machine.step?` lets one caller take its next step, which is one of: take the lock of
the list, one action under that lock and its release, take or release the lock of a slot, read
or write a held slot, or run a compile, which does not use the cache itself.  A caller that
waits for a lock has no step.  Any order of steps is a possible run.
-/

namespace Templating

/-- A call to a cache; `outcome` is what the compile comes to if it runs. -/
inductive Call (L : Type u) where
  | obtain (key : String) (fingerprint : Fingerprint)
      (outcome : Except TemplateError (Artifact L))
  | get (key : String)
  | contains (key : String)
  | remove (key : String)
  | clear
  | size
  | keys

inductive Answer (L : Type u) where
  | obtained (result : Except TemplateError (Shared (Artifact L))) (compiled : Bool)
  | found (artifact : Option (Shared (Artifact L)))
  | flag (value : Bool)
  | cleared
  | count (value : Nat)
  | listed (keys : List String)

inductive Phase (L : Type u) where
  /-- Wants the lock of the list for the first time. -/
  | start
  /-- Has the lock of the list and looks its key up, or does all that the call asks for. -/
  | listing
  /-- Wants the lock of a slot that it has obtained. -/
  | queued (slot : SlotId)
  /-- Holds a slot and wants the lock of the list. -/
  | holding (slot : SlotId)
  /-- Has both locks and checks that the slot is still listed. -/
  | checking (slot : SlotId)
  /-- Found its slot outdated, lets go of it and starts over. -/
  | outdated (slot : SlotId)
  /-- Holds a slot and reads its state. -/
  | reading (slot : SlotId)
  /-- Holds a slot while its compile runs. -/
  | compiling (slot : SlotId)
  /-- Its compile has ended and the slot is yet to be written. -/
  | compiled (slot : SlotId) (outcome : Except TemplateError (Artifact L))
  /-- Has written the state of the slot and not yet its status. -/
  | publishing (slot : SlotId) (result : Except TemplateError (Shared (Artifact L)))
  /-- Wants the lock of the list to take its vacant slot off it. -/
  | discarding (slot : SlotId) (error : TemplateError)
  /-- Has both locks and takes the slot off the list. -/
  | dropping (slot : SlotId) (error : TemplateError)
  /-- Has settled the slot and wants the lock of the list to keep the capacity. -/
  | settled (slot : SlotId) (result : Except TemplateError (Shared (Artifact L)))
  /-- Has both locks and counts the settled slots. -/
  | counting (slot : SlotId) (result : Except TemplateError (Shared (Artifact L)))
  /-- Has both locks and looks for slots to evict. -/
  | scanning (slot : SlotId) (result : Except TemplateError (Shared (Artifact L)))
      (scan : Cache.Scan)
  /-- Lets go of its slot. -/
  | leaving (slot : SlotId) (answer : Answer L)
  /-- Has taken a slot off the list and reads its status. -/
  | unlisted (slot : SlotId)
  | done (answer : Answer L)

structure Caller (L : Type u) where
  call : Call L
  phase : Phase L := .start

structure Machine (L : Type u) where
  cache : Cache L
  callers : List (Caller L)
  listLock : Option Nat := none

namespace Machine

def start (cache : Cache L) (calls : List (Call L)) : Machine L where
  cache := cache
  callers := calls.map fun call => { call }

def move (machine : Machine L) (index : Nat) (caller : Caller L) (phase : Phase L)
    (cache : Cache L) : Machine L :=
  { machine with callers := machine.callers.set index { caller with phase }, cache }

def lockList (machine : Machine L) (index : Nat) : Option (Machine L) :=
  match machine.listLock with
  | none => some { machine with listLock := some index }
  | some _ => none

def unlockList (machine : Machine L) : Machine L :=
  { machine with listLock := none }

def look (cache : Cache L) : Call L → Phase L × Cache L
  | .obtain key _ _ =>
      let (slot, cache) := cache.slotFor key
      (.queued slot, cache)
  | .get key =>
      match cache.find? key with
      | some slot => (.queued slot, cache.touch key slot)
      | none => (.done (.found none), cache)
  | .contains key =>
      match cache.find? key with
      | some slot => (.queued slot, cache.touch key slot)
      | none => (.done (.flag false), cache)
  | .remove key =>
      match cache.find? key with
      | some slot => (.unlisted slot, cache.unlist key)
      | none => (.done (.flag false), cache)
  | .clear => (.done .cleared, cache.clear)
  | .size => (.done (.count cache.size), cache)
  | .keys => (.done (.listed cache.keys), cache)

/-- What a caller does next that has got hold of a slot. -/
def afterLock (slot : SlotId) : Call L → Phase L
  | .obtain _ _ _ => .holding slot
  | _ => .reading slot

/-- What a caller makes of the state of its slot. -/
def read (cache : Cache L) (slot : SlotId) : Call L → Phase L
  | .obtain _ fingerprint _ =>
      match cache.answer? slot fingerprint with
      | some result => .leaving slot (.obtained result false)
      | none => .compiling slot
  | .contains _ => .leaving slot (.flag (cache.artifact? slot).isSome)
  | _ => .leaving slot (.found (cache.artifact? slot))

/-- Writes the outcome of a compile into the state of its slot. -/
def settle (cache : Cache L) (slot : SlotId) (fingerprint : Fingerprint) :
    Except TemplateError (Artifact L) → Phase L × Cache L
  | .ok artifact =>
      let (shared, cache) := cache.share artifact
      (.publishing slot (.ok shared), cache.write slot (.ready shared))
  | .error error =>
      match cache.failurePolicy with
      | .remember => (.publishing slot (.error error), cache.write slot (.failed fingerprint error))
      | .retry =>
          match (cache.slot slot).state with
          | .vacant => (.discarding slot error, cache)
          | _ => (.settled slot (.error error), cache)

/-- The next step of a caller; none, if it waits for a lock or is done. -/
def step? (machine : Machine L) (index : Nat) : Option (Machine L) :=
  match machine.callers[index]? with
  | none => none
  | some caller =>
      let cache := machine.cache
      match caller.phase, caller.call with
      | .start, _ => (machine.lockList index).map (·.move index caller .listing cache)
      | .listing, call =>
          let (phase, cache) := look cache call
          some (machine.unlockList.move index caller phase cache)
      | .queued slot, call =>
          if cache.isHeld slot then none
          else some (machine.move index caller (afterLock slot call) (cache.hold slot))
      | .holding slot, _ =>
          (machine.lockList index).map (·.move index caller (.checking slot) cache)
      | .checking slot, .obtain key _ _ =>
          let phase := if cache.isCurrent key slot then Phase.reading slot else .outdated slot
          some (machine.unlockList.move index caller phase cache)
      | .outdated slot, _ => some (machine.move index caller .start (cache.release slot))
      | .reading slot, call => some (machine.move index caller (read cache slot call) cache)
      | .compiling slot, .obtain _ _ outcome =>
          some (machine.move index caller (.compiled slot outcome) cache)
      | .compiled slot outcome, .obtain _ fingerprint _ =>
          let (phase, cache) := settle cache slot fingerprint outcome
          some (machine.move index caller phase cache)
      | .publishing slot result, _ =>
          some (machine.move index caller (.settled slot result) (cache.publish slot))
      | .discarding slot error, _ =>
          (machine.lockList index).map (·.move index caller (.dropping slot error) cache)
      | .dropping slot error, .obtain key _ _ =>
          some (machine.unlockList.move index caller (.settled slot (.error error))
            (cache.discard key slot))
      | .settled slot result, _ =>
          match cache.capacity with
          | none => some (machine.move index caller (.leaving slot (.obtained result true)) cache)
          | some _ =>
              (machine.lockList index).map (·.move index caller (.counting slot result) cache)
      | .counting slot result, _ =>
          some (machine.move index caller (.scanning slot result ⟨0, cache.settledCount⟩) cache)
      | .scanning slot result scan, _ =>
          match cache.capacity.bind (cache.scanStep · scan) with
          | some (scan, cache, _) =>
              some (machine.move index caller (.scanning slot result scan) cache)
          | none =>
              let phase := Phase.leaving slot (.obtained result true)
              some (machine.unlockList.move index caller phase cache)
      | .leaving slot answer, _ =>
          some (machine.move index caller (.done answer) (cache.release slot))
      | .unlisted slot, _ =>
          some (machine.move index caller (.done (.flag (cache.slot slot).isReady)) cache)
      | .done _, _ => none
      -- Only calls that obtain reach the phases of a check and of a compile.
      | .checking _, _ | .compiling _, _ | .compiled _ _, _ | .dropping _ _, _ => none

def Steps (before after : Machine L) : Prop :=
  ∃ index, before.step? index = some after

/-- Machines that a run comes to. -/
inductive Reachable (initial : Machine L) : Machine L → Prop where
  | refl : Reachable initial initial
  | step {before after : Machine L} :
      Reachable initial before → before.Steps after → Reachable initial after

/-- Lets callers take steps in the order of a schedule; one that has no step is passed over. -/
def runSchedule (machine : Machine L) : List Nat → Machine L
  | [] => machine
  | index :: rest => ((machine.step? index).getD machine).runSchedule rest

/-- Lets one caller go on until it has no step, or for `bound` steps, or until `stop` holds of
its phase. -/
def runCaller (index : Nat) (stop : Phase L → Bool) : Nat → Machine L → Machine L
  | 0, machine => machine
  | bound + 1, machine =>
      if machine.callers[index]?.any (fun caller => stop caller.phase) then machine
      else
        match machine.step? index with
        | none => machine
        | some next => runCaller index stop bound next

def answer? (machine : Machine L) (index : Nat) : Option (Answer L) :=
  match machine.callers[index]? with
  | some { phase := .done answer, .. } => some answer
  | _ => none

end Machine
end Templating
