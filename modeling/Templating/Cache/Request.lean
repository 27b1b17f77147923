import Templating.Cache.Session

/-!
Calls to a cache as data, with the calls that their compiles make.

A `Request` is a whole call: for a key and a fingerprint it lists what the compile would do if
it ran, further requests included.  `Request.run` answers a request with a `Report`, which
shows the cache as it was after each call.
-/

namespace Templating

inductive Request (L : Type u) where
  /-- The compile leaves `events`, makes the calls in `during` and comes to `outcome`. -/
  | obtain (key : String) (fingerprint : Fingerprint) (events : List Event)
      (during : List (Request L)) (outcome : Except TemplateError (Artifact L))
  | get (key : String)
  | contains (key : String)
  | remove (key : String)
  | clear

instance : Inhabited (Request L) := ⟨.clear⟩

inductive Report (L : Type u) where
  /-- `during` lists the calls of the compile, if it ran. -/
  | obtained (result : Except TemplateError (Shared (Artifact L)))
      (during : Option (List (Report L))) (after : Cache L)
  | found (artifact : Option (Shared (Artifact L))) (after : Cache L)
  | flag (value : Bool) (after : Cache L)
  | cleared (after : Cache L)

def Report.after : Report L → Cache L
  | .obtained _ _ after => after
  | .found _ after => after
  | .flag _ after => after
  | .cleared after => after

namespace Request

def ofInput (pipeline : Pipeline L) (input : CompileInput) (options : PipelineOptions) :
    Request L :=
  let (outcome, events) := compileTemplate pipeline input options
  .obtain input.key input.fingerprint events [] outcome

mutual

/-- Answers a request; no result, if a call would wait for a slot that is held around it. -/
def run (session : Session L) : Request L → Option (Report L × Session L)
  | .obtain key fingerprint events during outcome =>
      let answered := session.obtain key fingerprint fun session =>
        (runAll (session.recordAll events) during).map fun (reports, session) =>
          (outcome, reports, session)
      answered.map fun ((result, reports), session) =>
        (.obtained result reports session.cache, session)
  | .get key =>
      (session.get key).map fun (artifact, session) => (.found artifact session.cache, session)
  | .contains key =>
      (session.contains key).map fun (value, session) => (.flag value session.cache, session)
  | .remove key =>
      let (value, session) := session.remove key
      some (.flag value session.cache, session)
  | .clear =>
      let session := session.clear
      some (.cleared session.cache, session)

def runAll (session : Session L) : List (Request L) → Option (List (Report L) × Session L)
  | [] => some ([], session)
  | request :: rest =>
      match run session request with
      | none => none
      | some (report, session) =>
          (runAll session rest).map fun (reports, session) => (report :: reports, session)

end

end Request
end Templating
