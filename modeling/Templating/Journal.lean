import Templating.Error
import Templating.Pipeline.Basic

/-!
The journal of what happens while templates are compiled, cached and rendered.

Nothing that a caller gets back depends on the journal.  Some events are also lines of a log; how
long a compile took is left out of its line.
-/

namespace Templating

inductive Event where
  | generateCalled (pipeline : Nat) (request : GenerateRequest)
  | compileCalled (pipeline : Nat) (request : CompileRequest)
  /-- A generator succeeded and had something to say. -/
  | generateWarned (key : String) (warning : Diagnostic)
  | cacheHit (key : String)
  | cachedFailure (key : String)
  | compiled (key : String)
  | compileFailed (key : String) (error : TemplateError)
  | evicted (key : String)
  | sectionDefined (name : String)
  | templateResolved (name : String)
  | layoutChained (template layout : String)
  | resolverAsked (name : String)
  /-- A template was looked up by its name, in the cache first. -/
  | templateSought (name : String)
  | noted (text : String)
deriving DecidableEq, Repr

/-- The line that an event is in a log, with its level. -/
def Event.logLine? : Event → Option String
  | .generateWarned key warning => some ("DEBUG generate " ++ key ++ ": " ++ warning.display)
  | .cacheHit key => some ("DEBUG cache hit: " ++ key)
  | .cachedFailure key => some ("DEBUG cached failure: " ++ key)
  | .compiled key => some ("INFO compiled: " ++ key)
  | .compileFailed key error => some ("WARN compile failed: " ++ key ++ ": " ++ error.message)
  | .evicted key => some ("DEBUG evicted: " ++ key)
  | .sectionDefined name => some ("DEBUG section defined: " ++ name)
  | .templateResolved name => some ("DEBUG resolved template: " ++ name)
  | .layoutChained template layout => some ("DEBUG " ++ template ++ " -> layout " ++ layout)
  | .generateCalled _ _ | .compileCalled _ _ | .resolverAsked _ | .templateSought _
  | .noted _ => none

namespace Journal

def log (events : List Event) : List String :=
  events.filterMap Event.logLine?

/-- The calls of a pipeline. -/
def calls (pipeline : Nat) (events : List Event) : List Event :=
  events.filter fun
    | .generateCalled called _ => called = pipeline
    | .compileCalled called _ => called = pipeline
    | _ => false

/-- What a pipeline was asked to generate. -/
def generated (pipeline : Nat) (events : List Event) : List GenerateRequest :=
  events.filterMap fun
    | .generateCalled called request => if called = pipeline then some request else none
    | _ => none

/-- What a pipeline was asked to compile. -/
def compiled (pipeline : Nat) (events : List Event) : List CompileRequest :=
  events.filterMap fun
    | .compileCalled called request => if called = pipeline then some request else none
    | _ => none

def asked (events : List Event) : List String :=
  events.filterMap fun
    | .resolverAsked name => some name
    | _ => none

def sought (events : List Event) : List String :=
  events.filterMap fun
    | .templateSought name => some name
    | _ => none

def notes (events : List Event) : List String :=
  events.filterMap fun
    | .noted text => some text
    | _ => none

end Journal
end Templating
