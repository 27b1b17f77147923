/-!
Settings of an engine.
-/

namespace Templating

/-- How values are written where they may hold markup. -/
inductive Encoding where
  | html
  | raw
deriving DecidableEq, Repr, Inhabited

/-- What the cache does with a failed compile: forget it, or give the failure as the answer to
the same request. -/
inductive FailurePolicy where
  | retry
  | remember
deriving DecidableEq, Repr, Inhabited

def Encoding.name : Encoding → String
  | .html => "html"
  | .raw => "raw"

def FailurePolicy.name : FailurePolicy → String
  | .retry => "retry"
  | .remember => "remember"

structure Config where
  /-- Whether instances carry their generated source and compilers add debug information. -/
  debug : Bool := false
  /-- Imports for the generator. -/
  namespaces : List String := []
  /-- Libraries for the compiler. -/
  references : List String := []
  encoding : Encoding := .html
  /-- How many settled entries the cache keeps; all, if absent. -/
  cacheCapacity : Option Nat := none
  failurePolicy : FailurePolicy := .retry
deriving DecidableEq, Repr, Inhabited

end Templating
