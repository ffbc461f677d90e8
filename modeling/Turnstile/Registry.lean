/-!
# The registry of stages

A stage takes part in unary calls, in streaming calls or in both. The registry collects stages with
priorities and puts each lane in order: lower priorities come first, and among equal priorities the
order of registration stays.
-/

namespace Turnstile

/-- A stage, given by what it is on the lanes that it takes part in. A stage on no lane cannot be
written down. -/
inductive Stage (U T : Type) where
  | unary (u : U)
  | streaming (t : T)
  | both (u : U) (t : T)
  deriving DecidableEq, Repr

namespace Stage

variable {U T : Type}

/-- The stage on the unary lane. -/
def onUnary? : Stage U T → Option U
  | .unary u => some u
  | .streaming _ => none
  | .both u _ => some u

/-- The stage on the streaming lane. -/
def onStream? : Stage U T → Option T
  | .unary _ => none
  | .streaming t => some t
  | .both _ t => some t

/-- The description of a stage: its lanes. -/
def describe : Stage U T → String
  | .unary _ => "Stage(\"unary\")"
  | .streaming _ => "Stage(\"streaming\")"
  | .both _ _ => "Stage(\"unary+streaming\")"

end Stage

/-- Stages with their priorities, in the order of registration. -/
structure Registry (U T : Type) where
  entries : List (Int × Stage U T) := []

namespace Registry

variable {U T : Type}

/-- Registers a stage. -/
def add (r : Registry U T) (priority : Int) (s : Stage U T) : Registry U T :=
  ⟨r.entries ++ [(priority, s)]⟩

/-- The entries in order of priority. -/
def sorted (r : Registry U T) : List (Int × Stage U T) :=
  r.entries.mergeSort fun a b => a.1 ≤ b.1

/-- The unary lane. -/
def unaryLane (r : Registry U T) : List U := r.sorted.filterMap fun e => e.2.onUnary?

/-- The streaming lane. -/
def streamLane (r : Registry U T) : List T := r.sorted.filterMap fun e => e.2.onStream?

end Registry

end Turnstile
