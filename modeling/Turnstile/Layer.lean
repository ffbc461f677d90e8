/-!
# Layers around a handler

A layer sees a request on its way in and the result on its way out. It may answer at once, in which case
nothing further in is run, or pass on a request of its making and say what to do with the result. A
chain of layers around a handler is itself a handler.

* `Layer.around`: one layer around a handler.
* `Layer.chain`: a list of layers around a handler, the first outermost; `chain_append` says that chains
  compose.
-/

namespace Turnstile

/-- What a layer does with a request: answer it, or pass on a request and treat the result. `S` is the
state that layers act on, `Q` the requests and `R` the results. -/
inductive Entered (S Q R : Type) where
  | answered (result : R)
  | passed (request : Q) (leave : R → StateM S R)

/-- A layer. -/
structure Layer (S Q R : Type) where
  enter : Q → StateM S (Entered S Q R)

namespace Layer

variable {S Q R : Type}

/-- A layer around a handler. -/
def around (l : Layer S Q R) (inner : Q → StateM S R) : Q → StateM S R := fun request state =>
  match l.enter request state with
  | (.answered result, state) => (result, state)
  | (.passed request leave, state) =>
    let (result, state) := inner request state
    leave result state

/-- Layers around a handler, the first outermost. -/
def chain : List (Layer S Q R) → (Q → StateM S R) → Q → StateM S R
  | [], handler => handler
  | l :: ls, handler => l.around (chain ls handler)

/-- A layer that lets everything through after acting on the state and the request. -/
def tap (act : Q → StateM S Q) : Layer S Q R :=
  ⟨fun request state =>
    let (request, state) := act request state
    (.passed request (fun result state => (result, state)), state)⟩

@[simp] theorem chain_nil (h : Q → StateM S R) : chain [] h = h := rfl

@[simp] theorem chain_cons (l : Layer S Q R) (ls : List (Layer S Q R)) (h : Q → StateM S R) :
    chain (l :: ls) h = l.around (chain ls h) := rfl

/-- The chain of two lists is the chain of the first around the chain of the second. -/
theorem chain_append (xs ys : List (Layer S Q R)) (h : Q → StateM S R) :
    chain (xs ++ ys) h = chain xs (chain ys h) := by
  induction xs with
  | nil => rfl
  | cons x xs ih => simp [ih]

end Layer

end Turnstile
