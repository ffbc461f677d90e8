import Turnstile.Journal
import Turnstile.Ledger

/-!
# The state of a running pipeline

All that calls can change: the clock, the buckets, the ledgers of the collectors, the supply of request
identifiers, and the journal. The user's stages, authenticators and handlers act on a state of their own
and write notes; they cannot touch the rest, nor take back what was reported.

* `Pipeline.State`: the state, over a user state `σ` and notes `ν`.
* `Own`: the part of it that the user's code acts on, and `Pipeline.State.perform`, which lets it act.
-/

namespace Turnstile

/-- The state of a running pipeline. `outbox` is there while a stream is being produced: it holds what
the handler has sent, once the handler has been started. A handler may send statuses besides messages. -/
structure Pipeline.State (σ ν : Type) where
  clock : Nat := 0
  buckets : Option Buckets := none
  ledgers : Collector → Ledger := fun _ => {}
  minted : Mint := {}
  journal : List (JournalEntry ν) := []
  outbox : Option (List (Except Status Payload)) := none
  user : σ

/-- What the user's code acts on: its state and the notes it writes. -/
structure Own (σ ν : Type) where
  state : σ
  notes : List ν := []

/-- Writes a note. -/
def Own.note {σ ν : Type} (n : ν) : StateM (Own σ ν) Unit :=
  modify fun own => { own with notes := own.notes ++ [n] }

namespace Pipeline.State

variable {σ ν : Type}

/-- Reports something. -/
def report (e : TraceEvent) (st : State σ ν) : State σ ν :=
  { st with journal := st.journal ++ [.trace e] }

/-- Lets time pass. -/
def advance (nanos : Nat) (st : State σ ν) : State σ ν := { st with clock := st.clock + nanos }

/-- Counts something with a collector, if there is one. -/
def count (collector : Option Collector) (entry : Ledger → Ledger) (st : State σ ν) : State σ ν :=
  match collector with
  | none => st
  | some c => { st with ledgers := fun x => if x = c then entry (st.ledgers x) else st.ledgers x }

/-- Lets the user's code act. -/
def perform {α : Type} (act : StateM (Own σ ν) α) : StateM (State σ ν) α := fun st =>
  let (a, own) := act { state := st.user }
  (a, { st with user := own.state, journal := st.journal ++ own.notes.map .note })

/-- Mints a request identifier. -/
def mint (st : State σ ν) : RequestId × State σ ν :=
  let (id, minted) := st.minted.next
  (id, { st with minted })

/-- Counting changes the ledger of the collector, and nothing else. -/
theorem count_eq (collector : Option Collector) (entry : Ledger → Ledger) (st : State σ ν) :
    st.count collector entry
      = { st with
          ledgers := fun c => if collector = some c then entry (st.ledgers c) else st.ledgers c } := by
  cases collector with
  | none => rfl
  | some c => simp [count, eq_comm]

/-- Counting twice is counting once. -/
theorem count_count (collector : Option Collector) (entry entry' : Ledger → Ledger) (st : State σ ν) :
    (st.count collector entry).count collector entry' = st.count collector (entry' ∘ entry) := by
  simp only [count_eq, Function.comp_apply]
  congr 1
  funext c
  split <;> rfl

theorem ledgers_count_congr {st st' : State σ ν} (h : st.ledgers = st'.ledgers)
    (collector : Option Collector) (entry : Ledger → Ledger) :
    (st.count collector entry).ledgers = (st'.count collector entry).ledgers := by
  simp only [count_eq, h]

theorem ledgers_count_self (c : Collector) (entry : Ledger → Ledger) (st : State σ ν) :
    (st.count (some c) entry).ledgers c = entry (st.ledgers c) := if_pos rfl

theorem ledgers_count_of_ne {collector : Option Collector} {c : Collector} (h : collector ≠ some c)
    (entry : Ledger → Ledger) (st : State σ ν) :
    (st.count collector entry).ledgers c = st.ledgers c := by
  rw [count_eq]
  exact if_neg h

end Pipeline.State

end Turnstile
