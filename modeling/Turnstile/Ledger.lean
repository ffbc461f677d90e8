import Turnstile.Status

/-!
# The ledger of calls

What is counted about calls: with which code each method's calls ended, how many calls of each method
were timed, and how many panics were caught. The ledger keeps every entry, and a count is the number of
times an entry occurs.

* `Collector`: who counts; each keeps a ledger of its own.
* `Ledger.families` shows the counts: families by name, and the series of a family by their labels.
-/

namespace Turnstile

/-- A collector of counts. Collectors are told apart by number, and copies of one are the same. It is
pipelines that count with them, and not the user's code. -/
structure Collector where
  number : Nat
  deriving DecidableEq, Repr

/-- What has been recorded about calls. -/
structure Ledger where
  finished : List (String × Code) := []
  timed : List String := []
  recovered : Nat := 0
  deriving DecidableEq, Repr

/-- A count under some labels. -/
structure Series where
  labels : List (String × String)
  count : Nat
  deriving DecidableEq, Repr

/-- Counts of one kind. -/
structure Family where
  name : String
  help : String
  series : List Series
  deriving DecidableEq, Repr

/-- Whether the labels of a series come before those of another or are equal to them, texts being
compared character by character. -/
def Series.le (a b : Series) : Bool := go a.labels b.labels
where
  go : List (String × String) → List (String × String) → Bool
    | [], _ => true
    | _ :: _, [] => false
    | (n, v) :: xs, (m, w) :: ys =>
      if n = m then if v = w then go xs ys else v ≤ w else n ≤ m

namespace Ledger

/-- Records the code that a call ended with. -/
def finish (l : Ledger) (method : String) (code : Code) : Ledger :=
  { l with finished := l.finished ++ [(method, code)] }

/-- Records that a call was timed. -/
def time (l : Ledger) (method : String) : Ledger := { l with timed := l.timed ++ [method] }

/-- Records that a panic was caught. -/
def recover (l : Ledger) : Ledger := { l with recovered := l.recovered + 1 }

/-- The number of calls of a method that ended with a code. -/
def finishedCount (l : Ledger) (method : String) (code : Code) : Nat :=
  l.finished.count (method, code)

/-- The number of timed calls of a method. -/
def timedCount (l : Ledger) (method : String) : Nat := l.timed.count method

/-! ## Families -/

/-- A family, with its series in order; none if it has no series. -/
def family? (name help : String) (series : List Series) : List Family :=
  if series.isEmpty then [] else [⟨name, help, series.mergeSort Series.le⟩]

/-- The codes with which calls ended. -/
def requestSeries (l : Ledger) : List Series :=
  l.finished.eraseDups.map fun (method, code) =>
    ⟨[("code", code.label), ("method", method)], l.finishedCount method code⟩

/-- The timed calls. -/
def durationSeries (l : Ledger) : List Series :=
  l.timed.eraseDups.map fun method => ⟨[("method", method)], l.timedCount method⟩

/-- All families, by name. -/
def families (l : Ledger) : List Family :=
  family? "gatehouse_panics_recovered_total"
      "Number of panics converted into Internal responses" [⟨[], l.recovered⟩]
    ++ family? "gatehouse_request_duration_seconds"
      "Duration of gated calls in seconds, gates included" l.durationSeries
    ++ family? "gatehouse_requests_total"
      "Total number of gated calls by method and status code" l.requestSeries

end Ledger

/-- What goes wrong when a second ledger is published under the same names. -/
def duplicateLedgerMessage : String :=
  "Metrics error: Duplicate metrics collector registration attempted"

end Turnstile
