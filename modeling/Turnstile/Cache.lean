import Turnstile.Duration
import Turnstile.Text.Quoted

/-!
# The cache

Values under keys, each with a time to live of its own; one of zero means that the value stays. Writing
a key replaces both the value and the time to live. A load runs its loader only if the key has no live
value, and callers that load the same key at the same time share one run and its outcome.

The values are in a store that knows nothing of times to live. It asks a policy how long a value may stay,
once when it comes to a key and once when it takes the place of another one.

* `Store`: the store underneath; `ExpiryPolicy`, what it asks.
* `CacheEntry.new`, `CacheEntry.expiry`: what the cache puts into its store, and the answers it gives.
* `Cache.stored?`: what is kept under a key, alive or not, and what each operation does to it.
* `Cache.get?`: the live value under a key.
* `Cache.load`: a load by several callers at once.
-/

namespace Turnstile

/-! ## The store underneath -/

/-- How long values may stay. The policy is asked when a value comes to a key that has none, and when a
value takes the place of another; then it is told how much time that one had left. No answer means that
the value stays. -/
structure ExpiryPolicy (α : Type) where
  afterCreate : α → Option Duration
  afterUpdate : α → Option Duration → Option Duration

/-- A value in a store, with the instant at which it runs out, if it does. -/
structure Kept (α : Type) where
  value : α
  deadline : Option Nat
  deriving DecidableEq, Repr

namespace Kept

variable {α : Type}

/-- A value from some instant on, that may stay for some time. -/
def since (instant : Nat) (value : α) (stay : Option Duration) : Kept α :=
  ⟨value, stay.map fun d => instant + d.nanos⟩

/-- Whether a value has not run out yet. -/
def alive (k : Kept α) (now : Nat) : Bool := k.deadline.all (now < ·)

/-- The time that a value has left. -/
def timeLeft (k : Kept α) (now : Nat) : Option Duration := k.deadline.map fun d => ⟨d - now⟩

end Kept

/-- What is kept under keys, and the time on the store's clock, in nanoseconds. -/
structure Store (α : Type) where
  now : Nat := 0
  entries : List (String × Kept α) := []
  deriving DecidableEq, Repr

namespace Store

variable {α : Type}

/-- What is kept under a key, alive or not. -/
def kept? (s : Store α) (key : String) : Option (Kept α) := s.entries.lookup key

/-- The live value under a key. -/
def get? (s : Store α) (key : String) : Option α :=
  ((s.kept? key).filter (·.alive s.now)).map Kept.value

/-- Removes a key. -/
def remove (s : Store α) (key : String) : Store α :=
  { s with entries := s.entries.filter fun e => e.1 != key }

/-- How long a value may stay that is put under a key. -/
def stay (policy : ExpiryPolicy α) (s : Store α) (key : String) (value : α) : Option Duration :=
  match s.kept? key with
  | none => policy.afterCreate value
  | some old => policy.afterUpdate value (old.timeLeft s.now)

/-- Puts a value under a key. -/
def put (policy : ExpiryPolicy α) (s : Store α) (key : String) (value : α) : Store α :=
  { s with entries := (key, .since s.now value (s.stay policy key value)) :: (s.remove key).entries }

/-- Lets time pass. -/
def wait (s : Store α) (nanos : Nat) : Store α := { s with now := s.now + nanos }

/-- Gets the live value under a key for several callers at once, and if there is none, the one that is
made then. It is made once for all of them; it is put under the key if it can be made, and if not,
nothing changes. Besides the value, it is told how often it was made. -/
def getOrMake {ε : Type} (policy : ExpiryPolicy α) (s : Store α) (key : String) (callers : Nat)
    (made : Except ε α) : (Nat × Except ε α) × Store α :=
  match s.get? key with
  | some value => ((0, .ok value), s)
  | none =>
    if callers = 0 then ((0, made), s)
    else
      match made with
      | .ok value => ((1, .ok value), s.put policy key value)
      | .error e => ((1, .error e), s)

theorem lookup_cons_eq (key other : String) (k : Kept α) (entries : List (String × Kept α)) :
    ((key, k) :: entries).lookup other = if other = key then some k else entries.lookup other := by
  by_cases h : other = key
  · simp [h]
  · have hne : (other == key) = false := by simpa using h
    rw [List.lookup_cons, hne, if_neg h]

/-- Removing a key leaves nothing under it, and all other keys as they are. -/
theorem kept?_remove (s : Store α) (key other : String) :
    (s.remove key).kept? other = if other = key then none else s.kept? other := by
  unfold remove kept?
  induction s.entries with
  | nil => simp
  | cons e entries ih =>
    obtain ⟨k, entry⟩ := e
    by_cases hk : k = key
    · -- the entry goes
      rw [List.filter_cons_of_neg (by simp [hk]), ih, lookup_cons_eq, hk]
      split <;> rfl
    · rw [List.filter_cons_of_pos (by simp [hk]), lookup_cons_eq, lookup_cons_eq, ih]
      by_cases ho : other = k
      · simp [ho, hk]
      · simp [ho]

/-- Putting a value under a key leaves all other keys as they are. -/
theorem kept?_put (policy : ExpiryPolicy α) (s : Store α) (key other : String) (value : α) :
    (s.put policy key value).kept? other
      = if other = key then some (.since s.now value (s.stay policy key value))
        else s.kept? other := by
  have hremove : (s.remove key).entries.lookup other = _ := s.kept?_remove key other
  unfold put kept?
  rw [lookup_cons_eq, hremove]
  split <;> rfl

end Store

/-! ## Entries -/

/-- What the cache puts into its store: a value, and a time to live unless the value stays. -/
structure CacheEntry where
  value : List UInt8
  ttl : Option Duration
  deriving DecidableEq, Repr

namespace CacheEntry

/-- A value with a time to live. A time to live of zero is none. -/
def new (value : List UInt8) (ttl : Duration) : CacheEntry :=
  ⟨value, if ttl.nanos = 0 then none else some ttl⟩

/-- Every entry stays for its own time to live, also where it takes the place of another. -/
def expiry : ExpiryPolicy CacheEntry where
  afterCreate e := e.ttl
  afterUpdate e _ := e.ttl

/-- So it makes no difference what was under a key. -/
theorem stay_expiry (s : Store CacheEntry) (key : String) (e : CacheEntry) :
    s.stay expiry key e = e.ttl := by
  unfold Store.stay
  cases s.kept? key <;> rfl

theorem alive_since_new (instant now : Nat) (value : List UInt8) (ttl : Duration) :
    (Kept.since instant (new value ttl) (new value ttl).ttl).alive now = true
      ↔ ttl.nanos = 0 ∨ now < instant + ttl.nanos := by
  unfold Kept.since Kept.alive new
  by_cases h : ttl.nanos = 0 <;> simp [h]

end CacheEntry

/-! ## The cache -/

/-- A cache on its store. -/
structure Cache where
  inner : Store CacheEntry := {}
  deriving DecidableEq, Repr

namespace Cache

/-- The description of a new cache. -/
def describeNew : String := "LocalCache \x7b entry_count: 0 \x7d"

/-- The time on the clock of the cache. -/
def now (c : Cache) : Nat := c.inner.now

/-- What is kept under a key, alive or not. -/
def stored? (c : Cache) (key : String) : Option (Kept CacheEntry) := c.inner.kept? key

/-- The live value under a key. -/
def get? (c : Cache) (key : String) : Option (List UInt8) := (c.inner.get? key).map CacheEntry.value

/-- Removes a key. -/
def erase (c : Cache) (key : String) : Cache := ⟨c.inner.remove key⟩

/-- Writes a value under a key. -/
def insert (c : Cache) (key : String) (value : List UInt8) (ttl : Duration) : Cache :=
  ⟨c.inner.put CacheEntry.expiry key (.new value ttl)⟩

/-- Lets time pass. -/
def wait (c : Cache) (nanos : Nat) : Cache := ⟨c.inner.wait nanos⟩

/-- What became of a load by several callers at once: how often the loader ran, and what every caller
got. -/
structure Loaded where
  runs : Nat
  result : Except String (List UInt8)

/-- The wording of a failed load. -/
def loadFailure (key reason : String) : String :=
  "Cache error: load failed for " ++ Text.quoted key ++ ": " ++ reason

/-- Loads a key for `callers` callers at once. What the loader yields is written under the key; if it
fails, nothing changes. -/
def load (c : Cache) (key : String) (ttl : Duration) (callers : Nat)
    (loader : Except String (List UInt8)) : Loaded × Cache :=
  let ((runs, made), inner) :=
    c.inner.getOrMake CacheEntry.expiry key callers (loader.map fun value => .new value ttl)
  (⟨runs, (made.mapError (loadFailure key)).map CacheEntry.value⟩, ⟨inner⟩)

/-! ## What is under a key -/

@[simp] theorem now_wait (c : Cache) (nanos : Nat) : (c.wait nanos).now = c.now + nanos := rfl

@[simp] theorem wait_wait (c : Cache) (a b : Nat) : (c.wait a).wait b = c.wait (a + b) := by
  simp [wait, Store.wait, Nat.add_assoc]

@[simp] theorem stored?_wait (c : Cache) (nanos : Nat) (key : String) :
    (c.wait nanos).stored? key = c.stored? key := rfl

/-- Removing a key leaves nothing under it, and all other keys as they are. -/
theorem stored?_erase (c : Cache) (key other : String) :
    (c.erase key).stored? other = if other = key then none else c.stored? other :=
  c.inner.kept?_remove key other

/-- Writing a key replaces its entry as a whole, and leaves all other keys as they are. -/
theorem stored?_insert (c : Cache) (key other : String) (value : List UInt8) (ttl : Duration) :
    (c.insert key value ttl).stored? other
      = if other = key then some (.since c.now (.new value ttl) (CacheEntry.new value ttl).ttl)
        else c.stored? other := by
  have h := c.inner.kept?_put CacheEntry.expiry key other (.new value ttl)
  rwa [CacheEntry.stay_expiry] at h

theorem get?_eq_some_iff (c : Cache) (key : String) (value : List UInt8) :
    c.get? key = some value
      ↔ ∃ k, c.stored? key = some k ∧ k.alive c.now = true ∧ k.value.value = value := by
  unfold get? Store.get?
  simp [Option.map_eq_some_iff, Option.filter_eq_some_iff, stored?, now, and_assoc]

/-- A load of a key with a live value runs no loader and changes nothing. -/
theorem load_of_live {c : Cache} {key : String} {value : List UInt8} (h : c.get? key = some value)
    (ttl : Duration) (callers : Nat) (loader : Except String (List UInt8)) :
    c.load key ttl callers loader = (⟨0, .ok value⟩, c) := by
  obtain ⟨e, he, rfl⟩ := Option.map_eq_some_iff.mp h
  unfold load Store.getOrMake
  rw [he]
  rfl

/-- A load of a key without a live value runs one loader and writes what it yields. -/
theorem load_of_missing {c : Cache} {key : String} (h : c.get? key = none) (ttl : Duration)
    {callers : Nat} (hcallers : callers ≠ 0) (loader : Except String (List UInt8)) :
    c.load key ttl callers loader = match loader with
      | .ok value => (⟨1, .ok value⟩, c.insert key value ttl)
      | .error reason => (⟨1, .error (loadFailure key reason)⟩, c) := by
  unfold load Store.getOrMake
  rw [Option.map_eq_none_iff.mp h, if_neg hcallers]
  cases loader <;> rfl

end Cache

end Turnstile
