import Mathlib.Data.List.Dedup
import Mathlib.Data.List.Induction
import Mathlib.Data.List.Perm.Subperm
import Turnstile.Proofs.Loading

/-!
# What a cache remembers

A cache is used through writes, removals, loads and reads, while time passes. What has become of its keys
is told by the changes that were made to them. A key has the value that was last written to it, if it was
not removed since and the value's time to live has not run out since; a new value brings a time to live of
its own, and nothing of the old one stays.

A cache that is over its capacity may drop any entry at any time. One that has room for all keys that are
used never comes to that.

* `Writing`: a value that was written, with its time to live and the instant; `Writing.kept`, what the
  cache keeps of it.
* `Chronicle`: a cache with the changes that were made to its keys; `Chronicle.run`, what becomes of it.
* `LastWritten`: the last change of a key is the writing of a value.
* `Chronicle.Reaches`: what may become of a cache of some capacity.
* `Chronicle.Reaches.eq_run`: with room for all keys nothing is dropped.
* `Chronicle.keeps_last_written`: the cache as a map with times to live.
-/

namespace Turnstile

/-! ## Changes -/

/-- A value that was written, with its time to live and the instant. -/
structure Writing where
  value : List UInt8
  ttl : Duration
  instant : Nat

/-- What is kept of a value that was written. -/
def Writing.kept (w : Writing) : Kept CacheEntry :=
  .since w.instant (.new w.value w.ttl) (CacheEntry.new w.value w.ttl).ttl

/-- A change of what is under a key. -/
inductive Change where
  | written (key : String) (value : List UInt8) (ttl : Duration) (instant : Nat)
  | removed (key : String)

/-- The key that a change is of. -/
def Change.key : Change → String
  | .written key .. => key
  | .removed key => key

@[simp] theorem Change.key_written (key : String) (value : List UInt8) (ttl : Duration)
    (instant : Nat) : (Change.written key value ttl instant).key = key := rfl

@[simp] theorem Change.key_removed (key : String) : (Change.removed key).key = key := rfl

/-- The last change of a key is the writing of a value. -/
def LastWritten (changes : List Change) (key : String) (w : Writing) : Prop :=
  ∃ before after, changes = before ++ .written key w.value w.ttl w.instant :: after
    ∧ ∀ change ∈ after, change.key ≠ key

theorem lastWritten_nil {key : String} {w : Writing} : ¬ LastWritten [] key w := by
  rintro ⟨before, after, h, -⟩
  simp at h

/-- A change of a key is its last one; a change of another key is none of it. -/
theorem lastWritten_concat {changes : List Change} {change : Change} {key : String} {w : Writing} :
    LastWritten (changes ++ [change]) key w
      ↔ if change.key = key then change = .written key w.value w.ttl w.instant
        else LastWritten changes key w := by
  constructor
  · rintro ⟨before, after, h, hafter⟩
    rcases List.eq_nil_or_concat after with rfl | ⟨after, last, rfl⟩
    · obtain ⟨-, hlast⟩ := List.append_inj' h rfl
      obtain rfl : change = _ := List.singleton_inj.mp hlast
      rw [Change.key_written, if_pos rfl]
    · rw [List.concat_eq_append, ← List.cons_append, ← List.append_assoc] at h
      obtain ⟨rfl, hlast⟩ := List.append_inj' h rfl
      obtain rfl : change = last := List.singleton_inj.mp hlast
      rw [List.concat_eq_append] at hafter
      rw [if_neg (hafter change (by simp))]
      exact ⟨before, after, rfl, fun c hc => hafter c (by simp [hc])⟩
  · intro h
    by_cases hkey : change.key = key
    · rw [if_pos hkey] at h
      exact ⟨changes, [], by rw [h], by simp⟩
    · rw [if_neg hkey] at h
      obtain ⟨before, after, rfl, hafter⟩ := h
      refine ⟨before, after ++ [change], by simp, ?_⟩
      intro c hc
      rcases List.mem_append.mp hc with hold | hnew
      · exact hafter c hold
      · rw [List.mem_singleton.mp hnew]
        exact hkey

theorem lastWritten_concat_of_ne {changes : List Change} {change : Change} {key : String}
    (h : change.key ≠ key) (w : Writing) :
    LastWritten (changes ++ [change]) key w ↔ LastWritten changes key w := by
  rw [lastWritten_concat, if_neg h]

theorem lastWritten_concat_of_eq {changes : List Change} {change : Change} {key : String}
    (h : change.key = key) (w : Writing) :
    LastWritten (changes ++ [change]) key w ↔ change = .written key w.value w.ttl w.instant := by
  rw [lastWritten_concat, if_pos h]

/-! ## Uses of a cache -/

/-- What is done with a cache. -/
inductive CacheUse where
  | set (key : String) (value : List UInt8) (ttl : Duration)
  | get (key : String)
  | delete (key : String)
  | load (key : String) (steps : List FlightStep)
  | wait (nanos : Nat)

/-- The key that is used. -/
def CacheUse.key? : CacheUse → Option String
  | .set key .. | .get key | .delete key | .load key _ => some key
  | .wait _ => none

/-- What a flight writes when its loader is done. -/
def Flight.changes (key : String) (f : Flight) : List Change :=
  match f.leader with
  | none => []
  | some call =>
    match call.loader with
    | .ok value => [.written key value call.ttl f.cache.now]
    | .error _ => []

/-- A flight writes nothing, or a value with the time to live of the call whose loader has yielded it. -/
theorem Flight.land_cases (key : String) (f : Flight) :
    (f.land key = f.cache ∧ f.changes key = [])
      ∨ ∃ value ttl, f.land key = f.cache.insert key value ttl
          ∧ f.changes key = [.written key value ttl f.cache.now] := by
  unfold Flight.land Flight.changes
  cases f.leader with
  | none => exact .inl ⟨rfl, rfl⟩
  | some call =>
    obtain ⟨ttl, loader⟩ := call
    cases loader with
    | ok value => exact .inr ⟨value, ttl, rfl, rfl⟩
    | error _ => exact .inl ⟨rfl, rfl⟩

/-- A cache with the changes that were made to its keys. -/
structure Chronicle where
  cache : Cache := {}
  changes : List Change := []

namespace Chronicle

/-- What a use makes of a cache. -/
def act (c : Chronicle) : CacheUse → Chronicle
  | .set key value ttl =>
    ⟨c.cache.insert key value ttl, c.changes ++ [.written key value ttl c.cache.now]⟩
  | .get _ => c
  | .delete key => ⟨c.cache.erase key, c.changes ++ [.removed key]⟩
  | .load key steps =>
    let f := Flight.fly key c.cache steps
    ⟨f.land key, c.changes ++ f.changes key⟩
  | .wait nanos => { c with cache := c.cache.wait nanos }

/-- A new cache after some uses. -/
def run (uses : List CacheUse) : Chronicle := uses.foldl act {}

theorem run_concat (uses : List CacheUse) (use : CacheUse) :
    run (uses ++ [use]) = (run uses).act use :=
  List.foldl_concat ..

/-! ## What is kept is what was last written -/

/-- A cache keeps what was last written. -/
def Faithful (c : Chronicle) : Prop :=
  ∀ key k, c.cache.stored? key = some k ↔ ∃ w, LastWritten c.changes key w ∧ w.kept = k

variable {c : Chronicle}

theorem faithful_new : Faithful {} := by
  intro key k
  refine iff_of_false (by simp [Cache.stored?, Store.kept?]) ?_
  rintro ⟨w, hlast, -⟩
  exact lastWritten_nil hlast

theorem Faithful.write (h : c.Faithful) (key : String) (value : List UInt8) (ttl : Duration) :
    Faithful ⟨c.cache.insert key value ttl, c.changes ++ [.written key value ttl c.cache.now]⟩ := by
  intro other k
  by_cases hkey : other = key
  · subst hkey
    simp only [Cache.stored?_insert, if_pos, lastWritten_concat_of_eq (Change.key_written ..)]
    constructor
    · intro hk
      exact ⟨⟨value, ttl, c.cache.now⟩, rfl, Option.some.inj hk⟩
    · rintro ⟨⟨v, t, i⟩, hwritten, rfl⟩
      obtain ⟨-, rfl, rfl, rfl⟩ := Change.written.inj hwritten
      rfl
  · have hother : (Change.written key value ttl c.cache.now).key ≠ other := Ne.symm hkey
    simp only [Cache.stored?_insert, if_neg hkey, lastWritten_concat_of_ne hother]
    exact h other k

theorem Faithful.remove (h : c.Faithful) (key : String) :
    Faithful ⟨c.cache.erase key, c.changes ++ [.removed key]⟩ := by
  intro other k
  by_cases hkey : other = key
  · subst hkey
    simp [Cache.stored?_erase, lastWritten_concat_of_eq (Change.key_removed other)]
  · have hother : (Change.removed key).key ≠ other := Ne.symm hkey
    simp only [Cache.stored?_erase, if_neg hkey, lastWritten_concat_of_ne hother]
    exact h other k

theorem Faithful.wait (h : c.Faithful) (nanos : Nat) :
    Faithful { c with cache := c.cache.wait nanos } := h

theorem Faithful.land {f : Flight} {changes : List Change} (h : Faithful ⟨f.cache, changes⟩)
    (key : String) : Faithful ⟨f.land key, changes ++ f.changes key⟩ := by
  rcases f.land_cases key with ⟨hland, hchanges⟩ | ⟨value, ttl, hland, hchanges⟩
  · rw [hland, hchanges, List.append_nil]
    exact h
  · rw [hland, hchanges]
    exact h.write key value ttl

theorem Faithful.act (h : c.Faithful) (use : CacheUse) : (c.act use).Faithful := by
  cases use with
  | set key value ttl => exact h.write key value ttl
  | get key => exact h
  | delete key => exact h.remove key
  | load key steps =>
    have hlater : Faithful ⟨(Flight.fly key c.cache steps).cache, c.changes⟩ := by
      rw [Flight.cache_fly]
      exact h.wait _
    exact hlater.land key
  | wait nanos => exact h.wait nanos

/-- **Whatever is done with a cache**, it keeps what was last written. -/
theorem faithful_run (uses : List CacheUse) : (run uses).Faithful := by
  induction uses using List.reverseRecOn with
  | nil => exact faithful_new
  | append_singleton uses use ih =>
    rw [run_concat]
    exact ih.act use

/-- **Reading a key** gives what was last written to it, until that runs out. -/
theorem get?_run_eq_some_iff (uses : List CacheUse) (key : String) (value : List UInt8) :
    (run uses).cache.get? key = some value
      ↔ ∃ ttl instant, LastWritten (run uses).changes key ⟨value, ttl, instant⟩
          ∧ (ttl.nanos = 0 ∨ (run uses).cache.now < instant + ttl.nanos) := by
  rw [Cache.get?_eq_some_iff]
  constructor
  · rintro ⟨k, hk, halive, rfl⟩
    obtain ⟨w, hlast, rfl⟩ := (faithful_run uses key k).mp hk
    exact ⟨w.ttl, w.instant, hlast, (CacheEntry.alive_since_new ..).mp halive⟩
  · rintro ⟨ttl, instant, hlast, halive⟩
    exact ⟨_, (faithful_run uses key _).mpr ⟨_, hlast, rfl⟩,
      (CacheEntry.alive_since_new ..).mpr halive, rfl⟩

end Chronicle

/-- **Writing a key** gives it the new value for the new time to live, whatever was there. -/
theorem Cache.get?_wait_insert (c : Cache) (key : String) (value : List UInt8) (ttl : Duration)
    (nanos : Nat) (found : List UInt8) :
    ((c.insert key value ttl).wait nanos).get? key = some found
      ↔ found = value ∧ (ttl.nanos = 0 ∨ nanos < ttl.nanos) := by
  rw [Cache.get?_eq_some_iff, Cache.stored?_wait, Cache.stored?_insert, if_pos rfl]
  constructor
  · rintro ⟨k, hk, halive, rfl⟩
    obtain rfl := Option.some.inj hk
    exact ⟨rfl, ((CacheEntry.alive_since_new ..).mp halive).imp_right Nat.lt_of_add_lt_add_left⟩
  · rintro ⟨rfl, halive⟩
    refine ⟨_, rfl, (CacheEntry.alive_since_new ..).mpr ?_, rfl⟩
    exact halive.imp_right fun h => Nat.add_lt_add_left h c.now

/-! ## Room for all keys -/

/-- No key has two entries, and all that have one are among some. -/
structure Cache.Within (keys : List String) (c : Cache) : Prop where
  distinct : (c.inner.entries.map Prod.fst).Nodup
  among : ∀ key ∈ c.inner.entries.map Prod.fst, key ∈ keys

namespace Cache.Within

variable {keys : List String} {c : Cache}

theorem length_le (h : c.Within keys) : c.inner.entries.length ≤ keys.length := by
  rw [← List.length_map (f := Prod.fst)]
  exact (List.Nodup.subperm h.distinct h.among).length_le

theorem erase (h : c.Within keys) (key : String) : (c.erase key).Within keys := by
  have hsub : ((c.erase key).inner.entries.map Prod.fst).Sublist (c.inner.entries.map Prod.fst) :=
    List.filter_sublist.map Prod.fst
  exact ⟨hsub.nodup h.distinct, fun other ho => h.among other (hsub.subset ho)⟩

theorem insert (h : c.Within keys) {key : String} (hkey : key ∈ keys) (value : List UInt8)
    (ttl : Duration) : (c.insert key value ttl).Within keys := by
  have hrest := h.erase key
  refine ⟨List.nodup_cons.mpr ⟨?_, hrest.distinct⟩, ?_⟩
  · intro hmem
    obtain ⟨e, he, heq⟩ := List.mem_map.mp hmem
    simpa [heq] using (List.mem_filter.mp he).2
  · intro other ho
    rcases List.mem_cons.mp ho with rfl | hold
    · exact hkey
    · exact hrest.among other hold

theorem wait (h : c.Within keys) (nanos : Nat) : (c.wait nanos).Within keys :=
  ⟨h.distinct, h.among⟩

theorem land {f : Flight} (h : f.cache.Within keys) {key : String} (hkey : key ∈ keys) :
    (f.land key).Within keys := by
  rcases f.land_cases key with ⟨hland, -⟩ | ⟨value, ttl, hland, -⟩
  · rwa [hland]
  · rw [hland]
    exact h.insert hkey value ttl

end Cache.Within

namespace Chronicle

variable {c : Chronicle} {uses : List CacheUse} {keys : List String}

/-- Only what is used has an entry. -/
theorem within_act (h : c.cache.Within keys) {use : CacheUse} (hkeys : ∀ key ∈ use.key?, key ∈ keys) :
    (c.act use).cache.Within keys := by
  cases use with
  | set key value ttl => exact h.insert (hkeys key rfl) value ttl
  | get key => exact h
  | delete key => exact h.erase key
  | load key steps =>
    have hlater : (Flight.fly key c.cache steps).cache.Within keys := by
      rw [Flight.cache_fly]
      exact h.wait _
    exact hlater.land (hkeys key rfl)
  | wait nanos => exact h.wait nanos

theorem within_run (hkeys : ∀ use ∈ uses, ∀ key ∈ use.key?, key ∈ keys) :
    (run uses).cache.Within keys := by
  induction uses using List.reverseRecOn with
  | nil => exact ⟨List.nodup_nil, by simp [run]⟩
  | append_singleton uses use ih =>
    rw [run_concat]
    exact within_act (ih fun u hu => hkeys u (by simp [hu])) (hkeys use (by simp))

/-- What may become of a new cache of some capacity: after any use, one that is over its capacity may
drop entries. -/
inductive Reaches (capacity : Nat) : List CacheUse → Chronicle → Prop
  | new : Reaches capacity [] {}
  | act {uses : List CacheUse} {c : Chronicle} (h : Reaches capacity uses c) (use : CacheUse) :
    Reaches capacity (uses ++ [use]) (c.act use)
  | drop {uses : List CacheUse} {c : Chronicle} (h : Reaches capacity uses c)
    (hover : capacity < c.cache.inner.entries.length) (key : String) :
    Reaches capacity uses { c with cache := c.cache.erase key }

theorem reaches_run (capacity : Nat) (uses : List CacheUse) : Reaches capacity uses (run uses) := by
  induction uses using List.reverseRecOn with
  | nil => exact .new
  | append_singleton uses use ih =>
    rw [run_concat]
    exact ih.act use

/-- **With room for all keys nothing is dropped.** -/
theorem Reaches.eq_run {capacity : Nat} (h : Reaches capacity uses c)
    (hkeys : ∀ use ∈ uses, ∀ key ∈ use.key?, key ∈ keys) (hroom : keys.length ≤ capacity) :
    c = run uses := by
  induction h with
  | new => rfl
  | act h use ih =>
    rw [run_concat, ih fun u hu => hkeys u (by simp [hu])]
  | drop h hover key ih =>
    have hlength := (within_run hkeys).length_le
    rw [ih hkeys] at hover
    omega

/-- The keys that are used. -/
def usedKeys (uses : List CacheUse) : List String := (uses.filterMap CacheUse.key?).dedup

theorem mem_usedKeys {use : CacheUse} (h : use ∈ uses) {key : String} (hkey : key ∈ use.key?) :
    key ∈ usedKeys uses :=
  List.mem_dedup.mpr (List.mem_filterMap.mpr ⟨use, h, hkey⟩)

/-! ## A map with times to live -/

/-- **A cache with room for all keys that are used is a map with times to live.** Nothing is dropped; a
key has the value that was last written to it until that runs out or is removed; a new value brings its
own time to live. Calls that load a key together run at most one loader, and each has the value that is
alive when it comes or else that loader's outcome: while there is a value all have it, and no entry
changes; where there is none all have the outcome of the loader of the first, whose value is written when
it is done. A failed load changes no entry. -/
theorem keeps_last_written (capacity : Nat) (uses : List CacheUse)
    (hroom : (usedKeys uses).length ≤ capacity) :
    let c := (run uses).cache
    (∀ x, Reaches capacity uses x ↔ x = run uses)
      ∧ (∀ key value, c.get? key = some value
        ↔ ∃ ttl instant, LastWritten (run uses).changes key ⟨value, ttl, instant⟩
            ∧ (ttl.nanos = 0 ∨ c.now < instant + ttl.nanos))
      ∧ (∀ key value ttl nanos found, ((c.insert key value ttl).wait nanos).get? key = some found
        ↔ found = value ∧ (ttl.nanos = 0 ∨ nanos < ttl.nanos))
      ∧ ∀ key steps,
        let f := Flight.fly key c steps
        let later := c.wait (FlightStep.elapsed steps)
        let callers := (FlightStep.comings steps).length
        (f.runs ≤ 1
            ∧ f.answers key = (FlightStep.comings steps).map (fun a =>
                (((c.wait a.after).get? key).map .ok).or (Flight.outcome? key c steps))
            ∧ none ∉ f.answers key)
          ∧ (∀ value, later.get? key = some value →
            f.runs = 0 ∧ f.answers key = List.replicate callers (some (.ok value))
              ∧ f.land key = later)
          ∧ (∀ first others, c.get? key = none → FlightStep.comings steps = first :: others →
            f.runs = 1 ∧ f.answers key = List.replicate callers (some (first.call.outcome key))
              ∧ f.land key = match first.call.loader with
                | .ok value => later.insert key value first.call.ttl
                | .error _ => later)
          ∧ (∀ reason, Flight.outcome? key c steps = some (.error reason) → f.land key = later)
          ∧ ∀ first others, FlightStep.comings steps = first :: others →
            later.get? key = c.get? key →
            ∃ result, later.load key first.call.ttl callers first.call.loader
                = (⟨f.runs, result⟩, f.land key)
              ∧ f.answers key = List.replicate callers (some result) := by
  intro c
  refine ⟨fun x => ⟨fun h => ?_, fun h => ?_⟩, get?_run_eq_some_iff uses,
    c.get?_wait_insert, fun key steps => ?_⟩
  · exact h.eq_run (fun _ hu _ hk => mem_usedKeys hu hk) hroom
  · rw [h]
    exact reaches_run capacity uses
  · intro f later callers
    refine ⟨⟨?_, Flight.answers_fly key c steps, Flight.none_notMem_answers key c steps⟩,
      fun _ => Flight.fly_of_live, fun _ _ hn hcomings => Flight.fly_of_missing hn hcomings,
      fun _ => Flight.land_of_failed, fun _ _ => Flight.load_eq⟩
    simp only [f, Flight.fly_eq]
    exact Nat.min_le_left ..

/-- A value that stays replaces one that would run out, and a load that comes then does not change that.
A key whose value has run out is loaded, and the load fails. -/
theorem keeps_last_written_two_keys :
    let uses : List CacheUse :=
      [.set "token" [1] ⟨50⟩, .wait 20, .set "token" [2] ⟨0⟩, .set "quota" [3] ⟨100⟩, .wait 120,
        .load "token" [.come ⟨⟨10⟩, .ok [9]⟩, .wait 40],
        .load "quota" [.come ⟨⟨0⟩, .error "down"⟩, .wait 5, .come ⟨⟨0⟩, .ok [4]⟩]]
    (usedKeys uses).length ≤ 2
      ∧ (∀ x, Reaches 2 uses x ↔ x = run uses)
      ∧ (∃ ttl instant, LastWritten (run uses).changes "token" ⟨[2], ttl, instant⟩
          ∧ (ttl.nanos = 0 ∨ (run uses).cache.now < instant + ttl.nanos))
      ∧ (run uses).cache.now = 185 ∧ (run uses).cache.get? "quota" = none := by
  intro uses
  obtain ⟨hreaches, hreads, -⟩ := keeps_last_written 2 uses (by decide)
  exact ⟨by decide, hreaches, (hreads "token" [2]).mp (by decide), by decide, by decide⟩

end Chronicle

end Turnstile
