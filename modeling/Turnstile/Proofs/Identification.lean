import Turnstile.Proofs.Arrival
import Turnstile.Proofs.Comparison

/-!
# What the context of a request tells

Inside the gates the context of a request tells what they have found out. With recovery or tagging among
them it names the identifier of the request: the one that the request came with, else the one that its
caller passed on in a header, else a new one. Both gates make sure of it, and the first settles it, so
that what the identifier is settled to be is the same all the way in, and no second one is minted. With a
rate gate among them the context names the group of the method, which is the one that the pipeline can be
asked for.

* `Mint.distinct_of_lt`: a supply of identifiers that holds none twice.
* `Gate.Settles`, `Gate.Told`: what the identifier of a request is settled to be, and that it is there.
* `Gate.Spares`: an authenticator or a stage leaves identifier and group alone.
* `Gate.Shows`: what a lane shows to the stages inside the gates and to the handler.
* `Choices.lane_tells_requestId`, `Choices.lane_tells_group`: what the lanes of pipelines show.
* `context_told`: identifiers and groups, for all pipelines and calls.
-/

namespace Turnstile

/-! ## Minted identifiers -/

/-- The value of a hexadecimal digit. -/
def hexValue (c : Char) : Nat := if c.toNat < 58 then c.toNat - 48 else c.toNat - 87

/-- The number that hexadecimal digits stand for. -/
def ofHex (ds : List Char) : Nat := ds.foldl (fun n c => 16 * n + hexValue c) 0

theorem hexValue_digitChar {d : Nat} (h : d < 16) : hexValue d.digitChar = d := by
  have hall : ∀ d < 16, hexValue d.digitChar = d := by decide
  exact hall d h

theorem ofHex_concat (ds : List Char) (c : Char) : ofHex (ds ++ [c]) = 16 * ofHex ds + hexValue c := by
  simp [ofHex]

theorem ofHex_toDigits (n : Nat) : ofHex (Nat.toDigits 16 n) = n := by
  induction n using Nat.strongRecOn with
  | ind n ih =>
    rw [Nat.toDigits_eq_if (by decide)]
    split
    · rename_i h
      simp [ofHex, hexValue_digitChar h]
    · rw [ofHex_concat, ih (n / 16) (by omega), hexValue_digitChar (Nat.mod_lt n (by decide))]
      omega

/-- Padding does not change the number. -/
theorem ofHex_hexPadded (width n : Nat) : ofHex (hexPadded width n) = n := by
  have hzeros : ∀ k, (List.replicate k '0').foldl (fun n c => 16 * n + hexValue c) 0 = 0 := by
    intro k
    induction k with
    | zero => rfl
    | succ k ih => exact ih
  show ofHex (List.replicate _ '0' ++ Nat.toDigits 16 n) = n
  rw [ofHex, List.foldl_append, hzeros]
  exact ofHex_toDigits n

theorem length_hexPadded {width n : Nat} (hw : 0 < width) (h : n < Nat.pow 16 width) :
    (hexPadded width n).length = width := by
  have hdigits : (Nat.toDigits 16 n).length ≤ width :=
    (Nat.length_toDigits_le_iff (by decide) hw).mpr h
  show (List.replicate _ '0' ++ Nat.toDigits 16 n).length = width
  rw [List.length_append, List.length_replicate]
  omega

/-- **Identifiers that are written out of their numbers** differ, as long as these have thirty digits. -/
theorem RequestId.eq_of_minted_eq {n n' : Nat} (hn : n < Nat.pow 16 30) (hn' : n' < Nat.pow 16 30)
    (h : RequestId.minted n = RequestId.minted n') : n = n' := by
  have hlists := congrArg String.toList (congrArg RequestId.text h)
  simp only [minted, String.toList_ofList, List.append_assoc, List.cons_append] at hlists
  have hlength : ∀ width x y, 0 < width → (hexPadded width (x % Nat.pow 16 width)).length
      = (hexPadded width (y % Nat.pow 16 width)).length := by
    intro width x y hw
    have hfits : ∀ x, (hexPadded width (x % Nat.pow 16 width)).length = width :=
      fun x => length_hexPadded hw (Nat.mod_lt x (Nat.pow_pos (by decide)))
    exact (hfits x).trans (hfits y).symm
  -- the digits of the three parts, each of a length that is always the same
  obtain ⟨hfirst, hrest⟩ := List.append_inj hlists (hlength 12 _ _ (by decide))
  obtain ⟨hsecond, hrest⟩ := List.append_inj (List.cons.inj hrest).2 (hlength 3 _ _ (by decide))
  have hthird := (List.cons.inj hrest).2
  have hvalues := congrArg ofHex hfirst
  have hvalues' := congrArg ofHex hsecond
  have hvalues'' := congrArg ofHex hthird
  simp only [ofHex_hexPadded, Nat.pow_eq, Nat.reducePow] at hvalues hvalues' hvalues'' hn hn'
  omega

/-- So the supply of them holds none twice. -/
theorem Mint.distinct_of_lt {count : Nat} (h : count < Nat.pow 16 30) : Distinct { count } :=
  fun _ hn _ hn' heq =>
    RequestId.eq_of_minted_eq (Nat.lt_of_le_of_lt hn h) (Nat.lt_of_le_of_lt hn' h) heq

/-- The next identifier differs from all minted before. -/
theorem Mint.Distinct.next_ne {mint : Mint} (h : mint.Distinct) {n : Nat} (hn : n < mint.count) :
    mint.next.1 ≠ mint.supply n := by
  intro heq
  exact Nat.ne_of_gt hn (h mint.count (Nat.le_refl _) n (Nat.le_of_lt hn) heq)

/-- The identifier that a caller passes on is the trimmed text of the first header of that name, if that
is readable and not blank. -/
theorem Metadata.requestId?_eq_some_iff {metadata : Metadata} {id : RequestId} :
    metadata.requestId? = some id
      ↔ ∃ h s, metadata.entries.find? (fun h => h.name = "x-request-id") = some h
        ∧ h.text? = some s ∧ Text.trim s ≠ "" ∧ id = ⟨Text.trim s⟩ := by
  have htext : metadata.text? RequestId.header
      = (metadata.entries.find? fun h => h.name = "x-request-id").bind Header.text? := rfl
  rw [requestId?, htext]
  cases metadata.entries.find? fun h => h.name = "x-request-id" with
  | none => simp
  | some h =>
    cases hs : h.text? with
    | none => simp [hs]
    | some s =>
      simp only [Option.bind_some, Option.map_some, hs]
      by_cases hblank : Text.trim s = ""
      · rw [if_pos (String.isEmpty_iff.mpr hblank)]
        refine ⟨(fun h => by cases h), ?_⟩
        rintro ⟨h', s', hh, hs', hne, -⟩
        obtain rfl := Option.some.inj hh
        obtain rfl := Option.some.inj (hs.symm.trans hs')
        exact absurd hblank hne
      · rw [if_neg fun he => hblank (String.isEmpty_iff.mp he)]
        constructor
        · intro h
          exact ⟨_, s, rfl, hs, hblank, (Option.some.inj h).symm⟩
        · rintro ⟨h', s', hh, hs', -, rfl⟩
          obtain rfl := Option.some.inj hh
          obtain rfl := Option.some.inj (hs.symm.trans hs')
          rfl

/-! ## One gate -/

namespace Gate

variable {σ ν ρ : Type}

/-- Whether a gate is a span or a stage of the user's. -/
def isStage : Gate σ ν ρ → Bool
  | .span => true
  | .user _ => true
  | _ => false

/-- Whether a gate makes sure of an identifier. -/
def identifies : Gate σ ν ρ → Bool
  | .recovery _ => true
  | .tagging => true
  | _ => false

/-- Whether a gate finds the group of the method. -/
def isRateLimit : Gate σ ν ρ → Bool
  | .rateLimit _ => true
  | _ => false

/-- An authenticator or a stage of the user's leaves the identifier and the group of a request alone. -/
def Spares : Gate σ ν ρ → Request Payload → Request Payload → Prop
  | .authentication _, r, r' =>
    r'.context.requestId = r.context.requestId ∧ r'.context.group = r.context.group
  | .user _, r, r' =>
    r'.context.requestId = r.context.requestId ∧ r'.context.group = r.context.group
  | _, _, _ => True

/-- What the identifier of a request is settled to be, and the supply of identifiers once it is. -/
def Settles (id : RequestId) (n : Mint) (r : Request Payload) (st : Pipeline.State σ ν) : Prop :=
  RequestId.settle r.context.requestId r.metadata.requestId? st.minted = (id, n)

/-- A request has its identifier. -/
structure Told (id : RequestId) (n : Mint) (r : Request Payload) (st : Pipeline.State σ ν) : Prop where
  requestId : r.context.requestId = some id
  minted : st.minted = n

section

variable {m : Method} {gate : Gate σ ν ρ} {r r' : Request Payload} {st st' : Pipeline.State σ ν}
  {leave : Outcome ρ → StateM (Pipeline.State σ ν) (Outcome ρ)} {id : RequestId} {n : Mint}

theorem Told.settles (h : Told id n r st) : Settles id n r st := by
  rw [Settles, h.requestId, h.minted]
  rfl

/-- Making sure of an identifier gives a request the one that is settled. -/
theorem Settles.told (h : Settles id n r st) :
    (ensureRequestId r st).1.2.context.requestId = some id ∧ (ensureRequestId r st).2.minted = n := by
  rw [ensureRequestId_eq, h]
  exact ⟨rfl, rfl⟩

/-- Behind a gate that makes sure of it, a request has its identifier. -/
theorem Settles.identified (h : Settles id n r st) (hg : gate.identifies = true)
    (he : (gate.layer m).enter r st = (.passed r' leave, st')) : Told id n r' st' := by
  have hhands := hands_of_passed he
  cases gate with
  | recovery metrics | tagging =>
    obtain ⟨rfl, hminted⟩ := hhands
    exact ⟨h.told.1, hminted.trans h.told.2⟩
  | admission | rateLimit | authentication | span | user => cases hg

theorem requestId_grouped (verdict : Verdict) (r : Request Payload) :
    (grouped verdict r).context.requestId = r.context.requestId := by
  unfold grouped
  cases verdict.group <;> rfl

theorem metadata_grouped (verdict : Verdict) (r : Request Payload) :
    (grouped verdict r).metadata = r.metadata := by
  unfold grouped
  cases verdict.group <;> rfl

/-- **A request that has its identifier** keeps it. -/
theorem Told.passed (h : Told id n r st) (hs : gate.Spares r r')
    (he : (gate.layer m).enter r st = (.passed r' leave, st')) : Told id n r' st' := by
  have hhands := hands_of_passed he
  cases gate with
  | recovery metrics => exact h.settles.identified rfl he
  | tagging => exact h.settles.identified rfl he
  | admission a | span =>
    obtain ⟨rfl, hminted⟩ := hhands
    exact ⟨h.requestId, hminted.trans h.minted⟩
  | rateLimit g =>
    obtain ⟨⟨now, b, rfl⟩, hminted⟩ := hhands
    exact ⟨(requestId_grouped _ r).trans h.requestId, hminted.trans h.minted⟩
  | authentication a => exact ⟨hs.1.trans h.requestId, hhands.2.trans h.minted⟩
  | user stage => exact ⟨hs.1.trans h.requestId, Eq.trans hhands h.minted⟩

/-- **What the identifier is settled to be** is the same before and behind every built-in gate. -/
theorem Settles.passed (h : Settles id n r st) (hg : gate.isStage = false) (hs : gate.Spares r r')
    (he : (gate.layer m).enter r st = (.passed r' leave, st')) : Settles id n r' st' := by
  have hhands := hands_of_passed he
  cases gate with
  | recovery metrics => exact (h.identified rfl he).settles
  | tagging => exact (h.identified rfl he).settles
  | admission a =>
    obtain ⟨rfl, hminted⟩ := hhands
    rw [Settles, hminted]
    exact h
  | rateLimit g =>
    obtain ⟨⟨now, b, rfl⟩, hminted⟩ := hhands
    rw [Settles, requestId_grouped, metadata_grouped, hminted]
    exact h
  | authentication a =>
    obtain ⟨⟨context, rfl⟩, hminted⟩ := hhands
    obtain ⟨hid, -⟩ : context.requestId = r.context.requestId ∧ _ := hs
    rw [Settles, hid, hminted]
    exact h
  | span | user => cases hg

/-- Minting happens at most once, and then in the gate that settles the identifier. -/
theorem Settles.minted_passed (h : Settles id n r st)
    (he : (gate.layer m).enter r st = (.passed r' leave, st')) :
    st'.minted = st.minted ∨ st'.minted = n := by
  have hhands := hands_of_passed he
  cases gate with
  | recovery metrics => exact .inr (h.identified rfl he).minted
  | tagging => exact .inr (h.identified rfl he).minted
  | admission | rateLimit | authentication | span => exact .inl hhands.2
  | user stage => exact .inl hhands

/-- Only the rate gate changes the group of a request, if stages and authenticator do not. -/
theorem group_passed (hg : gate.isRateLimit = false) (hs : gate.Spares r r')
    (he : (gate.layer m).enter r st = (.passed r' leave, st')) :
    r'.context.group = r.context.group := by
  have hhands := hands_of_passed he
  cases gate with
  | recovery metrics | tagging =>
    obtain ⟨rfl, -⟩ := hhands
    rw [ensureRequestId_eq]
    rfl
  | admission | span =>
    obtain ⟨rfl, -⟩ := hhands
    rfl
  | rateLimit g => cases hg
  | authentication a => exact hs.2
  | user stage => exact hs.2

/-- The group in the verdict of a call is that of its method. -/
theorem group_charge (g : RateGate) (now : Nat) (method : String) (b : Buckets) :
    (g.charge now method b).1.group = (g.group? method).map Group.name := by
  unfold RateGate.charge
  cases g.group? method with
  | none => rfl
  | some group =>
    dsimp only
    cases group.rateLimit with
    | none => rfl
    | some limit =>
      dsimp only
      cases b.find? group.name with
      | some x => rfl
      | none => cases Limiter.ofRateLimit limit <;> rfl

/-- The rate gate tells the group of the method to a request that came without one. -/
theorem group_rateLimit {g : RateGate} (hr : r.context.group = none)
    (he : ((rateLimit g : Gate σ ν ρ).layer m).enter r st = (.passed r' leave, st')) :
    r'.context.group = (g.group? m.fullName).map Group.name := by
  obtain ⟨⟨now, b, rfl⟩, -⟩ := hands_of_passed he
  rw [← group_charge g now m.fullName b]
  unfold grouped
  cases (g.charge now m.fullName b).1.group with
  | none => exact hr
  | some name => rfl

end

/-! ## Lanes -/

section

variable {m : Method} {lane xs ys : List (Gate σ ν ρ)} {gate : Gate σ ν ρ} {r r' : Request Payload}
  {st st' : Pipeline.State σ ν} {id : RequestId} {n : Mint}

theorem Told.arrives (h : Told id n r st) (hs : Along Spares m lane r st)
    (ha : arrival? m lane r st = some (r', st')) : Told id n r' st' :=
  arrival?_keeps (I := Told id n) (fun _ _ _ _ _ _ _ hspares he ht => ht.passed hspares he) hs h ha

theorem Settles.arrives (h : Settles id n r st) (hl : ∀ gate ∈ lane, gate.isStage = false)
    (hs : Along Spares m lane r st) (ha : arrival? m lane r st = some (r', st')) :
    Settles id n r' st' :=
  arrival?_keeps (I := Settles id n)
    (fun gate hg _ _ _ _ _ hspares he hsettles => hsettles.passed (hl gate hg) hspares he) hs h ha

/-- Behind a gate that makes sure of it, with no stage outside that, a request has its identifier. -/
theorem Settles.told_of_arrival (h : Settles id n r st) (hx : ∀ gate ∈ xs, gate.isStage = false)
    (hg : gate.identifies = true) (hs : Along Spares m (xs ++ gate :: ys) r st)
    (ha : arrival? m (xs ++ gate :: ys) r st = some (r', st')) : Told id n r' st' := by
  obtain ⟨r₁, st₁, harrived, hrest⟩ := exists_between ha
  obtain ⟨hxs, hys⟩ := hs.append
  obtain ⟨r₂, leave, st₂, he, hinner⟩ := exists_passed hrest
  have hsettles := h.arrives hx hxs harrived
  exact (hsettles.identified hg he).arrives ((hys r₁ st₁ harrived).passed he).2 hinner

theorem group_of_arrival (hl : ∀ gate ∈ lane, gate.isRateLimit = false)
    (hs : Along Spares m lane r st) (ha : arrival? m lane r st = some (r', st')) :
    r'.context.group = r.context.group :=
  arrival?_keeps (I := fun r' _ => r'.context.group = r.context.group)
    (fun gate hg _ _ _ _ _ hspares he hgroup => (group_passed (hl gate hg) hspares he).trans hgroup)
    hs rfl ha

/-- Behind the rate gate a request that came without a group has that of its method. -/
theorem group_of_rateLimit {g : RateGate} (hx : ∀ gate ∈ xs, gate.isRateLimit = false)
    (hy : ∀ gate ∈ ys, gate.isRateLimit = false) (hr : r.context.group = none)
    (hs : Along Spares m (xs ++ .rateLimit g :: ys) r st)
    (ha : arrival? m (xs ++ .rateLimit g :: ys) r st = some (r', st')) :
    r'.context.group = (g.group? m.fullName).map Group.name := by
  obtain ⟨r₁, st₁, harrived, hrest⟩ := exists_between ha
  obtain ⟨hxs, hys⟩ := hs.append
  obtain ⟨r₂, leave, st₂, he, hinner⟩ := exists_passed hrest
  have hnone := (group_of_arrival hx hxs harrived).trans hr
  exact (group_of_arrival hy ((hys r₁ st₁ harrived).passed he).2 hinner).trans
    (group_rateLimit hnone he)

/-! ### What is minted in a call -/

variable {handler : Request Payload → StateM (Pipeline.State σ ν) (Outcome ρ)}

/-- Once a request has its identifier, no other is minted. -/
theorem Told.run_minted (h : Told id n r st) (hs : Along Spares m lane r st)
    (hh : ∀ r st, (handler r st).2.minted = st.minted) : (run lane m handler r st).2.minted = n := by
  induction lane generalizing r st with
  | nil => exact (hh r st).trans h.minted
  | cons gate lane ih =>
    rw [run_cons, Layer.around]
    cases he : (gate.layer m).enter r st with
    | mk entered st₁ =>
      cases entered with
      | answered outcome => exact (minted_of_answered he).trans h.minted
      | passed r₁ leave =>
        obtain ⟨hfirst, hrest⟩ := hs.passed he
        have hinner := ih (h.passed hfirst he) hrest
        exact (outward_minted gate m he _).trans hinner

/-- At most one identifier is minted by gates that do not pass a request on. -/
theorem Settles.stopped (h : Settles id n r st) (hl : ∀ gate ∈ lane, gate.isStage = false)
    (hs : Along Spares m lane r st) (ha : arrival? m lane r st = none) :
    (run lane m handler r st).2.minted = st.minted ∨ (run lane m handler r st).2.minted = n := by
  induction lane generalizing r st with
  | nil => cases ha
  | cons gate lane ih =>
    obtain ⟨hgate, hlane⟩ := List.forall_mem_cons.mp hl
    rw [run_cons, Layer.around]
    cases he : (gate.layer m).enter r st with
    | mk entered st₁ =>
      cases entered with
      | answered outcome => exact .inl (minted_of_answered he)
      | passed r₁ leave =>
        rw [arrival?_of_passed he] at ha
        obtain ⟨hfirst, hrest⟩ := hs.passed he
        have hout := outward_minted gate m he (run lane m handler r₁ st₁)
        rcases ih (h.passed hgate hfirst he) hlane hrest ha with hinner | hinner
        · rcases h.minted_passed he with hminted | hminted
          · exact .inl (hout.trans (hinner.trans hminted))
          · exact .inr (hout.trans (hinner.trans hminted))
        · exact .inr (hout.trans hinner)

/-- **What is minted in a call**: at most one identifier, and the one that is settled if the request
arrives at a gate that makes sure of it. -/
theorem Settles.run_minted (h : Settles id n r st) (hx : ∀ gate ∈ xs, gate.isStage = false)
    (hg : gate.identifies = true) (hs : Along Spares m (xs ++ gate :: ys) r st)
    (hh : ∀ r st, (handler r st).2.minted = st.minted) :
    let made := run (xs ++ gate :: ys) m handler r st
    (made.2.minted = st.minted ∨ made.2.minted = n)
      ∧ (∀ a, arrival? m xs r st = some a → made.2.minted = n) := by
  intro made
  have hmade : made = run xs m (run (gate :: ys) m handler) r st :=
    congrFun (congrFun (run_append xs (gate :: ys) m handler) r) st
  obtain ⟨hxs, hys⟩ := hs.append
  have harrives : ∀ a, arrival? m xs r st = some a → made.2.minted = n := by
    rintro ⟨r₁, st₁⟩ ha
    obtain ⟨leave, hrun, hout⟩ := run_of_arrival (P := fun a b => b.2.minted = a.2.minted)
      (fun _ => rfl) (fun _ _ _ hab hbc => Eq.trans hbc hab) (fun gate _ => outward_minted gate m) ha
    rw [hmade, hrun, hout]
    -- the gate makes sure of the identifier, and then nothing is minted
    have hsettles := h.arrives hx hxs ha
    have hrest := hys r₁ st₁ ha
    rw [run_cons, Layer.around]
    cases he : (gate.layer m).enter r₁ st₁ with
    | mk entered st₂ =>
      cases entered with
      | answered outcome =>
        cases gate with
        | recovery metrics =>
          rw [layer, recoveryLayer_enter] at he
          cases he
        | tagging => cases he
        | admission | rateLimit | authentication | span | user => cases hg
      | passed r₂ back =>
        exact (outward_minted gate m he _).trans
          ((hsettles.identified hg he).run_minted (hrest.passed he).2 hh)
  refine ⟨?_, harrives⟩
  cases ha : arrival? m xs r st with
  | none =>
    rw [hmade]
    exact h.stopped hx hxs ha
  | some a => exact .inr (harrives a ha)

end

/-! ### What a lane shows -/

/-- **What a lane shows**: a request that comes to one of the stages inside the gates, or that arrives at
the handler. -/
inductive Shows (m : Method) (lane : List (Gate σ ν ρ)) (r : Request Payload)
    (st : Pipeline.State σ ν) : Request Payload → Prop
  | stage {front : List (Gate σ ν ρ)} {gate : Gate σ ν ρ} {rest : List (Gate σ ν ρ)}
      {r' : Request Payload} {st' : Pipeline.State σ ν} (hl : lane = front ++ gate :: rest)
      (hg : gate.isStage = true) (h : arrival? m front r st = some (r', st')) : Shows m lane r st r'
  | handler {r' : Request Payload} {st' : Pipeline.State σ ν}
      (h : arrival? m lane r st = some (r', st')) : Shows m lane r st r'

section

variable {m : Method} {xs ys : List (Gate σ ν ρ)} {r r' : Request Payload} {st : Pipeline.State σ ν}

/-- What is shown has come by all gates that have no stage outside them. -/
theorem Shows.exists_front (h : Shows m (xs ++ ys) r st r') (hx : ∀ gate ∈ xs, gate.isStage = false) :
    ∃ mid rest st', ys = mid ++ rest ∧ arrival? m (xs ++ mid) r st = some (r', st') := by
  cases h with
  | handler h => exact ⟨ys, [], _, (List.append_nil ys).symm, h⟩
  | @stage front gate rest _ st' hl hg h =>
    rcases List.append_eq_append_iff.mp hl with ⟨mid, rfl, hys⟩ | ⟨mid, rfl, hrest⟩
    · exact ⟨mid, gate :: rest, st', hys, h⟩
    · cases mid with
      | nil => exact ⟨[], ys, st', rfl, by rwa [List.append_nil, List.append_nil]⟩
      | cons gate' mid =>
        -- the stage would be among the gates
        obtain ⟨rfl, -⟩ := List.cons.inj hrest
        rw [hx gate (List.mem_append_right _ List.mem_cons_self)] at hg
        cases hg

end

/-! ### Panics that recovery reports -/

/-- Recovery reports a panic last, under the identifier that the request has then. -/
theorem journal_of_panics {lane : List (Gate σ ν ρ)} (metrics : Option Collector) {m : Method}
    {handler : Request Payload → StateM (Pipeline.State σ ν) (Outcome ρ)} {r : Request Payload}
    {st : Pipeline.State σ ν} {payload : Option String}
    (h : Panics m handler lane (ensureRequestId r st).1.2 (ensureRequestId r st).2 payload) :
    let made := run (.recovery metrics :: lane) m handler r st
    made.1 = .failed .internal ∧ ∃ before, made.2.journal
      = before ++ [.trace (.panicRecovered m.fullName (ensureRequestId r st).1.1 payload)] := by
  intro made
  have hmade : made = rescue metrics m (ensureRequestId r st).1.1
      (run lane m handler (ensureRequestId r st).1.2 (ensureRequestId r st).2) :=
    run_recovery_cons ..
  have hinner := panics_iff.mp h
  rw [hmade]
  cases hrun : run lane m handler (ensureRequestId r st).1.2 (ensureRequestId r st).2 with
  | mk outcome st₁ =>
    rw [hrun] at hinner
    obtain rfl : outcome = .panicked payload := hinner
    refine ⟨rfl, st₁.journal, ?_⟩
    cases metrics <;> rfl

end Gate

/-! ## Pipelines -/

/-- The identifier that a request is settled to have, with the supply of identifiers then. -/
theorem RequestId.settle_eq (own caller : Option RequestId) (minted : Mint) :
    settle own caller minted = ((own.or caller).getD minted.next.1,
      if (own.or caller).isSome then minted else minted.next.2) := by
  unfold settle
  cases own.or caller <;> rfl

/-- Where at most one identifier is minted, the supply is the same and counts at most one more. -/
theorem Mint.settled_of_or {settled minted : Mint} {known : Prop} [Decidable known]
    (h : settled = minted ∨ settled = if known then minted else minted.next.2) :
    settled.supply = minted.supply
      ∧ (settled.count = minted.count ∨ settled.count = minted.count + 1) := by
  rcases h with rfl | rfl
  · exact ⟨rfl, .inl rfl⟩
  · split
    · exact ⟨rfl, .inl rfl⟩
    · exact ⟨rfl, .inr rfl⟩

namespace Choices

variable {σ ν ρ : Type}

/-- None of the gates is a stage. -/
theorem isStage_gates (c : Choices σ ν) (g : Option RateGate) :
    ∀ gate ∈ (c.gates g : List (Gate σ ν ρ)), gate.isStage = false := by
  unfold gates
  cases c.recovery <;> cases c.admission <;> cases g <;> cases c.authenticator <;>
    cases c.requestId <;> simp [Gate.isStage]

/-- Tagging is the innermost of the gates. -/
theorem exists_gates_tagging {c : Choices σ ν} (hc : (c.recovery || c.requestId) = true)
    (g : Option RateGate) : ∃ outer, (c.gates g : List (Gate σ ν ρ)) = outer ++ [.tagging] := by
  unfold gates
  rw [if_pos hc]
  exact ⟨_, rfl⟩

/-- There is one rate gate among the gates. -/
theorem exists_gates_rateLimit (c : Choices σ ν) (g : RateGate) :
    ∃ outer inner, (c.gates (some g) : List (Gate σ ν ρ)) = outer ++ .rateLimit g :: inner
      ∧ (∀ gate ∈ outer, gate.isRateLimit = false) ∧ ∀ gate ∈ inner, gate.isRateLimit = false := by
  refine ⟨(if c.recovery then [.recovery c.metrics] else []) ++ (c.admission.map .admission).toList,
    (c.authenticator.map .authentication).toList
      ++ (if c.recovery || c.requestId then [.tagging] else []), ?_, ?_, ?_⟩
  · simp [gates]
  · cases c.recovery <;> cases c.admission <;> simp [Gate.isRateLimit]
  · cases c.authenticator <;> cases c.recovery <;> cases c.requestId <;> simp [Gate.isRateLimit]

/-- The rate gate asks the resolver of the pipeline. -/
theorem resolver_of_limits {c : Choices σ ν} {g : RateGate} (h : c.limits = .ok (some g)) :
    g.resolver = c.resolver := by
  unfold limits at h
  split at h
  · cases h
  · split at h
    · cases h
    · split at h
      · cases h
      · rename_i hg
        cases h
        rw [(RateGate.of_eq_ok hg).1]

/-- The group that the rate gate finds is the one that the pipeline can be asked for. -/
theorem policyFor?_eq {c : Choices σ ν} {g : RateGate} (h : c.limits = .ok (some g)) (name : String) :
    ((c.pipeline (some g)).policyFor? name).map Prod.fst = (g.group? name).map Group.name := by
  show (c.resolver.bind fun r => r.resolve? name).map Prod.fst = _
  rw [RateGate.group?, resolver_of_limits h]
  cases c.resolver with
  | none => rfl
  | some r =>
    show ((r.group? name).map fun g => (g.name, g.policy)).map Prod.fst = _
    rw [Option.map_map]
    rfl

section

variable {c : Choices σ ν} {g : Option RateGate} {stages : List (Gate σ ν ρ)} {m : Method}
  {r : Request Payload} {st : Pipeline.State σ ν}

/-- **The identifier that lanes of pipelines show.** Where a gate makes sure of it, all that is shown has
the identifier that is settled, which is minted if need be, and no other is minted. -/
theorem lane_tells_requestId (hc : (c.recovery || c.requestId) = true) {id : RequestId} {n : Mint}
    (hsettles : Gate.Settles id n r st) (hs : Gate.Along Gate.Spares m (c.gates g ++ stages) r st)
    {handler : Request Payload → StateM (Pipeline.State σ ν) (Outcome ρ)}
    (hh : ∀ r st, (handler r st).2.minted = st.minted) :
    let made := Gate.run (c.gates g ++ stages) m handler r st
    (made.2.minted = st.minted ∨ made.2.minted = n)
      ∧ ∀ r', Gate.Shows m (c.gates g ++ stages) r st r' →
        r'.context.requestId = some id ∧ made.2.minted = n := by
  intro made
  obtain ⟨outer, hgates⟩ := exists_gates_tagging (ρ := ρ) hc g
  have hnone := isStage_gates (ρ := ρ) c g
  rw [hgates] at hnone
  have houter : ∀ gate ∈ outer, gate.isStage = false :=
    fun gate hg => hnone gate (List.mem_append_left _ hg)
  have hmade : made = Gate.run (outer ++ .tagging :: stages) m handler r st := by
    rw [List.append_cons, ← hgates]
  rw [hgates, ← List.append_cons] at hs
  obtain ⟨hminted, harrived⟩ := hsettles.run_minted houter rfl hs hh
  rw [hmade]
  refine ⟨hminted, ?_⟩
  intro r' hshown
  rw [hgates] at hshown
  obtain ⟨mid, rest, st', rfl, ha⟩ := hshown.exists_front hnone
  rw [← List.append_cons] at ha
  obtain ⟨r₁, st₁, ha₁, -⟩ := Gate.exists_between ha
  rw [← List.cons_append, ← List.append_assoc] at hs
  exact ⟨(hsettles.told_of_arrival houter rfl hs.append.1 ha).requestId, harrived _ ha₁⟩

/-- **The group that lanes of pipelines show.** Where there is a rate gate, all that is shown of a request
that came without a group has the group of the method. -/
theorem lane_tells_group {rateGate : RateGate} (hstages : ∀ gate ∈ stages, gate.isStage = true)
    (hr : r.context.group = none)
    (hs : Gate.Along Gate.Spares m (c.gates (some rateGate) ++ stages) r st) {r' : Request Payload}
    (hshown : Gate.Shows m (c.gates (some rateGate) ++ stages) r st r') :
    r'.context.group = (rateGate.group? m.fullName).map Group.name := by
  obtain ⟨mid, rest, st', rfl, ha⟩ := hshown.exists_front (isStage_gates c _)
  obtain ⟨outer, inner, hgates, houter, hinner⟩ := exists_gates_rateLimit (ρ := ρ) c rateGate
  rw [hgates, List.append_assoc, List.cons_append] at ha
  rw [hgates, ← List.append_assoc, List.append_assoc outer, List.cons_append] at hs
  refine Gate.group_of_rateLimit houter ?_ hr hs.append.1 ha
  intro gate hg
  rcases List.mem_append.mp hg with hgate | hgate
  · exact hinner gate hgate
  · have hstage := hstages gate (List.mem_append_left _ hgate)
    cases gate with
    | rateLimit g => cases hstage
    | recovery | admission | authentication | tagging | span | user => rfl

end

end Choices

/-! ## Calls -/

namespace Call

variable {σ ν : Type}

/-- The authenticator and the stages that a call comes to leave its identifier and its group alone. -/
def Spares (p : Pipeline σ ν) (k : Call σ ν) (st : Pipeline.State σ ν) : Prop :=
  Gate.Along Gate.Spares k.method (k.lane p) k.request (k.ready st)

/-- What a call shows to the stages and to its handler. -/
def Shows (p : Pipeline σ ν) (k : Call σ ν) (st : Pipeline.State σ ν) (r : Request Payload) : Prop :=
  Gate.Shows k.method (k.lane p) k.request (k.ready st) r

/-- The identifier of a call: its own, else the one that its caller has passed on, else a new one. -/
def identifier (k : Call σ ν) (st : Pipeline.State σ ν) : RequestId :=
  (k.request.context.requestId.or k.request.metadata.requestId?).getD st.minted.next.1

section

variable {k : Call σ ν} {st : Pipeline.State σ ν}

theorem identifier_of_own {i : RequestId} (h : k.request.context.requestId = some i) :
    k.identifier st = i := by
  rw [identifier, h]
  rfl

/-- A readable header that is not blank. -/
theorem identifier_of_caller (h : k.request.context.requestId = none) {s : String}
    (hs : (k.request.metadata.entries.find? fun h => h.name = "x-request-id").bind Header.text? = some s)
    (hblank : Text.trim s ≠ "") : k.identifier st = ⟨Text.trim s⟩ := by
  obtain ⟨header, hfirst, htext⟩ := Option.bind_eq_some_iff.mp hs
  rw [identifier, h, Option.none_or,
    Metadata.requestId?_eq_some_iff.mpr ⟨header, s, hfirst, htext, hblank, rfl⟩]
  rfl

/-- No header, or one that is blank or not readable. -/
theorem identifier_of_blank (h : k.request.context.requestId = none)
    (hblank : ∀ s, (k.request.metadata.entries.find? fun h => h.name = "x-request-id").bind Header.text?
      = some s → Text.trim s = "") : k.identifier st = st.minted.next.1 := by
  have hcaller : k.request.metadata.requestId? = none := by
    refine Option.eq_none_iff_forall_ne_some.mpr ?_
    intro i hi
    obtain ⟨header, s, hfirst, htext, hne, -⟩ := Metadata.requestId?_eq_some_iff.mp hi
    exact hne (hblank s (Option.bind_eq_some_iff.mpr ⟨header, hfirst, htext⟩))
  rw [identifier, h, hcaller]
  rfl

end

theorem isStage_stages (os : List (PipelineOption σ ν)) (k : Call σ ν) :
    ∀ gate ∈ k.stages (Choices.of os), gate.isStage = true := by
  intro gate hg
  obtain ⟨s, hs, hpart⟩ := List.mem_filterMap.mp hg
  rcases mem_stages hs with rfl | ⟨e, -, rfl⟩
  · cases k <;> cases hpart <;> rfl
  · cases k <;> cases e <;> cases hpart <;> rfl

theorem minted_ready (k : Call σ ν) (st : Pipeline.State σ ν) : (k.ready st).minted = st.minted := by
  cases k <;> rfl

/-- **The identifier that a call shows**, on a pipeline that options make. -/
theorem tells_requestId {os : List (PipelineOption σ ν)}
    (hc : ((Choices.of os).recovery || (Choices.of os).requestId) = true) (g : Option RateGate)
    (k : Call σ ν) {st : Pipeline.State σ ν} (hs : k.Spares ((Choices.of os).pipeline g) st) :
    let p := (Choices.of os).pipeline g
    let made := k.make p st
    let n := if (k.request.context.requestId.or k.request.metadata.requestId?).isSome then st.minted
      else st.minted.next.2
    (made.2.minted = st.minted ∨ made.2.minted = n)
      ∧ ∀ r, k.Shows p st r → r.context.requestId = some (k.identifier st) ∧ made.2.minted = n := by
  intro p made n
  have hsettles : Gate.Settles (k.identifier st) n k.request (k.ready st) := by
    rw [Gate.Settles, RequestId.settle_eq, minted_ready]
    rfl
  have hmade : made.2.minted = (k.traverse p st).2.minted := (k.make_beside p st).minted
  rw [hmade, ← k.minted_ready st]
  unfold traverse Shows
  unfold Spares at hs
  rw [lane_pipeline] at hs ⊢
  exact Choices.lane_tells_requestId hc hsettles hs fun q st => (k.handling_unspent q st).minted

/-- **The group that a call shows**, on a pipeline that options make. -/
theorem tells_group {os : List (PipelineOption σ ν)} {g : RateGate}
    (hg : (Choices.of os).limits = .ok (some g)) {k : Call σ ν} {st : Pipeline.State σ ν}
    (hs : k.Spares ((Choices.of os).pipeline (some g)) st) (hgroup : k.request.context.group = none)
    {r : Request Payload} (hr : k.Shows ((Choices.of os).pipeline (some g)) st r) :
    r.context.group = (((Choices.of os).pipeline (some g)).policyFor? k.method.fullName).map Prod.fst := by
  unfold Shows at hr
  unfold Spares at hs
  rw [lane_pipeline] at hs hr
  rw [Choices.policyFor?_eq hg]
  exact Choices.lane_tells_group (k.isStage_stages os) hgroup hs hr

/-- Panics inside recovery, in the lane of a call. -/
theorem panics_tag {p : Pipeline σ ν} {k : Call σ ν} {st : Pipeline.State σ ν}
    {payload : Option String} (h : (k.tag st).1.Panics p.unguarded (k.tag st).2 payload) :
    Gate.Panics k.method k.handling (k.lane p.unguarded) (ensureRequestId k.request (k.ready st)).1.2
      (ensureRequestId k.request (k.ready st)).2 payload := by
  cases k with
  | unary m r handler | stream m r handler =>
    simp only [request, ready, ensureRequestId_map]
    exact h
  | serverStream m r handler =>
    simp only [request, ready, ensureRequestId_map, ensureRequestId_unsent]
    exact h

/-- Around a lane that fails nothing is reported. -/
theorem journal_make {p : Pipeline σ ν} {k : Call σ ν} {st : Pipeline.State σ ν} {s : Status}
    (h : (k.traverse p st).1 = .failed s) :
    (k.make p st).2.journal = (k.traverse p st).2.journal := by
  have hrecord : ∀ (m : Method) {ρ : Type} (o : Outcome ρ) (st : Pipeline.State σ ν),
      (p.recordTime m (p.recordOutcome m o st)).journal = st.journal := by
    intro m ρ o st
    unfold Pipeline.recordTime Pipeline.recordOutcome
    cases o <;> cases p.metrics <;> rfl
  cases k with
  | unary m r handler =>
    have hlane : (Gate.run p.unary m (Pipeline.centre m (Pipeline.answering handler))
        (r.map Message.toPayload) st).1 = .failed s := h
    simp only [make, Pipeline.callUnary_eq, hrecord, hlane]
    rfl
  | stream m r handler =>
    simp only [make, Pipeline.callStream_eq, hrecord]
    rfl
  | serverStream m r handler =>
    have hlane : (Gate.run p.stream m (Pipeline.centre m (Pipeline.producer handler))
        (r.map Message.toPayload) { st with outbox := none }).1 = .failed s := h
    simp only [make, Pipeline.callServerStream_eq, Pipeline.callStream_eq, hlane]
    unfold Pipeline.delivered
    split <;> first
      | exact hrecord ..
      | rename_i hpanic; cases hpanic

/-- **The identifier under which a panic is reported** is that of the call. -/
theorem journal_of_panics {p : Pipeline σ ν} (hp : p.Guarded) {k : Call σ ν}
    {st : Pipeline.State σ ν} {payload : Option String}
    (h : (k.tag st).1.Panics p.unguarded (k.tag st).2 payload) :
    ∃ before, (k.make p st).2.journal = before
      ++ [.trace (.panicRecovered k.method.fullName (k.identifier st) payload)] := by
  have hlane : k.lane p = .recovery p.metrics :: k.lane p.unguarded := by
    cases k with
    | unary => exact hp.unary
    | stream | serverStream => exact hp.stream
  have hid : (ensureRequestId k.request (k.ready st)).1.1 = k.identifier st := by
    rw [ensureRequestId_eq, RequestId.settle_eq, minted_ready]
    rfl
  obtain ⟨hfailed, before, hjournal⟩ := Gate.journal_of_panics p.metrics (panics_tag h)
  rw [← hlane] at hfailed hjournal
  rw [hid] at hjournal
  exact ⟨before, (journal_make hfailed).trans hjournal⟩

end Call

/-! ## The main statement -/

open PipelineOption (last? rateLimit? isRecovery isRequestId)

section

variable {σ ν : Type}

/-- **What the context of a request tells.** For a pipeline built from options, for every call in whose
lane authenticator and stages leave identifier and group alone, and in every state:
* the identifier of the call is the one that its request has, else the trimmed text of the first header
  for it if that is readable and not blank, else the next of the supply, which differs from all minted
  before if the supply holds none twice;
* with recovery or request identifiers among the options, all stages that the call comes to and the
  handler see this identifier; at most one is minted, and if anything is seen one is minted exactly if
  the request came without;
* with recovery among them, a panic that gets out to it is reported under this identifier, after all else;
* with a rate limit among them, if the request came without a group, all stages that the call comes to
  and the handler see the group that the pipeline names for the method, or none if it names none. -/
theorem context_told (os : List (PipelineOption σ ν)) {p : Pipeline σ ν}
    (hp : (({} : Builder σ ν).applyAll os).build = .ok p) (k : Call σ ν) (st : Pipeline.State σ ν)
    (hs : k.Spares p st) :
    let own := k.request.context.requestId
    let first := k.request.metadata.entries.find? fun h => h.name = "x-request-id"
    let id := k.identifier st
    let made := k.make p st
    ((∀ i, own = some i → id = i)
      ∧ (own = none → ∀ s, first.bind Header.text? = some s → Text.trim s ≠ "" → id = ⟨Text.trim s⟩)
      ∧ (own = none → (∀ s, first.bind Header.text? = some s → Text.trim s = "") →
          id = st.minted.supply st.minted.count
          ∧ (st.minted.Distinct → ∀ n < st.minted.count, id ≠ st.minted.supply n)))
    ∧ (os.any isRecovery ∨ os.any isRequestId →
        (∀ r, k.Shows p st r → r.context.requestId = some id)
        ∧ made.2.minted.supply = st.minted.supply
        ∧ (made.2.minted.count = st.minted.count ∨ made.2.minted.count = st.minted.count + 1)
        ∧ ((∃ r, k.Shows p st r) → made.2.minted.count = st.minted.count
            + if (own.or k.request.metadata.requestId?).isSome then 0 else 1))
    ∧ (os.any isRecovery → ∀ payload, (k.tag st).1.Panics p.unguarded (k.tag st).2 payload →
        ∃ before, made.2.journal
          = before ++ [.trace (.panicRecovered k.method.fullName id payload)])
    ∧ ((last? rateLimit? os).isSome → k.request.context.group = none →
        ∀ r, k.Shows p st r →
          r.context.group = (p.policyFor? k.method.fullName).map Prod.fst) := by
  intro own first id made
  refine ⟨⟨fun i hown => Call.identifier_of_own hown,
    fun hown s hs hblank => Call.identifier_of_caller hown hs hblank, ?_⟩, ?_, ?_, ?_⟩
  · intro hown hblank
    have hid : id = st.minted.next.1 := Call.identifier_of_blank hown hblank
    refine ⟨hid, ?_⟩
    intro hdistinct n hn
    rw [hid]
    exact hdistinct.next_ne hn
  · intro htagged
    obtain ⟨g, -, rfl⟩ := Choices.of_build hp
    obtain ⟨hminted, hshown⟩ := Call.tells_requestId (by simpa [Choices.of] using htagged) g k hs
    obtain ⟨hsupply, hcount⟩ := Mint.settled_of_or hminted
    refine ⟨fun r hr => (hshown r hr).1, hsupply, hcount, ?_⟩
    rintro ⟨r, hr⟩
    have hsettled := congrArg Mint.count (hshown r hr).2
    rw [apply_ite Mint.count] at hsettled
    rw [show made.2.minted.count = _ from hsettled]
    split <;> rfl
  · intro hr payload h
    exact Call.journal_of_panics (guarded_of_build hp hr).1 h
  · intro hlimited hgroup r hr
    obtain ⟨g, hg, rfl⟩ := Choices.of_build hp
    obtain ⟨rateGate, rfl⟩ := Option.isSome_iff_exists.mp
      ((Choices.isSome_of_limits hg).trans hlimited)
    exact Call.tells_group hg hs hgroup hr

/-- A caller passes on an identifier with blanks around it, to a method of a group that has a limit of its
own. Behind recovery, the rate gate, an authenticator, tagging and a stage that counts, the handler sees
the identifier without the blanks, and the group; nothing is minted. A request without one gets one that
has not been minted before. -/
theorem context_told_passed_on :
    let resolver : Resolver := ⟨[⟨"admin", [.beginning "/admin."],
      some { rateLimit := some (.perMinute 5) }⟩]⟩
    let known : Authenticator Nat Unit := fun _ _ context =>
      pure (.accepted { context with actor := some {} })
    let os : List (PipelineOption Nat Unit) :=
      [.resolver resolver, .recovery, .user (.unary (.tallying (· + 1))), .rateLimit 1.0 1,
        .authentication known]
    let header := Header.of "X-Request-Id" ("  up-42 ".toList.map fun c => UInt8.ofNat c.toNat)
    let ban (r : Request String) : Call Nat Unit := .unary (.unary "/admin.Users/Ban") r fun _ =>
      pure (.ok { message := "banned" })
    let k := ban { metadata := ⟨[header]⟩, message := "ban" }
    ∃ p, (({} : Builder Nat Unit).applyAll os).build = .ok p
      ∧ k.Spares p (p.start 0)
      ∧ (∃ r, k.Shows p (p.start 0) r)
      ∧ (∀ r, k.Shows p (p.start 0) r →
          r.context.requestId = some ⟨"up-42"⟩ ∧ r.context.group = some "admin")
      ∧ (k.make p (p.start 0)).2.minted.count = 0
      ∧ ∀ n < 5, (ban { message := "ban" }).identifier (p.start 0 { count := 5 }) ≠ .minted n := by
  intro resolver known os header ban k
  have hfinal : ((Choices.of os).limits.toOption.bind fun g =>
      let p := (Choices.of os).pipeline g
      (Gate.arrival? k.method (k.lane p) k.request (k.ready (p.start 0))).map fun a =>
        (a.1.context, (p.policyFor? k.method.fullName).map Prod.fst))
      = some ({ requestId := some ⟨"up-42"⟩, group := some "admin", actor := some {} }, some "admin") := by
    decide +kernel
  cases hg : (Choices.of os).limits with
  | error e =>
    rw [hg] at hfinal
    cases hfinal
  | ok g =>
    rw [hg] at hfinal
    obtain ⟨⟨r, st'⟩, harrived, hcontext⟩ := Option.map_eq_some_iff.mp hfinal
    obtain ⟨hr, hgroup⟩ := Prod.mk.inj hcontext
    let p := (Choices.of os).pipeline g
    have hp : (({} : Builder Nat Unit).applyAll os).build = .ok p := by
      rw [Choices.applyAll_eq, Choices.build_builder, hg]
    have hs : ∀ r minted, (ban r).Spares p (p.start 0 minted) := by
      intro r minted
      refine Gate.along_of_forall ?_
      intro gate hgate r' st r₁ leave st₁ he
      have hlane : (ban r).lane p = [.recovery none] ++ [] ++ (g.map .rateLimit).toList
          ++ [.authentication known] ++ [.tagging] ++ [.user (.tallying (· + 1))] := rfl
      rw [hlane] at hgate
      simp only [List.mem_append, List.mem_singleton, List.not_mem_nil, or_false] at hgate
      cases gate with
      | recovery | admission | rateLimit | tagging | span => trivial
      | authentication a =>
        obtain rfl : a = known := by simpa using hgate
        cases he
        exact ⟨rfl, rfl⟩
      | user stage =>
        obtain rfl : stage = .tallying (· + 1) := by simpa using hgate
        cases he
        exact ⟨rfl, rfl⟩
    obtain ⟨-, htold, -, htagged⟩ := context_told os hp k (p.start 0) (hs _ _)
    obtain ⟨hid, -, -, hminted⟩ := htold (.inl rfl)
    have hshown : k.Shows p (p.start 0) r := .handler harrived
    have hupstream : some (k.identifier (p.start 0)) = some ⟨"up-42"⟩ :=
      (hid r hshown).symm.trans (congrArg Context.requestId hr)
    obtain ⟨⟨-, -, hnew⟩, -⟩ := context_told os hp (ban { message := "ban" })
      (p.start 0 { count := 5 }) (hs _ _)
    obtain ⟨-, hfresh⟩ := hnew rfl (by rintro s ⟨⟩)
    refine ⟨p, hp, hs _ _, ⟨r, hshown⟩, ?_, ?_, hfresh (Mint.distinct_of_lt (by decide))⟩
    · intro r' hr'
      exact ⟨(hid r' hr').trans hupstream, (htagged rfl rfl r' hr').trans hgroup⟩
    · have hpassed : (k.request.context.requestId.or k.request.metadata.requestId?).isSome := by
        decide +kernel
      rw [hminted ⟨r, hshown⟩, if_pos hpassed]
      rfl

end

end Turnstile
