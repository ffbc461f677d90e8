import Turnstile.Layer

/-!
# Chains of layers

A chain of layers is itself a layer: its way in ends where one of the layers answers or the innermost
passes the request on, and its way out is that of all layers passed. What every layer and the handler
keep, the chain keeps.

* `Layer.fuse`: the layers of a chain as one; `chain_eq_around` says that the chain is that one layer
  around the handler.
* `Layer.Steadfast`: the layer keeps a relation between the states before and after.
* `chain_keeps`: what layers and handler keep, the chain keeps.
* `Layer.Mirrors`: a layer that does the same on views of states and results.
-/

namespace Turnstile

/-- An act keeps a relation between the states before and after. -/
def Keeps {S α : Type} (P : S → S → Prop) (act : StateM S α) : Prop := ∀ s, P s (act s).2

namespace Layer

variable {S Q R : Type}

/-! ## A chain as one layer -/

/-- The layer that lets everything through. -/
def idle : Layer S Q R := ⟨fun q s => (.passed q fun result s => (result, s), s)⟩

/-- A layer with another inside it. An answer of the inner one leaves by the outer one. -/
def before (l l' : Layer S Q R) : Layer S Q R :=
  ⟨fun q s =>
    match l.enter q s with
    | (.answered result, s) => (.answered result, s)
    | (.passed q leave, s) =>
      match l'.enter q s with
      | (.answered result, s) =>
        let (result, s) := leave result s
        (.answered result, s)
      | (.passed q leave', s) =>
        (.passed q fun result s =>
          let (result, s) := leave' result s
          leave result s, s)⟩

/-- The layers of a chain as one. -/
def fuse (ls : List (Layer S Q R)) : Layer S Q R := ls.foldr before idle

theorem around_idle (h : Q → StateM S R) : (idle : Layer S Q R).around h = h := rfl

theorem around_before (l l' : Layer S Q R) (h : Q → StateM S R) :
    (l.before l').around h = l.around (l'.around h) := by
  funext q s
  simp only [around, before]
  cases l.enter q s with
  | mk entered s₁ =>
    cases entered with
    | answered result => rfl
    | passed q₁ leave =>
      dsimp only
      cases l'.enter q₁ s₁ with
      | mk entered' s₂ => cases entered' <;> rfl

/-- **A chain is one layer** around the handler. -/
theorem chain_eq_around (ls : List (Layer S Q R)) (h : Q → StateM S R) :
    chain ls h = (fuse ls).around h := by
  induction ls with
  | nil => exact (around_idle h).symm
  | cons l ls ih =>
    rw [chain_cons, ih]
    exact (around_before l (fuse ls) h).symm

/-! ## What layers keep -/

variable {P : S → S → Prop}

/-- A layer keeps a relation on the way in and on every way out. -/
structure Steadfast (P : S → S → Prop) (l : Layer S Q R) : Prop where
  enter : ∀ q, Keeps P (l.enter q)
  leave : ∀ {q s q' leave s'}, l.enter q s = (.passed q' leave, s') →
    ∀ result, Keeps P (leave result)

/-- Layers that neither change the state on the way in nor on the way out keep what is reflexive. -/
theorem idle_steadfast (hrefl : ∀ a, P a a) : (idle : Layer S Q R).Steadfast P := by
  refine ⟨fun q s => hrefl s, ?_⟩
  intro q s q' leave s' he result s''
  cases he
  exact hrefl s''

theorem before_steadfast (htrans : ∀ a b c, P a b → P b c → P a c) {l l' : Layer S Q R}
    (hl : l.Steadfast P) (hl' : l'.Steadfast P) : (l.before l').Steadfast P := by
  constructor
  · intro q s
    have henter := hl.enter q s
    simp only [before]
    cases he : l.enter q s with
    | mk entered s₁ =>
      rw [he] at henter
      cases entered with
      | answered result => exact henter
      | passed q₁ leave =>
        have hinner := hl'.enter q₁ s₁
        dsimp only
        cases he' : l'.enter q₁ s₁ with
        | mk entered' s₂ =>
          rw [he'] at hinner
          have hboth := htrans _ _ _ henter hinner
          cases entered' with
          | answered result => exact htrans _ _ _ hboth (hl.leave he result s₂)
          | passed q₂ leave' => exact hboth
  · intro q s q' leave s' hb result s''
    simp only [before] at hb
    cases he : l.enter q s with
    | mk entered s₁ =>
      rw [he] at hb
      cases entered with
      | answered result => cases hb
      | passed q₁ back =>
        dsimp only at hb
        cases he' : l'.enter q₁ s₁ with
        | mk entered' s₂ =>
          rw [he'] at hb
          cases entered' with
          | answered result => cases hb
          | passed q₂ back' =>
            cases hb
            exact htrans _ _ _ (hl'.leave he' result s'') (hl.leave he _ _)

/-- The layers of a chain keep as one what each of them keeps. -/
theorem fuse_steadfast (hrefl : ∀ a, P a a) (htrans : ∀ a b c, P a b → P b c → P a c)
    {ls : List (Layer S Q R)} (hls : ∀ l ∈ ls, l.Steadfast P) : (fuse ls).Steadfast P := by
  induction ls with
  | nil => exact idle_steadfast hrefl
  | cons l ls ih =>
    obtain ⟨hl, hrest⟩ := List.forall_mem_cons.mp hls
    exact before_steadfast htrans hl (ih hrest)

theorem around_keeps (htrans : ∀ a b c, P a b → P b c → P a c) {l : Layer S Q R}
    (hl : l.Steadfast P) {inner : Q → StateM S R} (hi : ∀ q, Keeps P (inner q)) (q : Q) :
    Keeps P (l.around inner q) := by
  intro s
  have henter := hl.enter q s
  unfold around
  cases he : l.enter q s with
  | mk entered s' =>
    rw [he] at henter
    cases entered with
    | answered result => exact henter
    | passed q' leave =>
      have hinner := htrans _ _ _ henter (hi q' s')
      exact htrans _ _ _ hinner (hl.leave he _ _)

/-- What the layers of a chain and its handler keep, the chain keeps. -/
theorem chain_keeps (hrefl : ∀ a, P a a) (htrans : ∀ a b c, P a b → P b c → P a c)
    {ls : List (Layer S Q R)} (hls : ∀ l ∈ ls, l.Steadfast P) {handler : Q → StateM S R}
    (hh : ∀ q, Keeps P (handler q)) (q : Q) : Keeps P (chain ls handler q) := by
  rw [chain_eq_around]
  exact around_keeps htrans (fuse_steadfast hrefl htrans hls) hh q

end Layer

/-! ## Views of states and results -/

section

variable {S S' Q R R' : Type} {f : S → S'} {g : R → R'}

/-- The second handler does, on views of states and results, what the first does. -/
def Mirrors (f : S → S') (g : R → R') (h : Q → StateM S R) (h' : Q → StateM S' R') : Prop :=
  ∀ q s, h' q (f s) = (g (h q s).1, f (h q s).2)

namespace Layer

/-- The second layer does, on views of states and results, what the first does, and passes the same
requests on. -/
def Mirrors (f : S → S') (g : R → R') (l : Layer S Q R) (l' : Layer S' Q R') : Prop :=
  ∀ q s, match l.enter q s with
    | (.answered result, s₁) => l'.enter q (f s) = (.answered (g result), f s₁)
    | (.passed q₁ leave, s₁) => ∃ leave', l'.enter q (f s) = (.passed q₁ leave', f s₁)
        ∧ ∀ result t, leave' (g result) (f t) = (g (leave result t).1, f (leave result t).2)

theorem Mirrors.around {l : Layer S Q R} {l' : Layer S' Q R'} (hl : l.Mirrors f g l')
    {h : Q → StateM S R} {h' : Q → StateM S' R'} (hh : Turnstile.Mirrors f g h h') :
    Turnstile.Mirrors f g (l.around h) (l'.around h') := by
  intro q s
  have henter := hl q s
  unfold Layer.around
  cases he : l.enter q s with
  | mk entered s₁ =>
    rw [he] at henter
    cases entered with
    | answered result => rw [henter]
    | passed q₁ leave =>
      obtain ⟨leave', hpassed, hleave⟩ := henter
      rw [hpassed]
      dsimp only
      rw [hh q₁ s₁]
      exact hleave _ _

end Layer

end

end Turnstile
