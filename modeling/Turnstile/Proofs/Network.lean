import Mathlib.Data.Nat.Bitwise
import Turnstile.Network

/-!
# What a network holds

A network is an address and a length. It holds the addresses of its family that agree with its own on
that many leading bits; the program finds out by comparing numbers, and stores a mapped network as one of
the fourth version. Neither lets the bits behind the leading ones show.

* `Network.Agree`: words with the same leading bits; `Network.agree_iff_div_eq`, what that says of the
  numbers.
* `Network.Covers`: what a network holds; `Network.contains_iff`, that the program finds just that.
* `Address.unmapped?_eq_some_iff`: which addresses are mapped.
* `Network.Same`: networks that differ at most in the bits behind the leading ones, and
  `Network.Same.canonical?`, that they are stored as such.
-/

namespace Turnstile

namespace Network

/-! ## Leading bits -/

/-- Two words agree on so many leading bits. -/
def Agree {w : Nat} (n : Nat) (a b : BitVec w) : Prop := ∀ i < n, a.getMsbD i = b.getMsbD i

theorem Agree.symm {w n : Nat} {a b : BitVec w} (h : Agree n a b) : Agree n b a :=
  fun i hi => (h i hi).symm

theorem Agree.trans {w n : Nat} {a b c : BitVec w} (h : Agree n a b) (h' : Agree n b c) :
    Agree n a c :=
  fun i hi => (h i hi).trans (h' i hi)

theorem Agree.mono {w n m : Nat} {a b : BitVec w} (h : Agree n a b) (hm : m ≤ n) : Agree m a b :=
  fun i hi => h i (Nat.lt_of_lt_of_le hi hm)

/-- **Leading bits are what division leaves.** -/
theorem agree_iff_div_eq {w n : Nat} (hn : n ≤ w) (a b : BitVec w) :
    Agree n a b ↔ a.toNat / 2 ^ (w - n) = b.toNat / 2 ^ (w - n) := by
  constructor
  · intro h
    refine Nat.eq_of_testBit_eq fun j => ?_
    rw [Nat.testBit_div_two_pow, Nat.testBit_div_two_pow]
    by_cases hj : j < n
    · have hbit := h (n - 1 - j) (by omega)
      have hplace : w - 1 - (n - 1 - j) = j + (w - n) := by omega
      simpa only [BitVec.getMsbD, BitVec.getLsbD, hplace, decide_eq_true (show n - 1 - j < w by omega),
        Bool.true_and] using hbit
    · rw [Nat.testBit_lt_two_pow (Nat.lt_of_lt_of_le a.isLt (Nat.pow_le_pow_right (by omega) (by omega))),
        Nat.testBit_lt_two_pow (Nat.lt_of_lt_of_le b.isLt (Nat.pow_le_pow_right (by omega) (by omega)))]
  · intro h i hi
    have hbit : (a.toNat / 2 ^ (w - n)).testBit (n - 1 - i)
        = (b.toNat / 2 ^ (w - n)).testBit (n - 1 - i) := by rw [h]
    rw [Nat.testBit_div_two_pow, Nat.testBit_div_two_pow,
      show n - 1 - i + (w - n) = w - 1 - i by omega] at hbit
    simp only [BitVec.getMsbD, BitVec.getLsbD, hbit]

/-- Between the first and the last number that agree with one on all but the last bits. -/
theorem between_iff_div_eq (a x free : Nat) :
    lowest a free ≤ x ∧ x ≤ highest a free ↔ a / 2 ^ free = x / 2 ^ free := by
  have hpos : 0 < 2 ^ free := Nat.two_pow_pos free
  rw [eq_comm, Nat.div_eq_iff hpos]
  unfold highest lowest
  rw [Nat.pow_eq, Nat.add_sub_assoc hpos]

/-! ## What a network holds -/

/-- The network holds an address: one of its family that agrees with its own on its leading bits. -/
def Covers : Network → Address → Prop
  | .v4 n length _, .v4 a => Agree length n a
  | .v6 n length _, .v6 a => Agree length n a
  | _, _ => False

/-- **Membership** is agreement on the leading bits. -/
theorem contains_iff (n : Network) (a : Address) : n.contains a = true ↔ n.Covers a := by
  cases n with
  | v4 n length h =>
    cases a with
    | v4 a =>
      simp only [contains, Covers, Bool.and_eq_true, decide_eq_true_eq, between_iff_div_eq,
        agree_iff_div_eq h]
    | v6 a => simp [contains, Covers]
  | v6 n length h =>
    cases a with
    | v4 a => simp [contains, Covers]
    | v6 a =>
      simp only [contains, Covers, Bool.and_eq_true, decide_eq_true_eq, between_iff_div_eq,
        agree_iff_div_eq h]

theorem anyContains_iff (ns : List Network) (a : Address) :
    anyContains ns a = true ↔ ∃ n ∈ ns, n.Covers a := by
  simp only [anyContains, List.any_eq_true, contains_iff]

end Network

/-! ## Mapped addresses -/

namespace Address

theorem toNat_mapped (b : BitVec 32) : (mapped b).toNat = 0xffff * 2 ^ 32 + b.toNat := by
  unfold mapped
  rw [BitVec.toNat_append, ← Nat.shiftLeft_add_eq_or_of_lt b.isLt, Nat.shiftLeft_eq]
  rfl

/-- **An address is mapped** exactly if it was made from one of the fourth version. -/
theorem unmapped?_eq_some_iff {a : BitVec 128} {b : BitVec 32} :
    unmapped? a = some b ↔ a = mapped b := by
  constructor
  · intro h
    unfold unmapped? at h
    split at h
    · rename_i hfront
      obtain rfl := Option.some.inj h
      unfold mapped
      rw [← hfront]
      refine BitVec.eq_of_getLsbD_eq fun i hi => ?_
      rw [BitVec.getLsbD_append]
      by_cases hi' : i < 32
      · simp [hi']
      · simp [hi', show i - 32 < 96 by omega, show 32 + (i - 32) = i by omega]
    · cases h
  · rintro rfl
    exact unmapped?_mapped b

/-- The canonical form of a mapped address is the address that it was made from. -/
@[simp] theorem canonical_mapped (b : BitVec 32) : (Address.v6 (mapped b)).canonical = .v4 b := by
  simp [canonical]

/-- An address that is not mapped is its own canonical form. -/
theorem canonical_of_ne {a : Address} (h : ∀ b, a ≠ .v6 (mapped b)) : a.canonical = a := by
  cases a with
  | v4 a => rfl
  | v6 a =>
    cases hu : unmapped? a with
    | none => simp [canonical, hu]
    | some b => exact absurd (congrArg Address.v6 (unmapped?_eq_some_iff.mp hu)) (h b)

/-- A word is mapped if it agrees with a mapped one on the bits that tell so. -/
theorem exists_mapped_of_agree {a : BitVec 128} {b : BitVec 32} (h : Network.Agree 96 a (mapped b)) :
    ∃ c, a = mapped c := by
  rw [Network.agree_iff_div_eq (by omega), toNat_mapped] at h
  have hb := b.isLt
  have ha : a.toNat / 2 ^ 32 = 0xffff := by omega
  refine ⟨BitVec.ofNat 32 a.toNat, BitVec.eq_of_toNat_eq ?_⟩
  rw [toNat_mapped, BitVec.toNat_ofNat]
  omega

end Address

namespace Network

/-- Mapped addresses agree as far as those that they were made from. -/
theorem agree_mapped_iff {n : Nat} (h : 96 ≤ n) (hn : n ≤ 128) (b c : BitVec 32) :
    Agree n (Address.mapped b) (Address.mapped c) ↔ Agree (n - 96) b c := by
  rw [agree_iff_div_eq hn, agree_iff_div_eq (by omega), Address.toNat_mapped, Address.toNat_mapped,
    show 32 - (n - 96) = 128 - n by omega]
  have hsplit : 2 ^ 32 = 2 ^ (128 - n) * 2 ^ (n - 96) := by
    rw [← Nat.pow_add, show 128 - n + (n - 96) = 32 by omega]
  rw [hsplit, Nat.mul_left_comm, Nat.mul_add_div (Nat.two_pow_pos _),
    Nat.mul_add_div (Nat.two_pow_pos _)]
  omega

/-! ## Networks that are the same -/

/-- Two networks of one family and one length, with addresses that agree on the leading bits. -/
inductive Same : Network → Network → Prop
  | v4 {a b : BitVec 32} {n : Nat} {h h' : n ≤ 32} : Agree n a b → Same (.v4 a n h) (.v4 b n h')
  | v6 {a b : BitVec 128} {n : Nat} {h h' : n ≤ 128} : Agree n a b → Same (.v6 a n h) (.v6 b n h')

theorem Same.refl (x : Network) : x.Same x := by
  cases x with
  | v4 a n h => exact .v4 fun _ _ => rfl
  | v6 a n h => exact .v6 fun _ _ => rfl

theorem Same.symm {x y : Network} (h : x.Same y) : y.Same x := by
  cases h with
  | v4 hab => exact .v4 hab.symm
  | v6 hab => exact .v6 hab.symm

theorem Same.trans {x y z : Network} (h : x.Same y) (h' : y.Same z) : x.Same z := by
  cases h with
  | v4 hab =>
    cases h' with
    | v4 hbc => exact .v4 (hab.trans hbc)
  | v6 hab =>
    cases h' with
    | v6 hbc => exact .v6 (hab.trans hbc)

/-- Networks that are the same hold the same addresses. -/
theorem Same.covers_iff {x y : Network} (h : x.Same y) (a : Address) : x.Covers a ↔ y.Covers a := by
  cases h with
  | v4 hxy =>
    cases a with
    | v4 a => exact ⟨hxy.symm.trans, hxy.trans⟩
    | v6 a => exact Iff.rfl
  | v6 hxy =>
    cases a with
    | v4 a => exact Iff.rfl
    | v6 a => exact ⟨hxy.symm.trans, hxy.trans⟩

/-- Lists of networks that are the same hold the same addresses. -/
theorem anyContains_congr {xs ys : List Network} (h : List.Forall₂ Same xs ys) (a : Address) :
    anyContains xs a = anyContains ys a := by
  induction h with
  | nil => rfl
  | cons hxy _ ih =>
    unfold anyContains at ih ⊢
    rw [List.any_cons, List.any_cons, ih, Bool.eq_iff_iff.mpr
      ((contains_iff _ a).trans ((hxy.covers_iff a).trans (contains_iff _ a).symm))]

/-! ## How a network is stored -/

/-- A mapped network that is so short that it holds other addresses too. -/
def ShortMapped : Network → Prop
  | .v4 _ _ _ => False
  | .v6 a n _ => n < 96 ∧ ∃ b, a = Address.mapped b

/-- A short mapped network is refused. -/
theorem canonical?_of_shortMapped {x : Network} (h : x.ShortMapped) :
    x.canonical? = .error .shortMapped := by
  cases x with
  | v4 a n hn => cases h
  | v6 a n hn =>
    obtain ⟨hshort, b, rfl⟩ := h
    simp only [canonical?, Address.unmapped?_mapped, if_neg (Nat.not_le.mpr hshort)]

theorem toNat_lowest (b : BitVec 32) (free : Nat) :
    (BitVec.ofNat 32 (lowest b.toNat free)).toNat = lowest b.toNat free := by
  have hle : lowest b.toNat free ≤ b.toNat := Nat.div_mul_le_self _ _
  rw [BitVec.toNat_ofNat, Nat.mod_eq_of_lt (Nat.lt_of_le_of_lt hle b.isLt)]

/-- A mapped network is stored as that of the address that its own was made from. -/
theorem canonical?_mapped {n : Nat} (h : 96 ≤ n) (hn : n ≤ 128) (b : BitVec 32) :
    ∃ y, (Network.v6 (Address.mapped b) n hn).canonical? = .ok y
      ∧ (Network.v4 b (n - 96) (by omega)).Same y := by
  refine ⟨.v4 (BitVec.ofNat 32 (lowest b.toNat (128 - n))) (n - 96), ?_, .v4 ?_⟩
  · simp only [canonical?, Address.unmapped?_mapped, if_pos h]
  · rw [agree_iff_div_eq (by omega), toNat_lowest, show 32 - (n - 96) = 128 - n by omega]
    unfold lowest
    rw [Nat.pow_eq, Nat.mul_div_cancel _ (Nat.two_pow_pos _)]

/-- A network of the sixth version that is not mapped is stored as it is. -/
theorem canonical?_of_unmapped {a : BitVec 128} {n : Nat} {hn : n ≤ 128}
    (h : ∀ b, a ≠ Address.mapped b) : (Network.v6 a n hn).canonical? = .ok (.v6 a n hn) := by
  cases hu : Address.unmapped? a with
  | none => simp only [canonical?, hu]
  | some b => exact absurd (Address.unmapped?_eq_some_iff.mp hu) (h b)

/-- **Only short mapped networks are refused.** -/
theorem exists_canonical?_iff (x : Network) : (∃ y, x.canonical? = .ok y) ↔ ¬x.ShortMapped := by
  constructor
  · rintro ⟨y, hy⟩ hshort
    rw [canonical?_of_shortMapped hshort] at hy
    cases hy
  · intro hlong
    cases x with
    | v4 a n hn => exact ⟨.v4 a n hn, rfl⟩
    | v6 a n hn =>
      by_cases hmapped : ∃ b, a = Address.mapped b
      · obtain ⟨b, rfl⟩ := hmapped
        have h96 : 96 ≤ n := Nat.not_lt.mp fun hshort => hlong ⟨hshort, b, rfl⟩
        obtain ⟨y, hy, -⟩ := canonical?_mapped h96 hn b
        exact ⟨y, hy⟩
      · exact ⟨_, canonical?_of_unmapped fun b hb => hmapped ⟨b, hb⟩⟩

/-- **Networks that are the same are stored as the same**, if they are stored at all. -/
theorem Same.canonical? {x y x' y' : Network} (h : x.Same y) (hx : x.canonical? = .ok x')
    (hy : y.canonical? = .ok y') : x'.Same y' := by
  cases h with
  | v4 hab =>
    obtain rfl := Except.ok.inj hx
    obtain rfl := Except.ok.inj hy
    exact .v4 hab
  | @v6 a b n hn hn' hab =>
    have hlong := (exists_canonical?_iff _).mp ⟨_, hx⟩
    have hlong' := (exists_canonical?_iff _).mp ⟨_, hy⟩
    by_cases hmapped : ∃ c, a = Address.mapped c
    · -- as long as it has to be, the other network is mapped too
      obtain ⟨c, rfl⟩ := hmapped
      have h96 : 96 ≤ n := Nat.not_lt.mp fun hshort => hlong ⟨hshort, c, rfl⟩
      obtain ⟨d, rfl⟩ := Address.exists_mapped_of_agree (hab.symm.mono h96)
      obtain ⟨u, hu, hcu⟩ := canonical?_mapped h96 hn c
      obtain ⟨v, hv, hdv⟩ := canonical?_mapped h96 hn d
      obtain rfl := Except.ok.inj (hu.symm.trans hx)
      obtain rfl := Except.ok.inj (hv.symm.trans hy)
      have hcd : (Network.v4 c (n - 96) (by omega)).Same (.v4 d (n - 96) (by omega)) :=
        .v4 ((agree_mapped_iff h96 hn c d).mp hab)
      exact hcu.symm.trans (hcd.trans hdv)
    · rw [canonical?_of_unmapped fun c hc => hmapped ⟨c, hc⟩] at hx
      obtain rfl := Except.ok.inj hx
      by_cases hmapped' : ∃ d, b = Address.mapped d
      · obtain ⟨d, rfl⟩ := hmapped'
        have h96 : 96 ≤ n := Nat.not_lt.mp fun hshort => hlong' ⟨hshort, d, rfl⟩
        exact absurd (Address.exists_mapped_of_agree (hab.mono h96)) hmapped
      · rw [canonical?_of_unmapped fun d hd => hmapped' ⟨d, hd⟩] at hy
        obtain rfl := Except.ok.inj hy
        exact .v6 hab

end Network

end Turnstile
