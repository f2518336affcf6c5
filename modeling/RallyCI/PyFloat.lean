import Mathlib.Data.Rat.Lemmas
import Mathlib.Tactic.FieldSimp
import Mathlib.Tactic.Ring

/-! Python's `float` where `rallyci` computes a deadline, `time.time() + timeout`: a binary64 sum,
rounded to nearest with ties to even, that later readings of `time.time()` are compared with. -/
namespace RallyCI

/-- A binary64 value other than a NaN: an infinity or a finite rational. -/
inductive PyFloat where
  | negInf
  | fin (x : ℚ)
  | posInf
  deriving DecidableEq, Repr

/-- The number of binary digits of `n`, `0` for `0`, reading at most `fuel` of them. -/
def bitLen : ℕ → ℕ → ℕ
  | 0, _ => 0
  | fuel + 1, n => if n = 0 then 0 else bitLen fuel (n / 2) + 1

/-- `⌊log₂ (n / d)⌋` for `n, d > 0`: the difference of the bit lengths, one less when `n` falls
below `d` shifted by it. -/
def binExp (n d : ℕ) : ℤ :=
  let e : ℤ := (bitLen n n : ℤ) - bitLen d d
  if n * 2 ^ (-e).toNat < d * 2 ^ e.toNat then e - 1 else e

/-- `a / b` rounded to the nearest integer, ties to the even one. -/
def roundHalfEven (a b : ℕ) : ℕ :=
  if b < 2 * (a % b) ∨ (2 * (a % b) = b ∧ a / b % 2 = 1) then a / b + 1 else a / b

namespace PyFloat

/-- The binary64 value nearest `q`, ties to even: `q` over the quantum `2 ^ s` of its binade
(`2 ^ -1074` below the normal range) rounded half to even, and an infinity of `q`'s sign once
the rounded value reaches `2 ^ 1024`. -/
def round (q : ℚ) : PyFloat :=
  if q = 0 then .fin 0 else
  let s := max (binExp q.num.natAbs q.den - 52) (-1074)
  let m := roundHalfEven (q.num.natAbs * 2 ^ (-s).toNat) (q.den * 2 ^ s.toNat)
  if (1024 : ℤ) < bitLen m m + s then (if q.num < 0 then .negInf else .posInf)
  else .fin (mkRat ((if q.num < 0 then -(m : ℤ) else m) * 2 ^ s.toNat) (2 ^ (-s).toNat))

/-- `time.time() > deadline`: whether the reading `c` is past the deadline. -/
def lt : PyFloat → ℚ → Bool
  | negInf, _ => true
  | fin x, c => decide (x < c)
  | posInf, _ => false

end PyFloat

theorem bitLen_le {fuel n k : ℕ} (h : n < 2 ^ k) : bitLen fuel n ≤ k := by
  induction fuel generalizing n k with
  | zero => exact Nat.zero_le _
  | succ fuel ih =>
    unfold bitLen
    split
    · exact Nat.zero_le _
    · cases k with
      | zero => omega
      | succ k => exact Nat.succ_le_succ (ih (by rw [pow_succ] at h; omega))

theorem binExp_le (n d : ℕ) : binExp n d ≤ (bitLen n n : ℤ) - bitLen d d := by
  unfold binExp
  dsimp only
  split <;> omega

@[simp] theorem roundHalfEven_one (a : ℕ) : roundHalfEven a 1 = a := by
  simp [roundHalfEven, Nat.mod_one]

namespace PyFloat

/-- An integer below `2 ^ 53` is a float: a sum of that value rounds to itself. -/
theorem round_intCast {k : ℤ} (hk : k.natAbs < 2 ^ 53) : round k = .fin k := by
  unfold round
  split
  · next h => rw [h]
  next h0 =>
  simp only [Rat.num_intCast, Rat.den_intCast]
  have hs : max (binExp k.natAbs 1 - 52) (-1074) ≤ 0 := by
    have := @bitLen_le k.natAbs k.natAbs 53 hk
    have := binExp_le k.natAbs 1
    have h1 : bitLen 1 1 = 1 := rfl
    omega
  generalize max (binExp k.natAbs 1 - 52) (-1074) = s at hs ⊢
  obtain ⟨j, rfl⟩ : ∃ j : ℕ, s = -j := ⟨(-s).toNat, by omega⟩
  have hj : (-(-(j : ℤ))).toNat = j := by omega
  have h0' : (-(j : ℤ)).toNat = 0 := by omega
  simp only [hj, h0', pow_zero, mul_one, roundHalfEven_one]
  have hlen : bitLen (k.natAbs * 2 ^ j) (k.natAbs * 2 ^ j) ≤ 53 + j :=
    bitLen_le (by rw [pow_add]; exact Nat.mul_lt_mul_of_pos_right hk (Nat.two_pow_pos j))
  rw [if_neg (by omega)]
  have hsign : (if k < 0 then -((k.natAbs * 2 ^ j : ℕ) : ℤ) else ((k.natAbs * 2 ^ j : ℕ) : ℤ)) =
      k * 2 ^ j := by
    push_cast
    split_ifs with hneg
    · rw [abs_of_neg hneg]
      ring
    · rw [abs_of_nonneg (not_lt.1 hneg)]
  rw [hsign, Rat.mkRat_eq_div]
  push_cast
  field_simp

end PyFloat
end RallyCI
