import Mathlib.Data.Int.Order.Basic
import Mathlib.Data.Prod.Lex
import Mathlib.Order.Compare
import PageContent.Geometry.Quad

namespace PageContent.FloatOrder

open Float.Model (Format UnpackedFloat)
open Float.Model.UnpackedFloat (Sign unpackExponent unpackMantissa unpackSign)

/-- Where a number stands: by the part of the line that it is in, its exponent and its mantissa, the last two turned
round below zero. A NaN stands nowhere. -/
def rank : UnpackedFloat → Option (ℤ ×ₗ ℤ ×ₗ ℤ)
  | .infinity .negative => some (toLex (-2, toLex (0, 0)))
  | .finite .negative m e _ => some (toLex (-1, toLex (-e, -m)))
  | .zero _ => some (toLex (0, toLex (0, 0)))
  | .finite .positive m e _ => some (toLex (1, toLex (e, m)))
  | .infinity .positive => some (toLex (2, toLex (0, 0)))
  | .notANumber => none

theorem compare_neg (m n : ℤ) : compare (-m) (-n) = (compare m n).swap := by
  rw [Int.compare_swap]
  rcases lt_trichotomy m n with less | same | more
  · rw [compare_gt_iff_gt.mpr less, compare_gt_iff_gt.mpr (Int.neg_lt_neg less)]
  · rw [compare_eq_iff_eq.mpr same.symm, compare_eq_iff_eq.mpr (congrArg _ same)]
  · rw [compare_lt_iff_lt.mpr more, compare_lt_iff_lt.mpr (Int.neg_lt_neg more)]

theorem compare_cast (m n : ℕ) : compare (m : ℤ) (n : ℤ) = compare m n := by
  rcases lt_trichotomy m n with less | same | more
  · rw [compare_lt_iff_lt.mpr less, compare_lt_iff_lt.mpr (Int.ofNat_lt.mpr less)]
  · rw [compare_eq_iff_eq.mpr same, compare_eq_iff_eq.mpr (congrArg _ same)]
  · rw [compare_gt_iff_gt.mpr more, compare_gt_iff_gt.mpr (Int.ofNat_lt.mpr more)]

theorem compare_eq_rank (u v : UnpackedFloat) :
    u.compare v = (rank u).bind fun p => (rank v).map fun q => compare p q := by
  -- Only within one side of zero does it take the exponents and the mantissas.
  rcases u with ⟨⟨⟩⟩ | _ | _ | ⟨⟨⟩, m, e, _⟩ <;> rcases v with ⟨⟨⟩⟩ | _ | _ | ⟨⟨⟩, n, f, _⟩ <;> try rfl
  case finite.negative.finite.negative =>
    have turned : ((compare e f).then (compare m n)).swap = (compare (-e) (-f)).then (compare (-m : ℤ) (-n)) := by
      rw [Ordering.swap_then, compare_neg, compare_neg, compare_cast]
    exact congrArg some turned
  case finite.positive.finite.positive =>
    exact congrArg some (congrArg (compare e f).then (compare_cast m n).symm)

theorem any_compare_iff {test : Ordering → Bool} {R : ℤ ×ₗ ℤ ×ₗ ℤ → ℤ ×ₗ ℤ ×ₗ ℤ → Prop}
    (means : ∀ p q, test (compare p q) = true ↔ R p q) (u v : UnpackedFloat) :
    (u.compare v).any test = true ↔ ∃ p q, rank u = some p ∧ rank v = some q ∧ R p q := by
  rw [compare_eq_rank]
  cases rank u <;> cases rank v <;> simp [means]

theorem beq_some_eq_any (outcome : Option Ordering) (expected : Ordering) :
    (outcome == some expected) = outcome.any (· == expected) := by
  cases outcome <;> rfl

theorem toBitVec_ofBitVec (b : BitVec 1) : (Sign.ofBitVec b).toBitVec = b := by
  unfold Sign.ofBitVec
  split_ifs with positive
  · exact positive.symm
  · exact ((BitVec.eq_zero_or_eq_one b).resolve_left positive).symm

theorem word_eq {b c : BitVec Format.binary32.numBits} (sign : unpackSign b = unpackSign c)
    (exponent : unpackExponent b = unpackExponent c) (mantissa : unpackMantissa b = unpackMantissa c) : b = c := by
  have high := congrArg BitVec.toNat sign
  have middle := congrArg BitVec.toNat exponent
  have low := congrArg BitVec.toNat mantissa
  have b_small := b.isLt
  have c_small := c.isLt
  unfold unpackSign at high
  unfold unpackExponent at middle
  unfold unpackMantissa at low
  simp only [BitVec.toNat_cast, BitVec.extractLsb_toNat, Nat.shiftRight_eq_div_pow] at high middle low
  simp only [Format.numBits] at *
  apply BitVec.eq_of_toNat_eq
  omega

theorem unpack_infinite {b : BitVec Format.binary32.numBits} {sign : Sign}
    (infinite : UnpackedFloat.unpack .binary32 b = .infinity sign) :
    unpackSign b = sign.toBitVec ∧ unpackExponent b = -1#_ ∧ unpackMantissa b = 0#_ := by
  unfold UnpackedFloat.unpack at infinite
  extract_lets at infinite
  by_cases exponent : unpackExponent b = -1#_
  · by_cases mantissa : unpackMantissa b = 0#_
    · rw [if_pos exponent, if_pos mantissa] at infinite
      have signs := UnpackedFloat.infinity.inj infinite
      exact ⟨by rw [← signs, toBitVec_ofBitVec], exponent, mantissa⟩
    · rw [if_pos exponent, if_neg mantissa] at infinite
      cases infinite
  · by_cases small : unpackExponent b = 0#_
    · by_cases mantissa : unpackMantissa b = 0#_
      · rw [if_neg exponent, if_pos small, dif_pos mantissa] at infinite
        cases infinite
      · rw [if_neg exponent, if_pos small, dif_neg mantissa] at infinite
        cases infinite
    · rw [if_neg exponent, if_neg small] at infinite
      cases infinite

variable {x y z : Float32}

theorem eq_of_infinite {sign : Sign} (left : x.toModel.unpack = .infinity sign)
    (right : y.toModel.unpack = .infinity sign) : x = y := by
  obtain ⟨high, middle, low⟩ := unpack_infinite left
  obtain ⟨high', middle', low'⟩ := unpack_infinite right
  have words : x.toModel.toBits.toBitVec = y.toModel.toBits.toBitVec :=
    word_eq (high.trans high'.symm) (middle.trans middle'.symm) (low.trans low'.symm)
  obtain ⟨⟨⟨b⟩, _⟩⟩ := x
  obtain ⟨⟨⟨c⟩, _⟩⟩ := y
  cases words
  rfl

theorem le_iff_rank : x ≤ y ↔ ∃ p q, rank x.toModel.unpack = some p ∧ rank y.toModel.unpack = some q ∧ p ≤ q := by
  have told : x ≤ y ↔ (x.toModel.unpack.compare y.toModel.unpack).any (·.isLE) = true := decide_eq_true_iff
  have means : ∀ p q : ℤ ×ₗ ℤ ×ₗ ℤ, (compare p q).isLE = true ↔ p ≤ q := fun p q =>
    Ordering.isLE_iff_ne_gt.trans compare_le_iff_le
  exact told.trans (any_compare_iff means _ _)

theorem lt_iff_rank : x < y ↔ ∃ p q, rank x.toModel.unpack = some p ∧ rank y.toModel.unpack = some q ∧ p < q := by
  have told : x < y ↔ (x.toModel.unpack.compare y.toModel.unpack == some .lt) = true := decide_eq_true_iff
  have means : ∀ p q : ℤ ×ₗ ℤ ×ₗ ℤ, (compare p q == .lt) = true ↔ p < q := fun p q => by
    rw [beq_iff_eq, compare_lt_iff_lt]
  rw [told, beq_some_eq_any, any_compare_iff means]

theorem beq_iff_rank :
    (x == y) = true ↔ ∃ p q, rank x.toModel.unpack = some p ∧ rank y.toModel.unpack = some q ∧ p = q := by
  have told : (x == y) = (x.toModel.unpack.compare y.toModel.unpack == some .eq) := rfl
  have means : ∀ p q : ℤ ×ₗ ℤ ×ₗ ℤ, (compare p q == .eq) = true ↔ p = q := fun p q => by
    rw [beq_iff_eq, compare_eq_iff_eq]
  rw [told, beq_some_eq_any, any_compare_iff means]

theorem isNaN_eq_isNone (u : UnpackedFloat) : u.isNaN = (rank u).isNone := by
  rcases u with ⟨⟨⟩⟩ | _ | _ | ⟨⟨⟩, m, e, _⟩ <;> rfl

theorem isNaN_eq_false_iff : x.isNaN = false ↔ ∃ p, rank x.toModel.unpack = some p := by
  have told : x.isNaN = x.toModel.unpack.isNaN := rfl
  rw [told, isNaN_eq_isNone, Option.isNone_eq_false_iff, Option.isSome_iff_exists]

theorem le_self_iff : x ≤ x ↔ x.isNaN = false := by
  rw [le_iff_rank, isNaN_eq_false_iff]
  constructor
  · rintro ⟨p, -, stands, -⟩
    exact ⟨p, stands⟩
  · rintro ⟨p, stands⟩
    exact ⟨p, p, stands, stands, le_rfl⟩

theorem bne_self_iff : (x != x) = false ↔ x ≤ x := by
  rw [bne, Bool.not_eq_false', beq_iff_rank, le_iff_rank]
  constructor <;> rintro ⟨p, q, stands, stands', -⟩ <;> cases stands.symm.trans stands'
  · exact ⟨p, p, stands, stands, le_rfl⟩
  · exact ⟨p, p, stands, stands, rfl⟩

theorem le_trans (left : x ≤ y) (right : y ≤ z) : x ≤ z := by
  obtain ⟨p, q, x_stands, y_stands, below⟩ := le_iff_rank.mp left
  obtain ⟨q', r, y_stands', z_stands, below'⟩ := le_iff_rank.mp right
  cases y_stands.symm.trans y_stands'
  exact le_iff_rank.mpr ⟨p, r, x_stands, z_stands, below.trans below'⟩

theorem beq_of_le_of_le (left : x ≤ y) (right : y ≤ x) : (x == y) = true := by
  obtain ⟨p, q, x_stands, y_stands, below⟩ := le_iff_rank.mp left
  obtain ⟨q', p', y_stands', x_stands', below'⟩ := le_iff_rank.mp right
  cases y_stands.symm.trans y_stands'
  cases x_stands.symm.trans x_stands'
  exact beq_iff_rank.mpr ⟨p, q, x_stands, y_stands, below.antisymm below'⟩

theorem le_of_lt (less : x < y) : x ≤ y := by
  obtain ⟨p, q, x_stands, y_stands, below⟩ := lt_iff_rank.mp less
  exact le_iff_rank.mpr ⟨p, q, x_stands, y_stands, below.le⟩

theorem le_of_not_lt (left : x ≤ x) (right : y ≤ y) (more : ¬y < x) : x ≤ y := by
  obtain ⟨p, x_stands⟩ := isNaN_eq_false_iff.mp (le_self_iff.mp left)
  obtain ⟨q, y_stands⟩ := isNaN_eq_false_iff.mp (le_self_iff.mp right)
  have below : p ≤ q := not_lt.mp fun above => more (lt_iff_rank.mpr ⟨q, p, y_stands, x_stands, above⟩)
  exact le_iff_rank.mpr ⟨p, q, x_stands, y_stands, below⟩

theorem eq_of_infinity_le (above : Quad.infinity ≤ x) : x = Quad.infinity := by
  obtain ⟨p, q, stands, x_stands, below⟩ := le_iff_rank.mp above
  have infinite : x.toModel.unpack = .infinity .positive := by
    cases stands
    rcases unpacked : x.toModel.unpack with ⟨⟨⟩⟩ | _ | _ | ⟨⟨⟩, m, e, _⟩ <;> rw [unpacked] at x_stands <;>
      cases x_stands <;> first | rfl | simp [Prod.Lex.toLex_le_toLex] at below
  exact eq_of_infinite infinite rfl

theorem eq_of_le_neg_infinity (below : x ≤ -Quad.infinity) : x = -Quad.infinity := by
  obtain ⟨p, q, x_stands, stands, below⟩ := le_iff_rank.mp below
  have infinite : x.toModel.unpack = .infinity .negative := by
    cases stands
    rcases unpacked : x.toModel.unpack with ⟨⟨⟩⟩ | _ | _ | ⟨⟨⟩, m, e, _⟩ <;> rw [unpacked] at x_stands <;>
      cases x_stands <;> first | rfl | simp [Prod.Lex.toLex_le_toLex] at below
  exact eq_of_infinite infinite rfl

end PageContent.FloatOrder
