import Mathlib.Algebra.BigOperators.Fin
import Mathlib.Data.Matrix.Mul
import Mathlib.Tactic.FinCases
import PageContent.Proofs.Mirror
import PageContent.Proofs.Placing

namespace PageContent

variable {α β : Type}

namespace Matrix

def ofRows (v : Vector α 9) := Matrix.of fun i j : Fin 3 => v[3 * i.val + j.val]

theorem ofAffine_toAffine [OfNat α 0] [OfNat α 1] (m : Matrix α) : ofAffine m.toAffine = m := rfl

theorem ofAffine_set_last (v : Vector α 9) (x y z : α) :
    ofAffine (((v.set 6 x).set 7 y).set 8 z) = ofAffine v := by
  simp [ofAffine]

variable [CommRing α]

theorem apply_product (m : Matrix α) (ms : List (Matrix α)) (x y : α) :
    (product (m :: ms)).apply x y = ms.foldl (fun p n => n.apply p.1 p.2) (m.apply x y) := by
  induction ms generalizing m with
  | nil => rfl
  | cons n ms ih =>
      have merged : product (m :: n :: ms) = product (m.multiply n :: ms) := rfl
      rw [merged, ih, apply_multiply, List.foldl_cons]

theorem ofRows_toAffine_multiply (m n : Matrix α) :
    ofRows (m.multiply n).toAffine = ofRows n.toAffine * ofRows m.toAffine := by
  ext i j
  rw [Matrix.mul_apply, Fin.sum_univ_three]
  fin_cases i <;> fin_cases j <;> simp [ofRows, toAffine, multiply] <;> ring

theorem ofRows_toAffine_mulVec (m : Matrix α) (x y : α) :
    (ofRows m.toAffine).mulVec ![x, y, 1] = ![(m.apply x y).1, (m.apply x y).2, 1] := by
  ext i
  rw [Matrix.mulVec, dotProduct, Fin.sum_univ_three]
  fin_cases i <;> simp [ofRows, toAffine, apply]

end Matrix

open PageContent.Matrix (product ofRows)

namespace Document

def transformed (d : Document) (object : ObjectId) (ms : List (Matrix Float32)) : Document :=
  ms.foldl (fun d m => (perform (.transform object m) d).2) d

theorem transformed_of_absent {d : Document} {object : ObjectId} (absent : d.objects.get? object = none)
    (ms : List (Matrix Float32)) : d.transformed object ms = d := by
  induction ms with
  | nil => rfl
  | cons m ms ih =>
      have kept : (perform (.transform object m) d).2 = d := by
        change (d.tell (d.changeObject object _)).2 = d
        rw [changeObject, absent]
        rfl
      rw [transformed, List.foldl_cons, kept]
      exact ih

theorem transformed_of_known {d : Document} {object : ObjectId} {o : StoredObject}
    (known : d.objects.get? object = some o) (ms : List (Matrix Float32)) :
    d.transformed object ms = d.put object { o with matrix := product (o.matrix :: ms) } := by
  induction ms generalizing d o with
  | nil => exact (put_self known).symm
  | cons m ms ih =>
      have moved : (perform (.transform object m) d).2 = d.put object { o with matrix := o.matrix.multiply m } :=
        congrArg (·.2) (perform_transform known m)
      rw [transformed, List.foldl_cons, moved]
      exact (ih get?_put_self).trans put_put

end Document

/-- In exact arithmetic, as in that of the rational numbers, a product of matrices maps points as its factors do one
after the other, and so do transforms that are appended to the matrix of an object. Written out in rows, a matrix acts
on columns as it maps points, and a product is the product of the rows with the factors exchanged. -/
theorem products_map_in_turn [CommRing α] :
    (∀ (m n : Matrix α) (x y : α), (m.multiply n).apply x y = n.apply (m.apply x y).1 (m.apply x y).2) ∧
    (∀ m n k : Matrix α, (m.multiply n).multiply k = m.multiply (n.multiply k)) ∧
    (∀ m : Matrix α, Matrix.identity.multiply m = m ∧ m.multiply Matrix.identity = m) ∧
    (∀ (m : Matrix α) (ms : List (Matrix α)) (x y : α),
      (product (m :: ms)).apply x y = ms.foldl (fun p n => n.apply p.1 p.2) (m.apply x y)) ∧
    (∀ (d : Document) (object : ObjectId) (ms : List (Matrix Float32)),
      d.transformed object ms = (d.objects.get? object).elim d fun o =>
        d.put object { o with matrix := product (o.matrix :: ms) }) ∧
    (∀ m n : Matrix α, ofRows (m.multiply n).toAffine = ofRows n.toAffine * ofRows m.toAffine) ∧
    (∀ (m : Matrix α) (x y : α), (ofRows m.toAffine).mulVec ![x, y, 1] = ![(m.apply x y).1, (m.apply x y).2, 1]) ∧
    ∀ (β : Type) [OfNat β 0] [OfNat β 1],
      (∀ m : Matrix β, Matrix.ofAffine m.toAffine = m) ∧
      ∀ (v : Vector β 9) (x y z : β), Matrix.ofAffine (((v.set 6 x).set 7 y).set 8 z) = Matrix.ofAffine v := by
  refine ⟨Matrix.apply_multiply, Matrix.multiply_assoc, fun m => ⟨Matrix.identity_multiply m, Matrix.multiply_identity m⟩,
    Matrix.apply_product, fun d object ms => ?_, Matrix.ofRows_toAffine_multiply, Matrix.ofRows_toAffine_mulVec,
    fun β _ _ => ⟨Matrix.ofAffine_toAffine, Matrix.ofAffine_set_last⟩⟩
  cases found : d.objects.get? object with
  | none => exact Document.transformed_of_absent found ms
  | some o => exact Document.transformed_of_known found ms

end PageContent
