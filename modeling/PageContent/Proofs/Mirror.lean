import Mathlib.Tactic.Ring
import PageContent.Geometry.Flip

namespace PageContent

variable {α : Type}

def Point.ofPair {s : Space} (p : α × α) : Point s α := ⟨p.1, p.2⟩

variable [CommRing α]

namespace Matrix

theorem multiply_assoc (m n k : Matrix α) : (m.multiply n).multiply k = m.multiply (n.multiply k) := by
  ext <;> simp only [multiply] <;> ring

@[simp] theorem identity_multiply (m : Matrix α) : identity.multiply m = m := by
  ext <;> simp [multiply, identity]

@[simp] theorem multiply_identity (m : Matrix α) : m.multiply identity = m := by
  ext <;> simp [multiply, identity]

theorem apply_multiply (m n : Matrix α) (x y : α) :
    (m.multiply n).apply x y = n.apply (m.apply x y).1 (m.apply x y).2 := by
  ext <;> simp only [apply, multiply] <;> ring

def mirror (height : α) : Matrix α := ⟨1, 0, 0, -1, 0, height⟩

theorem apply_mirror (height x y : α) : (mirror height).apply x y = (x, height - y) := by
  ext <;> simp only [apply, mirror] <;> ring

theorem mirror_multiply_mirror (height : α) : (mirror height).multiply (mirror height) = identity := by
  ext <;> simp only [multiply, mirror, identity] <;> ring

/-- The map which does between two reflections what `m` does. -/
def reflected (m : Matrix α) (before after : α) : Matrix α := ((mirror before).multiply m).multiply (mirror after)

theorem reflected_reflected (m : Matrix α) (before after : α) :
    (m.reflected before after).reflected before after = m :=
  calc (m.reflected before after).reflected before after
    _ = ((mirror before).multiply (mirror before)).multiply
          (m.multiply ((mirror after).multiply (mirror after))) := by
      simp only [reflected, multiply_assoc]
    _ = m := by rw [mirror_multiply_mirror, mirror_multiply_mirror, identity_multiply, multiply_identity]

theorem apply_reflected (m : Matrix α) (before after x y : α) :
    (m.reflected before after).apply x y = ((m.apply x (before - y)).1, after - (m.apply x (before - y)).2) := by
  rw [reflected, apply_multiply, apply_multiply, apply_mirror, apply_mirror]

end Matrix

open PageContent.Matrix (product)

variable [DecidableEq α]

theorem negate_eq (x : α) : negate x = -x := by
  by_cases zero : x = 0 <;> simp [negate, zero]

/-- An object looks like its own reflection about the middle of its bounds, placed by its transform and reflected
about the middle of the page. -/
theorem deviceMatrix_eq (raw : Matrix α) (bounds : Rect .page α) (height : α) :
    deviceMatrix raw bounds height = raw.reflected bounds.span height := by
  ext <;> simp only [deviceMatrix, negate_eq, Matrix.reflected, Matrix.mirror, Matrix.multiply] <;> ring

theorem product_placement (device : Matrix α) (bounds : Rect .page α) (height : α) :
    product (placement device bounds height) = device.reflected bounds.span height := by
  ext <;> simp only [product, placement, List.foldl_cons, List.foldl_nil, negate_eq, Matrix.translation,
    Matrix.reflected, Matrix.mirror, Matrix.multiply] <;> ring

/-- In exact arithmetic, as in that of the rational numbers, a page transform and the device matrix it shows as
determine each other, whatever the bounds and the height are. -/
theorem transforms_of_both_spaces_are_inverse (bounds : Rect .page α) (height : α) :
    let toDevice : Matrix α → Matrix α := fun raw => deviceMatrix raw bounds height
    let toPage : Matrix α → Matrix α := fun device => product (placement device bounds height)
    (∀ m, toDevice (toPage m) = m) ∧ (∀ m, toPage (toDevice m) = m) ∧
      Function.Bijective toDevice ∧ Function.Bijective toPage := by
  intro toDevice toPage
  have shown : Function.LeftInverse toDevice toPage := by
    intro m
    simp only [toDevice, toPage, product_placement, deviceMatrix_eq, Matrix.reflected_reflected]
  have placed : Function.LeftInverse toPage toDevice := by
    intro m
    simp only [toDevice, toPage, product_placement, deviceMatrix_eq, Matrix.reflected_reflected]
  refine ⟨shown, placed, ?_, ?_⟩
  · exact Function.bijective_iff_has_inverse.mpr ⟨toPage, placed, shown⟩
  · exact Function.bijective_iff_has_inverse.mpr ⟨toDevice, shown, placed⟩

/-- Each point of an object, reflected within the object's own bounds, is drawn in device space by the device matrix
where the page transform draws the point itself in page space. -/
theorem device_matrix_draws_what_is_placed (bounds : Rect .page α) (height x y : α) :
    (∀ raw : Matrix α,
      Point.ofPair ((deviceMatrix raw bounds height).apply x (bounds.top + bounds.bottom - y)) =
        (Point.ofPair (raw.apply x y) : Point .page α).flip height) ∧
    ∀ device : Matrix α,
      Point.ofPair ((product (placement device bounds height)).apply x y) =
        (Point.ofPair (device.apply x (bounds.top + bounds.bottom - y)) : Point .device α).flip height := by
  have back : bounds.span - (bounds.top + bounds.bottom - y) = y := sub_sub_cancel _ _
  constructor
  · intro raw
    rw [deviceMatrix_eq, Matrix.apply_reflected, back]
    rfl
  · intro device
    rw [product_placement, Matrix.apply_reflected]
    rfl

end PageContent
