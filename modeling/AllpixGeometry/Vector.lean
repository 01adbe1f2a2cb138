import Mathlib.Algebra.Order.Field.Rat
import Mathlib.Tactic.Linarith
import Mathlib.Tactic.NormNum
import Mathlib.Tactic.Ring

/-!
# Cartesian vectors

The geometry code computes with ROOT's `XYVector`, `XYZVector` and `XYZPoint` and with Geant4's
`G4ThreeVector`, all of `double` components.  Every finite `double` is a rational number, so the
components are modelled exactly by `ℚ`; the arithmetic is exact, which is the reading the
geometry code is written for.  ROOT's distinction between a point and a displacement only
restricts which sums type-check, so both are `XYZVector` here.

## Main definitions

* `XYVector`, `XYZVector` — two- and three-component vectors, with componentwise `+`, `-` and
  division by a scalar, as `center + size / 2.0` is written in the source.
* `XYUIntVector` — the `DisplacementVector2D<Cartesian2D<unsigned int>>` of the pixel count.
* `Rotation3D` — a rotation matrix and its action on a vector (`v *= m` in CLHEP), with its
  transpose (`inverse()`), product and identity, and `IsOrthogonal`, the matrices the transpose
  inverts.
-/

namespace Allpix

/-- A two-component vector, ROOT's `XYVector`. -/
structure XYVector where
  /-- The `x()` component. -/
  x : ℚ
  /-- The `y()` component. -/
  y : ℚ
  deriving DecidableEq, Repr

/-- A three-component vector, ROOT's `XYZVector` and `XYZPoint`. -/
@[ext] structure XYZVector where
  /-- The `x()` component. -/
  x : ℚ
  /-- The `y()` component. -/
  y : ℚ
  /-- The `z()` component. -/
  z : ℚ
  deriving DecidableEq, Repr

/-- A pair of unsigned integers, the type the pixel count is read as. -/
structure XYUIntVector where
  /-- The number of pixels along `x`. -/
  x : ℕ
  /-- The number of pixels along `y`. -/
  y : ℕ
  deriving DecidableEq, Repr

namespace XYZVector

instance : Zero XYZVector := ⟨⟨0, 0, 0⟩⟩

instance : Add XYZVector := ⟨fun a b => ⟨a.x + b.x, a.y + b.y, a.z + b.z⟩⟩

instance : Sub XYZVector := ⟨fun a b => ⟨a.x - b.x, a.y - b.y, a.z - b.z⟩⟩

/-- Division of every component by a scalar, as in `size / 2.0`. -/
instance : HDiv XYZVector ℚ XYZVector := ⟨fun a s => ⟨a.x / s, a.y / s, a.z / s⟩⟩

@[simp] theorem zero_x : (0 : XYZVector).x = 0 := rfl
@[simp] theorem zero_y : (0 : XYZVector).y = 0 := rfl
@[simp] theorem zero_z : (0 : XYZVector).z = 0 := rfl

@[simp] theorem add_x (a b : XYZVector) : (a + b).x = a.x + b.x := rfl
@[simp] theorem add_y (a b : XYZVector) : (a + b).y = a.y + b.y := rfl
@[simp] theorem add_z (a b : XYZVector) : (a + b).z = a.z + b.z := rfl

@[simp] theorem sub_x (a b : XYZVector) : (a - b).x = a.x - b.x := rfl
@[simp] theorem sub_y (a b : XYZVector) : (a - b).y = a.y - b.y := rfl
@[simp] theorem sub_z (a b : XYZVector) : (a - b).z = a.z - b.z := rfl

@[simp] theorem div_x (a : XYZVector) (s : ℚ) : (a / s).x = a.x / s := rfl
@[simp] theorem div_y (a : XYZVector) (s : ℚ) : (a / s).y = a.y / s := rfl
@[simp] theorem div_z (a : XYZVector) (s : ℚ) : (a / s).z = a.z / s := rfl

@[simp] theorem add_sub_cancel_left (a b : XYZVector) : a + b - a = b := by
  ext <;> simp

@[simp] theorem sub_zero (a : XYZVector) : a - 0 = a := by
  ext <;> simp

end XYZVector

/-- A rotation matrix, given by its rows: CLHEP's `HepRotation` built from the nine components
of the detector orientation. -/
structure Rotation3D where
  /-- The first row. -/
  xx : XYZVector
  /-- The second row. -/
  yy : XYZVector
  /-- The third row. -/
  zz : XYZVector
  deriving DecidableEq, Repr

/-- The dot product of two vectors. -/
def XYZVector.dot (a b : XYZVector) : ℚ := a.x * b.x + a.y * b.y + a.z * b.z

/-- `v *= m` for a `G4ThreeVector` `v`: the rotated vector `m * v`. -/
def Rotation3D.apply (m : Rotation3D) (v : XYZVector) : XYZVector :=
  ⟨m.xx.dot v, m.yy.dot v, m.zz.dot v⟩

namespace Rotation3D

/-- The transpose, which is what `HepRotation::inverse()` returns. -/
def transpose (m : Rotation3D) : Rotation3D :=
  ⟨⟨m.xx.x, m.yy.x, m.zz.x⟩, ⟨m.xx.y, m.yy.y, m.zz.y⟩, ⟨m.xx.z, m.yy.z, m.zz.z⟩⟩

/-- The product `a * b`: `b`, then `a`. -/
def mul (a b : Rotation3D) : Rotation3D :=
  ⟨b.transpose.apply a.xx, b.transpose.apply a.yy, b.transpose.apply a.zz⟩

/-- The identity, `G4RotationMatrix()`. -/
def identity : Rotation3D := ⟨⟨1, 0, 0⟩, ⟨0, 1, 0⟩, ⟨0, 0, 1⟩⟩

/-- A matrix whose transpose is its inverse, as `HepRotation::inverse()` takes for granted. -/
def IsOrthogonal (m : Rotation3D) : Prop := m.transpose.mul m = identity

instance (m : Rotation3D) : Decidable m.IsOrthogonal := inferInstanceAs (Decidable (_ = _))

@[simp] theorem apply_mul (a b : Rotation3D) (v : XYZVector) :
    (a.mul b).apply v = a.apply (b.apply v) := by
  ext <;> simp only [apply, mul, transpose, XYZVector.dot] <;> ring

@[simp] theorem apply_identity (v : XYZVector) : identity.apply v = v := by
  ext <;> simp [apply, identity, XYZVector.dot]

theorem apply_add (m : Rotation3D) (a b : XYZVector) :
    m.apply (a + b) = m.apply a + m.apply b := by
  ext <;> simp only [apply, XYZVector.dot, XYZVector.add_x, XYZVector.add_y, XYZVector.add_z] <;>
    ring

theorem apply_sub (m : Rotation3D) (a b : XYZVector) :
    m.apply (a - b) = m.apply a - m.apply b := by
  ext <;> simp only [apply, XYZVector.dot, XYZVector.sub_x, XYZVector.sub_y, XYZVector.sub_z] <;>
    ring

/-- An orthogonal matrix is undone by its transpose. -/
theorem IsOrthogonal.transpose_apply_apply {m : Rotation3D} (h : m.IsOrthogonal) (v : XYZVector) :
    m.transpose.apply (m.apply v) = v := by
  rw [← apply_mul, h, apply_identity]

end Rotation3D

end Allpix
