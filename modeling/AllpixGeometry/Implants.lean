import AllpixGeometry.Build
import Mathlib.Data.List.ProdSigma
import Mathlib.Data.List.Nodup

/-!
# Where `build` puts the implants

The double loop of `build` adds one box per pixel to the implant union, at a transform computed
from the pixel grid alone: `-grid / 2 + (n + 1/2) · pitch + offset`.  The union is placed with
the sensor box, whose centre `getSensorCenter` lies away from the grid's centre by half the
difference of the opposite excesses.  This module puts the pixel cells in the sensor box's frame
and compares the two: an implant sits at its cell's centre plus `implant_offset`, shifted by
`((right - left) / 2, (top - bottom) / 2)`.  With symmetric excesses the constructor's implant
checks keep every implant in its own cell and in the sensor; with asymmetric ones an implant
leaves its cell.

## Main definitions

* `pixels` — the pixels, in the order the loop visits them.
* `pixelCell` — the cell of pixel `(i, j)` in the sensor box's frame.

## Main results

* `implantNodes_eq_map_pixels` — the union has one box per pixel, in loop order.
* `implantTransform_eq` — an implant's transform is its cell's centre plus the offset, shifted by
  half the excess differences; in `z` it ends at the sensor's `+z` face.
* `implantNodes_within_cells` — **with symmetric non-negative excesses every implant lies in its
  own cell and in the sensor, and implants of distinct pixels do not overlap.**
* `offsetSensorModel_implant_leaves_cell` — with asymmetric excesses an implant leaves its cell.

## References

`src/src/modules/GeometryBuilderGeant4/DetectorConstructionG4.cpp`, lines 131–178;
`src/src/core/geometry/DetectorModel.cpp`, lines 30–62.
-/

namespace Allpix

open EInside

namespace DetectorModel

variable (m : DetectorModel)

/-! ### Pixels and their cells -/

/-- The pixels `(npix_x, npix_y)`, `npix_x` outer and `npix_y` inner. -/
def pixels : List (ℕ × ℕ) := List.product (List.range m.nPixels.x) (List.range m.nPixels.y)

theorem mem_pixels {i j : ℕ} : (i, j) ∈ m.pixels ↔ i < m.nPixels.x ∧ j < m.nPixels.y := by
  simp [pixels, List.product, List.mem_flatMap]

theorem pixels_nodup : m.pixels.Nodup :=
  (List.nodup_range _).product (List.nodup_range _)

/-- Modelled from the spec: the cell of pixel `(i, j)` in the sensor box's frame, a box of one
pitch by one pitch through the sensor's thickness, centred at `pixelCellCenter i j` as seen from
`getSensorCenter`. -/
def pixelCell (i j : ℕ) : Box × XYZVector :=
  (⟨m.pixelSize.x / 2, m.pixelSize.y / 2, m.getSensorSize.z / 2⟩,
    ⟨(m.pixelCellCenter i j).x - m.getSensorCenter.x,
      (m.pixelCellCenter i j).y - m.getSensorCenter.y, m.getCenter.z - m.getSensorCenter.z⟩)

/-- The cell of pixel `(i, j)` starts `sensor_excess_left + i · pitch` from the sensor's `-x`
face and `sensor_excess_bottom + j · pitch` from its `-y` face, and is centred in `z`. -/
theorem pixelCell_center (i j : ℕ) :
    (m.pixelCell i j).2 =
      ⟨-m.getSensorSize.x / 2 + m.sensorExcessLeft + (i + 1 / 2) * m.pixelSize.x,
        -m.getSensorSize.y / 2 + m.sensorExcessBottom + (j + 1 / 2) * m.pixelSize.y, 0⟩ := by
  ext <;> simp [pixelCell, pixelCellCenter, getSensorCenter, getCenter, getSensorSize,
    getGridSize] <;> ring

/-! ### The implant nodes -/

theorem implantNodes_eq_map_pixels :
    implantNodes m =
      m.pixels.map fun ij => (boxOfSize m.implantSize, implantTransform m ij.1 ij.2) := by
  simp [implantNodes, pixels, List.product, List.map_flatMap, Function.comp_def]

/-- **Where the loop puts an implant**: at its cell's centre plus `implant_offset`, shifted by
half the differences of the opposite excesses, and, in `z`, half its depth below the sensor's
`+z` face. -/
theorem implantTransform_eq (i j : ℕ) :
    implantTransform m i j = (m.pixelCell i j).2 +
      ⟨m.implantOffset.x + (m.sensorExcessRight - m.sensorExcessLeft) / 2,
        m.implantOffset.y + (m.sensorExcessTop - m.sensorExcessBottom) / 2,
        m.getSensorSize.z / 2 - m.implantSize.z / 2⟩ := by
  rw [pixelCell_center]
  ext <;> simp [implantTransform, getSensorSize, getGridSize] <;> ring

/-- `offsetSensorModel`, which the constructor accepts, has an implant whose interior reaches
outside its pixel's cell: the sensor's excess on `+x` moves the cell and not the implant. -/
theorem offsetSensorModel_implant_leaves_cell :
    construct "offset" offsetSensorReader = .ok offsetSensorModel ∧
      (boxOfSize offsetSensorModel.implantSize, implantTransform offsetSensorModel 0 0) ∈
        implantNodes offsetSensorModel ∧
      ∃ v, (boxOfSize offsetSensorModel.implantSize).inside
          (v - implantTransform offsetSensorModel 0 0) = kInside ∧
        (offsetSensorModel.pixelCell 0 0).1.inside
          (v - (offsetSensorModel.pixelCell 0 0).2) = kOutside := by
  refine ⟨construct_offsetSensorReader, ?_, ⟨1 / 2, 0, 1 / 4⟩, ?_, ?_⟩
  · rw [implantNodes_eq_map_pixels]
    exact List.mem_map_of_mem _ ((mem_pixels _).2 ⟨by decide, by decide⟩)
  · norm_num [Box.inside_eq_kInside, boxOfSize, implantTransform, offsetSensorModel,
      getSensorSize, getGridSize, abs_lt]
  · norm_num [Box.inside, pixelCell, pixelCellCenter, getSensorCenter, getCenter, offsetSensorModel,
      getSensorSize, getGridSize, abs_lt, abs_le]

/-! ### Symmetric excesses -/

section Symmetric

variable {m}
variable (hwf : m.WellFormed) (hx : m.sensorExcessLeft = m.sensorExcessRight)
  (hy : m.sensorExcessBottom = m.sensorExcessTop)

include hwf hx hy

/-- With symmetric excesses, an implant box fits in its cell along every axis. -/
theorem implant_within_cell (i j : ℕ) :
    |(implantTransform m i j).x - (m.pixelCell i j).2.x| + (boxOfSize m.implantSize).halfX ≤
        (m.pixelCell i j).1.halfX ∧
      |(implantTransform m i j).y - (m.pixelCell i j).2.y| + (boxOfSize m.implantSize).halfY ≤
        (m.pixelCell i j).1.halfY ∧
      |(implantTransform m i j).z - (m.pixelCell i j).2.z| + (boxOfSize m.implantSize).halfZ ≤
        (m.pixelCell i j).1.halfZ := by
  have hfit := hwf.implant
  have hz : |m.sensorThickness / 2 - m.implantSize.z / 2| = m.sensorThickness / 2 - m.implantSize.z / 2 :=
    abs_of_nonneg (by linarith [hfit.z_le])
  simp only [implantTransform_eq, hx, hy, sub_self, zero_div, add_zero, XYZVector.add_x,
    XYZVector.add_y, XYZVector.add_z, add_sub_cancel_left, boxOfSize, pixelCell, getSensorSize_z,
    hz]
  exact ⟨by linarith [hfit.offset_x], by linarith [hfit.offset_y], by linarith⟩

end Symmetric

/-- The cell of a pixel of the grid lies in the sensor box when the excesses are non-negative. -/
theorem pixelCell_within_sensor {i j : ℕ} (hi : i < m.nPixels.x) (hj : j < m.nPixels.y)
    (hl : 0 ≤ m.sensorExcessLeft) (hr : 0 ≤ m.sensorExcessRight)
    (hb : 0 ≤ m.sensorExcessBottom) (ht : 0 ≤ m.sensorExcessTop)
    (hpx : 0 ≤ m.pixelSize.x) (hpy : 0 ≤ m.pixelSize.y) :
    |(m.pixelCell i j).2.x - 0| + (m.pixelCell i j).1.halfX ≤ (boxOfSize m.getSensorSize).halfX ∧
      |(m.pixelCell i j).2.y - 0| + (m.pixelCell i j).1.halfY ≤ (boxOfSize m.getSensorSize).halfY ∧
      |(m.pixelCell i j).2.z - 0| + (m.pixelCell i j).1.halfZ ≤ (boxOfSize m.getSensorSize).halfZ := by
  have hi' : ((i : ℚ) + 1) * m.pixelSize.x ≤ m.nPixels.x * m.pixelSize.x :=
    mul_le_mul_of_nonneg_right (by exact_mod_cast hi) hpx
  have hj' : ((j : ℚ) + 1) * m.pixelSize.y ≤ m.nPixels.y * m.pixelSize.y :=
    mul_le_mul_of_nonneg_right (by exact_mod_cast hj) hpy
  have hi0 : 0 ≤ (i : ℚ) * m.pixelSize.x := mul_nonneg (Nat.cast_nonneg i) hpx
  have hj0 : 0 ≤ (j : ℚ) * m.pixelSize.y := mul_nonneg (Nat.cast_nonneg j) hpy
  rw [pixelCell_center]
  simp only [pixelCell, boxOfSize, getSensorSize, getGridSize, sub_zero, abs_zero, zero_add,
    le_refl, and_true]
  constructor <;> rw [← le_sub_iff_add_le, abs_le] <;> constructor <;> linarith

/-- A non-empty implant box of a pixel of the grid fits in the sensor box whenever the excesses
do not make the sensor narrower than the grid, symmetric or not. -/
theorem implant_fits_sensor (hwf : m.WellFormed) {i j : ℕ} (hi : i < m.nPixels.x)
    (hj : j < m.nPixels.y) (hx : 0 ≤ m.sensorExcessLeft + m.sensorExcessRight)
    (hy : 0 ≤ m.sensorExcessBottom + m.sensorExcessTop) {p : XYZVector}
    (hne : (boxOfSize m.implantSize).inside p ≠ kOutside) :
    |(implantTransform m i j).x - 0| + (boxOfSize m.implantSize).halfX ≤
        (boxOfSize m.getSensorSize).halfX ∧
      |(implantTransform m i j).y - 0| + (boxOfSize m.implantSize).halfY ≤
        (boxOfSize m.getSensorSize).halfY ∧
      |(implantTransform m i j).z - 0| + (boxOfSize m.implantSize).halfZ ≤
        (boxOfSize m.getSensorSize).halfZ := by
  have hfit := hwf.implant
  have hp := Box.inside_ne_kOutside.1 hne
  simp only [boxOfSize] at hp
  have hpx : 0 ≤ m.pixelSize.x := by
    linarith only [hp.1, abs_nonneg p.x, abs_nonneg m.implantOffset.x, hfit.offset_x]
  have hpy : 0 ≤ m.pixelSize.y := by
    linarith only [hp.2.1, abs_nonneg p.y, abs_nonneg m.implantOffset.y, hfit.offset_y]
  have hi' : ((i : ℚ) + 1) * m.pixelSize.x ≤ m.nPixels.x * m.pixelSize.x :=
    mul_le_mul_of_nonneg_right (by exact_mod_cast hi) hpx
  have hj' : ((j : ℚ) + 1) * m.pixelSize.y ≤ m.nPixels.y * m.pixelSize.y :=
    mul_le_mul_of_nonneg_right (by exact_mod_cast hj) hpy
  have hi0 : 0 ≤ (i : ℚ) * m.pixelSize.x := mul_nonneg (Nat.cast_nonneg i) hpx
  have hj0 : 0 ≤ (j : ℚ) * m.pixelSize.y := mul_nonneg (Nat.cast_nonneg j) hpy
  have hz : |(m.sensorThickness - m.implantSize.z) / 2| = (m.sensorThickness - m.implantSize.z) / 2 :=
    abs_of_nonneg (by linarith [hfit.z_le])
  refine ⟨?_, ?_, ?_⟩ <;>
    simp only [implantTransform, boxOfSize, getSensorSize, getGridSize, sub_zero, hz]
  · rw [← le_sub_iff_add_le, abs_le]
    constructor <;>
      linarith only [hi', hi0, hx, abs_le.1 (le_refl |m.implantOffset.x|), hfit.offset_x]
  · rw [← le_sub_iff_add_le, abs_le]
    constructor <;>
      linarith only [hj', hj0, hy, abs_le.1 (le_refl |m.implantOffset.y|), hfit.offset_y]
  · linarith only [hfit.z_le]

/-- An implant of a pixel of the grid lies in the sensor box whenever the excesses do not make the
sensor narrower than the grid, symmetric or not. -/
theorem implant_within_sensor (hwf : m.WellFormed) {i j : ℕ} (hi : i < m.nPixels.x)
    (hj : j < m.nPixels.y) (hx : 0 ≤ m.sensorExcessLeft + m.sensorExcessRight)
    (hy : 0 ≤ m.sensorExcessBottom + m.sensorExcessTop) {v : XYZVector}
    (h : (boxOfSize m.implantSize).inside (v - implantTransform m i j) ≠ kOutside) :
    (boxOfSize m.getSensorSize).inside (v - 0) ≠ kOutside :=
  let ⟨wx, wy, wz⟩ := implant_fits_sensor m hwf hi hj hx hy h
  Box.inside_ne_kOutside_of_within wx wy wz h

/-- The same for interiors: an interior point of such an implant is one of the sensor box. -/
theorem implant_inside_sensor (hwf : m.WellFormed) {i j : ℕ} (hi : i < m.nPixels.x)
    (hj : j < m.nPixels.y) (hx : 0 ≤ m.sensorExcessLeft + m.sensorExcessRight)
    (hy : 0 ≤ m.sensorExcessBottom + m.sensorExcessTop) {v : XYZVector}
    (h : (boxOfSize m.implantSize).inside (v - implantTransform m i j) = kInside) :
    (boxOfSize m.getSensorSize).inside (v - 0) = kInside :=
  let ⟨wx, wy, wz⟩ := implant_fits_sensor m hwf hi hj hx hy
    (show (boxOfSize m.implantSize).inside (v - implantTransform m i j) ≠ kOutside by
      rw [h]; decide)
  Box.inside_eq_kInside_of_within wx wy wz h

/-- Two cells of one row of pitch `p` whose indices differ have disjoint open extents. -/
theorem cell_axis_disjoint {a p x : ℚ} {i i' : ℕ} (hne : i ≠ i')
    (h : |x - (a + (i + 1 / 2) * p)| < p / 2) (h' : |x - (a + (i' + 1 / 2) * p)| < p / 2) :
    False := by
  rw [abs_lt] at h h'
  have hp : 0 < p := by linarith [h.1, h.2]
  rcases hne.lt_or_lt with hlt | hlt
  · have : ((i : ℚ) + 1) * p ≤ i' * p := mul_le_mul_of_nonneg_right (by exact_mod_cast hlt) hp.le
    linarith [h.2, h'.1]
  · have : ((i' : ℚ) + 1) * p ≤ i * p := mul_le_mul_of_nonneg_right (by exact_mod_cast hlt) hp.le
    linarith [h.1, h'.2]

/-- Cells of distinct pixels have disjoint interiors. -/
theorem pixelCell_disjoint {i j i' j' : ℕ} (hne : (i, j) ≠ (i', j')) (v : XYZVector) :
    ¬ ((m.pixelCell i j).1.inside (v - (m.pixelCell i j).2) = kInside ∧
      (m.pixelCell i' j').1.inside (v - (m.pixelCell i' j').2) = kInside) := by
  rintro ⟨h, h'⟩
  rw [Box.inside_eq_kInside, pixelCell_center] at h h'
  simp only [pixelCell, XYZVector.sub_x, XYZVector.sub_y] at h h'
  by_cases hi : i = i'
  · exact cell_axis_disjoint (fun hj => hne (by rw [hi, hj])) h.2.1 h'.2.1
  · exact cell_axis_disjoint hi h.1 h'.1

/-- **With symmetric excesses, the implants stay in their cells.**  For a model the
constructor accepts whose opposite excesses are equal and non-negative, the implant union has
one box per pixel, in loop order: every box lies in its own pixel's cell and in the sensor box,
and no point is inside two of the boxes. -/
theorem implantNodes_within_cells (hwf : m.WellFormed)
    (hx : m.sensorExcessLeft = m.sensorExcessRight) (hy : m.sensorExcessBottom = m.sensorExcessTop)
    (hl : 0 ≤ m.sensorExcessLeft) (hb : 0 ≤ m.sensorExcessBottom) :
    m.pixels.Nodup ∧
    List.Forall₂ (fun p n => ∀ v, n.1.inside (v - n.2) ≠ kOutside →
        (m.pixelCell p.1 p.2).1.inside (v - (m.pixelCell p.1 p.2).2) ≠ kOutside ∧
          (boxOfSize m.getSensorSize).inside (v - 0) ≠ kOutside)
      m.pixels (implantNodes m) ∧
    (implantNodes m).Pairwise fun n n' =>
      ∀ v, ¬ (n.1.inside (v - n.2) = kInside ∧ n'.1.inside (v - n'.2) = kInside) := by
  refine ⟨m.pixels_nodup, ?_, ?_⟩
  · rw [implantNodes_eq_map_pixels, List.forall₂_map_right_iff, List.forall₂_same]
    rintro ⟨i, j⟩ hij v h
    obtain ⟨hi, hj⟩ := (m.mem_pixels).1 hij
    obtain ⟨wx, wy, wz⟩ := implant_within_cell hwf hx hy i j
    have hcell := Box.inside_ne_kOutside_of_within wx wy wz h
    refine ⟨hcell, ?_⟩
    have hp := Box.inside_ne_kOutside.1 hcell
    have hpx : 0 ≤ m.pixelSize.x := by
      linarith only [abs_nonneg (v - (m.pixelCell i j).2).x, hp.1,
        show (m.pixelCell i j).1.halfX = m.pixelSize.x / 2 from rfl]
    have hpy : 0 ≤ m.pixelSize.y := by
      linarith only [abs_nonneg (v - (m.pixelCell i j).2).y, hp.2.1,
        show (m.pixelCell i j).1.halfY = m.pixelSize.y / 2 from rfl]
    obtain ⟨sx, sy, sz⟩ := m.pixelCell_within_sensor hi hj hl (hx ▸ hl) hb (hy ▸ hb) hpx hpy
    exact Box.inside_ne_kOutside_of_within sx sy sz hcell
  · -- distinct pixels have disjoint cells, which hold their implants
    rw [implantNodes_eq_map_pixels, List.pairwise_map]
    refine m.pixels_nodup.imp ?_
    rintro ⟨i, j⟩ ⟨i', j'⟩ hne v ⟨h, h'⟩
    obtain ⟨wx, wy, wz⟩ := implant_within_cell hwf hx hy i j
    obtain ⟨wx', wy', wz'⟩ := implant_within_cell hwf hx hy i' j'
    exact m.pixelCell_disjoint hne v
      ⟨Box.inside_eq_kInside_of_within wx wy wz h, Box.inside_eq_kInside_of_within wx' wy' wz' h'⟩

/-- `offsetSensorModel` with its `+x` excess removed. -/
def centredSensorModel : DetectorModel := { offsetSensorModel with sensorExcessRight := 0 }

theorem centredSensorModel_implants_within_cells :
    centredSensorModel.WellFormed ∧
      centredSensorModel.sensorExcessLeft = centredSensorModel.sensorExcessRight ∧
      centredSensorModel.sensorExcessBottom = centredSensorModel.sensorExcessTop ∧
      0 ≤ centredSensorModel.sensorExcessLeft ∧ 0 ≤ centredSensorModel.sensorExcessBottom ∧
      centredSensorModel.pixels.Nodup ∧
      List.Forall₂ (fun p n => ∀ v, n.1.inside (v - n.2) ≠ kOutside →
          (centredSensorModel.pixelCell p.1 p.2).1.inside
              (v - (centredSensorModel.pixelCell p.1 p.2).2) ≠ kOutside ∧
            (boxOfSize centredSensorModel.getSensorSize).inside (v - 0) ≠ kOutside)
        centredSensorModel.pixels (implantNodes centredSensorModel) ∧
      (implantNodes centredSensorModel).Pairwise fun n n' =>
        ∀ v, ¬ (n.1.inside (v - n.2) = kInside ∧ n'.1.inside (v - n'.2) = kInside) :=
  have hwf : centredSensorModel.WellFormed :=
    ⟨offsetSensorModel_wellFormed.1, offsetSensorModel_wellFormed.2⟩
  ⟨hwf, rfl, rfl, le_refl _, le_refl _,
    implantNodes_within_cells _ hwf rfl rfl (le_refl _) (le_refl _)⟩

end DetectorModel

end Allpix
