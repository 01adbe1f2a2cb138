import AllpixGeometry.SupportLayers

/-!
# The bounding envelope

`getSize` folds the sensor, the chip and every support layer into a box: two loops widen a pair
of corners, initialised to the largest and lowest finite `double`, by each element's faces.  The
box is centred on `getCenter()`; in `x` and `y` it is made symmetric about it, twice the larger
one-sided extent, while in `z` it spans exactly the faces.

## Main definitions

* `Corners.extend`, `envelopeCorners` — one iteration of the loops, and the corners after both.
* `getSize`, `getGeometricalCenter` — the envelope's size, and its centre.
* `FiniteFaces` — every face of every element is a finite `double`.
* `IsExtent`, `FacesWithin` — the extrema of the faces along an axis, and an interval holding
  them.

## Main results

* `getSize_spec` — the loops compute the extreme faces; for elements of non-negative size the
  `x` and `y` half-sizes are the least symmetric bounds and the `z` size the shortest span.
* `getSize_of_interleaved` — **interleaving support sections of different locations changes
  neither the envelope nor its centre.**

## References

`src/src/core/geometry/DetectorModel.cpp`, lines 113–148.
-/

namespace Allpix

namespace DetectorModel

/-- `std::numeric_limits<double>::max()`, the largest finite `double`. -/
def doubleMax : ℚ := (2 ^ 53 - 1) * 2 ^ 971

/-- `std::numeric_limits<double>::lowest()`. -/
def doubleLowest : ℚ := -doubleMax

/-- The corners the loops of `getSize` accumulate. -/
structure Corners where
  /-- `max`, the upper corner. -/
  max : XYZVector
  /-- `min`, the lower corner. -/
  min : XYZVector
  deriving DecidableEq, Repr

/-- The corners the loops start from. -/
def Corners.sentinel : Corners :=
  ⟨⟨doubleLowest, doubleLowest, doubleLowest⟩, ⟨doubleMax, doubleMax, doubleMax⟩⟩

/-- One iteration of the loops of `getSize`: the corners widened to the faces of an element of
centre `center` and size `size`. -/
def Corners.extend (acc : Corners) (center size : XYZVector) : Corners :=
  ⟨⟨Max.max acc.max.x (center + size / (2 : ℚ)).x, Max.max acc.max.y (center + size / (2 : ℚ)).y,
      Max.max acc.max.z (center + size / (2 : ℚ)).z⟩,
    ⟨Min.min acc.min.x (center - size / (2 : ℚ)).x, Min.min acc.min.y (center - size / (2 : ℚ)).y,
      Min.min acc.min.z (center - size / (2 : ℚ)).z⟩⟩

/-- The corners after both loops of `getSize`: the sensor and the chip, then every support
layer. -/
def envelopeCorners (m : DetectorModel) : Corners :=
  let base := [(m.getSensorCenter, m.getSensorSize), (m.getChipCenter, m.getChipSize)].foldl
    (fun acc e => acc.extend e.1 e.2) Corners.sentinel
  m.getSupportLayers.foldl (fun acc layer => acc.extend layer.center layer.size) base

/-- `getSize()`: the envelope's size, symmetric about `getCenter()` in `x` and `y`. -/
def getSize (m : DetectorModel) : XYZVector :=
  let corners := m.envelopeCorners
  ⟨2 * max (corners.max.x - m.getCenter.x) (m.getCenter.x - corners.min.x),
    2 * max (corners.max.y - m.getCenter.y) (m.getCenter.y - corners.min.y),
    (corners.max.z - m.getCenter.z) + (m.getCenter.z - corners.min.z)⟩

/-- Modelled from the spec: `getGeometricalCenter` is not under `src/`; the centroid of the true
bounding envelope (glossary). -/
def getGeometricalCenter (m : DetectorModel) : XYZVector :=
  (m.envelopeCorners.max + m.envelopeCorners.min) / (2 : ℚ)

/-- The elements the envelope encloses, as centre and size: the sensor, the chip and every
support layer. -/
def envelopeElements (m : DetectorModel) : List (XYZVector × XYZVector) :=
  (m.getSensorCenter, m.getSensorSize) :: (m.getChipCenter, m.getChipSize) ::
    m.getSupportLayers.map fun layer => (layer.center, layer.size)

theorem envelopeCorners_eq_foldl (m : DetectorModel) :
    m.envelopeCorners =
      m.envelopeElements.foldl (fun acc e => acc.extend e.1 e.2) Corners.sentinel := by
  simp [envelopeCorners, envelopeElements, List.foldl_map]

/-- The six faces of an element given by its centre and size. -/
def faces (e : XYZVector × XYZVector) : List ℚ :=
  [e.1.x - e.2.x / 2, e.1.x + e.2.x / 2, e.1.y - e.2.y / 2, e.1.y + e.2.y / 2,
    e.1.z - e.2.z / 2, e.1.z + e.2.z / 2]

/-- Every face of every element of the envelope is a finite `double`. -/
def FiniteFaces (m : DetectorModel) : Prop :=
  ∀ e ∈ m.envelopeElements, ∀ v ∈ faces e, doubleLowest ≤ v ∧ v ≤ doubleMax

/-! ### The extreme faces along one axis -/

section Axis

variable (p : XYZVector → ℚ) (E : List (XYZVector × XYZVector))

/-- Along the axis `p`, `hi` is the greatest upper face of the elements and `lo` the least
lower face. -/
def IsExtent (hi lo : ℚ) : Prop :=
  IsGreatest {v | ∃ e ∈ E, p e.1 + p e.2 / 2 = v} hi ∧
    IsLeast {v | ∃ e ∈ E, p e.1 - p e.2 / 2 = v} lo

/-- Along the axis `p`, both faces of every element lie in `[lo, hi]`. -/
def FacesWithin (lo hi : ℚ) : Prop :=
  ∀ e ∈ E, lo ≤ p e.1 - p e.2 / 2 ∧ p e.1 - p e.2 / 2 ≤ hi ∧
    lo ≤ p e.1 + p e.2 / 2 ∧ p e.1 + p e.2 / 2 ≤ hi

/-- Both loops of `getSize`, read along the axis `p`: a `max` loop over the upper faces and a
`min` loop over the lower ones. -/
theorem foldl_extend
    (hmax : ∀ acc c s, p (Corners.extend acc c s).max = max (p acc.max) (p c + p s / 2))
    (hmin : ∀ acc c s, p (Corners.extend acc c s).min = min (p acc.min) (p c - p s / 2))
    (acc : Corners) :
    p (E.foldl (fun acc e => acc.extend e.1 e.2) acc).max =
        E.foldl (fun hi e => max hi (p e.1 + p e.2 / 2)) (p acc.max) ∧
      p (E.foldl (fun acc e => acc.extend e.1 e.2) acc).min =
        E.foldl (fun lo e => min lo (p e.1 - p e.2 / 2)) (p acc.min) := by
  induction E generalizing acc with
  | nil => simp
  | cons e E ih => simp only [List.foldl_cons, ← hmax, ← hmin]; exact ih _

variable {α : Type} (f : α → ℚ)

/-- A `max` loop ends at least at its start, at least at every value, and at one of them. -/
theorem foldl_max_spec (init : ℚ) (L : List α) :
    init ≤ L.foldl (fun hi e => max hi (f e)) init ∧
      (∀ e ∈ L, f e ≤ L.foldl (fun hi e => max hi (f e)) init) ∧
      (L.foldl (fun hi e => max hi (f e)) init = init ∨
        ∃ e ∈ L, L.foldl (fun hi e => max hi (f e)) init = f e) := by
  induction L generalizing init with
  | nil => simp
  | cons a L ih =>
    obtain ⟨h1, h2, h3⟩ := ih (max init (f a))
    refine ⟨(le_max_left _ _).trans h1, List.forall_mem_cons.2 ⟨(le_max_right _ _).trans h1, h2⟩,
      ?_⟩
    rcases h3 with h | ⟨e, he, h⟩
    · rcases max_choice init (f a) with h' | h'
      · exact Or.inl (h.trans h')
      · exact Or.inr ⟨a, List.mem_cons_self _ _, h.trans h'⟩
    · exact Or.inr ⟨e, List.mem_cons_of_mem _ he, h⟩

/-- A `min` loop ends at most at its start, at most at every value, and at one of them. -/
theorem foldl_min_spec (init : ℚ) (L : List α) :
    L.foldl (fun lo e => min lo (f e)) init ≤ init ∧
      (∀ e ∈ L, L.foldl (fun lo e => min lo (f e)) init ≤ f e) ∧
      (L.foldl (fun lo e => min lo (f e)) init = init ∨
        ∃ e ∈ L, L.foldl (fun lo e => min lo (f e)) init = f e) := by
  induction L generalizing init with
  | nil => simp
  | cons a L ih =>
    obtain ⟨h1, h2, h3⟩ := ih (min init (f a))
    refine ⟨h1.trans (min_le_left _ _), List.forall_mem_cons.2 ⟨h1.trans (min_le_right _ _), h2⟩,
      ?_⟩
    rcases h3 with h | ⟨e, he, h⟩
    · rcases min_choice init (f a) with h' | h'
      · exact Or.inl (h.trans h')
      · exact Or.inr ⟨a, List.mem_cons_self _ _, h.trans h'⟩
    · exact Or.inr ⟨e, List.mem_cons_of_mem _ he, h⟩

/-- **The loops reach the extreme faces** when every upper face lies above the start of the
`max` loop and every lower face below the start of the `min` loop. -/
theorem isExtent_foldl
    (hmax : ∀ acc c s, p (Corners.extend acc c s).max = max (p acc.max) (p c + p s / 2))
    (hmin : ∀ acc c s, p (Corners.extend acc c s).min = min (p acc.min) (p c - p s / 2))
    (acc : Corners) (hne : E ≠ [])
    (hhi : ∀ e ∈ E, p acc.max ≤ p e.1 + p e.2 / 2)
    (hlo : ∀ e ∈ E, p e.1 - p e.2 / 2 ≤ p acc.min) :
    IsExtent p E (p (E.foldl (fun acc e => acc.extend e.1 e.2) acc).max)
      (p (E.foldl (fun acc e => acc.extend e.1 e.2) acc).min) := by
  obtain ⟨hmaxEq, hminEq⟩ := foldl_extend p E hmax hmin acc
  rw [hmaxEq, hminEq]
  obtain ⟨-, hi2, hi3⟩ := foldl_max_spec (fun e : XYZVector × XYZVector => p e.1 + p e.2 / 2)
    (p acc.max) E
  obtain ⟨-, lo2, lo3⟩ := foldl_min_spec (fun e : XYZVector × XYZVector => p e.1 - p e.2 / 2)
    (p acc.min) E
  obtain ⟨e0, he0⟩ := List.exists_mem_of_ne_nil E hne
  refine ⟨⟨?_, fun v ⟨e, he, hv⟩ => hv ▸ hi2 e he⟩, ⟨?_, fun v ⟨e, he, hv⟩ => hv ▸ lo2 e he⟩⟩
  · rcases hi3 with h | ⟨e, he, h⟩
    · exact ⟨e0, he0, le_antisymm (by rw [h]; exact hhi e0 he0) (hi2 e0 he0) |>.symm⟩
    · exact ⟨e, he, h.symm⟩
  · rcases lo3 with h | ⟨e, he, h⟩
    · exact ⟨e0, he0, le_antisymm (by rw [h]; exact hlo e0 he0) (lo2 e0 he0)⟩
    · exact ⟨e, he, h.symm⟩

variable {p E}

/-- With every element of non-negative size along `p`, `max (hi - c) (c - lo)` is the least
half-width of an interval centred on `c` that holds every face. -/
theorem isLeast_symmetric {hi lo : ℚ} (c : ℚ) (hext : IsExtent p E hi lo)
    (hsize : ∀ e ∈ E, 0 ≤ p e.2) :
    IsLeast {h | FacesWithin p E (c - h) (c + h)} (max (hi - c) (c - lo)) := by
  obtain ⟨⟨⟨ehi, hehi, rfl⟩, hhi⟩, ⟨⟨elo, helo, rfl⟩, hlo⟩⟩ := hext
  refine ⟨fun e he => ?_, fun h hh => ?_⟩
  · have h1 := hhi ⟨e, he, rfl⟩
    have h2 := hlo ⟨e, he, rfl⟩
    have h3 := hsize e he
    have h4 := le_max_left (p ehi.1 + p ehi.2 / 2 - c) (c - (p elo.1 - p elo.2 / 2))
    have h5 := le_max_right (p ehi.1 + p ehi.2 / 2 - c) (c - (p elo.1 - p elo.2 / 2))
    refine ⟨?_, ?_, ?_, ?_⟩ <;> linarith
  · have h1 := (hh ehi hehi).2.2.2
    have h2 := (hh elo helo).1
    exact max_le (by linarith) (by linarith)

/-- With every element of non-negative size along `p`, `hi - lo` is the length of the shortest
interval that holds every face. -/
theorem isLeast_span {hi lo : ℚ} (hext : IsExtent p E hi lo) (hsize : ∀ e ∈ E, 0 ≤ p e.2) :
    IsLeast {len | ∃ a, FacesWithin p E a (a + len)} (hi - lo) := by
  obtain ⟨⟨⟨ehi, hehi, rfl⟩, hhi⟩, ⟨⟨elo, helo, rfl⟩, hlo⟩⟩ := hext
  refine ⟨⟨p elo.1 - p elo.2 / 2, fun e he => ?_⟩, fun len ⟨a, ha⟩ => ?_⟩
  · have h1 := hhi ⟨e, he, rfl⟩
    have h2 := hlo ⟨e, he, rfl⟩
    have h3 := hsize e he
    refine ⟨?_, ?_, ?_, ?_⟩ <;> linarith
  · have h1 := (ha ehi hehi).2.2.2
    have h2 := (ha elo helo).1
    linarith

end Axis

/-! ### The envelope -/

/-- With finite faces, the loops of `getSize` end at the extreme faces along each axis. -/
theorem isExtent_envelopeCorners (m : DetectorModel) (hfin : m.FiniteFaces) :
    IsExtent XYZVector.x m.envelopeElements m.envelopeCorners.max.x m.envelopeCorners.min.x ∧
      IsExtent XYZVector.y m.envelopeElements m.envelopeCorners.max.y m.envelopeCorners.min.y ∧
      IsExtent XYZVector.z m.envelopeElements m.envelopeCorners.max.z m.envelopeCorners.min.z := by
  have hne : m.envelopeElements ≠ [] := by simp [envelopeElements]
  have hf := fun e he v hv => hfin e he v (by simpa [faces] using hv)
  rw [envelopeCorners_eq_foldl]
  refine ⟨isExtent_foldl _ _ (fun _ _ _ => rfl) (fun _ _ _ => rfl) _ hne ?_ ?_,
    isExtent_foldl _ _ (fun _ _ _ => rfl) (fun _ _ _ => rfl) _ hne ?_ ?_,
    isExtent_foldl _ _ (fun _ _ _ => rfl) (fun _ _ _ => rfl) _ hne ?_ ?_⟩ <;>
  intro e he
  · exact (hf e he _ (by simp)).1
  · exact (hf e he _ (by simp)).2
  · exact (hf e he _ (by simp)).1
  · exact (hf e he _ (by simp)).2
  · exact (hf e he _ (by simp)).1
  · exact (hf e he _ (by simp)).2

/-- **What `getSize` computes.**  For a model with finite faces, the sentinel-initialised loops
end at the greatest upper and the least lower face along each axis; the `x` and `y` sizes are
twice the larger one-sided extent from `getCenter()`, and the `z` size is the span of the
faces.  When every element has a non-negative size, `getSize().x / 2` (and `y`) is the least
half-width of an interval about `getCenter()` holding every face, and `getSize().z` the length of
the shortest interval holding every `z` face. -/
theorem getSize_spec (m : DetectorModel) (hfin : m.FiniteFaces) :
    let E := m.envelopeElements
    let c := m.getCenter
    let corners := m.envelopeCorners
    (IsExtent XYZVector.x E corners.max.x corners.min.x ∧
      IsExtent XYZVector.y E corners.max.y corners.min.y ∧
      IsExtent XYZVector.z E corners.max.z corners.min.z) ∧
    m.getSize.x = 2 * max (corners.max.x - c.x) (c.x - corners.min.x) ∧
    m.getSize.y = 2 * max (corners.max.y - c.y) (c.y - corners.min.y) ∧
    m.getSize.z = corners.max.z - corners.min.z ∧
    ((∀ e ∈ E, 0 ≤ e.2.x ∧ 0 ≤ e.2.y ∧ 0 ≤ e.2.z) →
      IsLeast {h | FacesWithin XYZVector.x E (c.x - h) (c.x + h)} (m.getSize.x / 2) ∧
      IsLeast {h | FacesWithin XYZVector.y E (c.y - h) (c.y + h)} (m.getSize.y / 2) ∧
      IsLeast {len | ∃ a, FacesWithin XYZVector.z E a (a + len)} m.getSize.z) := by
  obtain ⟨hx, hy, hz⟩ := isExtent_envelopeCorners m hfin
  have hzsize : m.getSize.z = m.envelopeCorners.max.z - m.envelopeCorners.min.z := by
    simp only [getSize]; ring
  refine ⟨⟨hx, hy, hz⟩, rfl, rfl, hzsize, fun hsize => ⟨?_, ?_, ?_⟩⟩
  · simpa [getSize] using isLeast_symmetric m.getCenter.x hx fun e he => (hsize e he).1
  · simpa [getSize] using isLeast_symmetric m.getCenter.y hy fun e he => (hsize e he).2.1
  · rw [hzsize]; exact isLeast_span hz fun e he => (hsize e he).2.2

/-- The asymmetric sensor of §8: one pixel of pitch 1, excess 1 on the left and 5 on the right,
no chip and no support layers. -/
def asymmetricExcessModel : DetectorModel where
  type := "asymmetric"
  reader := ⟨⟨"", []⟩, []⟩
  nPixels := ⟨1, 1⟩
  pixelSize := ⟨1, 1⟩
  sensorThickness := 1
  sensorExcessTop := 0
  sensorExcessBottom := 0
  sensorExcessLeft := 1
  sensorExcessRight := 5
  implantSize := ⟨1, 1, 0⟩
  implantMaterial := "aluminum"
  implantOffset := ⟨0, 0⟩
  chipThickness := 0
  supportLayers := []

theorem asymmetricExcessModel_getSize :
    asymmetricExcessModel.FiniteFaces ∧
    let m := asymmetricExcessModel
    let E := m.envelopeElements
    let c := m.getCenter
    let corners := m.envelopeCorners
    (IsExtent XYZVector.x E corners.max.x corners.min.x ∧
      IsExtent XYZVector.y E corners.max.y corners.min.y ∧
      IsExtent XYZVector.z E corners.max.z corners.min.z) ∧
    m.getSize.x = 2 * max (corners.max.x - c.x) (c.x - corners.min.x) ∧
    m.getSize.y = 2 * max (corners.max.y - c.y) (c.y - corners.min.y) ∧
    m.getSize.z = corners.max.z - corners.min.z ∧
    ((∀ e ∈ E, 0 ≤ e.2.x ∧ 0 ≤ e.2.y ∧ 0 ≤ e.2.z) →
      IsLeast {h | FacesWithin XYZVector.x E (c.x - h) (c.x + h)} (m.getSize.x / 2) ∧
      IsLeast {h | FacesWithin XYZVector.y E (c.y - h) (c.y + h)} (m.getSize.y / 2) ∧
      IsLeast {len | ∃ a, FacesWithin XYZVector.z E a (a + len)} m.getSize.z) :=
  have hfin : asymmetricExcessModel.FiniteFaces := by
    simp [FiniteFaces, envelopeElements, faces, asymmetricExcessModel, getSupportLayers,
      getSensorCenter, getSensorSize, getChipCenter, getChipSize, getCenter, getGridSize]
    norm_num [doubleLowest, doubleMax]
  ⟨hfin, getSize_spec _ hfin⟩

/-- A one-pixel model with an `absolute` support layer of negative width, which the constructor
does not reject. -/
def negativeWidthModel : DetectorModel where
  type := "negative"
  reader := ⟨⟨"", []⟩, []⟩
  nPixels := ⟨1, 1⟩
  pixelSize := ⟨1, 1⟩
  sensorThickness := 1
  sensorExcessTop := 0
  sensorExcessBottom := 0
  sensorExcessLeft := 0
  sensorExcessRight := 0
  implantSize := ⟨1, 1, 0⟩
  implantMaterial := "aluminum"
  implantOffset := ⟨0, 0⟩
  chipThickness := 0
  supportLayers := [SupportLayer.ofConfig ⟨-10, 1⟩ 1 ⟨0, 0, 0⟩ "g10" "absolute" ⟨0, 0⟩ ⟨0, 0⟩]

/-- **`getSize().x / 2` need not bound every face**: a layer of negative width has its lower
face above its upper one, and the `max` loop reads only upper faces. -/
theorem getSize_not_least_for_negative_width :
    ¬ ∀ m : DetectorModel, m.FiniteFaces →
      IsLeast {h | FacesWithin XYZVector.x m.envelopeElements (m.getCenter.x - h)
        (m.getCenter.x + h)} (m.getSize.x / 2) := by
  intro h
  have hfin : negativeWidthModel.FiniteFaces := by
    simp [FiniteFaces, envelopeElements, faces, negativeWidthModel, SupportLayer.ofConfig,
      getSupportLayers, layerOffset, getSensorCenter, getSensorSize, getChipCenter, getChipSize,
      getCenter, getGridSize]
    norm_num [doubleLowest, doubleMax]
  have hface := ((h _ hfin).1 _ (List.mem_cons_of_mem _ (List.mem_cons_of_mem _
    (List.mem_cons_self _ _)))).2.1
  simp only [getSize, envelopeCorners, Corners.extend, Corners.sentinel, negativeWidthModel,
    SupportLayer.ofConfig, getSupportLayers, stackLayers_cons, stackLayers_nil, List.foldl_cons,
    List.foldl_nil, layerOffset, getSensorCenter, getSensorSize, getChipCenter, getChipSize,
    getCenter, getGridSize, XYZVector.add_x, XYZVector.sub_x, XYZVector.div_x, List.map_cons,
    List.map_nil, if_neg (show "absolute" ≠ "sensor" by decide),
    if_neg (show "absolute" ≠ "chip" by decide)] at hface
  norm_num [doubleLowest, doubleMax] at hface

/-! ### Interleaved support sections -/

/-- Two iterations of the loops of `getSize` may be swapped. -/
theorem Corners.extend_right_comm (acc : Corners) (c s c' s' : XYZVector) :
    (acc.extend c s).extend c' s' = (acc.extend c' s').extend c s := by
  simp only [Corners.extend, sup_right_comm, inf_right_comm]

/-- **Interleaving support sections of different locations changes neither the envelope nor the
wrapper.**  For every model and every reordering of its stored support layers that keeps the
`sensor` layers and the `chip` layers each in their order, `getSupportLayers()` returns the same
layers, centres included, in another order, and `getSize()` and `getGeometricalCenter()` are
unchanged. -/
theorem getSize_of_interleaved (m : DetectorModel) (layers : List SupportLayer)
    (hperm : layers.Perm m.supportLayers)
    (hs : layers.filter (·.location = "sensor") = m.supportLayers.filter (·.location = "sensor"))
    (hc : layers.filter (·.location = "chip") = m.supportLayers.filter (·.location = "chip")) :
    { m with supportLayers := layers }.getSupportLayers.Perm m.getSupportLayers ∧
      { m with supportLayers := layers }.getSize = m.getSize ∧
      { m with supportLayers := layers }.getGeometricalCenter = m.getGeometricalCenter := by
  have hlayers := getSupportLayers_perm m hperm hs hc
  have hcorners : { m with supportLayers := layers }.envelopeCorners = m.envelopeCorners :=
    hlayers.foldl_eq' (fun _ _ _ _ _ => Corners.extend_right_comm _ _ _ _ _) _
  exact ⟨hlayers, by rw [getSize, hcorners]; rfl, by rw [getGeometricalCenter, hcorners]; rfl⟩

/-- The layers of `interleavedStackModel` with its `chip` layer declared last. -/
def chipLastLayers : List SupportLayer :=
  [SupportLayer.ofConfig ⟨1, 1⟩ 1 ⟨0, 0, 0⟩ "g10" "sensor" ⟨0, 0⟩ ⟨0, 0⟩,
    SupportLayer.ofConfig ⟨1, 1⟩ 2 ⟨0, 0, 0⟩ "g10" "sensor" ⟨0, 0⟩ ⟨0, 0⟩,
    SupportLayer.ofConfig ⟨1, 1⟩ 1 ⟨0, 0, 0⟩ "g10" "chip" ⟨0, 0⟩ ⟨0, 0⟩]

theorem interleavedStackModel_chipLast :
    chipLastLayers.Perm interleavedStackModel.supportLayers ∧
    chipLastLayers.filter (·.location = "sensor") =
      interleavedStackModel.supportLayers.filter (·.location = "sensor") ∧
    chipLastLayers.filter (·.location = "chip") =
      interleavedStackModel.supportLayers.filter (·.location = "chip") ∧
    { interleavedStackModel with supportLayers := chipLastLayers }.getSupportLayers.Perm
        interleavedStackModel.getSupportLayers ∧
      { interleavedStackModel with supportLayers := chipLastLayers }.getSize =
        interleavedStackModel.getSize ∧
      { interleavedStackModel with supportLayers := chipLastLayers }.getGeometricalCenter =
        interleavedStackModel.getGeometricalCenter := by
  have hperm : chipLastLayers.Perm interleavedStackModel.supportLayers := .cons _ (.swap _ _ _)
  have hs : chipLastLayers.filter (·.location = "sensor") =
      interleavedStackModel.supportLayers.filter (·.location = "sensor") := by
    simp [chipLastLayers, interleavedStackModel, SupportLayer.ofConfig]
  have hc : chipLastLayers.filter (·.location = "chip") =
      interleavedStackModel.supportLayers.filter (·.location = "chip") := by
    simp [chipLastLayers, interleavedStackModel, SupportLayer.ofConfig]
  exact ⟨hperm, hs, hc, getSize_of_interleaved _ _ hperm hs hc⟩

end DetectorModel

end Allpix
