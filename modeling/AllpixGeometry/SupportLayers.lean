import AllpixGeometry.Construct

/-!
# Stacking the support layers

`getSupportLayers` returns the stored layers with their centres filled in.  Two running offsets
start at the sensor's back face and the chip's back face; a `sensor` layer is placed just below
the first and pushes it down by its thickness, a `chip` layer just above the second and pushes
it up, and an `absolute` layer keeps its declared offset and moves neither.

## Main definitions

* `layerOffset`, `advance` — one iteration of the loop: the layer's offset and the offsets after
  it.
* `stackLayers`, `getSupportLayers` — the loop and the query.
* `stackedThickness`, `stackedZ` — the per-location prefix sums and the closed form of the
  centre's `z`.

## Main results

* `getSupportLayers_spec` — the centres are the closed form over the earlier layers of the same
  location, and reordering layers of different locations changes no centre.
* `getSupportLayers_perm` — reordering the layers, the `sensor` and the `chip` ones each kept in
  order, permutes the result.
* `getSupportLayers_stacked` — layers of positive thickness stack outward without overlap.

## References

`src/src/core/geometry/DetectorModel.cpp`, lines 150–169.
-/

namespace Allpix

namespace DetectorModel

/-- The two running offsets of `getSupportLayers`. -/
structure StackOffsets where
  /-- `sensor_offset`: the `z` below which the next `sensor` layer goes. -/
  sensorOffset : ℚ
  /-- `chip_offset`: the `z` above which the next `chip` layer goes. -/
  chipOffset : ℚ
  deriving DecidableEq, Repr

/-- The offset from the model centre the loop gives `layer`. -/
def layerOffset (acc : StackOffsets) (layer : SupportLayer) : XYZVector :=
  if layer.location = "sensor" then { layer.offset with z := acc.sensorOffset - layer.size.z / 2 }
  else if layer.location = "chip" then { layer.offset with z := acc.chipOffset + layer.size.z / 2 }
  else layer.offset

/-- The running offsets after `layer`. -/
def advance (acc : StackOffsets) (layer : SupportLayer) : StackOffsets :=
  if layer.location = "sensor" then { acc with sensorOffset := acc.sensorOffset - layer.size.z }
  else if layer.location = "chip" then { acc with chipOffset := acc.chipOffset + layer.size.z }
  else acc

/-- The loop of `getSupportLayers`, from the running offsets `acc` on. -/
def stackLayers (center : XYZVector) : StackOffsets → List SupportLayer → List SupportLayer
  | _, [] => []
  | acc, layer :: layers =>
    { layer with center := center + layerOffset acc layer } ::
      stackLayers center (advance acc layer) layers

/-- `getSupportLayers()`: the stored layers, each with its centre. -/
def getSupportLayers (m : DetectorModel) : List SupportLayer :=
  stackLayers m.getCenter ⟨-m.getSensorSize.z / 2, m.getSensorSize.z / 2 + m.getChipSize.z⟩
    m.supportLayers

section Step

variable {acc : StackOffsets} {layer : SupportLayer} {center : XYZVector}

@[simp] theorem stackLayers_nil (acc : StackOffsets) : stackLayers center acc [] = [] := rfl

@[simp] theorem stackLayers_cons (acc : StackOffsets) (layers : List SupportLayer) :
    stackLayers center acc (layer :: layers) =
      { layer with center := center + layerOffset acc layer } ::
        stackLayers center (advance acc layer) layers := rfl

theorem layerOffset_sensor (h : layer.location = "sensor") :
    layerOffset acc layer = { layer.offset with z := acc.sensorOffset - layer.size.z / 2 } := by
  simp [layerOffset, h]

theorem layerOffset_chip (h : layer.location = "chip") :
    layerOffset acc layer = { layer.offset with z := acc.chipOffset + layer.size.z / 2 } := by
  simp [layerOffset, h]

theorem layerOffset_other (hs : layer.location ≠ "sensor") (hc : layer.location ≠ "chip") :
    layerOffset acc layer = layer.offset := by
  simp [layerOffset, hs, hc]

theorem advance_sensor (h : layer.location = "sensor") :
    advance acc layer = { acc with sensorOffset := acc.sensorOffset - layer.size.z } := by
  simp [advance, h]

theorem advance_chip (h : layer.location = "chip") :
    advance acc layer = { acc with chipOffset := acc.chipOffset + layer.size.z } := by
  simp [advance, h]

theorem advance_other (hs : layer.location ≠ "sensor") (hc : layer.location ≠ "chip") :
    advance acc layer = acc := by
  simp [advance, hs, hc]

@[simp] theorem advance_sensorOffset :
    (advance acc layer).sensorOffset =
      acc.sensorOffset - if layer.location = "sensor" then layer.size.z else 0 := by
  unfold advance; split_ifs <;> simp_all

@[simp] theorem advance_chipOffset :
    (advance acc layer).chipOffset =
      acc.chipOffset + if layer.location = "chip" then layer.size.z else 0 := by
  unfold advance; split_ifs <;> simp_all

/-- A layer of the loop's output is an input layer with its centre set. -/
theorem mem_stackLayers_center {acc : StackOffsets} {layers : List SupportLayer}
    {l : SupportLayer} (h : l ∈ stackLayers center acc layers) :
    ∃ layer ∈ layers, l = { layer with center := l.center } := by
  induction layers generalizing acc with
  | nil => simp at h
  | cons layer layers ih =>
    rcases List.mem_cons.1 h with rfl | h
    · exact ⟨layer, List.mem_cons_self _ _, rfl⟩
    · obtain ⟨l', hl', he⟩ := ih h
      exact ⟨l', List.mem_cons_of_mem _ hl', he⟩

theorem mem_stackLayers {acc : StackOffsets} {layers : List SupportLayer} {l : SupportLayer}
    (h : l ∈ stackLayers center acc layers) :
    ∃ layer ∈ layers, l.size = layer.size ∧ l.location = layer.location :=
  let ⟨layer, hl, he⟩ := mem_stackLayers_center h
  ⟨layer, hl, (congrArg SupportLayer.size he).trans rfl, (congrArg SupportLayer.location he).trans rfl⟩

/-- The loop sets centres only: a field other than the centre reads the same over its output as
over its input. -/
theorem map_stackLayers {β : Type} (f : SupportLayer → β)
    (hf : ∀ layer c, f { layer with center := c } = f layer) (acc : StackOffsets)
    (layers : List SupportLayer) : (stackLayers center acc layers).map f = layers.map f := by
  induction layers generalizing acc with
  | nil => rfl
  | cons layer layers ih => simp [hf, ih]

/-- Every layer of the loop's output is an input layer with only its centre set. -/
theorem stackLayers_eq_mapIdx (acc : StackOffsets) (layers : List SupportLayer) :
    stackLayers center acc layers = layers.mapIdx fun k layer =>
      { layer with center := center + layerOffset ((layers.take k).foldl advance acc) layer } := by
  induction layers generalizing acc with
  | nil => rfl
  | cons layer layers ih => simp [ih]

/-- Over layers of neither stacked location the loop reads no running offset: it adds the model
centre to each declared offset. -/
theorem stackLayers_of_unstacked (acc : StackOffsets) {layers : List SupportLayer}
    (h : ∀ l ∈ layers, l.location ≠ "sensor" ∧ l.location ≠ "chip") :
    stackLayers center acc layers = layers.map fun l => { l with center := center + l.offset } := by
  induction layers generalizing acc with
  | nil => rfl
  | cons layer layers ih =>
    obtain ⟨hs, hc⟩ := h layer (List.mem_cons_self _ _)
    rw [stackLayers_cons, layerOffset_other hs hc, advance_other hs hc,
      ih _ fun l hl => h l (List.mem_cons_of_mem _ hl), List.map_cons]

end Step

/-! ### The closed form -/

/-- The total thickness of the layers at `location` among `layers`. -/
def stackedThickness (location : String) (layers : List SupportLayer) : ℚ :=
  ((layers.filter (·.location = location)).map (·.size.z)).sum

@[simp] theorem stackedThickness_nil (location : String) : stackedThickness location [] = 0 := rfl

theorem stackedThickness_cons (location : String) (layer : SupportLayer)
    (layers : List SupportLayer) :
    stackedThickness location (layer :: layers) =
      (if layer.location = location then layer.size.z else 0) +
        stackedThickness location layers := by
  by_cases h : layer.location = location <;> simp [stackedThickness, List.filter_cons, h]

/-- After a run of the loop, each offset has moved by the thickness of its own layers. -/
theorem foldl_advance (acc : StackOffsets) (layers : List SupportLayer) :
    layers.foldl advance acc =
      ⟨acc.sensorOffset - stackedThickness "sensor" layers,
        acc.chipOffset + stackedThickness "chip" layers⟩ := by
  induction layers generalizing acc with
  | nil => simp
  | cons layer layers ih =>
    rw [List.foldl_cons, ih, stackedThickness_cons, stackedThickness_cons]
    simp only [advance_sensorOffset, advance_chipOffset, StackOffsets.mk.injEq]
    constructor <;> ring

/-- The `z` of the centre of `layer`, declared after the layers `before`, relative to the model
centre, for a sensor `sensorThickness` and a chip `chipThickness` thick: the declared `z` for an
`absolute` layer, and the sum of the earlier layers of its own location for the others. -/
def stackedZ (sensorThickness chipThickness : ℚ) (before : List SupportLayer)
    (layer : SupportLayer) : ℚ :=
  if layer.location = "sensor" then
    -sensorThickness / 2 - stackedThickness "sensor" before - layer.size.z / 2
  else if layer.location = "chip" then
    sensorThickness / 2 + chipThickness + stackedThickness "chip" before + layer.size.z / 2
  else layer.offset.z

theorem layerOffset_foldl_advance (sensorThickness chipThickness : ℚ)
    (before : List SupportLayer) (layer : SupportLayer) :
    layerOffset (before.foldl advance ⟨-sensorThickness / 2, sensorThickness / 2 + chipThickness⟩)
        layer =
      ⟨layer.offset.x, layer.offset.y, stackedZ sensorThickness chipThickness before layer⟩ := by
  rw [foldl_advance]
  by_cases hs : layer.location = "sensor"
  · simp [layerOffset_sensor hs, stackedZ, hs]
  · by_cases hc : layer.location = "chip"
    · simp [layerOffset_chip hc, stackedZ, hs, hc]
    · simp [layerOffset_other hs hc, stackedZ, hs, hc]

/-! ### Layers of one location -/

/-- The running offsets `a` and `b` agree on the one a layer at `location` reads. -/
def AgreeAt (location : String) (a b : StackOffsets) : Prop :=
  (location = "sensor" → a.sensorOffset = b.sensorOffset) ∧
    (location = "chip" → a.chipOffset = b.chipOffset)

section Agree

variable {location : String} {a b : StackOffsets} {layer : SupportLayer}

theorem layerOffset_congr (h : AgreeAt layer.location a b) :
    layerOffset a layer = layerOffset b layer := by
  unfold layerOffset
  split_ifs with hs hc <;> simp_all [AgreeAt]

theorem agreeAt_advance (h : AgreeAt location a b) :
    AgreeAt location (advance a layer) (advance b layer) := by
  unfold advance
  split_ifs <;> simp_all [AgreeAt]

theorem agreeAt_advance_left (hne : layer.location ≠ location) (h : AgreeAt location a b) :
    AgreeAt location (advance a layer) b := by
  unfold advance
  split_ifs with hs hc
  · exact ⟨fun hl => absurd (hs.trans hl.symm) hne, h.2⟩
  · exact ⟨h.1, fun hl => absurd (hc.trans hl.symm) hne⟩
  · exact h

/-- **Filtering by location commutes with the loop**: the layers of one location are placed
as if the others were not there. -/
theorem filter_stackLayers (center : XYZVector) (h : AgreeAt location a b)
    (layers : List SupportLayer) :
    (stackLayers center a layers).filter (·.location = location) =
      stackLayers center b (layers.filter (·.location = location)) := by
  induction layers generalizing a b with
  | nil => rfl
  | cons layer layers ih =>
    by_cases hl : layer.location = location
    · subst hl
      simp [List.filter_cons, layerOffset_congr h, ih (agreeAt_advance h)]
    · simp [List.filter_cons, hl, ih (agreeAt_advance_left hl h)]

end Agree

theorem filter_getSupportLayers (m : DetectorModel) (location : String) :
    m.getSupportLayers.filter (·.location = location) =
      { m with supportLayers := m.supportLayers.filter (·.location = location) }.getSupportLayers :=
  filter_stackLayers _ ⟨fun _ => rfl, fun _ => rfl⟩ _

/-- `getSupportLayers` sets centres only. -/
theorem map_getSupportLayers {β : Type} (m : DetectorModel) (f : SupportLayer → β)
    (hf : ∀ layer c, f { layer with center := c } = f layer) :
    m.getSupportLayers.map f = m.supportLayers.map f :=
  map_stackLayers f hf _ _

/-- **The centre of every support layer, in closed form.**  `getSupportLayers` returns the
stored layers in order, each with only its centre set: the model centre plus the declared
in-plane offset and the `z` of `stackedZ`, with `T = getSensorSize().z` and
`C = getChipSize().z`.  So a centre depends only on the earlier layers of its own location, and
reordering layers of different locations changes no centre. -/
theorem getSupportLayers_spec (m : DetectorModel) :
    m.getSupportLayers = m.supportLayers.mapIdx (fun k layer =>
      { layer with center := m.getCenter + ⟨layer.offset.x, layer.offset.y,
          stackedZ m.getSensorSize.z m.getChipSize.z (m.supportLayers.take k) layer⟩ }) ∧
    ∀ (layers : List SupportLayer) (location : String),
      layers.filter (·.location = location) = m.supportLayers.filter (·.location = location) →
      { m with supportLayers := layers }.getSupportLayers.filter (·.location = location) =
        m.getSupportLayers.filter (·.location = location) := by
  refine ⟨?_, fun layers location h => ?_⟩
  · simp only [getSupportLayers, stackLayers_eq_mapIdx, layerOffset_foldl_advance]
  · rw [filter_getSupportLayers, filter_getSupportLayers, h]

/-- Reordering the stored layers while keeping the `sensor` layers and the `chip` layers each in
their order permutes the layers `getSupportLayers` returns, centres included: a layer occurs as
often in either result as among the layers of its own location, which are the same for a stacked
location and, for any other, the same layers with the model centre added, in another order. -/
theorem getSupportLayers_perm (m : DetectorModel) {layers : List SupportLayer}
    (hperm : layers.Perm m.supportLayers)
    (hs : layers.filter (·.location = "sensor") = m.supportLayers.filter (·.location = "sensor"))
    (hc : layers.filter (·.location = "chip") = m.supportLayers.filter (·.location = "chip")) :
    { m with supportLayers := layers }.getSupportLayers.Perm m.getSupportLayers := by
  refine List.perm_iff_count.2 fun layer => ?_
  have hfilter : ({ m with supportLayers := layers }.getSupportLayers.filter
      fun l : SupportLayer => l.location = layer.location).Perm
      (m.getSupportLayers.filter fun l : SupportLayer => l.location = layer.location) := by
    simp only [filter_getSupportLayers]
    by_cases hls : layer.location = "sensor"
    · rw [hls, hs]
    by_cases hlc : layer.location = "chip"
    · rw [hlc, hc]
    -- neither stacked: the loop adds the model centre to each offset, whatever the order
    have hother : ∀ L : List SupportLayer, ∀ l ∈ L.filter (·.location = layer.location),
        l.location ≠ "sensor" ∧ l.location ≠ "chip" := fun L l hl => by
      rw [(List.mem_filter.1 hl).2 |> of_decide_eq_true]; exact ⟨hls, hlc⟩
    simp only [getSupportLayers]
    rw [stackLayers_of_unstacked _ (hother _), stackLayers_of_unstacked _ (hother _)]
    exact (hperm.filter _).map _
  calc { m with supportLayers := layers }.getSupportLayers.count layer
      = ({ m with supportLayers := layers }.getSupportLayers.filter
          fun l : SupportLayer => l.location = layer.location).count layer :=
        (List.count_filter (by simp)).symm
    _ = (m.getSupportLayers.filter fun l : SupportLayer => l.location = layer.location).count
          layer := hfilter.count_eq layer
    _ = m.getSupportLayers.count layer := List.count_filter (by simp)

/-! ### Stacking outward -/

/-- `b` lies below `a`: its upper face at or below `a`'s lower face, its centre strictly lower. -/
def StacksBelow (a b : SupportLayer) : Prop :=
  b.center.z + b.size.z / 2 ≤ a.center.z - a.size.z / 2 ∧ b.center.z < a.center.z

/-- `b` lies above `a`: its lower face at or above `a`'s upper face, its centre strictly
higher. -/
def StacksAbove (a b : SupportLayer) : Prop :=
  a.center.z + a.size.z / 2 ≤ b.center.z - b.size.z / 2 ∧ a.center.z < b.center.z

section Stacking

variable {center : XYZVector} {acc : StackOffsets} {layers : List SupportLayer}

/-- Every `sensor` layer the loop places lies below the running sensor offset it started from. -/
theorem stackLayers_sensor_below
    (hpos : ∀ layer ∈ layers, layer.location = "sensor" → 0 < layer.size.z) :
    ∀ l ∈ stackLayers center acc layers, l.location = "sensor" →
      l.center.z + l.size.z / 2 ≤ center.z + acc.sensorOffset := by
  induction layers generalizing acc with
  | nil => simp
  | cons layer layers ih =>
    intro l hl hs
    rcases List.mem_cons.1 hl with rfl | hl
    · simp only [layerOffset_sensor (show layer.location = "sensor" from hs), XYZVector.add_z]
      linarith
    · have h := ih (fun l' hl' => hpos l' (List.mem_cons_of_mem _ hl')) l hl hs
      have ht := hpos layer (List.mem_cons_self _ _)
      simp only [advance_sensorOffset] at h
      split_ifs at h with hl'
      · linarith [ht hl']
      · simpa using h

/-- Every `chip` layer the loop places lies above the running chip offset it started from. -/
theorem stackLayers_chip_above
    (hpos : ∀ layer ∈ layers, layer.location = "chip" → 0 < layer.size.z) :
    ∀ l ∈ stackLayers center acc layers, l.location = "chip" →
      center.z + acc.chipOffset ≤ l.center.z - l.size.z / 2 := by
  induction layers generalizing acc with
  | nil => simp
  | cons layer layers ih =>
    intro l hl hc
    rcases List.mem_cons.1 hl with rfl | hl
    · simp only [layerOffset_chip (show layer.location = "chip" from hc), XYZVector.add_z]
      linarith
    · have h := ih (fun l' hl' => hpos l' (List.mem_cons_of_mem _ hl')) l hl hc
      have ht := hpos layer (List.mem_cons_self _ _)
      simp only [advance_chipOffset] at h
      split_ifs at h with hl'
      · linarith [ht hl']
      · simpa using h

theorem stackLayers_sensor_pairwise
    (hpos : ∀ layer ∈ layers, layer.location = "sensor" → 0 < layer.size.z) :
    (stackLayers center acc layers).Pairwise fun a b =>
      a.location = "sensor" → b.location = "sensor" → StacksBelow a b := by
  induction layers generalizing acc with
  | nil => simp
  | cons layer layers ih =>
    have hpos' := fun l' hl' => hpos l' (List.mem_cons_of_mem layer hl')
    refine List.pairwise_cons.2 ⟨fun b hb (ha : layer.location = "sensor") hbs => ?_, ih hpos'⟩
    have hface := stackLayers_sensor_below hpos' b hb hbs
    obtain ⟨l', hl', hsize, hloc⟩ := mem_stackLayers hb
    have hb0 : 0 < b.size.z := hsize ▸ hpos' l' hl' (hloc ▸ hbs)
    have ht := hpos layer (List.mem_cons_self _ _) ha
    simp only [advance_sensorOffset, ha, ↓reduceIte] at hface
    simp only [StacksBelow, layerOffset_sensor ha, XYZVector.add_z]
    constructor <;> linarith

theorem stackLayers_chip_pairwise
    (hpos : ∀ layer ∈ layers, layer.location = "chip" → 0 < layer.size.z) :
    (stackLayers center acc layers).Pairwise fun a b =>
      a.location = "chip" → b.location = "chip" → StacksAbove a b := by
  induction layers generalizing acc with
  | nil => simp
  | cons layer layers ih =>
    have hpos' := fun l' hl' => hpos l' (List.mem_cons_of_mem layer hl')
    refine List.pairwise_cons.2 ⟨fun b hb (ha : layer.location = "chip") hbc => ?_, ih hpos'⟩
    have hface := stackLayers_chip_above hpos' b hb hbc
    obtain ⟨l', hl', hsize, hloc⟩ := mem_stackLayers hb
    have hb0 : 0 < b.size.z := hsize ▸ hpos' l' hl' (hloc ▸ hbc)
    have ht := hpos layer (List.mem_cons_self _ _) ha
    simp only [advance_chipOffset, ha, ↓reduceIte] at hface
    simp only [StacksAbove, layerOffset_chip ha, XYZVector.add_z]
    constructor <;> linarith

end Stacking

/-- The support layers of `m` stack outward without overlap: of two `sensor` layers, the later
lies entirely below the earlier, and every `sensor` layer lies below the sensor's back face; of
two `chip` layers, the later lies entirely above the earlier, and every `chip` layer lies above
the chip's back face. -/
def StackedOutward (m : DetectorModel) : Prop :=
  m.getSupportLayers.Pairwise (fun a b =>
      a.location = "sensor" → b.location = "sensor" → StacksBelow a b) ∧
    (∀ layer ∈ m.getSupportLayers, layer.location = "sensor" →
      layer.center.z + layer.size.z / 2 ≤ m.getCenter.z - m.getSensorSize.z / 2) ∧
    m.getSupportLayers.Pairwise (fun a b =>
      a.location = "chip" → b.location = "chip" → StacksAbove a b) ∧
    (∀ layer ∈ m.getSupportLayers, layer.location = "chip" →
      m.getCenter.z + m.getSensorSize.z / 2 + m.getChipSize.z ≤ layer.center.z - layer.size.z / 2)

/-- **Support layers of positive thickness stack outward without overlap**, whatever the
interleaving of locations. -/
theorem getSupportLayers_stacked (m : DetectorModel)
    (hpos : ∀ layer ∈ m.supportLayers,
      layer.location = "sensor" ∨ layer.location = "chip" → 0 < layer.size.z) :
    m.StackedOutward := by
  have hs := fun l hl h => hpos l hl (Or.inl h)
  have hc := fun l hl h => hpos l hl (Or.inr h)
  refine ⟨stackLayers_sensor_pairwise hs, fun l hl h => ?_, stackLayers_chip_pairwise hc,
    fun l hl h => ?_⟩
  · have := stackLayers_sensor_below hs l hl h; dsimp only at this; linarith
  · have := stackLayers_chip_above hc l hl h; dsimp only at this; linarith

/-- A sensor 0.3 thick with the two `sensor` layers of §8, 1 and then 2 thick, and a `chip`
layer 1 thick between them. -/
def interleavedStackModel : DetectorModel where
  type := "interleaved"
  reader := ⟨⟨"", []⟩, []⟩
  nPixels := ⟨1, 1⟩
  pixelSize := ⟨1, 1⟩
  sensorThickness := 3 / 10
  sensorExcessTop := 0
  sensorExcessBottom := 0
  sensorExcessLeft := 0
  sensorExcessRight := 0
  implantSize := ⟨1, 1, 0⟩
  implantMaterial := "aluminum"
  implantOffset := ⟨0, 0⟩
  chipThickness := 0
  supportLayers :=
    [SupportLayer.ofConfig ⟨1, 1⟩ 1 ⟨0, 0, 0⟩ "g10" "sensor" ⟨0, 0⟩ ⟨0, 0⟩,
      SupportLayer.ofConfig ⟨1, 1⟩ 1 ⟨0, 0, 0⟩ "g10" "chip" ⟨0, 0⟩ ⟨0, 0⟩,
      SupportLayer.ofConfig ⟨1, 1⟩ 2 ⟨0, 0, 0⟩ "g10" "sensor" ⟨0, 0⟩ ⟨0, 0⟩]

theorem interleavedStackModel_stacked :
    (∀ layer ∈ interleavedStackModel.supportLayers,
      layer.location = "sensor" ∨ layer.location = "chip" → 0 < layer.size.z) ∧
    interleavedStackModel.StackedOutward :=
  have hpos : ∀ layer ∈ interleavedStackModel.supportLayers,
      layer.location = "sensor" ∨ layer.location = "chip" → 0 < layer.size.z := by
    simp [interleavedStackModel, SupportLayer.ofConfig]
  ⟨hpos, getSupportLayers_stacked _ hpos⟩

/-- A header of one pixel and two `sensor` sections of zero thickness. -/
def zeroThicknessReader : ConfigReader :=
  let support : Configuration :=
    ⟨"support", [("thickness", [.num 0]), ("size", [.num 1, .num 1]),
      ("location", [.word "sensor"])]⟩
  ⟨⟨"", [("number_of_pixels", [.num 1, .num 1]), ("pixel_size", [.num 1, .num 1]),
    ("sensor_thickness", [.num 1])]⟩, [support, support]⟩

/-- The zero-thickness `sensor` layer the constructor reads from `zeroThicknessReader`. -/
def zeroThicknessLayer : SupportLayer :=
  SupportLayer.ofConfig ⟨1, 1⟩ 0 ⟨0, 0, 0⟩ "g10" "sensor" ⟨0, 0⟩ ⟨0, 0⟩

theorem construct_zeroThicknessReader :
    construct "flat" zeroThicknessReader =
      .ok { type := "flat", reader := zeroThicknessReader, nPixels := ⟨1, 1⟩,
            pixelSize := ⟨1, 1⟩, sensorThickness := 1, sensorExcessTop := 0,
            sensorExcessBottom := 0, sensorExcessLeft := 0, sensorExcessRight := 0,
            implantSize := ⟨1, 1, 0⟩, implantMaterial := "aluminum", implantOffset := ⟨0, 0⟩,
            chipThickness := 0, supportLayers := [zeroThicknessLayer, zeroThicknessLayer] } := by
  simp [List.mapM.loop, construct, zeroThicknessReader, zeroThicknessLayer, readImplantSize,
    readSupportLayer, readSupportOffset, throwIf, Configuration.get, Configuration.getD,
    Configuration.has, ConfigReader.getConfigurationsNamed, fromString, bind, Except.bind, pure,
    Except.pure, tryCatch, tryCatchThe, MonadExceptOf.tryCatch, Except.tryCatch, throw, throwThe,
    MonadExceptOf.throw, lowercase, Atom.toNat?, List.lookup_cons]
  norm_num

/-- **A model the constructor accepts need not stack strictly**: two `sensor` layers of zero
thickness get the same centre. -/
theorem stackedOutward_fails_at_zero_thickness :
    ¬ ∀ (type : String) (reader : ConfigReader) (m : DetectorModel),
      construct type reader = .ok m → m.StackedOutward := by
  intro h
  have := (h _ _ _ construct_zeroThicknessReader).1
  norm_num [zeroThicknessLayer, SupportLayer.ofConfig, getSupportLayers, StacksBelow,
    getSensorSize, getChipSize, getCenter, getGridSize, layerOffset, advance] at this


end DetectorModel

end Allpix
