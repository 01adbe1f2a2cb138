import AllpixGeometry.Config

/-!
# The detector model

`DetectorModel` holds what its constructor stores through the setters: the pixel grid, the
sensor with its four excesses, the implants, the chip and the support layers in declaration
order.  The inline getters of `DetectorModel.hpp` are not under `src/`; the ones the code uses
are modelled from the spec, and each says so.

The local frame used by these getters puts the centre of pixel `(0, 0)` at the origin and the
sensor's mid-plane at `z = 0`: the spec fixes no origin, and every statement of the development
is made relative to `getCenter`, so nothing depends on that choice.

## Main definitions

* `SupportLayer`, `DetectorModel` — the stored description.
* `getGridSize`, `getSensorSize`, `getSensorCenter`, `getChipSize`, `getChipCenter`,
  `getCenter`, `pixelCellCenter` — the derived geometry.
* `getConfigurations` — the global section merged from the unnamed ones, then the named ones.

## Main results

* `getConfigurations_spec` — the first configuration is the header merged with exactly the
  unnamed sections, in order, and the named sections follow, each once and in order.

## References

`src/src/core/geometry/DetectorModel.cpp`.
-/

namespace Allpix

/-- A passive layer of the detector model, `DetectorModel::SupportLayer`. -/
structure SupportLayer where
  /-- The size: the declared `size` in `x` and `y`, the `thickness` in `z`. -/
  size : XYZVector
  /-- The declared offset; its `z` component is only read for `absolute` layers. -/
  offset : XYZVector
  /-- The material, lower-cased. -/
  material : String
  /-- `sensor`, `chip` or `absolute`, lower-cased. -/
  location : String
  /-- The hole size: the declared `hole_size` in `x` and `y`, the thickness in `z`. -/
  holeSize : XYZVector
  /-- The in-plane offset of the hole from the layer's centre. -/
  holeOffset : XYVector
  /-- The centre, only meaningful in a layer returned by `getSupportLayers`. -/
  center : XYZVector
  deriving DecidableEq, Repr

namespace SupportLayer

/-- Modelled from the spec: `SupportLayer::hasHole` is not under `src/`; a zero hole size means
no hole (§3). -/
def hasHole (layer : SupportLayer) : Bool := layer.holeSize.x ≠ 0 ∨ layer.holeSize.y ≠ 0

/-- Modelled from the spec: `SupportLayer::getHoleCenter` is not under `src/`; the hole sits at
the layer's centre shifted in-plane by the hole offset (§3). -/
def getHoleCenter (layer : SupportLayer) : XYZVector :=
  layer.center + ⟨layer.holeOffset.x, layer.holeOffset.y, 0⟩

/-- Modelled from the spec: the layer `DetectorModel::addSupportLayer` appends, which is not
under `src/`.  The size and the hole size take the thickness as their `z` component (`build`
doubles the hole's `z` extent from it). -/
def ofConfig (size : XYVector) (thickness : ℚ) (offset : XYZVector) (material location : String)
    (holeSize holeOffset : XYVector) : SupportLayer :=
  ⟨⟨size.x, size.y, thickness⟩, offset, material, location, ⟨holeSize.x, holeSize.y, thickness⟩,
    holeOffset, 0⟩

end SupportLayer

/-- The detector model, as its constructor leaves it. -/
structure DetectorModel where
  /-- `type_`, the model name. -/
  type : String
  /-- `reader_`, kept for `getConfigurations`. -/
  reader : ConfigReader
  /-- `getNPixels()`. -/
  nPixels : XYUIntVector
  /-- `getPixelSize()`, the pixel pitch. -/
  pixelSize : XYVector
  /-- The sensor thickness. -/
  sensorThickness : ℚ
  /-- How far the sensor extends beyond the pixel grid on `+y`. -/
  sensorExcessTop : ℚ
  /-- How far the sensor extends beyond the pixel grid on `-y`. -/
  sensorExcessBottom : ℚ
  /-- How far the sensor extends beyond the pixel grid on `-x`. -/
  sensorExcessLeft : ℚ
  /-- How far the sensor extends beyond the pixel grid on `+x`. -/
  sensorExcessRight : ℚ
  /-- `getImplantSize()`. -/
  implantSize : XYZVector
  /-- `getImplantMaterial()`. -/
  implantMaterial : String
  /-- `getImplantOffset()`, the implant's offset from its pixel's centre. -/
  implantOffset : XYVector
  /-- The chip thickness; zero means no chip volume. -/
  chipThickness : ℚ
  /-- `support_layers_`, in declaration order. -/
  supportLayers : List SupportLayer
  deriving DecidableEq, Repr

namespace DetectorModel

variable (m : DetectorModel)

/-! ### Derived geometry -/

/-- Modelled from the spec: `getGridSize` is not under `src/`; the pixel grid is an `nx × ny`
array of cells of the pixel pitch. -/
def getGridSize : XYVector := ⟨m.nPixels.x * m.pixelSize.x, m.nPixels.y * m.pixelSize.y⟩

/-- Modelled from the spec: `getSensorSize` is not under `src/`; the sensor is the pixel grid
extended by the four excesses, `sensorThickness` thick. -/
def getSensorSize : XYZVector :=
  ⟨m.getGridSize.x + m.sensorExcessLeft + m.sensorExcessRight,
    m.getGridSize.y + m.sensorExcessBottom + m.sensorExcessTop, m.sensorThickness⟩

/-- Modelled from the spec: `getCenter` is not under `src/`; the middle of the pixel grid, in
the sensor's mid-plane. -/
def getCenter : XYZVector :=
  ⟨m.getGridSize.x / 2 - m.pixelSize.x / 2, m.getGridSize.y / 2 - m.pixelSize.y / 2, 0⟩

/-- Modelled from the spec: the centre of pixel `(i, j)`'s cell, pixel `(0, 0)` at the origin. -/
def pixelCellCenter (i j : ℕ) : XYVector := ⟨i * m.pixelSize.x, j * m.pixelSize.y⟩

/-- Modelled from the spec: `getSensorCenter` is not under `src/`; the grid's centre moved by
half the difference of the opposite excesses. -/
def getSensorCenter : XYZVector :=
  m.getCenter + ⟨(m.sensorExcessRight - m.sensorExcessLeft) / 2,
    (m.sensorExcessTop - m.sensorExcessBottom) / 2, 0⟩

/-- Modelled from the spec: `getChipSize` is not under `src/`; the chip covers the sensor's
footprint and is `chipThickness` thick. -/
def getChipSize : XYZVector := ⟨m.getSensorSize.x, m.getSensorSize.y, m.chipThickness⟩

/-- Modelled from the spec: `getChipCenter` is not under `src/`; the chip lies on the sensor's
`+z` face, its back face at `sensorThickness / 2 + chipThickness` (§4.2). -/
def getChipCenter : XYZVector :=
  m.getSensorCenter + ⟨0, 0, m.getSensorSize.z / 2 + m.getChipSize.z / 2⟩

@[simp] theorem getSensorSize_z : m.getSensorSize.z = m.sensorThickness := rfl

@[simp] theorem getChipSize_z : m.getChipSize.z = m.chipThickness := rfl

@[simp] theorem getCenter_z : m.getCenter.z = 0 := rfl

/-! ### The configuration sections -/

/-- One iteration of the loop of `getConfigurations`: an unnamed section is merged into the
global configuration, a named one is stored. -/
def collectSection (merge : Configuration → Configuration → Configuration)
    (acc : Configuration × List Configuration) (config : Configuration) :
    Configuration × List Configuration :=
  if config.name.isEmpty then (merge acc.1 config, acc.2) else (acc.1, acc.2 ++ [config])

/-- `getConfigurations()`: the header merged with every unnamed section, prepended to the named
sections.  `merge` is `Configuration::merge`, which is not under `src/`. -/
def getConfigurations (merge : Configuration → Configuration → Configuration) :
    List Configuration :=
  let acc := m.reader.sections.foldl (collectSection merge) (m.reader.header, [])
  acc.1 :: acc.2

/-- The loop of `getConfigurations` merges the unnamed sections and appends the named ones. -/
theorem foldl_collectSection (merge : Configuration → Configuration → Configuration)
    (sections : List Configuration) (global : Configuration) (stored : List Configuration) :
    sections.foldl (collectSection merge) (global, stored) =
      ((sections.filter (·.name.isEmpty)).foldl merge global,
        stored ++ sections.filter (!·.name.isEmpty)) := by
  induction sections generalizing global stored with
  | nil => simp
  | cons config sections ih =>
    by_cases h : config.name.isEmpty <;> simp [collectSection, h, ih]

/-- **`getConfigurations` returns the merged global section, then the named sections.**  For
every merge function: there are `1 + n` configurations for `n` named sections, the first is the
header merged in declaration order with the unnamed sections only, and the rest are the named
sections, unmodified and in their order. -/
theorem getConfigurations_spec (merge : Configuration → Configuration → Configuration) :
    (m.getConfigurations merge).length =
        1 + (m.reader.sections.filter (!·.name.isEmpty)).length ∧
      m.getConfigurations merge =
        (m.reader.sections.filter (·.name.isEmpty)).foldl merge m.reader.header ::
          m.reader.sections.filter (!·.name.isEmpty) := by
  simp only [getConfigurations, foldl_collectSection, List.nil_append, List.length_cons, and_true]
  omega

end DetectorModel

end Allpix
