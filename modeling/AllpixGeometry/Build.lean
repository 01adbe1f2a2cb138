import AllpixGeometry.Size
import AllpixGeometry.Solid

/-!
# Building the Geant4 geometry

`DetectorConstructionG4::build` turns each detector's model into Geant4 volumes: a wrapper box
of the model's size, placed in the world, and inside it the sensor, the implants, the chip and
the support layers, each at its centre less the model's geometrical centre.  The implants of all
pixels are gathered in one multi-union; the source also builds the sensor box less that union,
but creates the sensor's logical volume from the plain sensor box.  The implant and support
materials are looked up in `build`'s own copy of `materials_`, to which the wrapper's and
the sensor's `operator[]` have added `"world_material"` and `"silicon"`.

The pixel box and its parameterisation are created and registered but never placed, and the
bump bonds of a hybrid model come from `HybridPixelDetectorModel`, which is not under `src/`;
neither is modelled.

## Main definitions

* `implantTransform`, `implantNodes` — the double loop over the pixels.
* `materialsAfter` — the keys of `materials_` after one detector.
* `buildImplants`, `buildSupport`, `buildDetector`, `build` — the construction.
* `offsetSensorModel` — a one-pixel model with pixel-sized implants, read by the constructor.

## Main results

* `buildImplants_eq_ok`, `buildDetector_eq_ok` — what `build` places for one detector.
* `buildImplants_cases`, `mem_buildChip` — the two branches of the implants and of the chip,
  which the later modules destruct instead of unfolding the construction.
* `build_isOk_iff` — **when `build` throws**, detector by detector, with the keys the earlier
  detectors inserted.
* `buildDetector_sensor_overlaps_implants` — **the sensor volume is the whole sensor box, placed
  where the implants are, so it contains their interior.**

## References

`src/src/modules/GeometryBuilderGeant4/DetectorConstructionG4.cpp`, lines 59–390.
-/

namespace Allpix

open EInside DetectorModel

/-- A Geant4 logical volume: a solid filled with a material. -/
structure LogicalVolume where
  /-- The volume's name. -/
  name : String
  /-- Its solid. -/
  solid : Solid
  /-- The name of its material. -/
  material : String
  deriving Repr

/-- A `G4PVPlacement` of a logical volume in a wrapper, translated and not rotated. -/
structure Placement where
  /-- The placement's name. -/
  name : String
  /-- The placed volume. -/
  logical : LogicalVolume
  /-- The translation in the mother volume. -/
  position : XYZVector
  deriving Repr

/-- Where a point of the mother volume lies relative to a placed volume. -/
def Placement.inside (placement : Placement) (p : XYZVector) : EInside :=
  placement.logical.solid.inside (p - placement.position)

/-- A detector of the geometry manager. -/
structure Detector where
  /-- `getName()`. -/
  name : String
  /-- `getModel()`. -/
  model : DetectorModel
  /-- `getPosition()`, in the world. -/
  position : XYZVector
  /-- `getOrientation()`. -/
  orientation : Rotation3D
  deriving Repr

/-- A `ModuleError` and its message. -/
structure ModuleError where
  /-- The message. -/
  message : String
  deriving DecidableEq, Repr

/-- What `build` places for one detector. -/
structure DetectorVolumes where
  /-- `wrapper_<name>_phys`, placed in the world at the translation `position`. -/
  wrapper : Placement
  /-- The wrapper's rotation in the world. -/
  rotation : Rotation3D
  /-- The volumes placed in the wrapper, in the order `build` places them. -/
  daughters : List Placement
  deriving Repr

/-- `std::numeric_limits<double>::epsilon()`. -/
def doubleEpsilon : ℚ := 1 / 2 ^ 52

/-- The half-lengths of a box of size `size`. -/
def boxOfSize (size : XYZVector) : Box := ⟨size.x / 2, size.y / 2, size.z / 2⟩

/-! ### The implants -/

/-- The transform of the implant of pixel `(npixX, npixY)` in the sensor box's frame. -/
def implantTransform (model : DetectorModel) (npixX npixY : ℕ) : XYZVector :=
  ⟨-model.getGridSize.x / 2 + (npixX + 1 / 2) * model.pixelSize.x + model.implantOffset.x,
    -model.getGridSize.y / 2 + (npixY + 1 / 2) * model.pixelSize.y + model.implantOffset.y,
    (model.getSensorSize.z - model.implantSize.z) / 2⟩

/-- The nodes the double loop adds to the implant union, `npix_x` outer and `npix_y` inner. -/
def implantNodes (model : DetectorModel) : List (Box × XYZVector) :=
  (List.range model.nPixels.x).flatMap fun npixX =>
    (List.range model.nPixels.y).map fun npixY =>
      (boxOfSize model.implantSize, implantTransform model npixX npixY)

/-- The implants: when they have a non-negligible depth, their placement and the sensor box less
their union, otherwise no placement and the sensor box. -/
def buildImplants (materials : List String) (name : String) (model : DetectorModel) :
    Except ModuleError (List Placement × Solid) :=
  if model.implantSize.z > doubleEpsilon then do
    let implantUnion := Solid.multiUnion (implantNodes model)
    throwIf (model.implantMaterial ∉ materials)
      ⟨"Cannot construct implants of material \x27" ++ model.implantMaterial ++ "\x27"⟩
    let implantLog : LogicalVolume :=
      ⟨"implants_" ++ name ++ "_log", implantUnion, model.implantMaterial⟩
    pure ([⟨"implants_" ++ name ++ "_phys", implantLog,
        model.getSensorCenter - model.getGeometricalCenter⟩],
      .subtraction (.box (boxOfSize model.getSensorSize)) implantUnion 0)
  else pure ([], .box (boxOfSize model.getSensorSize))

/-! ### The chip and the support layers -/

/-- The chip, placed only when it is thicker than `1e-9`. -/
def buildChip (name : String) (model : DetectorModel) : List Placement :=
  if model.getChipSize.z > 1 / 10 ^ 9 then
    [⟨"chip_" ++ name ++ "_phys", ⟨"chip_" ++ name ++ "_log", .box (boxOfSize model.getChipSize),
      "silicon"⟩, model.getChipCenter - model.getGeometricalCenter⟩]
  else []

theorem mem_buildChip {name : String} {model : DetectorModel} {chip : Placement}
    (h : chip ∈ buildChip name model) :
    chip = ⟨"chip_" ++ name ++ "_phys", ⟨"chip_" ++ name ++ "_log",
      .box (boxOfSize model.getChipSize), "silicon"⟩, model.getChipCenter - model.getGeometricalCenter⟩ := by
  unfold buildChip at h
  split_ifs at h <;> simp_all

/-- The support layer number `supportIdx`: its box, less its hole when it has one. -/
def buildSupport (materials : List String) (name : String) (model : DetectorModel)
    (supportIdx : ℕ) (layer : SupportLayer) : Except ModuleError Placement := do
  let supportBox := Solid.box (boxOfSize layer.size)
  let supportSolid : Solid :=
    if layer.hasHole then
      .subtraction supportBox (.box ⟨layer.holeSize.x / 2, layer.holeSize.y / 2, layer.holeSize.z⟩)
        (layer.getHoleCenter - layer.center)
    else supportBox
  throwIf (layer.material ∉ materials)
    ⟨"Cannot construct a support layer of material \x27" ++ layer.material ++ "\x27"⟩
  pure ⟨"support_" ++ name ++ "_phys_" ++ toString supportIdx,
    ⟨"support_" ++ name ++ "_log_" ++ toString supportIdx, supportSolid, layer.material⟩,
    layer.center - model.getGeometricalCenter⟩

/-! ### One detector

`build` takes `materials_` by value and looks a material up in two ways: `find`, which misses a
key that is not there and then throws, and `operator[]`, which inserts the key.  The model keeps
the map's keys: the wrapper's `materials_["world_material"]` comes before the implants' `find`,
the sensor's `materials_["silicon"]` before the support layers' `find`, and the next detector
sees both keys. -/

/-- The keys of `materials_` after one detector: `"world_material"` and `"silicon"` are looked up
with `operator[]`. -/
def materialsAfter (materials : List String) : List String :=
  (materials.insert "world_material").insert "silicon"

/-- One iteration of `build`'s loop over the detectors.  `worldLogInStore` says whether Geant4's
logical volume store holds `World_log`. -/
def buildDetector (materials : List String) (worldLogInStore : Bool) (detector : Detector) :
    Except ModuleError DetectorVolumes := do
  let model := detector.model
  let name := detector.name
  let wrapperLog : LogicalVolume :=
    ⟨"wrapper_" ++ name ++ "_log", .box (boxOfSize model.getSize), "world_material"⟩
  let materials := materials.insert "world_material"
  let wrapperGeoTranslation :=
    detector.orientation.apply (model.getCenter - model.getGeometricalCenter)
  let posWrapper := detector.position - wrapperGeoTranslation
  throwIf (worldLogInStore = false) ⟨"Cannot find world volume"⟩
  let (implantsPhys, _sensorSolid) ← buildImplants materials name model
  let sensorLog : LogicalVolume :=
    ⟨"sensor_" ++ name ++ "_log", .box (boxOfSize model.getSensorSize), "silicon"⟩
  let materials := materials.insert "silicon"
  let sensorPhys : Placement :=
    ⟨"sensor_" ++ name ++ "_phys", sensorLog, model.getSensorCenter - model.getGeometricalCenter⟩
  let supportsPhys ← model.getSupportLayers.enum.mapM fun (idx, layer) =>
    buildSupport materials name model idx layer
  pure ⟨⟨"wrapper_" ++ name ++ "_phys", wrapperLog, posWrapper⟩, detector.orientation,
    implantsPhys ++ sensorPhys :: buildChip name model ++ supportsPhys⟩

/-- `DetectorConstructionG4::build`: every detector in turn, each seeing the keys its
predecessors inserted, stopping at the first error. -/
def build (materials : List String) (worldLogInStore : Bool) :
    List Detector → Except ModuleError (List DetectorVolumes)
  | [] => pure []
  | detector :: detectors => do
    let volumes ← buildDetector materials worldLogInStore detector
    let rest ← build (materialsAfter materials) worldLogInStore detectors
    pure (volumes :: rest)

@[simp]
theorem mem_materialsAfter {materials : List String} {material : String} :
    material ∈ materialsAfter materials ↔
      material ∈ materials ∨ material = "world_material" ∨ material = "silicon" := by
  simp only [materialsAfter, List.mem_insert_iff]
  tauto

/-- `operator[]` inserts nothing once a detector has been built. -/
theorem insert_world_material_materialsAfter (materials : List String) :
    (materialsAfter materials).insert "world_material" = materialsAfter materials :=
  List.insert_of_mem (by simp)

/-- After the first detector the keys no longer change. -/
theorem materialsAfter_materialsAfter (materials : List String) :
    materialsAfter (materialsAfter materials) = materialsAfter materials := by
  rw [materialsAfter, insert_world_material_materialsAfter]
  exact List.insert_of_mem (by simp)

/-! ### What `build` places -/

theorem buildImplants_eq_ok {materials : List String} {name : String} {model : DetectorModel}
    {r : List Placement × Solid} :
    buildImplants materials name model = .ok r ↔
      if model.implantSize.z > doubleEpsilon then
        model.implantMaterial ∈ materials ∧
          r = ([⟨"implants_" ++ name ++ "_phys",
              ⟨"implants_" ++ name ++ "_log", .multiUnion (implantNodes model),
                model.implantMaterial⟩, model.getSensorCenter - model.getGeometricalCenter⟩],
            .subtraction (.box (boxOfSize model.getSensorSize)) (.multiUnion (implantNodes model)) 0)
      else r = ([], .box (boxOfSize model.getSensorSize)) := by
  unfold buildImplants
  split_ifs
  · simp only [bind_eq_ok, throwIf_eq_ok, pure_eq_ok, not_not]
    exact ⟨fun ⟨_, hm, hr⟩ => ⟨hm, hr.symm⟩, fun ⟨hm, hr⟩ => ⟨(), hm, hr.symm⟩⟩
  · exact pure_eq_ok.trans eq_comm

/-- **What `build` places for one detector**: after the world check, the implants (if any),
the sensor, the chip (if any) and the support layers, in this order. -/
theorem buildDetector_eq_ok {materials : List String} {worldLogInStore : Bool}
    {detector : Detector} {volumes : DetectorVolumes} :
    buildDetector materials worldLogInStore detector = .ok volumes ↔
      worldLogInStore = true ∧ ∃ implantsPhys sensorSolid supportsPhys,
        buildImplants (materials.insert "world_material") detector.name detector.model =
          .ok (implantsPhys, sensorSolid) ∧
        detector.model.getSupportLayers.enum.mapM (fun (idx, layer) =>
          buildSupport (materialsAfter materials) detector.name detector.model idx layer) =
          .ok supportsPhys ∧
        volumes =
          ⟨⟨"wrapper_" ++ detector.name ++ "_phys",
              ⟨"wrapper_" ++ detector.name ++ "_log", .box (boxOfSize detector.model.getSize),
                "world_material"⟩,
              detector.position - detector.orientation.apply
                (detector.model.getCenter - detector.model.getGeometricalCenter)⟩,
            detector.orientation,
            implantsPhys ++ ⟨"sensor_" ++ detector.name ++ "_phys",
              ⟨"sensor_" ++ detector.name ++ "_log", .box (boxOfSize detector.model.getSensorSize),
                "silicon"⟩,
              detector.model.getSensorCenter - detector.model.getGeometricalCenter⟩ ::
              buildChip detector.name detector.model ++ supportsPhys⟩ := by
  simp only [buildDetector, bind_eq_ok, throwIf_eq_ok, pure_eq_ok, Bool.not_eq_false,
    exists_const, Prod.exists]
  constructor
  · rintro ⟨hw, i, s, hi, ss, hs, rfl⟩; exact ⟨hw, i, s, ss, hi, hs, rfl⟩
  · rintro ⟨hw, i, s, ss, hi, hs, rfl⟩; exact ⟨hw, i, s, hi, ss, hs, rfl⟩

/-- The two outcomes of the implant step, for callers that hold its result as a pair. -/
theorem buildImplants_cases {materials : List String} {name : String} {model : DetectorModel}
    {implantsPhys : List Placement} {sensorSolid : Solid}
    (h : buildImplants materials name model = .ok (implantsPhys, sensorSolid)) :
    (model.implantSize.z > doubleEpsilon ∧
      implantsPhys = [⟨"implants_" ++ name ++ "_phys",
        ⟨"implants_" ++ name ++ "_log", .multiUnion (implantNodes model), model.implantMaterial⟩,
        model.getSensorCenter - model.getGeometricalCenter⟩] ∧
      sensorSolid =
        .subtraction (.box (boxOfSize model.getSensorSize)) (.multiUnion (implantNodes model)) 0) ∨
    (¬ model.implantSize.z > doubleEpsilon ∧ implantsPhys = [] ∧
      sensorSolid = .box (boxOfSize model.getSensorSize)) := by
  rw [buildImplants_eq_ok] at h
  split_ifs at h with hdepth
  · exact .inl ⟨hdepth, Prod.mk.inj h.2⟩
  · exact .inr ⟨hdepth, Prod.mk.inj h⟩

theorem buildImplants_isOk_iff {materials : List String} {name : String} {model : DetectorModel} :
    (∃ r, buildImplants materials name model = .ok r) ↔
      (model.implantSize.z > doubleEpsilon → model.implantMaterial ∈ materials) := by
  simp only [buildImplants_eq_ok]
  split_ifs with h <;> simp [h]

theorem buildSupport_eq_ok {materials : List String} {name : String} {model : DetectorModel}
    {supportIdx : ℕ} {layer : SupportLayer} {placement : Placement} :
    buildSupport materials name model supportIdx layer = .ok placement ↔
      layer.material ∈ materials ∧
        placement = ⟨"support_" ++ name ++ "_phys_" ++ toString supportIdx,
          ⟨"support_" ++ name ++ "_log_" ++ toString supportIdx,
            if layer.hasHole then
              .subtraction (.box (boxOfSize layer.size))
                (.box ⟨layer.holeSize.x / 2, layer.holeSize.y / 2, layer.holeSize.z⟩)
                (layer.getHoleCenter - layer.center)
            else .box (boxOfSize layer.size), layer.material⟩,
          layer.center - model.getGeometricalCenter⟩ := by
  simp only [buildSupport, bind_eq_ok, throwIf_eq_ok, pure_eq_ok, not_not]
  exact ⟨fun ⟨_, hm, hp⟩ => ⟨hm, hp.symm⟩, fun ⟨hm, hp⟩ => ⟨(), hm, hp.symm⟩⟩

/-- The support loop of one detector succeeds exactly when every layer's material is known. -/
theorem buildSupports_isOk_iff {materials : List String} {name : String} {model : DetectorModel} :
    (∃ supportsPhys, model.getSupportLayers.enum.mapM (fun (idx, layer) =>
        buildSupport materials name model idx layer) = .ok supportsPhys) ↔
      ∀ layer ∈ model.supportLayers, layer.material ∈ materials := by
  rw [DetectorModel.mapM_isOk_iff]
  simp only [buildSupport_eq_ok, exists_and_left, exists_eq, and_true]
  calc (∀ p ∈ model.getSupportLayers.enum, p.2.material ∈ materials)
      ↔ ∀ layer ∈ model.getSupportLayers.enum.map Prod.snd, layer.material ∈ materials := by
        rw [List.forall_mem_map]
    _ ↔ ∀ material ∈ model.getSupportLayers.map SupportLayer.material, material ∈ materials := by
        rw [List.enum_map_snd, List.forall_mem_map]
    _ ↔ ∀ layer ∈ model.supportLayers, layer.material ∈ materials := by
        rw [model.map_getSupportLayers SupportLayer.material fun _ _ => rfl, List.forall_mem_map]

/-- One detector is placed exactly when the world volume exists and every material it looks up
with `find` is known, the keys its own `operator[]` calls insert included. -/
theorem buildDetector_isOk_iff {materials : List String} {worldLogInStore : Bool}
    {detector : Detector} :
    (∃ volumes, buildDetector materials worldLogInStore detector = .ok volumes) ↔
      worldLogInStore = true ∧
        (detector.model.implantSize.z > doubleEpsilon →
          detector.model.implantMaterial ∈ materials.insert "world_material") ∧
        ∀ layer ∈ detector.model.supportLayers, layer.material ∈ materialsAfter materials := by
  rw [← buildImplants_isOk_iff, ← buildSupports_isOk_iff]
  simp only [buildDetector_eq_ok]
  constructor
  · rintro ⟨_, hw, i, s, ss, hi, hs, -⟩; exact ⟨hw, ⟨_, hi⟩, ⟨_, hs⟩⟩
  · rintro ⟨hw, ⟨⟨i, s⟩, hi⟩, ⟨ss, hs⟩⟩; exact ⟨_, hw, i, s, ss, hi, hs, rfl⟩

theorem build_cons_isOk_iff {materials : List String} {worldLogInStore : Bool}
    {detector : Detector} {detectors : List Detector} :
    (∃ volumes, build materials worldLogInStore (detector :: detectors) = .ok volumes) ↔
      (∃ volumes, buildDetector materials worldLogInStore detector = .ok volumes) ∧
        ∃ volumes, build (materialsAfter materials) worldLogInStore detectors = .ok volumes := by
  simp only [build, bind_eq_ok, pure_eq_ok]
  constructor
  · rintro ⟨_, v, hv, vs, hvs, -⟩; exact ⟨⟨v, hv⟩, vs, hvs⟩
  · rintro ⟨⟨v, hv⟩, vs, hvs⟩; exact ⟨_, v, hv, vs, hvs, rfl⟩

/-- From the second detector on, every detector sees the same keys. -/
theorem build_materialsAfter_isOk_iff {materials : List String} {worldLogInStore : Bool}
    {detectors : List Detector} :
    (∃ volumes, build (materialsAfter materials) worldLogInStore detectors = .ok volumes) ↔
      ∀ detector ∈ detectors,
        ∃ volumes, buildDetector (materialsAfter materials) worldLogInStore detector = .ok volumes := by
  induction detectors with
  | nil => exact ⟨fun _ _ h => absurd h (List.not_mem_nil _), fun _ => ⟨[], rfl⟩⟩
  | cons detector detectors ih =>
    rw [build_cons_isOk_iff, materialsAfter_materialsAfter, ih, List.forall_mem_cons]

/-- **The sensor keeps its implants' volume.**  Whenever `build` places a detector whose
implants have a non-negligible depth, it places the implants' union and the whole sensor box at
the same position: every point inside both the sensor box and an implant box is inside both
placed volumes. -/
theorem buildDetector_sensor_overlaps_implants {materials : List String}
    {worldLogInStore : Bool} {detector : Detector} {volumes : DetectorVolumes}
    (h : buildDetector materials worldLogInStore detector = .ok volumes)
    (hdepth : doubleEpsilon < detector.model.implantSize.z) :
    ∃ sensor ∈ volumes.daughters, ∃ implants ∈ volumes.daughters,
      sensor.name = "sensor_" ++ detector.name ++ "_phys" ∧
      implants.name = "implants_" ++ detector.name ++ "_phys" ∧
      sensor.position = implants.position ∧
      ∀ v, (boxOfSize detector.model.getSensorSize).inside v = kInside →
        (∃ n ∈ implantNodes detector.model, n.1.inside (v - n.2) = kInside) →
        sensor.inside (sensor.position + v) = kInside ∧
          implants.inside (sensor.position + v) = kInside := by
  obtain ⟨-, implantsPhys, sensorSolid, supportsPhys, hi, -, rfl⟩ := buildDetector_eq_ok.1 h
  obtain ⟨-, rfl, -⟩ := (buildImplants_cases hi).resolve_right fun h => h.1 hdepth
  dsimp only
  refine ⟨_, .tail _ (.head _), _, .head _, rfl, rfl, rfl, fun v hs hn => ⟨?_, ?_⟩⟩
  · simpa [Placement.inside, Solid.inside] using hs
  · simpa [Placement.inside, Solid.inside, multiUnionInside_eq_kInside] using hn


/-! ### A sensor with pixel-sized implants -/

/-- A header of one pixel of pitch 2 whose implant fills the pixel and half the sensor's
depth, the sensor extending 2 beyond the grid on `+x` only. -/
def offsetSensorReader : ConfigReader :=
  ⟨⟨"", [("number_of_pixels", [.num 1, .num 1]), ("pixel_size", [.num 2, .num 2]),
    ("sensor_thickness", [.num 1]), ("sensor_excess_right", [.num 2]),
    ("implant_size", [.num 2, .num 2, .num (1 / 2)])]⟩, []⟩

/-- The model the constructor reads from `offsetSensorReader`. -/
def offsetSensorModel : DetectorModel :=
  { type := "offset", reader := offsetSensorReader, nPixels := ⟨1, 1⟩, pixelSize := ⟨2, 2⟩,
    sensorThickness := 1, sensorExcessTop := 0, sensorExcessBottom := 0,
    sensorExcessLeft := 0, sensorExcessRight := 2, implantSize := ⟨2, 2, 1 / 2⟩,
    implantMaterial := "aluminum", implantOffset := ⟨0, 0⟩, chipThickness := 0,
    supportLayers := [] }

theorem construct_offsetSensorReader :
    construct "offset" offsetSensorReader = .ok offsetSensorModel := by
  simp [List.mapM.loop, construct, offsetSensorReader, offsetSensorModel, readImplantSize, throwIf,
    Configuration.get, Configuration.getD, Configuration.has, ConfigReader.getConfigurationsNamed,
    fromString, bind, Except.bind, pure, Except.pure, tryCatch, tryCatchThe,
    MonadExceptOf.tryCatch, Except.tryCatch, Atom.toNat?, List.lookup_cons]
  norm_num

theorem offsetSensorModel_wellFormed : offsetSensorModel.WellFormed :=
  ⟨⟨le_refl _, le_refl _, by norm_num [offsetSensorModel], by norm_num [offsetSensorModel],
    by norm_num [offsetSensorModel]⟩, by simp [offsetSensorModel]⟩

/-- The detector `dut` of model `offsetSensorModel`, at the origin and not rotated. -/
def offsetSensorDetector : Detector :=
  ⟨"dut", offsetSensorModel, 0, ⟨⟨1, 0, 0⟩, ⟨0, 1, 0⟩, ⟨0, 0, 1⟩⟩⟩

/-- `build` places `offsetSensorDetector`, and a point `1/4` above the sensor's mid-plane lies
inside both its sensor and its implants. -/
theorem offsetSensorDetector_sensor_meets_implants :
    ∃ volumes, buildDetector ["aluminum"] true offsetSensorDetector = .ok volumes ∧
      ∃ sensor ∈ volumes.daughters, ∃ implants ∈ volumes.daughters,
        sensor.name = "sensor_dut_phys" ∧ implants.name = "implants_dut_phys" ∧
        ∃ p, sensor.inside p = kInside ∧ implants.inside p = kInside := by
  have hdepth : offsetSensorModel.implantSize.z > doubleEpsilon := by
    norm_num [doubleEpsilon, offsetSensorModel]
  obtain ⟨⟨implantsPhys, sensorSolid⟩, himplants⟩ :
      ∃ r, buildImplants (["aluminum"].insert "world_material") "dut" offsetSensorModel = .ok r :=
    ⟨_, buildImplants_eq_ok.2 (by rw [if_pos hdepth]; exact ⟨by decide, rfl⟩)⟩
  have h : buildDetector ["aluminum"] true offsetSensorDetector = _ :=
    buildDetector_eq_ok.2 ⟨rfl, implantsPhys, sensorSolid, [], himplants, rfl, rfl⟩
  obtain ⟨sensor, hs, implants, hi, hsn, hin, -, hboth⟩ :=
    buildDetector_sensor_overlaps_implants h hdepth
  refine ⟨_, h, sensor, hs, implants, hi, hsn, hin, _, hboth ⟨0, 0, 1 / 4⟩ ?_ ?_⟩
  · norm_num [Box.inside_eq_kInside, boxOfSize, offsetSensorDetector, offsetSensorModel,
      getSensorSize, getGridSize, abs_lt]
  · refine ⟨_, List.mem_singleton_self _, ?_⟩
    norm_num [Box.inside_eq_kInside, boxOfSize, implantTransform, offsetSensorDetector,
      offsetSensorModel, getSensorSize, getGridSize]


end Allpix
