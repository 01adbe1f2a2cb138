import AllpixGeometry.Implants

/-!
# The volumes in a detector's wrapper

`build` places every volume of a detector in a wrapper box of size `getSize()`, at the element's
centre less `getGeometricalCenter()`.  Geant4 requires a daughter volume to lie inside its
mother.  This module proves that it does: `getSize` encloses every element about the
geometrical centre (in `x` and `y` with room to spare, being symmetric about `getCenter()`), so
the sensor, the chip and every support layer lie in the wrapper, and so do the implants, which
lie in the sensor box.  The wrapper itself is placed in the world turned by the detector's
orientation and moved so that the model's centre, not the wrapper's, lands on the detector's
position.  It also proves that a support layer's hole, twice as deep as the layer, cuts through
the whole layer.

## Main definitions

* `Detector.toGlobal`, `Detector.toLocal` — where the detector is meant to put its model.
* `DetectorVolumes.toWorld`, `DetectorVolumes.toWrapper` — the wrapper's placement in the world,
  and the navigator's map back.

## Main results

* `inside_wrapper_of_element` — an element of the envelope, placed in the wrapper, lies in it.
* `buildDetector_daughters_within_wrapper` — **every volume `build` places in a wrapper lies in
  the wrapper box.**
* `buildDetector_world_frame` — **the wrapper's placement puts every model point where the
  detector is meant to put it.**
* `buildSupport_hole_through` — a support layer has no material in its hole's footprint.

## References

`src/src/modules/GeometryBuilderGeant4/DetectorConstructionG4.cpp`, lines 79–300;
`src/src/core/geometry/DetectorModel.cpp`, lines 113–148.
-/

namespace Allpix

open EInside

namespace DetectorModel

/-! ### The wrapper encloses the envelope -/

/-- An interval `[c - s/2, c + s/2]` within `[lo, hi]` lies within `W / 2` of the midpoint of
`[lo, hi]` when `W` is at least `hi - lo`. -/
theorem within_midpoint {c s lo hi W : ℚ} (hu : c + s / 2 ≤ hi) (hl : lo ≤ c - s / 2)
    (hW : hi - lo ≤ W) : |c - (hi + lo) / 2 - 0| + s / 2 ≤ W / 2 := by
  rw [sub_zero, ← le_sub_iff_add_le, abs_le]
  constructor <;> linarith

theorem sub_le_two_mul_max (hi lo c : ℚ) : hi - lo ≤ 2 * max (hi - c) (c - lo) := by
  linarith [le_max_left (hi - c) (c - lo), le_max_right (hi - c) (c - lo)]

/-- **An element of the envelope, placed in the wrapper, lies in it.**  With finite faces, every
element's box, centred at its centre less `getGeometricalCenter()`, lies in the box of size
`getSize()`. -/
theorem inside_wrapper_of_element {m : DetectorModel} (hfin : m.FiniteFaces)
    {e : XYZVector × XYZVector} (he : e ∈ m.envelopeElements) {v : XYZVector}
    (h : (boxOfSize e.2).inside (v - (e.1 - m.getGeometricalCenter)) ≠ kOutside) :
    (boxOfSize m.getSize).inside v ≠ kOutside := by
  obtain ⟨hx, hy, hz⟩ := isExtent_envelopeCorners m hfin
  rw [← XYZVector.sub_zero v]
  refine Box.inside_ne_kOutside_of_within ?_ ?_ ?_ h <;>
    simp only [boxOfSize, getSize, getGeometricalCenter, XYZVector.sub_x, XYZVector.sub_y,
      XYZVector.sub_z, XYZVector.div_x, XYZVector.div_y, XYZVector.div_z, XYZVector.add_x,
      XYZVector.add_y, XYZVector.add_z, XYZVector.zero_x, XYZVector.zero_y, XYZVector.zero_z]
  · exact within_midpoint (hx.1.2 ⟨e, he, rfl⟩) (hx.2.2 ⟨e, he, rfl⟩) (sub_le_two_mul_max _ _ _)
  · exact within_midpoint (hy.1.2 ⟨e, he, rfl⟩) (hy.2.2 ⟨e, he, rfl⟩) (sub_le_two_mul_max _ _ _)
  · exact within_midpoint (hz.1.2 ⟨e, he, rfl⟩) (hz.2.2 ⟨e, he, rfl⟩) (by linarith)

end DetectorModel

/-! ### Every volume lies in its wrapper -/

open DetectorModel

theorem mem_envelopeElements_sensor (m : DetectorModel) :
    (m.getSensorCenter, m.getSensorSize) ∈ m.envelopeElements := List.mem_cons_self _ _

theorem mem_envelopeElements_chip (m : DetectorModel) :
    (m.getChipCenter, m.getChipSize) ∈ m.envelopeElements :=
  List.mem_cons_of_mem _ (List.mem_cons_self _ _)

theorem mem_envelopeElements_layer {m : DetectorModel} {layer : SupportLayer}
    (h : layer ∈ m.getSupportLayers) : (layer.center, layer.size) ∈ m.envelopeElements :=
  List.mem_cons_of_mem _ (List.mem_cons_of_mem _ (List.mem_map_of_mem _ h))

/-- A support layer's solid lies in its box. -/
theorem buildSupport_inside_box {materials : List String} {name : String} {model : DetectorModel}
    {idx : ℕ} {layer : SupportLayer} {placement : Placement}
    (h : buildSupport materials name model idx layer = .ok placement) {v : XYZVector}
    (hv : placement.inside v ≠ kOutside) :
    (boxOfSize layer.size).inside (v - (layer.center - model.getGeometricalCenter)) ≠ kOutside := by
  obtain ⟨-, rfl⟩ := buildSupport_eq_ok.1 h
  simp only [Placement.inside] at hv
  split_ifs at hv
  · exact Solid.inside_subtraction_ne_kOutside hv
  · exact hv

/-- **Every volume lies in its wrapper.**  For a model the constructor accepts, with finite faces
and opposite excesses that do not make the sensor narrower than the pixel grid, every volume
`build` places in a detector's wrapper — the implants, the sensor, the chip and every support
layer — lies in the wrapper box. -/
theorem buildDetector_daughters_within_wrapper {materials : List String}
    {worldLogInStore : Bool} {detector : Detector} {volumes : DetectorVolumes}
    (h : buildDetector materials worldLogInStore detector = .ok volumes)
    (hwf : detector.model.WellFormed) (hfin : detector.model.FiniteFaces)
    (hx : 0 ≤ detector.model.sensorExcessLeft + detector.model.sensorExcessRight)
    (hy : 0 ≤ detector.model.sensorExcessBottom + detector.model.sensorExcessTop) :
    ∀ placement ∈ volumes.daughters, ∀ v, placement.inside v ≠ kOutside →
      volumes.wrapper.logical.solid.inside v ≠ kOutside := by
  obtain ⟨-, implantsPhys, sensorSolid, supportsPhys, hi, hs, rfl⟩ := buildDetector_eq_ok.1 h
  set m := detector.model
  have hsensor : ∀ v, (boxOfSize m.getSensorSize).inside
      (v - (m.getSensorCenter - m.getGeometricalCenter)) ≠ kOutside →
        (boxOfSize m.getSize).inside v ≠ kOutside :=
    fun v => inside_wrapper_of_element hfin (mem_envelopeElements_sensor m)
  intro placement hmem v hv
  simp only [Solid.inside]
  simp only [List.mem_append, List.mem_cons] at hmem
  rcases hmem with (hmem | rfl | hmem) | hmem
  · -- the implants lie in the sensor box
    obtain ⟨-, rfl, -⟩ | ⟨-, rfl, -⟩ := buildImplants_cases hi
    · obtain rfl := List.mem_singleton.1 hmem
      obtain ⟨n, hn, hnv⟩ := multiUnionInside_ne_kOutside.1 hv
      rw [implantNodes_eq_map_pixels, List.mem_map] at hn
      obtain ⟨⟨i, j⟩, hij, rfl⟩ := hn
      obtain ⟨hi', hj'⟩ := (mem_pixels m).1 hij
      exact hsensor v (by simpa using implant_within_sensor m hwf hi' hj' hx hy hnv)
    · simp at hmem
  · exact hsensor v hv
  · obtain rfl := mem_buildChip hmem
    exact inside_wrapper_of_element hfin (mem_envelopeElements_chip m) hv
  · obtain ⟨⟨idx, layer⟩, hlayer, hsupport⟩ :=
      exists_mem_of_forall₂ (mapM_eq_ok.1 hs) placement hmem
    exact inside_wrapper_of_element hfin
      (mem_envelopeElements_layer (List.snd_mem_of_mem_enum hlayer))
      (buildSupport_inside_box hsupport hv)

theorem offsetSensorDetector_within_wrapper :
    ∃ volumes, buildDetector ["aluminum"] true offsetSensorDetector = .ok volumes ∧
      offsetSensorDetector.model.WellFormed ∧ offsetSensorDetector.model.FiniteFaces ∧
      0 ≤ offsetSensorDetector.model.sensorExcessLeft +
        offsetSensorDetector.model.sensorExcessRight ∧
      0 ≤ offsetSensorDetector.model.sensorExcessBottom +
        offsetSensorDetector.model.sensorExcessTop ∧
      ∀ placement ∈ volumes.daughters, ∀ v, placement.inside v ≠ kOutside →
        volumes.wrapper.logical.solid.inside v ≠ kOutside := by
  obtain ⟨volumes, h⟩ : ∃ volumes, buildDetector ["aluminum"] true offsetSensorDetector = .ok volumes :=
    buildDetector_isOk_iff.2 ⟨rfl, fun _ => List.mem_insert_of_mem (List.mem_singleton_self _),
      by simp [offsetSensorDetector, offsetSensorModel]⟩
  have hfin : offsetSensorDetector.model.FiniteFaces := by
    norm_num [FiniteFaces, envelopeElements, faces, offsetSensorDetector, offsetSensorModel,
      getSupportLayers, getSensorCenter, getSensorSize, getChipCenter, getChipSize, getCenter,
      getGridSize, doubleLowest, doubleMax]
  have hx : (0 : ℚ) ≤ 0 + 2 := by norm_num
  have hy : (0 : ℚ) ≤ 0 + 0 := by norm_num
  exact ⟨volumes, h, offsetSensorModel_wellFormed, hfin, hx, hy,
    buildDetector_daughters_within_wrapper h offsetSensorModel_wellFormed hfin hx hy⟩

/-! ### The wrapper in the world -/

/-- Where the detector is meant to put the point `q` of its model's frame: the model centre at
the detector's position, the model turned by the detector's orientation. -/
def Detector.toGlobal (detector : Detector) (q : XYZVector) : XYZVector :=
  detector.position + detector.orientation.apply (q - detector.model.getCenter)

/-- The point of the model's frame that the detector is meant to put at the world point `w`. -/
def Detector.toLocal (detector : Detector) (w : XYZVector) : XYZVector :=
  detector.orientation.transpose.apply (w - detector.position) + detector.model.getCenter

/-- Where the point `u` of the wrapper is in the world: the `G4PVPlacement` of the transform
`(rotWrapper, posWrapper)` turns the wrapper by `rotWrapper` and moves it by `posWrapper`. -/
def DetectorVolumes.toWorld (volumes : DetectorVolumes) (u : XYZVector) : XYZVector :=
  volumes.rotation.apply u + volumes.wrapper.position

/-- The point of the wrapper at the world point `w`, as Geant4's navigator finds it: the
placement keeps the frame rotation `rotWrapper.inverse()`, the transpose. -/
def DetectorVolumes.toWrapper (volumes : DetectorVolumes) (w : XYZVector) : XYZVector :=
  volumes.rotation.transpose.apply (w - volumes.wrapper.position)

/-- The wrapper's placement in the world, as `build` computes it. -/
theorem buildDetector_wrapper {materials : List String} {worldLogInStore : Bool}
    {detector : Detector} {volumes : DetectorVolumes}
    (h : buildDetector materials worldLogInStore detector = .ok volumes) :
    volumes.rotation = detector.orientation ∧
      volumes.wrapper.position = detector.position -
        detector.orientation.apply (detector.model.getCenter - detector.model.getGeometricalCenter) := by
  obtain ⟨-, _, _, _, -, -, rfl⟩ := buildDetector_eq_ok.1 h
  exact ⟨rfl, rfl⟩

/-- **The wrapper puts the model where the detector is.**  For every detector `build` places, the
wrapper's placement takes the wrapper point `q - getGeometricalCenter()`, where the model point
`q` is placed, to the world point where the detector puts `q`: `posWrapper` makes up for the
wrapper being centred on the geometrical centre and not on `getCenter()`.  When the orientation
is orthogonal, Geant4's navigator takes every world point back to the wrapper point of the model
point the detector puts there, so every volume placed in the wrapper holds, in the world, the
points of the model it is placed for. -/
theorem buildDetector_world_frame {materials : List String} {worldLogInStore : Bool}
    {detector : Detector} {volumes : DetectorVolumes}
    (h : buildDetector materials worldLogInStore detector = .ok volumes)
    (hR : detector.orientation.IsOrthogonal) :
    (∀ q, volumes.toWorld (q - detector.model.getGeometricalCenter) = detector.toGlobal q) ∧
      ∀ w, volumes.toWrapper w = detector.toLocal w - detector.model.getGeometricalCenter := by
  obtain ⟨hrot, hpos⟩ := buildDetector_wrapper h
  set R := detector.orientation
  set g := detector.model.getGeometricalCenter
  refine ⟨fun q => ?_, fun w => ?_⟩
  · calc volumes.toWorld (q - g)
        = detector.position + (R.apply (q - g) - R.apply (detector.model.getCenter - g)) := by
          rw [DetectorVolumes.toWorld, hrot, hpos]; ext <;> simp <;> ring
      _ = detector.toGlobal q := by
          rw [← Rotation3D.apply_sub, Detector.toGlobal]; congr 2; ext <;> simp
  · calc volumes.toWrapper w
        = R.transpose.apply ((w - detector.position) + R.apply (detector.model.getCenter - g)) := by
          rw [DetectorVolumes.toWrapper, hrot, hpos]; congr 1; ext <;> simp <;> ring
      _ = R.transpose.apply (w - detector.position) + (detector.model.getCenter - g) := by
          rw [Rotation3D.apply_add, hR.transpose_apply_apply]
      _ = detector.toLocal w - g := by rw [Detector.toLocal]; ext <;> simp <;> ring

/-- `offsetSensorDetector` turned a quarter turn about `z` and moved along `x`. -/
def quarterTurnDetector : Detector :=
  ⟨"dut", offsetSensorModel, ⟨10, 0, 0⟩, ⟨⟨0, -1, 0⟩, ⟨1, 0, 0⟩, ⟨0, 0, 1⟩⟩⟩

theorem quarterTurnDetector_world_frame :
    ∃ volumes, buildDetector ["aluminum"] true quarterTurnDetector = .ok volumes ∧
      quarterTurnDetector.orientation.IsOrthogonal ∧
      (∀ q, volumes.toWorld (q - quarterTurnDetector.model.getGeometricalCenter) =
        quarterTurnDetector.toGlobal q) ∧
      ∀ w, volumes.toWrapper w =
        quarterTurnDetector.toLocal w - quarterTurnDetector.model.getGeometricalCenter := by
  obtain ⟨volumes, h⟩ : ∃ volumes, buildDetector ["aluminum"] true quarterTurnDetector = .ok volumes :=
    buildDetector_isOk_iff.2 ⟨rfl, fun _ => List.mem_insert_of_mem (List.mem_singleton_self _),
      by simp [quarterTurnDetector, offsetSensorModel]⟩
  have hR : quarterTurnDetector.orientation.IsOrthogonal := by
    simp [quarterTurnDetector, Rotation3D.IsOrthogonal, Rotation3D.mul, Rotation3D.transpose,
      Rotation3D.apply, Rotation3D.identity, XYZVector.dot]
  exact ⟨volumes, h, hR, buildDetector_world_frame h hR⟩

/-! ### Support holes -/

/-- **A support hole goes through its layer.**  For a model the constructor accepts, a support
layer with a hole and a positive thickness is built as a solid with no point in the hole's
footprint at any depth of the layer: the hole box is twice as deep as the layer. -/
theorem buildSupport_hole_through {type : String} {reader : ConfigReader} {m : DetectorModel}
    {materials : List String} {name : String} {idx : ℕ} {layer : SupportLayer}
    {placement : Placement} (hm : construct type reader = .ok m)
    (hlayer : layer ∈ m.getSupportLayers)
    (h : buildSupport materials name m idx layer = .ok placement) (hhole : layer.hasHole)
    (ht : 0 < layer.size.z) (v : XYZVector)
    (hvx : |v.x - layer.holeOffset.x| < layer.holeSize.x / 2)
    (hvy : |v.y - layer.holeOffset.y| < layer.holeSize.y / 2) (hvz : |v.z| ≤ layer.size.z / 2) :
    placement.logical.solid.inside v = kOutside := by
  obtain ⟨l, hl, he⟩ := mem_stackLayers_center hlayer
  have hdepth : layer.holeSize.z = layer.size.z :=
    (congrArg (·.holeSize.z) he).trans ((holeSize_z_of_construct hm l hl).trans
      (congrArg (·.size.z) he).symm)
  obtain ⟨-, rfl⟩ := buildSupport_eq_ok.1 h
  simp only [if_pos hhole]
  apply Solid.inside_subtraction_of_kInside
  simp only [Solid.inside, Box.inside_eq_kInside, SupportLayer.getHoleCenter,
    XYZVector.add_sub_cancel_left, XYZVector.sub_x, XYZVector.sub_y, XYZVector.sub_z, sub_zero,
    hdepth]
  exact ⟨hvx, hvy, by linarith⟩

/-- A one-pixel header and one `support` section, 4 by 4 and 1 thick, with a 1 by 1 hole. -/
def holeReader : ConfigReader :=
  ⟨⟨"", [("number_of_pixels", [.num 1, .num 1]), ("pixel_size", [.num 1, .num 1]),
    ("sensor_thickness", [.num 1])]⟩,
    [⟨"support", [("thickness", [.num 1]), ("size", [.num 4, .num 4]),
      ("hole_size", [.num 1, .num 1])]⟩]⟩

/-- The layer the constructor reads from `holeReader`'s `support` section. -/
def holeLayer : SupportLayer :=
  SupportLayer.ofConfig ⟨4, 4⟩ 1 ⟨0, 0, 0⟩ "g10" "chip" ⟨1, 1⟩ ⟨0, 0⟩

/-- The model the constructor reads from `holeReader`. -/
def holeModel : DetectorModel :=
  { type := "hole", reader := holeReader, nPixels := ⟨1, 1⟩, pixelSize := ⟨1, 1⟩,
    sensorThickness := 1, sensorExcessTop := 0, sensorExcessBottom := 0,
    sensorExcessLeft := 0, sensorExcessRight := 0, implantSize := ⟨1, 1, 0⟩,
    implantMaterial := "aluminum", implantOffset := ⟨0, 0⟩, chipThickness := 0,
    supportLayers := [holeLayer] }

theorem construct_holeReader : construct "hole" holeReader = .ok holeModel := by
  simp [List.mapM.loop, construct, holeReader, holeModel, holeLayer, readImplantSize,
    readSupportLayer, readSupportOffset, throwIf, Configuration.get, Configuration.getD,
    Configuration.has, ConfigReader.getConfigurationsNamed, fromString, bind, Except.bind, pure,
    Except.pure, tryCatch, tryCatchThe, MonadExceptOf.tryCatch, Except.tryCatch, throw, throwThe,
    MonadExceptOf.throw, lowercase, Atom.toNat?, List.lookup_cons]
  norm_num

theorem holeModel_hole_through :
    construct "hole" holeReader = .ok holeModel ∧
      ∃ layer ∈ holeModel.getSupportLayers, ∃ placement,
        buildSupport ["g10"] "dut" holeModel 0 layer = .ok placement ∧ layer.hasHole ∧
        0 < layer.size.z ∧
        |(0 : XYZVector).x - layer.holeOffset.x| < layer.holeSize.x / 2 ∧
        |(0 : XYZVector).y - layer.holeOffset.y| < layer.holeSize.y / 2 ∧
        |(0 : XYZVector).z| ≤ layer.size.z / 2 ∧
        placement.logical.solid.inside 0 = kOutside := by
  have hlayers : holeModel.getSupportLayers = [{ holeLayer with center := ⟨0, 0, 1⟩ }] := by
    simp [getSupportLayers, holeModel, holeLayer, SupportLayer.ofConfig, layerOffset,
      getCenter, getSensorSize, getChipSize, getGridSize, XYZVector.ext_iff]
    norm_num
  have hlayer : { holeLayer with center := ⟨0, 0, 1⟩ } ∈ holeModel.getSupportLayers :=
    hlayers ▸ List.mem_singleton_self _
  have hsupport : buildSupport ["g10"] "dut" holeModel 0 { holeLayer with center := ⟨0, 0, 1⟩ } =
      .ok _ := buildSupport_eq_ok.2 ⟨List.mem_singleton_self _, rfl⟩
  have hhole : SupportLayer.hasHole { holeLayer with center := ⟨0, 0, 1⟩ } := by
    simp [SupportLayer.hasHole, holeLayer, SupportLayer.ofConfig]
  have ht : (0 : ℚ) < 1 := one_pos
  have hv : |(0 : ℚ) - 0| < 1 / 2 := by norm_num
  have hz : |(0 : ℚ)| ≤ 1 / 2 := by norm_num
  exact ⟨construct_holeReader, _, hlayer, _, hsupport, hhole, ht, hv, hv, hz,
    buildSupport_hole_through construct_holeReader hlayer hsupport hhole ht 0 hv hv hz⟩

end Allpix
