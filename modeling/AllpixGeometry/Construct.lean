import AllpixGeometry.DetectorModel
import Mathlib.Data.List.Forall2

/-!
# The detector model constructor

`DetectorModel::DetectorModel(type, reader)` reads the header section, validates the implant
against the pixel cell and the sensor, and reads one support layer per `support` section.  It
is all-or-nothing: the first `ConfigurationError` ends it and no model is returned.

The one error it catches is the failure of the three-dimensional `implant_size` read, which
falls back to a two-dimensional read with the pixel size as default.

## Main definitions

* `readImplantSize` — the `try`/`catch` around the implant size.
* `readSupportLayer` — one iteration of the support loop.
* `construct` — the constructor.
* `Accepted` — the configurations the constructor accepts, stated key by key.
* `WellFormed` — what every constructed model satisfies.

## Main results

* `readImplantSize_eq_ok` — the fallback computes the spec's resolution and swallows nothing else.
* `construct_spec` — the constructor succeeds exactly on accepted configurations, and what it
  returns is well formed with one support layer per `support` section.

## References

`src/src/core/geometry/DetectorModel.cpp`, lines 16–91.
-/

namespace Allpix

namespace DetectorModel

/-- The three locations a support layer may have. -/
def supportLocations : List String := ["sensor", "chip", "absolute"]

/-- The implant size: a three-dimensional `implant_size`, or, when that read throws, a flat
two-dimensional one defaulting to the full pixel. -/
def readImplantSize (config : Configuration) (pixelSize : XYVector) :
    Except ConfigurationError XYZVector :=
  tryCatch (config.get "implant_size") fun _ => do
    let implantArea : XYVector ← config.getD "implant_size" pixelSize
    pure ⟨implantArea.x, implantArea.y, 0⟩

/-- The offset of a support layer: an explicit three-dimensional offset for an `absolute` layer,
otherwise an in-plane offset defaulting to zero, at `z = 0`. -/
def readSupportOffset (supportConfig : Configuration) (location : String) :
    Except ConfigurationError XYZVector :=
  if location = "absolute" then supportConfig.get "offset"
  else (fun xyOffset : XYVector => ⟨xyOffset.x, xyOffset.y, 0⟩) <$>
    supportConfig.getD "offset" ⟨0, 0⟩

/-- One iteration of the support loop: the layer a `support` section describes. -/
def readSupportLayer (supportConfig : Configuration) : Except ConfigurationError SupportLayer := do
  let thickness : ℚ ← supportConfig.get "thickness"
  let size : XYVector ← supportConfig.get "size"
  let location ← lowercase <$> supportConfig.getD "location" "chip"
  throwIf (location ≠ "sensor" ∧ location ≠ "chip" ∧ location ≠ "absolute")
    (.invalidValue "location" supportConfig.name
      "location of the support should be \x27chip\x27, \x27sensor\x27 or \x27absolute\x27")
  let offset ← readSupportOffset supportConfig location
  let material ← lowercase <$> supportConfig.getD "material" "g10"
  let holeSize ← supportConfig.getD "hole_size" ⟨0, 0⟩
  let holeOffset ← supportConfig.getD "hole_offset" ⟨0, 0⟩
  pure (SupportLayer.ofConfig size thickness offset material location holeSize holeOffset)

/-- `DetectorModel::DetectorModel(type, reader)`.  The depth check compares with
`getSensorSize().z()`, which is the sensor thickness read before it. -/
def construct (type : String) (reader : ConfigReader) : Except ConfigurationError DetectorModel := do
  let config := reader.header
  let nPixels : XYUIntVector ← config.get "number_of_pixels"
  let pixelSize : XYVector ← config.get "pixel_size"
  let sensorThickness : ℚ ← config.get "sensor_thickness"
  let defaultSensorExcess : ℚ ← config.getD "sensor_excess" 0
  let sensorExcessTop ← config.getD "sensor_excess_top" defaultSensorExcess
  let sensorExcessBottom ← config.getD "sensor_excess_bottom" defaultSensorExcess
  let sensorExcessLeft ← config.getD "sensor_excess_left" defaultSensorExcess
  let sensorExcessRight ← config.getD "sensor_excess_right" defaultSensorExcess
  let implantSize ← readImplantSize config pixelSize
  throwIf (implantSize.x > pixelSize.x ∨ implantSize.y > pixelSize.y)
    (.invalidValue "implant_size" config.name "implant size cannot be larger than pixel pitch")
  throwIf (implantSize.z > sensorThickness)
    (.invalidValue "implant_size" config.name "implant depth cannot be larger than sensor thickness")
  let implantMaterial ← config.getD "implant_material" "aluminum"
  let implantOffset : XYVector ← config.getD "implant_offset" ⟨0, 0⟩
  throwIf (|implantOffset.x| + implantSize.x / 2 > pixelSize.x / 2 ∨
      |implantOffset.y| + implantSize.y / 2 > pixelSize.y / 2)
    (.invalidValue "implant_offset" config.name
      "implant exceeds pixel cell. Reduce implant size or offset")
  let chipThickness ← config.getD "chip_thickness" 0
  let supportLayers ← (reader.getConfigurationsNamed "support").mapM readSupportLayer
  pure { type, reader, nPixels, pixelSize, sensorThickness, sensorExcessTop, sensorExcessBottom,
         sensorExcessLeft, sensorExcessRight, implantSize, implantMaterial, implantOffset,
         chipThickness, supportLayers }

/-! ### What each read computes -/

section Reads

variable {ε α β : Type}

/-- A list loop over `Except` succeeds exactly when every iteration does, and then it returns
one result per element, in order. -/
theorem mapM_eq_ok {f : α → Except ε β} :
    ∀ {as : List α} {bs : List β}, as.mapM f = .ok bs ↔ List.Forall₂ (fun a b => f a = .ok b) as bs
  | [], bs => by rw [List.mapM_nil]; simp [pure, Except.pure, eq_comm]
  | a :: as, bs => by
    simp only [List.mapM_cons, bind_eq_ok, pure_eq_ok, mapM_eq_ok, List.forall₂_cons_left_iff]
    constructor
    · rintro ⟨b, hb, bs', hbs, rfl⟩; exact ⟨b, bs', hb, hbs, rfl⟩
    · rintro ⟨b, bs', hb, hbs, rfl⟩; exact ⟨b, hb, bs', hbs, rfl⟩

theorem mapM_isOk_iff {f : α → Except ε β} {as : List α} :
    (∃ bs, as.mapM f = .ok bs) ↔ ∀ a ∈ as, ∃ b, f a = .ok b := by
  induction as with
  | nil => rw [List.mapM_nil]; simp [pure, Except.pure]
  | cons a as ih =>
    simp only [List.mapM_cons, bind_eq_ok, pure_eq_ok, List.forall_mem_cons, ← ih]
    constructor
    · rintro ⟨_, b, hb, bs, hbs, rfl⟩; exact ⟨⟨b, hb⟩, bs, hbs⟩
    · rintro ⟨⟨b, hb⟩, bs, hbs⟩; exact ⟨_, b, hb, bs, hbs, rfl⟩

end Reads

theorem mem_supportLocations {location : String} :
    location ∈ supportLocations ↔ location = "sensor" ∨ location = "chip" ∨ location = "absolute" := by
  simp [supportLocations]

/-- The implant size §4.1 describes: the value as a three-vector; failing that, as a two-vector
at depth zero; when the key is absent, the full pixel at depth zero. -/
def resolvedImplantSize (config : Configuration) (pixelSize : XYVector) : Option XYZVector :=
  match (config.value? "implant_size" : Option XYZVector) with
  | some implantSize => some implantSize
  | none => (config.valueD "implant_size" pixelSize).map fun area => ⟨area.x, area.y, 0⟩

/-- **The implant fallback resolves the size as §4.1 says, and swallows nothing else**: the
three-dimensional read's failure is the only error caught, and an `implant_size` that is neither
a three- nor a two-vector still throws. -/
theorem readImplantSize_eq_ok {config : Configuration} {pixelSize : XYVector} {size : XYZVector} :
    readImplantSize config pixelSize = .ok size ↔
      resolvedImplantSize config pixelSize = some size := by
  unfold readImplantSize resolvedImplantSize
  cases h : (config.value? "implant_size" : Option XYZVector) with
  | some s =>
    have : config.get "implant_size" = .ok s := Configuration.get_eq_ok.2 h
    simp [this, tryCatch, tryCatchThe, MonadExceptOf.tryCatch, Except.tryCatch]
  | none =>
    obtain ⟨e, he⟩ : ∃ e, config.get (α := XYZVector) "implant_size" = .error e := by
      cases hg : config.get (α := XYZVector) "implant_size" with
      | error e => exact ⟨e, rfl⟩
      | ok s => simp [Configuration.get_eq_ok.1 hg] at h
    simp only [tryCatch_eq_ok, he, reduceCtorEq, false_or, Except.error.injEq, exists_eq_left',
      bind_eq_ok, Configuration.getD_eq_ok, pure_eq_ok, Option.map_eq_some']

theorem readImplantSize_isOk_iff {config : Configuration} {pixelSize : XYVector} :
    (∃ size, readImplantSize config pixelSize = .ok size) ↔
      config.ReadableOrAbsent "implant_size" XYZVector ∨
        config.ReadableOrAbsent "implant_size" XYVector := by
  simp only [readImplantSize_eq_ok, resolvedImplantSize, Configuration.ReadableOrAbsent,
    Configuration.value?, Configuration.valueD]
  cases config.entries.lookup "implant_size" with
  | none => simp
  | some v =>
    cases h3 : (fromString v : Option XYZVector) <;> cases h2 : (fromString v : Option XYVector) <;>
      simp [h3, h2]

theorem readSupportOffset_isOk_iff {supportConfig : Configuration} {location : String} :
    (∃ offset, readSupportOffset supportConfig location = .ok offset) ↔
      (location = "absolute" → supportConfig.Readable "offset" XYZVector) ∧
        (location ≠ "absolute" → supportConfig.ReadableOrAbsent "offset" XYVector) := by
  unfold readSupportOffset
  by_cases h : location = "absolute"
  · simp only [h, ↓reduceIte, Configuration.get_eq_ok, Configuration.readable_iff]; simp
  · simp only [h, ↓reduceIte, map_eq_ok, Configuration.getD_eq_ok,
      Configuration.readableOrAbsent_iff (⟨0, 0⟩ : XYVector)]
    simp only [h, ne_eq, not_false_eq_true, forall_const, IsEmpty.forall_iff, true_and]
    exact ⟨fun ⟨_, a, ha, _⟩ => ⟨a, ha⟩, fun ⟨a, ha⟩ => ⟨_, a, ha, rfl⟩⟩


/-! ### One support section -/

/-- **What one iteration of the support loop does**: the values it reads, the location check it
passed, and the layer it appends. -/
theorem readSupportLayer_eq_ok {supportConfig : Configuration} {layer : SupportLayer} :
    readSupportLayer supportConfig = .ok layer ↔
      ∃ (thickness : ℚ) (size : XYVector) (location : String) (offset : XYZVector)
        (material : String) (holeSize holeOffset : XYVector),
        supportConfig.value? "thickness" = some thickness ∧
        supportConfig.value? "size" = some size ∧
        supportConfig.valueD "location" "chip" = some location ∧
        lowercase location ∈ supportLocations ∧
        readSupportOffset supportConfig (lowercase location) = .ok offset ∧
        supportConfig.valueD "material" "g10" = some material ∧
        supportConfig.valueD "hole_size" ⟨0, 0⟩ = some holeSize ∧
        supportConfig.valueD "hole_offset" ⟨0, 0⟩ = some holeOffset ∧
        layer = SupportLayer.ofConfig size thickness offset (lowercase material)
          (lowercase location) holeSize holeOffset := by
  simp only [readSupportLayer, bind_eq_ok, map_eq_ok, Configuration.get_eq_ok,
    Configuration.getD_eq_ok, throwIf_eq_ok, pure_eq_ok, mem_supportLocations]
  constructor
  · rintro ⟨t, ht, sz, hsz, _, ⟨loc, hloc, rfl⟩, -, hvalid, off, hoff, _, ⟨mat, hmat, rfl⟩, hs,
      hhs, ho, hho, rfl⟩
    exact ⟨t, sz, loc, off, mat, hs, ho, ht, hsz, hloc, by tauto, hoff, hmat, hhs, hho, rfl⟩
  · rintro ⟨t, sz, loc, off, mat, hs, ho, ht, hsz, hloc, hvalid, hoff, hmat, hhs, hho, rfl⟩
    exact ⟨t, ht, sz, hsz, _, ⟨loc, hloc, rfl⟩, (), by tauto, off, hoff, _, ⟨mat, hmat, rfl⟩, hs,
      hhs, ho, hho, rfl⟩

/-- What a `support` section needs for its layer to be read (§4.1): the thickness and size
present, every other key it reads absent or well shaped, a location that is one of the three
once every character is lower-cased by `Char.toLower` (so compared case-insensitively), and an
explicit three-dimensional offset for an `absolute` layer. -/
structure SupportAccepted (supportConfig : Configuration) : Prop where
  thickness : supportConfig.Readable "thickness" ℚ
  size : supportConfig.Readable "size" XYVector
  location : supportConfig.ReadableOrAbsent "location" String
  locationValid : ∀ location, supportConfig.valueD "location" "chip" = some location →
    String.mk (location.toList.map Char.toLower) ∈ supportLocations
  absoluteOffset : ∀ location, supportConfig.valueD "location" "chip" = some location →
    String.mk (location.toList.map Char.toLower) = "absolute" →
      supportConfig.Readable "offset" XYZVector
  planeOffset : ∀ location, supportConfig.valueD "location" "chip" = some location →
    String.mk (location.toList.map Char.toLower) ≠ "absolute" →
      supportConfig.ReadableOrAbsent "offset" XYVector
  material : supportConfig.ReadableOrAbsent "material" String
  holeSize : supportConfig.ReadableOrAbsent "hole_size" XYVector
  holeOffset : supportConfig.ReadableOrAbsent "hole_offset" XYVector

theorem readSupportLayer_isOk_iff {supportConfig : Configuration} :
    (∃ layer, readSupportLayer supportConfig = .ok layer) ↔ SupportAccepted supportConfig := by
  simp only [readSupportLayer_eq_ok]
  constructor
  · rintro ⟨_, t, sz, loc, off, mat, hs, ho, ht, hsz, hloc, hvalid, hoff, hmat, hhs, hho, -⟩
    have hoff' := readSupportOffset_isOk_iff.1 ⟨off, hoff⟩
    refine ⟨Configuration.readable_iff.2 ⟨t, ht⟩, Configuration.readable_iff.2 ⟨sz, hsz⟩,
      (Configuration.readableOrAbsent_iff "chip").2 ⟨loc, hloc⟩, ?_, ?_, ?_,
      (Configuration.readableOrAbsent_iff "g10").2 ⟨mat, hmat⟩,
      (Configuration.readableOrAbsent_iff _).2 ⟨hs, hhs⟩,
      (Configuration.readableOrAbsent_iff _).2 ⟨ho, hho⟩⟩ <;>
    · intro loc' hloc'
      obtain rfl : loc' = loc := Option.some_injective _ (hloc'.symm.trans hloc)
      first | exact hvalid | exact hoff'.1 | exact hoff'.2
  · intro h
    obtain ⟨t, ht⟩ := Configuration.readable_iff.1 h.thickness
    obtain ⟨sz, hsz⟩ := Configuration.readable_iff.1 h.size
    obtain ⟨loc, hloc⟩ := (Configuration.readableOrAbsent_iff "chip").1 h.location
    obtain ⟨off, hoff⟩ := readSupportOffset_isOk_iff.2
      ⟨h.absoluteOffset loc hloc, h.planeOffset loc hloc⟩
    obtain ⟨mat, hmat⟩ := (Configuration.readableOrAbsent_iff "g10").1 h.material
    obtain ⟨hs, hhs⟩ := (Configuration.readableOrAbsent_iff ⟨0, 0⟩).1 h.holeSize
    obtain ⟨ho, hho⟩ := (Configuration.readableOrAbsent_iff ⟨0, 0⟩).1 h.holeOffset
    exact ⟨_, t, sz, loc, off, mat, hs, ho, ht, hsz, hloc, h.locationValid loc hloc, hoff, hmat,
      hhs, hho, rfl⟩


/-! ### The constructor -/

/-- **What `construct` does, read off once**: the value of every key it reads, the implant
checks it passed, and the model it stores. -/
theorem construct_eq_ok {type : String} {reader : ConfigReader} {m : DetectorModel} :
    construct type reader = .ok m ↔
      ∃ nPixels, reader.header.value? "number_of_pixels" = some nPixels ∧
      ∃ pixelSize, reader.header.value? "pixel_size" = some pixelSize ∧
      ∃ sensorThickness, reader.header.value? "sensor_thickness" = some sensorThickness ∧
      ∃ excess, reader.header.valueD "sensor_excess" 0 = some excess ∧
      ∃ top, reader.header.valueD "sensor_excess_top" excess = some top ∧
      ∃ bottom, reader.header.valueD "sensor_excess_bottom" excess = some bottom ∧
      ∃ left, reader.header.valueD "sensor_excess_left" excess = some left ∧
      ∃ right, reader.header.valueD "sensor_excess_right" excess = some right ∧
      ∃ implantSize, resolvedImplantSize reader.header pixelSize = some implantSize ∧
      (implantSize.x ≤ pixelSize.x ∧ implantSize.y ≤ pixelSize.y) ∧
      implantSize.z ≤ sensorThickness ∧
      ∃ implantMaterial, reader.header.valueD "implant_material" "aluminum" = some implantMaterial ∧
      ∃ implantOffset, reader.header.valueD "implant_offset" ⟨0, 0⟩ = some implantOffset ∧
      (|implantOffset.x| + implantSize.x / 2 ≤ pixelSize.x / 2 ∧
        |implantOffset.y| + implantSize.y / 2 ≤ pixelSize.y / 2) ∧
      ∃ chipThickness, reader.header.valueD "chip_thickness" 0 = some chipThickness ∧
      ∃ supportLayers,
        (reader.getConfigurationsNamed "support").mapM readSupportLayer = .ok supportLayers ∧
      { type, reader, nPixels, pixelSize, sensorThickness, sensorExcessTop := top,
        sensorExcessBottom := bottom, sensorExcessLeft := left, sensorExcessRight := right,
        implantSize, implantMaterial, implantOffset, chipThickness, supportLayers } = m := by
  simp only [construct, bind_eq_ok, Configuration.get_eq_ok, Configuration.getD_eq_ok,
    readImplantSize_eq_ok, throwIf_eq_ok, pure_eq_ok, exists_const, gt_iff_lt, not_or, not_lt]

/-- The implant checks of the constructor, as the invariants of §3 state them: the implant is no
larger than the pixel pitch and the sensor thickness, and stays inside its pixel cell. -/
structure ImplantFits (pixelSize : XYVector) (sensorThickness : ℚ) (implantSize : XYZVector)
    (implantOffset : XYVector) : Prop where
  x_le : implantSize.x ≤ pixelSize.x
  y_le : implantSize.y ≤ pixelSize.y
  z_le : implantSize.z ≤ sensorThickness
  offset_x : |implantOffset.x| + implantSize.x / 2 ≤ pixelSize.x / 2
  offset_y : |implantOffset.y| + implantSize.y / 2 ≤ pixelSize.y / 2

/-- The header keys read as a scalar with a default. -/
def scalarKeys : List String :=
  ["sensor_excess", "sensor_excess_top", "sensor_excess_bottom", "sensor_excess_left",
    "sensor_excess_right", "chip_thickness"]

/-- The configurations the constructor accepts (§4.1, §7), one condition per cause of failure:
the required keys present, every key read absent or well shaped (`implant_size` a three- or a
two-vector), the implant fitting its cell and the sensor, and every `support` section accepted. -/
structure Accepted (reader : ConfigReader) : Prop where
  numberOfPixels : reader.header.Readable "number_of_pixels" XYUIntVector
  pixelSize : reader.header.Readable "pixel_size" XYVector
  sensorThickness : reader.header.Readable "sensor_thickness" ℚ
  scalars : ∀ key ∈ scalarKeys, reader.header.ReadableOrAbsent key ℚ
  implantSize : reader.header.ReadableOrAbsent "implant_size" XYZVector ∨
    reader.header.ReadableOrAbsent "implant_size" XYVector
  implantMaterial : reader.header.ReadableOrAbsent "implant_material" String
  implantOffset : reader.header.ReadableOrAbsent "implant_offset" XYVector
  implantFits : ∀ pixelSize sensorThickness implantSize implantOffset,
    reader.header.value? "pixel_size" = some pixelSize →
    reader.header.value? "sensor_thickness" = some sensorThickness →
    resolvedImplantSize reader.header pixelSize = some implantSize →
    reader.header.valueD "implant_offset" ⟨0, 0⟩ = some implantOffset →
    ImplantFits pixelSize sensorThickness implantSize implantOffset
  supports : ∀ supportConfig ∈ reader.getConfigurationsNamed "support",
    SupportAccepted supportConfig

theorem construct_isOk_of_accepted {type : String} {reader : ConfigReader}
    (h : Accepted reader) : ∃ m, construct type reader = .ok m := by
  have hscalar : ∀ key ∈ scalarKeys, ∀ d : ℚ, ∃ a, reader.header.valueD key d = some a :=
    fun key hkey d => (Configuration.readableOrAbsent_iff d).1 (h.scalars key hkey)
  obtain ⟨np, hnp⟩ := Configuration.readable_iff.1 h.numberOfPixels
  obtain ⟨px, hpx⟩ := Configuration.readable_iff.1 h.pixelSize
  obtain ⟨t, ht⟩ := Configuration.readable_iff.1 h.sensorThickness
  obtain ⟨d, hd⟩ := hscalar "sensor_excess" (by simp [scalarKeys]) 0
  obtain ⟨top, htop⟩ := hscalar "sensor_excess_top" (by simp [scalarKeys]) d
  obtain ⟨bot, hbot⟩ := hscalar "sensor_excess_bottom" (by simp [scalarKeys]) d
  obtain ⟨lft, hlft⟩ := hscalar "sensor_excess_left" (by simp [scalarKeys]) d
  obtain ⟨rgt, hrgt⟩ := hscalar "sensor_excess_right" (by simp [scalarKeys]) d
  obtain ⟨ct, hct⟩ := hscalar "chip_thickness" (by simp [scalarKeys]) 0
  obtain ⟨sz, hsz⟩ : ∃ sz, readImplantSize reader.header px = .ok sz :=
    readImplantSize_isOk_iff.2 h.implantSize
  obtain ⟨mat, hmat⟩ := (Configuration.readableOrAbsent_iff "aluminum").1 h.implantMaterial
  obtain ⟨off, hoff⟩ := (Configuration.readableOrAbsent_iff ⟨0, 0⟩).1 h.implantOffset
  obtain ⟨ls, hls⟩ := mapM_isOk_iff.2 fun s hs => readSupportLayer_isOk_iff.2 (h.supports s hs)
  have hfit := h.implantFits px t sz off hpx ht (readImplantSize_eq_ok.1 hsz) hoff
  exact ⟨_, construct_eq_ok.2 ⟨np, hnp, px, hpx, t, ht, d, hd, top, htop, bot, hbot, lft, hlft,
    rgt, hrgt, sz, readImplantSize_eq_ok.1 hsz, ⟨hfit.x_le, hfit.y_le⟩, hfit.z_le, mat, hmat, off,
    hoff, ⟨hfit.offset_x, hfit.offset_y⟩, ct, hct, ls, hls, rfl⟩⟩

theorem accepted_of_construct_eq_ok {type : String} {reader : ConfigReader} {m : DetectorModel}
    (h : construct type reader = .ok m) : Accepted reader := by
  obtain ⟨np, hnp, px, hpx, t, ht, d, hd, top, htop, bot, hbot, lft, hlft, rgt, hrgt, sz, hsz,
    ⟨hx, hy⟩, hz, mat, hmat, off, hoff, ⟨hox, hoy⟩, ct, hct, ls, hls, -⟩ := construct_eq_ok.1 h
  refine ⟨Configuration.readable_iff.2 ⟨np, hnp⟩, Configuration.readable_iff.2 ⟨px, hpx⟩,
    Configuration.readable_iff.2 ⟨t, ht⟩, ?_, readImplantSize_isOk_iff.1 ⟨sz,
      readImplantSize_eq_ok.2 hsz⟩, (Configuration.readableOrAbsent_iff _).2 ⟨mat, hmat⟩,
    (Configuration.readableOrAbsent_iff _).2 ⟨off, hoff⟩, ?_, fun s hs =>
      readSupportLayer_isOk_iff.1 (mapM_isOk_iff.1 ⟨ls, hls⟩ s hs)⟩
  · simp only [scalarKeys, List.mem_cons, List.mem_singleton, List.not_mem_nil, or_false]
    rintro key (rfl | rfl | rfl | rfl | rfl | rfl) <;>
      exact (Configuration.readableOrAbsent_iff _).2 ⟨_, by assumption⟩
  · intro px' t' sz' off' hpx' ht' hsz' hoff'
    obtain rfl : px' = px := Option.some_injective _ (hpx'.symm.trans hpx)
    obtain rfl : t' = t := Option.some_injective _ (ht'.symm.trans ht)
    obtain rfl : sz' = sz := Option.some_injective _ (hsz'.symm.trans hsz)
    obtain rfl : off' = off := Option.some_injective _ (hoff'.symm.trans hoff)
    exact ⟨hx, hy, hz, hox, hoy⟩


/-- The layer read from a `support` section: the declared size and thickness, and the location
and material with every character lower-cased by `Char.toLower`, the location one of the three
(§4.1). -/
def LayerRead (supportConfig : Configuration) (layer : SupportLayer) : Prop :=
  ∃ (thickness : ℚ) (size : XYVector) (location material : String),
    supportConfig.value? "thickness" = some thickness ∧
    supportConfig.value? "size" = some size ∧
    supportConfig.valueD "location" "chip" = some location ∧
    supportConfig.valueD "material" "g10" = some material ∧
    layer.size = ⟨size.x, size.y, thickness⟩ ∧
    layer.location.toList = location.toList.map Char.toLower ∧
    layer.location ∈ supportLocations ∧ layer.material.toList = material.toList.map Char.toLower

theorem layerRead_of_readSupportLayer {supportConfig : Configuration} {layer : SupportLayer}
    (h : readSupportLayer supportConfig = .ok layer) : LayerRead supportConfig layer := by
  obtain ⟨t, sz, loc, off, mat, hs, ho, ht, hsz, hloc, hvalid, -, hmat, -, -, rfl⟩ :=
    readSupportLayer_eq_ok.1 h
  exact ⟨t, sz, loc, mat, ht, hsz, hloc, hmat, rfl, rfl, hvalid, rfl⟩

/-- What the constructor guarantees of every model it returns (§3). -/
structure WellFormed (m : DetectorModel) : Prop where
  implant : ImplantFits m.pixelSize m.sensorThickness m.implantSize m.implantOffset
  location : ∀ layer ∈ m.supportLayers, layer.location ∈ supportLocations

theorem forall_mem_of_forall₂ {α β : Type} {R : α → β → Prop} {P : β → Prop}
    (hR : ∀ a b, R a b → P b) : ∀ {as : List α} {bs : List β}, List.Forall₂ R as bs → ∀ b ∈ bs, P b
  | _, _, .nil => by simp
  | _, _, .cons hab h => by
    simpa using ⟨hR _ _ hab, forall_mem_of_forall₂ hR h⟩

theorem exists_mem_of_forall₂ {α β : Type} {R : α → β → Prop} :
    ∀ {as : List α} {bs : List β}, List.Forall₂ R as bs → ∀ b ∈ bs, ∃ a ∈ as, R a b
  | _, _, .nil => by simp
  | _, _, .cons hab h => fun b hb => by
    rcases List.mem_cons.1 hb with rfl | hb
    · exact ⟨_, List.mem_cons_self _ _, hab⟩
    · obtain ⟨a, ha, hr⟩ := exists_mem_of_forall₂ h b hb
      exact ⟨a, List.mem_cons_of_mem _ ha, hr⟩

/-- What a model the constructor returns keeps of its reads: the implant checks, and one layer
read per `support` section. -/
theorem construct_reads {type : String} {reader : ConfigReader} {m : DetectorModel}
    (h : construct type reader = .ok m) :
    ImplantFits m.pixelSize m.sensorThickness m.implantSize m.implantOffset ∧
      List.Forall₂ (fun s l => readSupportLayer s = .ok l) (reader.getConfigurationsNamed "support")
        m.supportLayers := by
  obtain ⟨-, -, px, -, t, -, -, -, -, -, -, -, -, -, -, -, sz, -, ⟨hx, hy⟩, hz, -, -, off, -,
    ⟨hox, hoy⟩, -, -, ls, hls, rfl⟩ := construct_eq_ok.1 h
  exact ⟨⟨hx, hy, hz, hox, hoy⟩, mapM_eq_ok.1 hls⟩

/-- The constructor gives every hole the thickness of its layer. -/
theorem holeSize_z_of_construct {type : String} {reader : ConfigReader} {m : DetectorModel}
    (h : construct type reader = .ok m) : ∀ layer ∈ m.supportLayers, layer.holeSize.z = layer.size.z := by
  refine forall_mem_of_forall₂ (fun _ _ hl => ?_) (construct_reads h).2
  obtain ⟨-, -, -, -, -, -, -, -, -, -, -, -, -, -, -, rfl⟩ := readSupportLayer_eq_ok.1 hl
  rfl

theorem construct_wellFormed {type : String} {reader : ConfigReader} {m : DetectorModel}
    (h : construct type reader = .ok m) :
    m.WellFormed ∧ List.Forall₂ LayerRead (reader.getConfigurationsNamed "support") m.supportLayers := by
  obtain ⟨hfit, hreads⟩ := construct_reads h
  have hread := hreads.imp fun _ _ => layerRead_of_readSupportLayer
  refine ⟨⟨hfit, forall_mem_of_forall₂ ?_ hread⟩, hread⟩
  rintro s l ⟨-, -, -, -, -, -, -, -, -, -, hl, -⟩
  exact hl

/-- **The constructor is all-or-nothing, and its model is well formed.**  It succeeds exactly
on the accepted configurations — it throws exactly when a required key is missing, a key it
reads is ill-shaped, a location is invalid or an implant bound fails — and the model it returns
satisfies the implant invariants, with one layer per `support` section, in order, its location
and material lower-cased and the location one of `sensor`, `chip`, `absolute`. -/
theorem construct_spec (type : String) (reader : ConfigReader) :
    ((∃ m, construct type reader = .ok m) ↔ Accepted reader) ∧
      ∀ m, construct type reader = .ok m →
        m.WellFormed ∧
          List.Forall₂ LayerRead (reader.getConfigurationsNamed "support") m.supportLayers :=
  ⟨⟨fun ⟨_, h⟩ => accepted_of_construct_eq_ok h, construct_isOk_of_accepted⟩,
    fun _ => construct_wellFormed⟩


end DetectorModel

end Allpix
