import AllpixGeometry.Vector
import AllpixGeometry.Config
import AllpixGeometry.DetectorModel
import AllpixGeometry.Construct
import AllpixGeometry.SupportLayers
import AllpixGeometry.Size
import AllpixGeometry.Solid
import AllpixGeometry.Build
import AllpixGeometry.Implants
import AllpixGeometry.Wrapper
import AllpixGeometry.Overlaps
