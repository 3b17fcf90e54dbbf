import Mp157.Camera.CameraToScreen
import Mp157.Camera.TableConversion
import Mp157.Camera.Brightness
import Mp157.Camera.SetupGuarantee
import Mp157.Camera.Stride
import Mp157.Picture.Bmp
import Mp157.Picture.StrictReading
import Mp157.Picture.Acceptance
import Mp157.Picture.Padding
import Mp157.Picture.ViewerScreens
import Mp157.Drm.Lookup
import Mp157.Pipeline.Display
import Mp157.Pipeline.MessageLoss
import Mp157.Pipeline.Overtaking
import Mp157.Pipeline.Latency
import Mp157.Pipeline.MemorySafety
import Mp157.Program.StartupRuns
import Mp157.Program.Teardown
import Mp157.Program.DeviceFailure
import Mp157.Program.Freshness
import Mp157.Program.WorkerNumber
