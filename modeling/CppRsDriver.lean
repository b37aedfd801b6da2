import CppRsDriver.Future.Callbacks
import CppRsDriver.Future.Progress
import CppRsDriver.Logging.Logger
import CppRsDriver.Metadata.Iteration
import CppRsDriver.Result.ByName
import CppRsDriver.Result.Current
import CppRsDriver.Result.MetadataCache
import CppRsDriver.Result.OwnWrites
import CppRsDriver.Session.ConnectRequest
import CppRsDriver.Session.Paging
import CppRsDriver.Session.Profiles
import CppRsDriver.Session.Progress
import CppRsDriver.Session.Retry
import CppRsDriver.Session.Runtimes
import CppRsDriver.Statement.Batch
import CppRsDriver.Statement.Delivery
import CppRsDriver.Statement.Isolation
import CppRsDriver.Statement.NamesAlike
import CppRsDriver.Types.Accessors
import CppRsDriver.Types.DateTime
import CppRsDriver.Types.InBounds
import CppRsDriver.Types.MapAppends
import CppRsDriver.Types.ServerTypes
import CppRsDriver.Types.Symmetry
import CppRsDriver.Uuid.Milliseconds
import CppRsDriver.Wire.Unset
