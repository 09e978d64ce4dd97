import UsbIo16.ByteBuffer
import UsbIo16.HandleLedger
import UsbIo16.NodeChain
import UsbIo16.Traversal
import UsbIo16.CarriedReads
import UsbIo16.CharEncodings
import UsbIo16.CallPrograms
import UsbIo16.HandleTables
import UsbIo16.RaisingActions
import UsbIo16.LastWrites
import UsbIo16.Hiddata
import UsbIo16.IoInterface
import UsbIo16.LibusbBackend
import UsbIo16.MswinBackend
import UsbIo16.OsxBackend
import UsbIo16.PinCalls
import UsbIo16.DeviceList
import UsbIo16.EnumeratedDevices
import UsbIo16.Backends
import UsbIo16.ShortReports
import UsbIo16.ReportAddressing
import UsbIo16.DeviceVisits
import UsbIo16.StopRequests
import UsbIo16.EnumerationStatus
import UsbIo16.OwnAttributes
import UsbIo16.ManagerCount
import UsbIo16.ManagerExits
import UsbIo16.Ownership
import UsbIo16.ListSessions
import UsbIo16.BackendCustody
import UsbIo16.SingleList
import UsbIo16.LiveLists
import UsbIo16.SerialNumbers
import UsbIo16.NullHandles
import UsbIo16.IdealBoards
import UsbIo16.PinArray
import UsbIo16.PinReaders
import UsbIo16.NarrowStrings
import UsbIo16.StringGetters
import UsbIo16.ListedDevices
import UsbIo16.HeldList
import UsbIo16.CommandTests
import UsbIo16.ScriptTests
import UsbIo16.GuiDialog
import UsbIo16.PinHistory
import UsbIo16.WiredBoards
import UsbIo16.LoopbackTests
import UsbIo16.BoardDiscovery
import UsbIo16.BoardDirectory
import UsbIo16.DetailBuffers
import UsbIo16.BoardLinks
