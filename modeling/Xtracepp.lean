import Xtracepp.Library.Outcome
import Xtracepp.Library.Window
import Xtracepp.Library.Runs
import Xtracepp.Library.Ledger
import Xtracepp.Library.Framing
import Xtracepp.Library.SortedMap
import Xtracepp.Library.Pattern
import Xtracepp.Library.Altered
import Xtracepp.BufferFifo
import Xtracepp.Tidy
import Xtracepp.Streams
import Xtracepp.Subcommand
import Xtracepp.PollTable
import Xtracepp.Shutdown
import Xtracepp.Restoration
import Xtracepp.SocketFiles
import Xtracepp.ListParsing
import Xtracepp.PolyText
import Xtracepp.Prequeue
import Xtracepp.Formatting
import Xtracepp.FormattingOrder
import Xtracepp.ValueList
import Xtracepp.Dispatch
import Xtracepp.ExtensionNames
import Xtracepp.CountedLists
import Xtracepp.AtomPrefetch
import Xtracepp.AddressSelection
import Xtracepp.Authentication
import Xtracepp.AuthorityCopy
import Xtracepp.RequestProgress
import Xtracepp.SetupStatus
import Xtracepp.Chunking
import Xtracepp.Registry
import Xtracepp.PollLoop
import Xtracepp.Screening
import Xtracepp.CoreRequests
import Xtracepp.ReplyTable
import Xtracepp.ResponseFunctions
import Xtracepp.RequestLengths
import Xtracepp.Resolution
