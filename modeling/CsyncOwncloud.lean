import CsyncOwncloud.CString
import CsyncOwncloud.Strtol
import CsyncOwncloud.Uri
import CsyncOwncloud.Errno
import CsyncOwncloud.Resource
import CsyncOwncloud.FileStat
import CsyncOwncloud.Listing
import CsyncOwncloud.Transport
import CsyncOwncloud.Adapter
import CsyncOwncloud.Run
import CsyncOwncloud.Server
import CsyncOwncloud.StatCache
import CsyncOwncloud.Catalog
import CsyncOwncloud.Cursor
import CsyncOwncloud.Errors
import CsyncOwncloud.EntryRecord
import CsyncOwncloud.Session
import CsyncOwncloud.Transfer
import CsyncOwncloud.Auth
import CsyncOwncloud.Handles
import CsyncOwncloud.Lifecycle
import CsyncOwncloud.Safety
import CsyncOwncloud.Cleanup
