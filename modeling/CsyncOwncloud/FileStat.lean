import CsyncOwncloud.Resource

/-! The stat records the adapter hands out: the record `results` builds from one PropFind
entry, `csync_vio_file_stat_t`, `resourceToFileStat` and `_stat_perms`. -/

namespace Owncloud

/-- What the adapter takes from its build and from neon's date parser. -/
structure Platform where
  config : Config
  httpdateParse : Bytes → Int

/-- One PropFind response entry as `results` receives it: the path of its href and the
values of the properties in `ls_props` the callback reads. -/
structure PropEntry where
  path : Bytes
  getlastmodified : Option Bytes
  getcontentlength : Option Bytes
  resourcetype : Option Bytes
  deriving DecidableEq, Repr

def collectionType : Bytes := cstr "<DAV:collection>"

/-- The test of `results`: no content length, and a resource type starting
`<DAV:collection>`. -/
def isCollection (e : PropEntry) : Bool :=
  e.getcontentlength.isNone &&
    match e.resourcetype with
    | some t => decide (strncmp t collectionType 16 = 0)
    | none => false

/-- The content length as `results` parses it: `DAV_STRTOL`, and 0 when bytes are left. -/
def parseContentLength (cfg : Config) (clength : Bytes) : UInt64 :=
  let r := davStrtol cfg clength
  if r.2 ≠ [] then 0 else r.1

/-- The record `results` fills in for an entry. `c_malloc` hands out zeroed memory, so an
absent length or date leaves 0. -/
def newResource (P : Platform) (e : PropEntry) : Resource :=
  let path := nePathUnescape e.path
  { uri := path
    name := cBasename (path.getD [])
    type := if isCollection e then .collection else .normal
    size := (e.getcontentlength.map (parseContentLength P.config)).getD 0
    modtime := (e.getlastmodified.map P.httpdateParse).getD 0 }

inductive FileType
  | unknown
  | regular
  | directory
  deriving DecidableEq, Repr

/-- The flags of `fields` the module sets or reads. -/
structure StatFields where
  type : Bool
  permissions : Bool
  size : Bool
  mtime : Bool
  deriving DecidableEq, Repr

/-- The fields of `csync_vio_file_stat_t` the module writes or reads. -/
structure FileStat where
  name : Option Bytes
  fields : StatFields
  type : FileType
  mtime : Int
  size : Int
  mode : Nat
  deriving DecidableEq, Repr

/-- A `dav_size_t` stored into the record's 64-bit `off_t`. -/
def toOffT (v : UInt64) : Int := if v.toNat < 2 ^ 63 then v.toNat else v.toNat - 2 ^ 64

def fileType : ResourceType → FileType
  | .normal => .regular
  | .collection => .directory
  | _ => .unknown

/-- `resourceToFileStat` for a non-NULL resource; its callers make the NULL check. The record
comes from `c_malloc`, so its mode is 0 and the type of a reference or an error stays
unknown. -/
def resourceToFileStat (res : Resource) : FileStat :=
  { name := some res.name
    fields := ⟨res.type = .normal || res.type = .collection, false, true, true⟩
    type := fileType res.type
    mtime := res.modtime
    size := toOffT res.size
    mode := 0 }

/-- A zeroed `csync_vio_file_stat_t`, as the static `_fs` starts. -/
def FileStat.zero : FileStat := ⟨none, ⟨false, false, false, false⟩, .unknown, 0, 0, 0⟩

/-- `_stat_perms`: the directory mode, or the regular-file mode. -/
def statPerms (type : FileType) : Nat := if type = .directory then 0o40755 else 0o100644

end Owncloud
