import CsyncOwncloud.Errno
import CsyncOwncloud.Transport

/-! The adapter's entry points, each a function of the platform, the neon oracle and the
process it runs in. The process holds the module's globals (`dav_session`, `_connected`,
`_fs`) and `errno`, the handles the adapter allocated, the local files, the server's state,
the neon calls made so far with the session each was handed, and whether the code has done
something undefined. -/

namespace Owncloud

structure DavSession where
  ctx : SessionPtr
  user : Option Bytes
  pwd : Option Bytes
  deriving DecidableEq, Repr

/-- `struct transfer_context` without `bytes_written`, which nothing reads; `req` stands for
the pending PUT by its path. -/
structure TransferContext where
  req : Option Bytes
  fd : Int
  tmpFileName : Option Bytes
  method : Bytes
  deriving DecidableEq, Repr

/-- What a `csync_vio_method_handle_t *` points to. -/
inductive Handle
  | dir (ctx : ListdirContext)
  | transfer (ctx : TransferContext)
  deriving DecidableEq, Repr

structure World (σ : Type) where
  session : DavSession
  connected : Bool
  fs : FileStat
  errno : Int
  heap : Nat → Option Handle
  nextPtr : Nat
  disk : LocalFs
  server : σ
  calls : List (NeCall × SessionPtr)
  ub : Bool

/-- The open flags `_open` tests. -/
structure OpenFlags where
  wronly : Bool
  rdwr : Bool
  creat : Bool
  deriving DecidableEq, Repr

/-- `PATH_MAX` of `<limits.h>` on Linux. -/
def pathMax : Nat := 4096

/-- The URL `_open` prints with `snprintf (getUrl, PATH_MAX, "%s://%s%s", ...)`, cut to fit. -/
def getUrl (scheme hostport uri : Bytes) : Bytes :=
  (scheme ++ cstr "://" ++ hostport ++ uri).take (pathMax - 1)

/-- The split of `dav_connect`: the user before the first colon, the password after it. -/
def splitUserinfo (ui : Bytes) : Option (Bytes × Bytes) :=
  if colon ∈ ui then some (ui.takeWhile (· ≠ colon), (ui.dropWhile (· ≠ colon)).drop 1) else none

theorem splitUserinfo_subset {ui user pwd : Bytes} (h : splitUserinfo ui = some (user, pwd)) :
    (∀ c ∈ user, c ∈ ui) ∧ ∀ c ∈ pwd, c ∈ ui := by
  unfold splitUserinfo at h
  split_ifs at h
  cases h
  exact ⟨fun c hc => (List.takeWhile_prefix _).subset hc,
    fun c hc => (List.dropWhile_suffix _).subset (List.mem_of_mem_drop hc)⟩

def neUriDefaultport (scheme : Bytes) : Int :=
  if scheme = cstr "http" then 80 else if scheme = cstr "https" then 443 else 0

def cacheHit (fs : FileStat) (name : Bytes) : Bool :=
  match fs.name with
  | some n => strcmp name n = 0
  | none => false

namespace World

variable {σ : Type}

/-- The process before any call: no session, nothing cached, no handles. -/
def init (disk : LocalFs) (server : σ) : World σ :=
  { session := ⟨.null, none, none⟩, connected := false, fs := .zero, errno := 0,
    heap := fun _ => none, nextPtr := 1, disk := disk, server := server, calls := [],
    ub := false }

/-- A neon call handed the session the adapter holds; handing it a NULL or destroyed session
is undefined. -/
def logCall (w : World σ) (c : NeCall) : World σ :=
  { w with calls := w.calls ++ [(c, w.session.ctx)], ub := w.ub || w.session.ctx != .live }

/-- Handing neon a NULL path is undefined. -/
def usePath (w : World σ) (p : Option Bytes) : World σ := { w with ub := w.ub || p.isNone }

def alloc (w : World σ) (h : Handle) : Nat × World σ :=
  (w.nextPtr, { w with heap := Function.update w.heap w.nextPtr (some h), nextPtr := w.nextPtr + 1 })

def setHandle (w : World σ) (p : Nat) (h : Option Handle) : World σ :=
  { w with heap := Function.update w.heap p h }

section
variable (w : World σ) (c : NeCall) (q : Option Bytes) (h : Handle) (p : Nat) (o : Option Handle)

@[simp] theorem logCall_connected : (w.logCall c).connected = w.connected := rfl
@[simp] theorem logCall_session : (w.logCall c).session = w.session := rfl
@[simp] theorem logCall_fs : (w.logCall c).fs = w.fs := rfl
@[simp] theorem logCall_errno : (w.logCall c).errno = w.errno := rfl
@[simp] theorem logCall_calls : (w.logCall c).calls = w.calls ++ [(c, w.session.ctx)] := rfl
@[simp] theorem usePath_connected : (w.usePath q).connected = w.connected := rfl
@[simp] theorem usePath_session : (w.usePath q).session = w.session := rfl
@[simp] theorem usePath_fs : (w.usePath q).fs = w.fs := rfl
@[simp] theorem usePath_errno : (w.usePath q).errno = w.errno := rfl
@[simp] theorem usePath_calls : (w.usePath q).calls = w.calls := rfl
@[simp] theorem alloc_connected : (w.alloc h).2.connected = w.connected := rfl
@[simp] theorem alloc_session : (w.alloc h).2.session = w.session := rfl
@[simp] theorem alloc_fs : (w.alloc h).2.fs = w.fs := rfl
@[simp] theorem setHandle_connected : (w.setHandle p o).connected = w.connected := rfl
@[simp] theorem setHandle_session : (w.setHandle p o).session = w.session := rfl
@[simp] theorem setHandle_fs : (w.setHandle p o).fs = w.fs := rfl
@[simp] theorem logCall_disk : (w.logCall c).disk = w.disk := rfl
@[simp] theorem logCall_server : (w.logCall c).server = w.server := rfl
@[simp] theorem usePath_server : (w.usePath q).server = w.server := rfl
@[simp] theorem logCall_heap : (w.logCall c).heap = w.heap := rfl
@[simp] theorem logCall_nextPtr : (w.logCall c).nextPtr = w.nextPtr := rfl
@[simp] theorem usePath_disk : (w.usePath q).disk = w.disk := rfl
@[simp] theorem usePath_heap : (w.usePath q).heap = w.heap := rfl
@[simp] theorem usePath_nextPtr : (w.usePath q).nextPtr = w.nextPtr := rfl
@[simp] theorem alloc_disk : (w.alloc h).2.disk = w.disk := rfl
@[simp] theorem alloc_heap : (w.alloc h).2.heap = Function.update w.heap w.nextPtr (some h) := rfl
@[simp] theorem alloc_nextPtr : (w.alloc h).2.nextPtr = w.nextPtr + 1 := rfl
@[simp] theorem setHandle_disk : (w.setHandle p o).disk = w.disk := rfl
@[simp] theorem setHandle_heap : (w.setHandle p o).heap = Function.update w.heap p o := rfl
@[simp] theorem setHandle_nextPtr : (w.setHandle p o).nextPtr = w.nextPtr := rfl

end

end World

section
variable {σ : Type} (P : Platform) (N : Neon σ)

/-- `dav_connect`. A URL without a scheme or host, or the `ownclouds` scheme, which leaves
`protocol` unset, makes it undefined. -/
def davConnect (baseUrl : Bytes) (w : World σ) : Int × World σ :=
  if w.connected then (0, w) else
  match neUriParse baseUrl with
  | none => (-1, w)
  | some uri =>
    let protocol : Option Bytes :=
      if uri.scheme = some (cstr "owncloud") then some (cstr "http")
      else if uri.scheme ≠ some (cstr "ownclouds") then some (cstr "https") else none
    let ub := w.ub || uri.scheme.isNone || protocol.isNone || uri.host.isNone
    let session := match uri.userinfo.bind splitUserinfo with
      | some (u, p) => { w.session with user := some u, pwd := some p }
      | none => w.session
    let port := if uri.port = 0 then neUriDefaultport (protocol.getD []) else uri.port
    if N.sockInit w.server < 0 then (-1, { w with session := session, ub := ub })
    else if N.sessionCreate w.server (protocol.getD []) (uri.host.getD []) port then
      (0, { w with session := { session with ctx := .live }, connected := true, ub := ub })
    else (-1, { w with session := { session with ctx := .null }, ub := ub })

theorem davConnect_eq (baseUrl : Bytes) (w : World σ) :
    ∃ s c u, (davConnect N baseUrl w).2 = { w with session := s, connected := c, ub := u } := by
  unfold davConnect
  split
  · exact ⟨_, _, _, rfl⟩
  · split
    · exact ⟨_, _, _, rfl⟩
    · dsimp only
      by_cases h1 : N.sockInit w.server < 0
      · rw [if_pos h1]; exact ⟨_, _, _, rfl⟩
      · rw [if_neg h1]
        generalize N.sessionCreate _ _ _ _ = c
        cases c <;> exact ⟨_, _, _, rfl⟩

theorem davConnect_credentials (b : Bytes) {w : World σ} (hw : w.connected = false) {uri : NeUri}
    (hu : neUriParse b = some uri) {user pwd : Bytes}
    (hs : uri.userinfo.bind splitUserinfo = some (user, pwd)) :
    (davConnect N b w).2.session.user = some user ∧ (davConnect N b w).2.session.pwd = some pwd := by
  unfold davConnect
  rw [if_neg (by simp [hw])]
  simp only [hu, hs]
  by_cases h1 : N.sockInit w.server < 0
  · rw [if_pos h1]; exact ⟨rfl, rfl⟩
  · rw [if_neg h1]
    generalize N.sessionCreate _ _ _ _ = c
    cases c <;> exact ⟨rfl, rfl⟩

@[simp] theorem davConnect_fs (b : Bytes) (w : World σ) : (davConnect N b w).2.fs = w.fs := by
  obtain ⟨_, _, _, h⟩ := davConnect_eq N b w; rw [h]

@[simp] theorem davConnect_errno (b : Bytes) (w : World σ) : (davConnect N b w).2.errno = w.errno := by
  obtain ⟨_, _, _, h⟩ := davConnect_eq N b w; rw [h]

@[simp] theorem davConnect_heap (b : Bytes) (w : World σ) : (davConnect N b w).2.heap = w.heap := by
  obtain ⟨_, _, _, h⟩ := davConnect_eq N b w; rw [h]

@[simp] theorem davConnect_disk (b : Bytes) (w : World σ) : (davConnect N b w).2.disk = w.disk := by
  obtain ⟨_, _, _, h⟩ := davConnect_eq N b w; rw [h]

@[simp] theorem davConnect_nextPtr (b : Bytes) (w : World σ) :
    (davConnect N b w).2.nextPtr = w.nextPtr := by
  obtain ⟨_, _, _, h⟩ := davConnect_eq N b w; rw [h]

@[simp] theorem davConnect_calls (b : Bytes) (w : World σ) : (davConnect N b w).2.calls = w.calls := by
  obtain ⟨_, _, _, h⟩ := davConnect_eq N b w; rw [h]

@[simp] theorem davConnect_server (b : Bytes) (w : World σ) :
    (davConnect N b w).2.server = w.server := by
  obtain ⟨_, _, _, h⟩ := davConnect_eq N b w; rw [h]

/-- `ne_session_error_errno` on the adapter's session. -/
def sessionErrno (w : World σ) : Int × World σ :=
  (sessionErrorErrno (N.getError w.server), w.logCall .getError)

@[simp] theorem sessionErrno_snd (w : World σ) : (sessionErrno N w).2 = w.logCall .getError := rfl

/-- The network path of `_stat`: a depth-1 PropFind of the URI as given, with the target
included, and the first record of the listing. The caller's `buf` is destroyed when the
PropFind fails. -/
def statNetwork (uri : Bytes) (buf : FileStat) (w : World σ) : Int × Option FileStat × World σ :=
  let w := w.logCall .simplePropfind
  let r := N.simplePropfind w.server uri
  match listing P (.init (cleanPath uri) true) r.2 with
  | none => (0, some buf, { w with ub := true })
  | some ctx =>
    if r.1 ≠ neOk then (-1, none, { w with errno := neErrorToErrno r.1 })
    else match ctx.list.head? with
      | none => (0, some buf, w)
      | some res =>
        let lfs := resourceToFileStat res
        (0, some { buf with fields := lfs.fields, type := lfs.type, mtime := lfs.mtime,
                            size := lfs.size, mode := statPerms lfs.type }, w)

/-- `_stat` (the later of the file's two definitions): `_fs` answers when its name equals the
base name of the URI, else the network path does. -/
def stat (uri : Bytes) (buf : FileStat) (w : World σ) : Int × Option FileStat × World σ :=
  let buf := { buf with name := some (cBasename uri) }
  if cacheHit w.fs (cBasename uri) then
    (0, some { buf with fields := w.fs.fields, type := w.fs.type, mtime := w.fs.mtime,
                        size := w.fs.size, mode := statPerms w.fs.type }, w)
  else statNetwork P N uri buf w

/-- `_opendir`: connect (its result unused), then a depth-1 PropFind of the cleaned path
without the target; the handle's cursor starts at the head of the listing. -/
def opendir (uri : Bytes) (w : World σ) : Option Nat × World σ :=
  let curi := cleanPath uri
  let w := (davConnect N uri w).2
  let w := (w.logCall .simplePropfind).usePath curi
  let r := N.simplePropfind w.server (curi.getD [])
  match listing P (.init curi false) r.2 with
  | none => (none, { w with ub := true })
  | some ctx =>
    if r.1 ≠ neOk then
      let e := sessionErrno N w
      (none, { e.2 with errno := e.1 })
    else
      let a := w.alloc (.dir { ctx with currResource := ctx.list })
      (some a.1, a.2)

/-- `_readdir`: the record at the cursor, which moves on; the record is copied into `_fs`. -/
def readdir (h : Nat) (w : World σ) : Option FileStat × World σ :=
  match w.heap h with
  | some (.dir ctx) =>
    match ctx.currResource with
    | [] => (none, w)
    | res :: rest =>
      let lfs := resourceToFileStat res
      (some lfs, { w.setHandle h (some (.dir { ctx with currResource := rest })) with
        fs := { w.fs with name := lfs.name, mtime := lfs.mtime, fields := lfs.fields,
                          type := lfs.type, size := lfs.size } })
  | _ => (none, { w with ub := true })

def closedir (h : Nat) (w : World σ) : Int × World σ :=
  match w.heap h with
  | some (.dir _) => (0, w.setHandle h none)
  | _ => (0, { w with ub := true })

/-- The body `_mkdir` and `_rmdir` share: connect, then one request on the cleaned path,
whose failure is translated into `errno`. -/
def connectThenRequest (call : NeCall) (request : σ → Bytes → Int × σ) (uri : Bytes)
    (w : World σ) : Int × World σ :=
  let path := cleanPath uri
  let c := davConnect N uri w
  let w := if c.1 < 0 then { c.2 with errno := einval } else c.2
  if c.1 < 0 then (-1, w) else
    let w := (w.logCall call).usePath path
    let r := request w.server (path.getD [])
    let w := { w with server := r.2 }
    if r.1 ≠ neOk then (-1, { w with errno := neErrorToErrno r.1 }) else (0, w)

/-- `_mkdir`: an MKCOL. -/
def mkdir (uri : Bytes) (w : World σ) : Int × World σ := connectThenRequest N .mkcol N.mkcol uri w

/-- `_rmdir`: a DELETE. -/
def rmdir (uri : Bytes) (w : World σ) : Int × World σ := connectThenRequest N .delete N.delete uri w

/-- `_rename`: a MOVE with overwrite; on failure the session's error is read and dropped. -/
def rename (olduri newuri : Bytes) (w : World σ) : Int × World σ :=
  let c := davConnect N olduri w
  let w := if c.1 < 0 then { c.2 with errno := einval } else c.2
  let src := cleanPath olduri
  let target := cleanPath newuri
  if c.1 < 0 then (-1, w) else
    let w := ((w.logCall .move).usePath src).usePath target
    let r := N.move w.server (src.getD []) (target.getD [])
    let w := { w with server := r.2 }
    if r.1 ≠ neOk then (-1, { (sessionErrno N w).2 with errno := neErrorToErrno r.1 }) else (0, w)

/-- `_unlink`: the DELETE's failure sets `errno`, and the call answers 0 regardless. -/
def unlink (uri : Bytes) (w : World σ) : Int × World σ :=
  match cleanPath uri with
  | none => (0, { w with errno := einval })
  | some path =>
    let d := davConnect N uri w
    let w := if d.1 < 0 then { d.2 with errno := einval } else d.2
    if d.1 = neOk then
      let w := w.logCall .delete
      let r := N.delete w.server path
      let w := { w with server := r.2 }
      (0, if r.1 ≠ neOk then { w with errno := neErrorToErrno r.1 } else w)
    else (0, w)

/-- `_utimes`: a PROPPATCH of `lastmodified` to the seconds of `times`, which may be NULL. -/
def utimes (uri : Bytes) (times : Option Int) (w : World σ) : Int × World σ :=
  let curi := cleanPath uri
  match times with
  | none => (-1, { w with errno := 1 })
  | some sec =>
    let w := (w.logCall .proppatch).usePath curi
    let r := N.proppatch w.server (curi.getD []) (cstr (toString sec))
    let w := { w with server := r.2 }
    if r.1 ≠ neOk then (-1, { w with errno := neErrorToErrno r.1 }) else (0, w)

/-- The part of `_open` after the parent check: the temporary file, then either the PUT begun
on it, or the whole GET downloaded into it and its descriptor closed. `ne_get` fails when
the body cannot be written, and so does `_open` when the `close` fails. On failure the
context is freed and `NULL` returned; the result of `ne_error_to_errno` is dropped. -/
def openTransfer (uri : Option Bytes) (put : Bool) (w : World σ) : Option Nat × World σ :=
  match uri with
  | none => (none, w)
  | some u =>
    let m := w.disk.mkstemp
    let ctx : TransferContext := ⟨none, m.1, some m.2.1, []⟩
    let w := { w with disk := m.2.2 }
    if m.1 = -1 then (none, w)
    else if put then
      let w := w.logCall .requestCreate
      let r := N.beginRequest w.server u
      let w := { w with server := r.2 }
      if r.1 ≠ neOk then (none, w)
      else
        let a := w.alloc (.transfer { ctx with req := some u, method := cstr "PUT" })
        (some a.1, a.2)
    else
      let url := getUrl (N.scheme w.server) (N.hostport w.server) u
      let w := w.logCall .get
      let g := N.get w.server url
      let wr := w.disk.writeAll m.1 g.2
      let c := wr.2.close m.1
      let w := { w with disk := c.2 }
      if c.1 = -1 ∨ wr.1 < 0 ∨ g.1 ≠ neOk then (none, w)
      else
        let a := w.alloc (.transfer { ctx with fd := -1, method := cstr "GET" })
        (some a.1, a.2)

/-- `_open`: a write handle first needs `_stat` of the parent to succeed. `_open` hands that
`_stat` its own `struct stat` on the stack, and a failing `_stat` destroys the buffer it is
given: `free` of a stack address, which is undefined, before `_open` sets `ENOENT`. -/
def openFile (durl : Bytes) (flags : OpenFlags) (w : World σ) : Option Nat × World σ :=
  let uri := cleanPath durl
  let w := if uri.isSome then (davConnect N durl w).2 else w
  let put := flags.wronly || flags.rdwr || flags.creat
  if uri.isSome ∧ put then
    let s := stat P N (cDirname durl) .zero w
    if s.1 ≠ 0 then (none, { s.2.2 with errno := enoent, ub := true }) else openTransfer N uri put s.2.2
  else openTransfer N uri put w

/-- `_write`: appended to the temporary file while its descriptor is valid. -/
def write (h : Option Nat) (data : Bytes) (w : World σ) : Int × World σ :=
  match h with
  | none => (-1, w)
  | some p =>
    match w.heap p with
    | some (.transfer ctx) =>
      if ctx.fd > -1 then
        let r := w.disk.write ctx.fd data
        (r.1, { w with disk := r.2 })
      else (0, w)
    | _ => (-1, { w with ub := true })

/-- `_creat`: `_open` for writing, then a write of nothing. -/
def creat (durl : Bytes) (w : World σ) : Option Nat × World σ :=
  let o := openFile P N durl ⟨true, false, true⟩ w
  (o.1, (write o.1 [] o.2).2)

/-- `_read`: the downloaded file is opened on first use; the read itself is skipped while the
descriptor is 0. -/
def read (h : Nat) (count : Nat) (w : World σ) : Int × Bytes × World σ :=
  match w.heap h with
  | some (.transfer ctx) =>
    let o : Int × LocalFs :=
      if ctx.fd = -1 then w.disk.openRead (ctx.tmpFileName.getD []) else (ctx.fd, w.disk)
    let w := { w.setHandle h (some (.transfer { ctx with fd := o.1 })) with disk := o.2 }
    if ctx.fd = -1 ∧ o.1 < 0 then (-1, [], w)
    else if o.1 ≠ 0 then
      let r := w.disk.read o.1 count
      (r.1, r.2.1, { w with disk := r.2.2 })
    else (0, [], w)
  | _ => (-1, [], { w with ub := true })

/-- The PUT branch of `_close`: the temporary file is closed, reopened for reading and sent
as the body of the pending request. A final status outside 2xx is only logged. -/
def closePut (ctx : TransferContext) (w : World σ) : Int × World σ :=
  if ctx.fd > -1 then
    let c := w.disk.close ctx.fd
    let ret : Int := if c.1 < 0 then -1 else 0
    let o := c.2.openRead (ctx.tmpFileName.getD [])
    let w := { w with disk := o.2 }
    if o.1 < 0 then (-1, w)
    else
      let body := w.disk.contents o.1
      let w := w.logCall .requestDispatch
      let r := N.requestDispatch w.server (ctx.req.getD []) body
      let w := { w with server := r.2.2, disk := (w.disk.close o.1).2 }
      if r.1 = neOk then (ret, w) else (-1, (sessionErrno N w).2)
  else (0, w)

/-- `_close`: the PUT branch, or the GET handle's descriptor closed; either way the temporary
file is unlinked and the handle freed. -/
def close (h : Nat) (w : World σ) : Int × World σ :=
  match w.heap h with
  | some (.transfer ctx) =>
    let c : Int × World σ :=
      if ctx.method = cstr "PUT" then closePut N ctx w
      else (0, if ctx.fd > -1 then { w with disk := (w.disk.close ctx.fd).2 } else w)
    (c.1, { c.2.setHandle h none with disk := (c.2.disk.unlink (ctx.tmpFileName.getD [])).2 })
  | _ => (-1, { w with ub := true })

/-- `vio_module_shutdown`: the credentials are freed and the session destroyed, while
`_connected` stays set. -/
def shutdown (w : World σ) : World σ :=
  let w := w.logCall .sessionDestroy
  { w with session := ⟨if w.session.ctx = .live then .freed else w.session.ctx, none, none⟩ }

end

end Owncloud
