import CsyncOwncloud.Run

/-! A WebDAV server for the adapter to talk to: collections and files under decoded paths. It
stores each PUT body at its request path and serves it on GET, lists a collection and its
children on PropFind, and answers neon's calls as neon reports them: the simple requests
fail on a status outside 2xx, while a dispatched request answers its status class. -/

namespace Owncloud

structure DavServer where
  dirs : List Bytes
  files : List (Bytes × Bytes)
  deriving DecidableEq, Repr

namespace DavServer

/-- The decoded path a request target names: the path of the URI, without trailing slashes. -/
def resolve (target : Bytes) : Option Bytes :=
  ((neUriParse target).bind fun u => nePathUnescape u.path).map dropTrailingSlashes

def parent (p : Bytes) : Bytes := dropTrailingSlashes ((p.reverse.dropWhile (· ≠ slash)).reverse)

def under (p q : Bytes) : Bool := q = p || (p ++ [slash]).isPrefixOf q

def exists_ (s : DavServer) (p : Bytes) : Bool := p ∈ s.dirs || (s.files.lookup p).isSome

def fileEntry (f : Bytes × Bytes) : PropEntry :=
  ⟨nePathEscape f.1, none, some (cstr (toString f.2.length)), none⟩

def dirEntry (p : Bytes) : PropEntry := ⟨nePathEscape p ++ [slash], none, none, some collectionType⟩

/-- A depth-1 PropFind: the resource itself, then for a collection its children. -/
def propfind (s : DavServer) (target : Bytes) : Int × List PropEntry :=
  match resolve target with
  | none => (neError, [])
  | some p =>
    if p ∈ s.dirs then
      (neOk, dirEntry p :: (s.dirs.filter fun d => parent d = p && d ≠ p).map dirEntry ++
        (s.files.filter fun f => parent f.1 = p).map fileEntry)
    else match s.files.lookup p with
      | some c => (neOk, [fileEntry (p, c)])
      | none => (neError, [])

/-- A PUT: the body replaces the file, when the parent collection exists. -/
def put (s : DavServer) (target body : Bytes) : Bool × DavServer :=
  match resolve target with
  | some p =>
    if parent p ∈ s.dirs ∧ p ∉ s.dirs then
      (true, { s with files := (p, body) :: s.files.filter (·.1 ≠ p) })
    else (false, s)
  | none => (false, s)

def get (s : DavServer) (target : Bytes) : Int × Bytes :=
  match (resolve target).bind s.files.lookup with
  | some c => (neOk, c)
  | none => (neError, [])

def mkcol (s : DavServer) (target : Bytes) : Int × DavServer :=
  match resolve target with
  | some p =>
    if parent p ∈ s.dirs ∧ !s.exists_ p then (neOk, { s with dirs := p :: s.dirs })
    else (neError, s)
  | none => (neError, s)

def delete (s : DavServer) (target : Bytes) : Int × DavServer :=
  match resolve target with
  | some p =>
    if s.exists_ p then
      (neOk, ⟨s.dirs.filter (!under p ·), s.files.filter (!under p ·.1)⟩)
    else (neError, s)
  | none => (neError, s)

/-- A MOVE with overwrite: everything under the source moves under the destination. -/
def move (s : DavServer) (src dst : Bytes) : Int × DavServer :=
  match resolve src, resolve dst with
  | some p, some q =>
    if s.exists_ p ∧ parent q ∈ s.dirs then
      let re (x : Bytes) : Bytes := if under p x then q ++ x.drop p.length else x
      let t := (s.delete dst).2
      (neOk, ⟨(t.dirs.filter (!under p ·)) ++ (s.dirs.filter (under p ·)).map re,
        (t.files.filter (!under p ·.1)) ++ (s.files.filter (under p ·.1)).map fun f => (re f.1, f.2)⟩)
    else (neError, s)
  | _, _ => (neError, s)

/-- The server as neon reports it: the session error text of a failure is `404`. -/
def neon : Neon DavServer where
  sockInit _ := 0
  sessionCreate _ _ _ _ := true
  simplePropfind := propfind
  getError _ := cstr "404 Not Found"
  mkcol := mkcol
  delete := delete
  move := move
  proppatch s t _ := (if (resolve t).any s.exists_ then neOk else neError, s)
  beginRequest s t := (neOk, (s.put t []).2)
  requestDispatch s t b := let r := s.put t b; (neOk, if r.1 then 2 else 4, r.2)
  get := get
  scheme _ := cstr "http"
  hostport _ := cstr "h"

end DavServer

/-- A 64-bit build with `strtoull`; the runs below send no dates to parse. -/
def sampleBuild : Platform := ⟨⟨true, true⟩, fun _ => 0⟩

/-- A process whose descriptors 0, 1 and 2 are open, with no files yet. -/
def stdDisk : LocalFs := ⟨fun _ => none, [(0, ⟨[], 0, false⟩), (1, ⟨[], 0, true⟩), (2, ⟨[], 0, true⟩)], 0, []⟩

/-- Two collections holding files of one name and different sizes. -/
def twinServer : DavServer :=
  ⟨[[], cstr "/d1", cstr "/d2"], [(cstr "/d1/x", cstr "hello"), (cstr "/d2/x", cstr "bye!!!!")]⟩

end Owncloud
