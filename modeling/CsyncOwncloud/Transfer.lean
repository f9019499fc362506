import CsyncOwncloud.Session

/-! Two slips of the transfer handles, on runs from the process's start. A failing `_open`
frees its context and keeps the file it made with `mkstemp`; and `_read` skips reading while
the downloaded file's descriptor is 0, which is the descriptor the file reopens on whenever 0
is free. -/

namespace Owncloud

/-- A process whose descriptor 0 is closed. -/
def stdinClosedDisk : LocalFs := ⟨fun _ => none, [(1, ⟨[], 0, true⟩), (2, ⟨[], 0, true⟩)], 0, []⟩

theorem upload_reads_back_nothing_without_stdin :
    ∃ w, run sampleBuild DavServer.neon
        [.creat (cstr "owncloud://h/d1/f"), .write 1 (cstr "data"), .close 1,
          .openFile (cstr "owncloud://h/d1/f") ⟨false, false, false⟩, .read 2 4096]
        (.init stdinClosedDisk twinServer) =
        ([.handle (some 1), .int 4, .int 0, .handle (some 2), .data 0 []], w) ∧
      w.server.files.lookup (cstr "/d1/f") = some (cstr "data") :=
  ⟨_, Prod.ext (by decide) rfl, by decide⟩

theorem failed_download_leaves_temp :
    ∃ w, openFile sampleBuild DavServer.neon (cstr "owncloud://h/nope") ⟨false, false, false⟩
        (.init stdDisk twinServer) = (none, w) ∧
      w.disk.files (LocalFs.tmpName 0) = some [] ∧ w.ub = false :=
  ⟨_, Prod.ext (by decide) rfl, by decide, by decide⟩

end Owncloud
