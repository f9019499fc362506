import CsyncOwncloud.Server

/-! The stat cache `_fs`. Only `_readdir` writes it, so after any run it holds the last record
`_readdir` returned, and `_stat` answers from it whenever the base names agree, whatever
directory that record came from and whatever the server did since. -/

namespace Owncloud

/-- The record a call hands back, when it is a `_readdir` entry. -/
def Out.record : Out → Option FileStat
  | .entry e => e
  | .int _ | .handle _ | .stat _ _ | .data _ _ | .none => Option.none

/-- The last record `_readdir` returned in a run's answers. -/
def lastEntry (outs : List Out) : Option FileStat := (outs.filterMap Out.record).getLast?

theorem lastEntry_cons (o : Out) (outs : List Out) :
    lastEntry (o :: outs) = (lastEntry outs).or o.record := by
  unfold lastEntry
  cases h : o.record with
  | none => simp [List.filterMap_cons_none h]
  | some r =>
    rw [List.filterMap_cons_some h, List.getLast?_cons]
    cases (outs.filterMap Out.record).getLast? <;> rfl

section
variable {σ : Type} (P : Platform) (N : Neon σ)

theorem statNetwork_fs (u : Bytes) (buf : FileStat) (w : World σ) :
    (statNetwork P N u buf w).2.2.fs = w.fs := by
  unfold statNetwork
  dsimp only
  split
  · rfl
  · split_ifs
    · rfl
    · split <;> rfl

theorem stat_fs (u : Bytes) (buf : FileStat) (w : World σ) : (stat P N u buf w).2.2.fs = w.fs := by
  unfold stat
  split_ifs
  · rfl
  · exact statNetwork_fs P N _ _ _

theorem opendir_fs (u : Bytes) (w : World σ) : (opendir P N u w).2.fs = w.fs := by
  unfold opendir
  dsimp only
  split
  · simp
  · split_ifs <;> simp

theorem connectThenRequest_fs (call : NeCall) (request : σ → Bytes → Int × σ) (u : Bytes)
    (w : World σ) : (connectThenRequest N call request u w).2.fs = w.fs := by
  unfold connectThenRequest
  dsimp only
  split_ifs <;> simp

theorem rename_fs (u v : Bytes) (w : World σ) : (rename N u v w).2.fs = w.fs := by
  unfold rename
  dsimp only
  split_ifs <;> simp

theorem unlink_fs (u : Bytes) (w : World σ) : (unlink N u w).2.fs = w.fs := by
  unfold unlink
  split
  · rfl
  · dsimp only
    split_ifs <;> simp

theorem utimes_fs (u : Bytes) (t : Option Int) (w : World σ) : (utimes N u t w).2.fs = w.fs := by
  unfold utimes
  split
  · rfl
  · dsimp only; split_ifs <;> rfl

theorem openTransfer_fs (u : Option Bytes) (put : Bool) (w : World σ) :
    (openTransfer N u put w).2.fs = w.fs := by
  unfold openTransfer
  split
  · rfl
  · dsimp only
    split_ifs <;> rfl

theorem openFile_fs (u : Bytes) (f : OpenFlags) (w : World σ) :
    (openFile P N u f w).2.fs = w.fs := by
  unfold openFile
  dsimp only
  split_ifs <;> simp [stat_fs, openTransfer_fs]

theorem write_fs (h : Option Nat) (d : Bytes) (w : World σ) : (write h d w).2.fs = w.fs := by
  unfold write
  split
  · rfl
  · split
    · split_ifs <;> rfl
    · rfl

theorem read_fs (h n : Nat) (w : World σ) : (read h n w).2.2.fs = w.fs := by
  unfold read
  split
  · dsimp only; split_ifs <;> rfl
  · rfl

theorem closePut_fs (c : TransferContext) (w : World σ) : (closePut N c w).2.fs = w.fs := by
  unfold closePut
  dsimp only
  split_ifs <;> simp

theorem close_fs (h : Nat) (w : World σ) : (close N h w).2.fs = w.fs := by
  unfold close
  split
  · dsimp only; split_ifs <;> simp [closePut_fs]
  · rfl

theorem closedir_fs (h : Nat) (w : World σ) : (closedir h w).2.fs = w.fs := by
  unfold closedir; split <;> rfl

/-- `_readdir` copies the record it returns into `_fs`, all but the mode. -/
theorem readdir_fs (h : Nat) (w : World σ) :
    (readdir h w).2.fs = (((readdir h w).1).map fun lfs => { lfs with mode := w.fs.mode }).getD w.fs := by
  unfold readdir
  split
  · split <;> rfl
  · rfl

theorem exec_fs (w : World σ) (op : Op) :
    (exec P N w op).2.fs =
      (((exec P N w op).1.record).map fun lfs => { lfs with mode := w.fs.mode }).getD w.fs := by
  cases op
  case readdir h => exact readdir_fs h w
  all_goals simp only [exec, Out.record, Option.map_none', Option.getD_none]
  all_goals
    simp [openFile_fs, creat, write_fs, close_fs, read_fs, opendir_fs, closedir_fs, mkdir, rmdir,
      connectThenRequest_fs, stat_fs, rename_fs, unlink_fs, utimes_fs, shutdown]

theorem step_fs (w : World σ) (op : Op) :
    (step P N w op).2.fs =
      (((step P N w op).1.record).map fun lfs => { lfs with mode := w.fs.mode }).getD w.fs := by
  unfold step
  split
  · rfl
  · exact exec_fs P N w op

theorem step_fs_mode (w : World σ) (op : Op) : (step P N w op).2.fs.mode = w.fs.mode := by
  rw [step_fs]; cases (step P N w op).1.record <;> rfl

/-- After any run `_fs` is the last record `_readdir` returned, with the mode it started with. -/
theorem run_fs (ops : List Op) (w : World σ) :
    (run P N ops w).2.fs =
      ((lastEntry (run P N ops w).1).map fun lfs => { lfs with mode := w.fs.mode }).getD w.fs := by
  induction ops generalizing w with
  | nil => rfl
  | cons op ops ih =>
    simp only [run, lastEntry_cons]
    rw [ih, step_fs_mode]
    cases lastEntry (run P N ops (step P N w op).2).1 with
    | some lfs => rfl
    | none => exact step_fs P N w op

/-- Over every run from the start, `_stat` answers the last record `_readdir` returned whenever
that record's name is the base name of the URI, and asks the server otherwise. -/
theorem stat_answers_last_entry (disk : LocalFs) (server : σ) (ops : List Op) (u : Bytes) :
    let r := run P N ops (.init disk server)
    let buf : FileStat := { FileStat.zero with name := some (cBasename u) }
    stat P N u .zero r.2 =
      match lastEntry r.1 with
      | some lfs =>
        if lfs.name = some (cBasename u) then (0, some { lfs with mode := statPerms lfs.type }, r.2)
        else statNetwork P N u buf r.2
      | none => statNetwork P N u buf r.2 := by
  intro r buf
  have hfs : r.2.fs = ((lastEntry r.1).map fun lfs => { lfs with mode := 0 }).getD .zero :=
    run_fs P N ops (.init disk server)
  unfold stat
  rcases hl : lastEntry r.1 with _ | lfs <;> rw [hl] at hfs
  · simp [cacheHit, hfs, FileStat.zero, buf]
  · simp only [Option.map_some', Option.getD_some] at hfs
    rcases hn : lfs.name with _ | n
    · simp [cacheHit, hfs, hn, buf]
    · by_cases h : n = cBasename u
      · simp [cacheHit, hfs, hn, buf, h]
      · simp [cacheHit, hfs, hn, strcmp_eq_zero, Ne.symm h, h, buf]

end

/-- After a listing of `/d1`, `_stat` answers the listed `x` for `/d2/x`, whose size on the
server is 7, and for `/d1/x` after it was deleted, where the server's answer is a failure. -/
theorem stat_cache_answers_twin :
    let listed := [Op.opendir (cstr "owncloud://h/d1"), .readdir 1]
    let w := (run sampleBuild DavServer.neon listed (.init stdDisk twinServer)).2
    let w' := (run sampleBuild DavServer.neon (listed ++ [.unlink (cstr "owncloud://h/d1/x")])
      (.init stdDisk twinServer)).2
    (stat sampleBuild DavServer.neon (cstr "owncloud://h/d2/x") .zero w).2.1.map (·.size) = some 5 ∧
      (statNetwork sampleBuild DavServer.neon (cstr "owncloud://h/d2/x")
        { FileStat.zero with name := some (cstr "x") } w).2.1.map (·.size) = some 7 ∧
      (stat sampleBuild DavServer.neon (cstr "owncloud://h/d1/x") .zero w').1 = 0 ∧
      (stat sampleBuild DavServer.neon (cstr "owncloud://h/d1/x") .zero w').2.1.map (·.size) = some 5 ∧
      (statNetwork sampleBuild DavServer.neon (cstr "owncloud://h/d1/x")
        { FileStat.zero with name := some (cstr "x") } w').1 = -1 := by
  decide

end Owncloud
