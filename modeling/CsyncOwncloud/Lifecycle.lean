import CsyncOwncloud.Handles

/-! Every call of the adapter keeps `Sound`, so it holds after every run that stays defined:
the calls that do not touch the disk keep the transfer handles as they are, and `_open`,
`_write`, `_read` and `_close` each act only on the handle they are given. From it, `_close`
of an upload sends exactly the bytes written through the handle, in the order written,
whatever other calls came between; the reads through a download return its file from the
start, each continuing where the last ended; and no run changes a file or a descriptor the
process had before the first call. -/

namespace Owncloud

open LocalFs

section
variable {σ : Type} (P : Platform) (N : Neon σ) {d0 : LocalFs} {g s : Nat → Bytes} {w : World σ}

theorem davConnect_keeps (u : Bytes) (w : World σ) : Keeps w (davConnect N u w).2 := by
  simp [Keeps]

theorem statNetwork_keeps (u : Bytes) (buf : FileStat) (w : World σ) :
    Keeps w (statNetwork P N u buf w).2.2 := by
  unfold statNetwork; dsimp only
  split
  · simp [Keeps]
  · split_ifs
    · simp [Keeps]
    · split <;> simp [Keeps]

theorem stat_keeps (u : Bytes) (buf : FileStat) (w : World σ) : Keeps w (stat P N u buf w).2.2 := by
  unfold stat; split_ifs
  · exact Keeps.refl w
  · exact statNetwork_keeps P N _ _ _

theorem opendir_keeps (u : Bytes) (w : World σ) : Keeps w (opendir P N u w).2 := by
  unfold opendir; dsimp only
  split
  · simp [Keeps]
  · split_ifs
    · simp [Keeps, sessionErrno]
    · simp [Keeps, Function.update_apply, ite_eq_iff]
      exact fun p c hp h => ⟨by omega, h⟩

theorem setHandle_dir_keeps {h : Nat} {ctx : ListdirContext} (hh : w.heap h = some (.dir ctx))
    (x : Option Handle) (hx : ∀ c, x ≠ some (.transfer c)) : Keeps w (w.setHandle h x) := by
  refine ⟨rfl, le_rfl, fun p c hp => ?_, fun p c _ hp => ?_⟩ <;>
    simp only [World.setHandle_heap, Function.update_apply] at hp ⊢ <;> split_ifs at hp ⊢ with he
  · exact absurd hp (hx c)
  · exact hp
  · rw [he, hh] at hp; cases hp
  · exact hp

theorem readdir_keeps (h : Nat) (w : World σ) : Keeps w (readdir h w).2 := by
  unfold readdir
  split
  · rename_i hh
    split
    · exact Keeps.refl w
    · exact setHandle_dir_keeps hh _ (fun _ h => nomatch h)
  · simp [Keeps]

theorem closedir_keeps (h : Nat) (w : World σ) : Keeps w (closedir h w).2 := by
  unfold closedir
  split
  · exact setHandle_dir_keeps ‹_› none (fun _ h => nomatch h)
  · simp [Keeps]

theorem connectThenRequest_keeps (call : NeCall) (request : σ → Bytes → Int × σ) (u : Bytes) (w : World σ) :
    Keeps w (connectThenRequest N call request u w).2 := by
  unfold connectThenRequest; dsimp only; split_ifs <;> simp [Keeps]

theorem rename_keeps (u v : Bytes) (w : World σ) : Keeps w (rename N u v w).2 := by
  unfold rename; dsimp only; split_ifs <;> simp [Keeps, sessionErrno]

theorem unlink_keeps (u : Bytes) (w : World σ) : Keeps w (unlink N u w).2 := by
  unfold unlink; split
  · simp [Keeps]
  · dsimp only; split_ifs <;> simp [Keeps]

theorem utimes_keeps (u : Bytes) (t : Option Int) (w : World σ) : Keeps w (utimes N u t w).2 := by
  unfold utimes; split
  · simp [Keeps]
  · dsimp only; split_ifs <;> simp [Keeps]

theorem shutdown_keeps (w : World σ) : Keeps w (shutdown w) := by
  simp [Keeps, shutdown]

theorem openTransfer_sound (u : Option Bytes) (put : Bool) (h : Sound d0 g s w) :
    Sound d0 g s (openTransfer N u put w).2 := by
  cases u with
  | none => exact h
  | some u =>
    rcases w.disk.mkstemp_cases with ⟨h1, -⟩ | ⟨n, hn, hf, he⟩
    · simp only [openTransfer, h1, if_true]
      exact h.mkstemp
    have hm : lowestFree w.disk.fds ≠ -1 := by have := lowestFree_nonneg w.disk.fds; omega
    have hname : ∀ q c', w.heap q = some (.transfer c') → c'.tmpFileName.getD [] ≠ tmpName n :=
      fun q c' hq => (h.live q c' hq).minted.ne_of_le hn
    have hs : Sound d0 g s { w with disk := w.disk.made n } :=
      h.of_disk rfl rfl (h.disk.made hn hf) h.unwritten h.unseen fun p c hp => (h.live p c hp).made hn
    simp only [openTransfer, he, if_neg hm]
    split
    · split_ifs
      · exact hs.keeps (by simp [Keeps])
      · refine Sound.alloc (hs.keeps (by simp [Keeps])) ?_ (by simpa using hname)
        simpa [h.unwritten w.nextPtr le_rfl, h.unseen w.nextPtr le_rfl] using HandleOk.fresh h.disk hn hf (some u)
    · split_ifs
      · exact h.download hn hf _ rfl rfl rfl
      · refine Sound.alloc (h.download hn hf _ rfl rfl rfl) ?_ (by simpa using hname)
        simpa [h.unwritten w.nextPtr le_rfl, h.unseen w.nextPtr le_rfl] using HandleOk.download h.disk hn hf _

theorem write_sound (p : Nat) (z : Bytes) (h : Sound d0 g s w) (hub : (write (some p) z w).2.ub = false) :
    Sound d0 (fun q => g q ++ if p = q then z.take (write (some p) z w).1.toNat else []) s (write (some p) z w).2 := by
  obtain ⟨c, hp⟩ : ∃ c, w.heap p = some (.transfer c) := by
    simp only [write] at hub; split at hub <;> simp_all
  have hc := h.live p c hp
  simp only [write, hp]
  split_ifs with hfd
  · obtain ⟨-, h0, f, hl, hfp⟩ := hc.fd.resolve_left (by omega)
    have hu : ∀ q, w.nextPtr ≤ q →
        (g q ++ if p = q then z.take (w.disk.write c.fd z).1.toNat else []) = [] := fun q hq => by
      rw [h.unwritten q hq, if_neg (by have := h.below p c hp; omega)]; rfl
    refine h.of_disk rfl rfl (h.disk.writeWith h0 (fun f' hf => ?_) false z) hu h.unseen fun q c' hq => ?_
    · rw [hl] at hf; cases hf; rw [hfp]; exact hc.minted
    · by_cases hpq : p = q
      · subst hpq; rw [hp] at hq; cases hq
        simpa using hc.write_self (by omega) z
      · have hn := h.name_ne hpq hp hq
        simpa [hpq] using (h.live q c' hq).writeWith (hc.fd_ne (h.live q c' hq) hn (by omega))
          (fun f' hf => by rw [hl] at hf; cases hf; rw [hfp]; exact hn) false z
  · simpa using h

theorem read_sound (p n : Nat) (h : Sound d0 g s w) :
    Sound d0 g (fun q => s q ++ if p = q then (read p n w).2.1 else []) (read p n w).2.2 := by
  unfold read
  split
  · rename_i c hp
    have hc := h.live p c hp
    by_cases hfd : c.fd = -1
    · have hs := h.replace hp (h.disk.openRead _) (hc.openRead_self h.disk hfd) rfl
        fun q c' _ hq => (h.live q c' hq).openRead _
      simp only [if_pos hfd]
      split_ifs with h₁
      · simpa using hs
      · exact hs.read_self (c := { c with fd := _ }) (by simp) (fun he : (w.disk.openRead (c.tmpFileName.getD [])).1 = -1 => h₁ ⟨hfd, by rw [he]; decide⟩) n
      · simpa using hs
    · have hs := h.replace hp h.disk hc rfl (fun q c' _ hq => h.live q c' hq)
      simp only [if_neg hfd]
      split_ifs
      · simpa using hs
      · exact hs.read_self (c := c) (by simp) hfd n
      · simpa using hs
  · simpa using h.keeps (by simp [Keeps])

theorem closePut_frame (c : TransferContext) (w : World σ) (hfd : c.fd > -1) :
    (closePut N c w).2.heap = w.heap ∧ (closePut N c w).2.nextPtr = w.nextPtr ∧
      (closePut N c w).2.disk =
        if ((w.disk.close c.fd).2.openRead (c.tmpFileName.getD [])).1 < 0 then
          ((w.disk.close c.fd).2.openRead (c.tmpFileName.getD [])).2
        else (((w.disk.close c.fd).2.openRead (c.tmpFileName.getD [])).2.close
          ((w.disk.close c.fd).2.openRead (c.tmpFileName.getD [])).1).2 := by
  simp only [closePut, if_pos hfd]
  split_ifs <;> simp

theorem closePut_upload {c : TransferContext} {x r : Bytes} (hc : HandleOk d0 w.disk c x r)
    (hm : c.method = cstr "PUT") :
    (((w.disk.close c.fd).2.openRead (c.tmpFileName.getD [])).1 < 0 →
      (closePut N c w).1 = -1 ∧ (closePut N c w).2.server = w.server) ∧
    (0 ≤ ((w.disk.close c.fd).2.openRead (c.tmpFileName.getD [])).1 →
      (closePut N c w).1 = (if (N.requestDispatch w.server (c.req.getD []) x).1 = neOk ∧
        (w.disk.close c.fd).1 = 0 then 0 else -1) ∧
      (closePut N c w).2.server = (N.requestDispatch w.server (c.req.getD []) x).2.2) := by
  obtain ⟨hne, hx, hl⟩ := hc.upload hm
  obtain ⟨h1, -, -⟩ := hc.fd.resolve_left hne
  simp only [closePut, if_pos (show c.fd > -1 by omega)]
  refine ⟨fun ho => by simp [ho], fun ho => ?_⟩
  rcases (w.disk.close c.fd).2.openRead_cases (c.tmpFileName.getD []) with ⟨he, -⟩ | ⟨-, he⟩
  · rw [he] at ho; omega
  rw [he] at ho ⊢
  have hb : LocalFs.contents { (w.disk.close c.fd).2.next.2 with
      fds := (lowestFree (w.disk.close c.fd).2.fds, ⟨c.tmpFileName.getD [], 0, false⟩) :: (w.disk.close c.fd).2.fds }
      (lowestFree (w.disk.close c.fd).2.fds) = x := by
    simp [LocalFs.contents, lookup_cons_ite, hx]
  simp only [if_neg (not_lt.mpr ho), hb, World.logCall_server, close_of_lookup _ hl]
  by_cases hf : w.disk.next.1 = .fail <;> by_cases hd : (N.requestDispatch w.server (c.req.getD []) x).1 = neOk <;>
    simp [hf, hd]

theorem close_sound (p : Nat) (h : Sound d0 g s w) : Sound d0 g s (close N p w).2 := by
  unfold close
  split
  · rename_i c hp
    have hc := h.live p c hp
    have hr := h.remove p
    have hfd : c.fd ≠ -1 → ∀ q c', (w.setHandle p none).heap q = some (.transfer c') → c'.fd ≠ c.fd :=
      fun hne q c' hq => hc.fd_ne (h.live q c' (World.heap_of_setHandle_none hq))
        (h.name_ne (by rintro rfl; simp at hq) hp (World.heap_of_setHandle_none hq)) hne
    dsimp only
    split_ifs with hm hgt
    · by_cases hgt : c.fd > -1
      · obtain ⟨hheap, hnext, hd⟩ := closePut_frame N c w hgt
        have hs₁ := hr.close (hc.fd.resolve_left (by omega)).2.1 (hfd (by omega))
        have hs₂ := hs₁.openRead (c.tmpFileName.getD [])
        refine h.free hp ?_ hheap hnext (by rw [hd]; split_ifs <;> simp)
        rw [hd]
        split_ifs with ho
        · exact hs₂
        rcases (w.disk.close c.fd).2.openRead_cases (c.tmpFileName.getD []) with ⟨he, -⟩ | ⟨-, he⟩
        · rw [he] at ho; omega
        have h₁ : ((w.disk.close c.fd).2.openRead (c.tmpFileName.getD [])).1 = lowestFree (w.disk.close c.fd).2.fds := by
          rw [he]
        exact hs₂.close (by rw [h₁]; exact hs₁.disk.lowestFree)
          fun q c' hq => by rw [h₁]; exact (hs₁.live q c' hq).fd_ne_lowestFree
      · simp only [closePut, if_neg hgt]
        exact h.free hp hr rfl rfl rfl
    · exact h.free hp (hr.close (hc.fd.resolve_left (by omega)).2.1 (hfd (by omega))) rfl rfl (by simp)
    · exact h.free hp hr rfl rfl rfl
  · exact h.keeps (by simp [Keeps])

theorem openFile_sound (u : Bytes) (f : OpenFlags) (h : Sound d0 g s w) : Sound d0 g s (openFile P N u f w).2 := by
  unfold openFile
  dsimp only
  by_cases hc : (cleanPath u).isSome = true
  · have h₁ := h.keeps (davConnect_keeps N u w)
    have h₂ := h₁.keeps (stat_keeps P N (cDirname u) .zero _)
    simp only [hc, if_true, true_and]
    split_ifs
    · exact h₂.keeps (by simp [Keeps])
    · exact openTransfer_sound N _ _ h₂
    · exact openTransfer_sound N _ _ h₁
  · simp only [hc, if_false, false_and]
    exact openTransfer_sound N _ _ h

theorem creat_sound (u : Bytes) (h : Sound d0 g s w) (hub : (creat P N u w).2.ub = false) :
    Sound d0 g s (creat P N u w).2 := by
  have ho := openFile_sound P N u ⟨true, false, true⟩ h
  unfold creat at hub ⊢
  dsimp only at hub ⊢
  cases hp : (openFile P N u ⟨true, false, true⟩ w).1 with
  | none => simpa [write, hp] using ho
  | some p =>
    rw [hp] at hub
    simpa using write_sound p [] ho hub

end

/-- The bytes a call, given its answer, put through handle `q`: the first of the bytes given to
`_write`, as many as it answers. -/
def Op.wrote (q : Nat) : Op → Out → Bytes
  | .write p d, .int r => if p = q then d.take r.toNat else []
  | _, _ => []

/-- The bytes a run's calls put through handle `q`, in order, from the run's answers. -/
def wroteTo (q : Nat) : List Op → List Out → Bytes
  | op :: ops, o :: outs => op.wrote q o ++ wroteTo q ops outs
  | _, _ => []

/-- The bytes a call hands to `_write` for handle `q`. -/
def Op.written (q : Nat) : Op → Bytes
  | .write p d => if p = q then d else []
  | _ => []

/-- The bytes a run's calls hand to `_write` for handle `q`, in order. -/
def writtenTo (q : Nat) : List Op → Bytes
  | [] => []
  | op :: ops => op.written q ++ writtenTo q ops

/-- The bytes a call, given its answer, returned through handle `q`. -/
def Op.got (q : Nat) : Op → Out → Bytes
  | .read p _, .data _ b => if p = q then b else []
  | _, _ => []

/-- The bytes a run's calls returned through handle `q`, in order, from the run's answers. -/
def readFrom (q : Nat) : List Op → List Out → Bytes
  | op :: ops, o :: outs => op.got q o ++ readFrom q ops outs
  | _, _ => []

section
variable {σ : Type} (P : Platform) (N : Neon σ) {d0 : LocalFs} {g s : Nat → Bytes} {w : World σ}

/-- One call keeps the invariant, with the bytes it writes and returns added to its handle's. -/
theorem exec_sound (op : Op) (h : Sound d0 g s w) (hub : (exec P N w op).2.ub = false) :
    Sound d0 (fun q => g q ++ op.wrote q (exec P N w op).1) (fun q => s q ++ op.got q (exec P N w op).1)
      (exec P N w op).2 := by
  cases op
  case read p n =>
    simp only [Op.wrote, List.append_nil]
    exact read_sound p n h
  all_goals simp only [Op.got, List.append_nil]
  case write p d => exact write_sound p d h hub
  all_goals simp only [Op.wrote, List.append_nil]
  case openFile u f => exact openFile_sound P N u f h
  case creat u => exact creat_sound P N u h hub
  case close p => exact close_sound N p h
  case opendir u => exact h.keeps (opendir_keeps P N u w)
  case closedir p => exact h.keeps (closedir_keeps p w)
  case readdir p => exact h.keeps (readdir_keeps p w)
  case mkdir u => exact h.keeps (connectThenRequest_keeps N _ _ u w)
  case rmdir u => exact h.keeps (connectThenRequest_keeps N _ _ u w)
  case stat u => exact h.keeps (stat_keeps P N u _ w)
  case rename u v => exact h.keeps (rename_keeps N u v w)
  case unlink u => exact h.keeps (unlink_keeps N u w)
  case utimes u t => exact h.keeps (utimes_keeps N u t w)
  case shutdown => exact h.keeps (shutdown_keeps w)
  all_goals exact h

/-- Over a run that stays defined, the invariant holds with the bytes put and returned
through each handle. -/
theorem run_sound (ops : List Op) (h : Sound d0 g s w) (hub : (run P N ops w).2.ub = false) :
    Sound d0 (fun q => g q ++ wroteTo q ops (run P N ops w).1) (fun q => s q ++ readFrom q ops (run P N ops w).1)
      (run P N ops w).2 := by
  induction ops generalizing g s w with
  | nil => simpa [wroteTo, readFrom] using h
  | cons op ops ih =>
    obtain ⟨hw, hx, hub⟩ := ub_of_run_cons P N hub
    simpa [run, step, hw, wroteTo, readFrom, List.append_assoc] using ih (exec_sound P N op h hx) hub

/-- Over every run from the start that stays defined, `_close` of a live upload sends the
bytes the kernel took through its handle, in the order written, whatever calls on other
handles came between: of each `_write`, the first bytes, as many as it answered. When the
reopen of the temporary file fails, nothing is sent and the call answers -1; otherwise it
answers 0 exactly when neon's dispatch of that body succeeds and so did the `close` of the
descriptor before the reopen, and the server ends as that dispatch leaves it. -/
theorem close_sends_written_data (disk : LocalFs) (server : σ) (ops : List Op)
    (hub : (run P N ops (.init disk server)).2.ub = false) {p : Nat} {c : TransferContext}
    (hp : (run P N ops (.init disk server)).2.heap p = some (.transfer c)) (hput : c.method = cstr "PUT") :
    ((((run P N ops (.init disk server)).2.disk.close c.fd).2.openRead (c.tmpFileName.getD [])).1 < 0 →
      (close N p (run P N ops (.init disk server)).2).1 = -1 ∧
        (close N p (run P N ops (.init disk server)).2).2.server = (run P N ops (.init disk server)).2.server) ∧
    (0 ≤ (((run P N ops (.init disk server)).2.disk.close c.fd).2.openRead (c.tmpFileName.getD [])).1 →
      (close N p (run P N ops (.init disk server)).2).1 =
        (if (N.requestDispatch (run P N ops (.init disk server)).2.server (c.req.getD [])
          (wroteTo p ops (run P N ops (.init disk server)).1)).1 = neOk ∧
          ((run P N ops (.init disk server)).2.disk.close c.fd).1 = 0 then 0 else -1) ∧
      (close N p (run P N ops (.init disk server)).2).2.server =
        (N.requestDispatch (run P N ops (.init disk server)).2.server (c.req.getD [])
          (wroteTo p ops (run P N ops (.init disk server)).1)).2.2) := by
  have hs := run_sound P N ops (Sound.init disk server) hub
  have hc := hs.live p c hp
  simp only [List.nil_append] at hc
  simp only [close, hp, if_pos hput]
  exact closePut_upload N hc hput

/-- A creat and two writes through its handle. -/
def uploadRun : List Op := [.creat (cstr "owncloud://h/d1/f"), .write 1 (cstr "da"), .write 1 (cstr "ta")]

/-- `stdDisk` on which the kernel takes one byte of the run's first `_write`. -/
def shortWriteDisk : LocalFs := { stdDisk with outcomes := [.full, .full, .short 1] }

/-- `uploadRun` on `shortWriteDisk`: what its calls answered, and the process after it. -/
def shortUpload : List Out × World DavServer := run sampleBuild DavServer.neon uploadRun (.init shortWriteDisk twinServer)

theorem close_sends_written_data_sample :
    shortUpload.2.ub = false ∧
      shortUpload.2.heap 1 = some (.transfer ⟨some (cstr "/d1/f"), 3, some (tmpName 0), cstr "PUT"⟩) ∧
      wroteTo 1 uploadRun shortUpload.1 = cstr "dta" ∧
      0 ≤ ((shortUpload.2.disk.close 3).2.openRead (tmpName 0)).1 ∧
      ((((shortUpload.2.disk.close 3).2.openRead (tmpName 0)).1 < 0 →
        (close DavServer.neon 1 shortUpload.2).1 = -1 ∧
          (close DavServer.neon 1 shortUpload.2).2.server = shortUpload.2.server) ∧
      (0 ≤ ((shortUpload.2.disk.close 3).2.openRead (tmpName 0)).1 →
        (close DavServer.neon 1 shortUpload.2).1 =
          (if (DavServer.neon.requestDispatch shortUpload.2.server (cstr "/d1/f")
              (wroteTo 1 uploadRun shortUpload.1)).1 = neOk ∧ (shortUpload.2.disk.close 3).1 = 0 then 0 else -1) ∧
        (close DavServer.neon 1 shortUpload.2).2.server =
          (DavServer.neon.requestDispatch shortUpload.2.server (cstr "/d1/f") (wroteTo 1 uploadRun shortUpload.1)).2.2)) :=
  have hub : shortUpload.2.ub = false := by decide
  have hp : shortUpload.2.heap 1 = some (.transfer ⟨some (cstr "/d1/f"), 3, some (tmpName 0), cstr "PUT"⟩) := by
    decide
  ⟨hub, hp, by decide, by decide,
    close_sends_written_data sampleBuild DavServer.neon shortWriteDisk twinServer uploadRun hub hp rfl⟩

/-- Over every run from the start that stays defined, the bytes the run's `_read` calls returned
through a live download handle through which nothing was written are the start of its temporary
file: each read continues where the last one ended, and none skips or repeats a byte. -/
theorem download_reads_file_prefix (disk : LocalFs) (server : σ) (ops : List Op)
    (hub : (run P N ops (.init disk server)).2.ub = false) {p : Nat} {c : TransferContext}
    (hp : (run P N ops (.init disk server)).2.heap p = some (.transfer c)) (hget : c.method ≠ cstr "PUT")
    (hw : writtenTo p ops = []) :
    readFrom p ops (run P N ops (.init disk server)).1 <+:
      ((run P N ops (.init disk server)).2.disk.files (c.tmpFileName.getD [])).getD [] := by
  have hs := run_sound P N ops (Sound.init disk server) hub
  obtain ⟨-, hr, hr'⟩ := (hs.live p c hp).reads hget
  simp only [List.nil_append] at hr hr'
  by_cases hfd : c.fd = -1
  · rw [hr hfd]
    exact List.nil_prefix
  · obtain ⟨-, -, f, hl, -⟩ := (hs.live p c hp).fd.resolve_left hfd
    rw [(hr' f hfd hl).2]
    exact List.take_prefix _ _

/-- A download of `/d1/x`, whose body is `hello`, read three bytes and then ten at a time. -/
def downloadRun : List Op :=
  [.openFile (cstr "owncloud://h/d1/x") ⟨false, false, false⟩, .read 1 3, .read 1 10]

theorem download_reads_file_prefix_sample :
    (run sampleBuild DavServer.neon downloadRun (.init stdDisk twinServer)).2.ub = false ∧
      (run sampleBuild DavServer.neon downloadRun (.init stdDisk twinServer)).2.heap 1 =
        some (.transfer ⟨none, 3, some (tmpName 0), cstr "GET"⟩) ∧
      readFrom 1 downloadRun (run sampleBuild DavServer.neon downloadRun (.init stdDisk twinServer)).1 =
        cstr "hello" ∧
      readFrom 1 downloadRun (run sampleBuild DavServer.neon downloadRun (.init stdDisk twinServer)).1 <+:
        ((run sampleBuild DavServer.neon downloadRun (.init stdDisk twinServer)).2.disk.files (tmpName 0)).getD [] :=
  have hub : (run sampleBuild DavServer.neon downloadRun (.init stdDisk twinServer)).2.ub = false := by decide
  have hp : (run sampleBuild DavServer.neon downloadRun (.init stdDisk twinServer)).2.heap 1 =
      some (.transfer ⟨none, 3, some (tmpName 0), cstr "GET"⟩) := by decide
  ⟨hub, hp, by decide, download_reads_file_prefix sampleBuild DavServer.neon stdDisk twinServer downloadRun hub hp
    (by decide) (by decide)⟩

/-- No run that stays defined changes a file the process had before its first call, nor any
file of a name other than `/tmp/csync.<k>` from the counter on, nor closes or moves a
descriptor the process had open before the first call. -/
theorem run_keeps_process_files (disk : LocalFs) (server : σ) (ops : List Op)
    (hub : (run P N ops (.init disk server)).2.ub = false) :
    (∀ name, (disk.files name).isSome →
      (run P N ops (.init disk server)).2.disk.files name = disk.files name) ∧
    (∀ name, (∀ k, disk.tmpCount ≤ k → name ≠ tmpName k) →
      (run P N ops (.init disk server)).2.disk.files name = disk.files name) ∧
    ∀ fd f, disk.fds.lookup fd = some f → (run P N ops (.init disk server)).2.disk.fds.lookup fd = some f := by
  have hs := (run_sound P N ops (Sound.init disk server) hub).disk
  refine ⟨fun n hn => hs.files_eq n ?_, fun n hn => hs.files_eq n ?_, hs.fds_eq⟩
  · rintro ⟨-, -, -, -, h⟩
    simp [h] at hn
  · rintro ⟨k, hk, -, rfl, -⟩
    exact hn k hk rfl

/-- `stdDisk` with a file already at `/tmp/csync.0`. -/
def tmpTakenDisk : LocalFs :=
  { stdDisk with files := fun n => if n = tmpName 0 then some (cstr "old") else none }

theorem run_keeps_process_files_sample :
    (run sampleBuild DavServer.neon uploadRun (.init tmpTakenDisk twinServer)).2.ub = false ∧
      (run sampleBuild DavServer.neon uploadRun (.init tmpTakenDisk twinServer)).2.heap 1 =
        some (.transfer ⟨some (cstr "/d1/f"), 3, some (tmpName 1), cstr "PUT"⟩) ∧
      (∀ name, (tmpTakenDisk.files name).isSome →
        (run sampleBuild DavServer.neon uploadRun (.init tmpTakenDisk twinServer)).2.disk.files name =
          tmpTakenDisk.files name) ∧
      (∀ name, (∀ k, tmpTakenDisk.tmpCount ≤ k → name ≠ tmpName k) →
        (run sampleBuild DavServer.neon uploadRun (.init tmpTakenDisk twinServer)).2.disk.files name =
          tmpTakenDisk.files name) ∧
      ∀ fd f, tmpTakenDisk.fds.lookup fd = some f →
        (run sampleBuild DavServer.neon uploadRun (.init tmpTakenDisk twinServer)).2.disk.fds.lookup fd = some f :=
  have hub : (run sampleBuild DavServer.neon uploadRun (.init tmpTakenDisk twinServer)).2.ub = false := by decide
  ⟨hub, by decide, run_keeps_process_files sampleBuild DavServer.neon tmpTakenDisk twinServer uploadRun hub⟩

/-- After every run that stays defined, two live transfer handles never share a temporary file
or an open descriptor, and each handle's temporary file exists. -/
theorem live_handles_disjoint (disk : LocalFs) (server : σ) (ops : List Op)
    (hub : (run P N ops (.init disk server)).2.ub = false) {p q : Nat} {c c' : TransferContext}
    (hp : (run P N ops (.init disk server)).2.heap p = some (.transfer c))
    (hq : (run P N ops (.init disk server)).2.heap q = some (.transfer c')) :
    ((run P N ops (.init disk server)).2.disk.files (c.tmpFileName.getD [])).isSome ∧
      (p ≠ q → c.tmpFileName ≠ c'.tmpFileName ∧ (c.fd ≠ -1 → c.fd ≠ c'.fd)) := by
  have hs := run_sound P N ops (Sound.init disk server) hub
  refine ⟨(hs.live p c hp).present, fun hpq => ⟨fun he => hs.name_ne hpq hp hq (by rw [he]), fun hc => ?_⟩⟩
  exact ((hs.live p c hp).fd_ne (hs.live q c' hq) (hs.name_ne hpq hp hq) hc).symm

/-- Two uploads open at once. -/
def twoUploads : List Op := [.creat (cstr "owncloud://h/d1/f"), .creat (cstr "owncloud://h/d1/g")]

theorem live_handles_disjoint_sample :
    (run sampleBuild DavServer.neon twoUploads (.init stdDisk twinServer)).2.ub = false ∧
      (run sampleBuild DavServer.neon twoUploads (.init stdDisk twinServer)).2.heap 1 =
        some (.transfer ⟨some (cstr "/d1/f"), 3, some (tmpName 0), cstr "PUT"⟩) ∧
      (run sampleBuild DavServer.neon twoUploads (.init stdDisk twinServer)).2.heap 2 =
        some (.transfer ⟨some (cstr "/d1/g"), 4, some (tmpName 1), cstr "PUT"⟩) ∧
      ((run sampleBuild DavServer.neon twoUploads (.init stdDisk twinServer)).2.disk.files (tmpName 0)).isSome ∧
      (1 ≠ 2 → some (tmpName 0) ≠ some (tmpName 1) ∧ ((3 : Int) ≠ -1 → (3 : Int) ≠ 4)) :=
  have hub : (run sampleBuild DavServer.neon twoUploads (.init stdDisk twinServer)).2.ub = false := by decide
  have hp : (run sampleBuild DavServer.neon twoUploads (.init stdDisk twinServer)).2.heap 1 =
      some (.transfer ⟨some (cstr "/d1/f"), 3, some (tmpName 0), cstr "PUT"⟩) := by decide
  have hq : (run sampleBuild DavServer.neon twoUploads (.init stdDisk twinServer)).2.heap 2 =
      some (.transfer ⟨some (cstr "/d1/g"), 4, some (tmpName 1), cstr "PUT"⟩) := by decide
  ⟨hub, hp, hq, live_handles_disjoint sampleBuild DavServer.neon stdDisk twinServer twoUploads hub hp hq⟩

end

end Owncloud
