import CsyncOwncloud.Session
import CsyncOwncloud.Lifecycle

/-! Runs that stay defined. Once `dav_connect` has succeeded, and until
`vio_module_shutdown`, a call does nothing undefined as long as the handles it is given are
live handles of its kind, the paths it hands neon are ones `_cleanPath` produced, the
PropFind answers it reads have hrefs that decode, and an upload is opened only under a parent
that `_stat` finds: a failing `_stat` destroys `_open`'s stack buffer. -/

namespace Owncloud

/-- The hrefs of a PropFind answer all decode. -/
def answerDecodes (es : List PropEntry) : Bool := es.all fun e => decide (Decodes e)

theorem decodes_of_answerDecodes {es : List PropEntry} (h : answerDecodes es = true) :
    ∀ e ∈ es, Decodes e := by
  simpa [answerDecodes] using h

def Handle.isTransfer : Option Handle → Bool
  | some (.transfer _) => true
  | _ => false

def Handle.isDir : Option Handle → Bool
  | some (.dir _) => true
  | _ => false

section
variable {σ : Type} (P : Platform) (N : Neon σ)

/-- An upload's parent: its PropFind answer decodes, and `_stat` of it succeeds, so that `_open`
never sees its stack buffer destroyed. -/
def parentFine (w : World σ) (u : Bytes) : Bool :=
  answerDecodes (N.simplePropfind w.server (cDirname u)).2 && (stat P N (cDirname u) .zero w).1 == 0

/-- What a call needs from its caller and the server in a connected process: live handles of
its kind, URLs `_cleanPath` accepts wherever it hands neon their path, hrefs that decode in
the PropFind answers it reads, and for an upload a parent that `_stat` finds. -/
def Op.fine (w : World σ) : Op → Bool
  | .openFile u f => !(f.wronly || f.rdwr || f.creat) || parentFine P N w u
  | .creat u => parentFine P N w u
  | .stat u => answerDecodes (N.simplePropfind w.server u).2
  | .opendir u =>
    (cleanPath u).isSome && answerDecodes (N.simplePropfind w.server ((cleanPath u).getD [])).2
  | .mkdir u | .rmdir u | .utimes u _ => (cleanPath u).isSome
  | .rename u v => (cleanPath u).isSome && (cleanPath v).isSome
  | .close h | .read h _ | .write h _ => Handle.isTransfer (w.heap h)
  | .readdir h | .closedir h => Handle.isDir (w.heap h)
  | .lseek _ | .unlink _ | .chmod _ | .chown _ | .shutdown => true

/-- Every call of a run is fine in the process it is made in. -/
def fineRun : List Op → World σ → Bool
  | [], _ => true
  | op :: ops, w => op.fine P N w && fineRun ops (step P N w op).2

/-- A process connected with a live session that has done nothing undefined. -/
structure Safe (w : World σ) : Prop where
  defined : w.ub = false
  connected : w.connected = true
  live : w.session.ctx = .live

variable {w : World σ}

theorem Safe.iff : Safe w ↔ w.ub = false ∧ w.connected = true ∧ w.session.ctx = .live :=
  ⟨fun h => ⟨h.defined, h.connected, h.live⟩, fun h => ⟨h.1, h.2.1, h.2.2⟩⟩

theorem davConnect_of_connected (u : Bytes) (h : w.connected = true) : davConnect N u w = (0, w) := by
  simp [davConnect, h]

theorem Safe.logCall (h : Safe w) (c : NeCall) : Safe (w.logCall c) :=
  ⟨by simp [World.logCall, h.defined, h.live], h.connected, h.live⟩

theorem Safe.usePath (h : Safe w) {p : Option Bytes} (hp : p.isSome) : Safe (w.usePath p) :=
  ⟨by simp [World.usePath, h.defined, hp], h.connected, h.live⟩

theorem Safe.alloc (h : Safe w) (x : Handle) : Safe (w.alloc x).2 := ⟨h.defined, h.connected, h.live⟩

theorem Safe.setHandle (h : Safe w) (p : Nat) (x : Option Handle) : Safe (w.setHandle p x) :=
  ⟨h.defined, h.connected, h.live⟩

theorem Safe.sessionErrno (h : Safe w) : Safe (sessionErrno N w).2 := h.logCall .getError

theorem listing_init_isSome (target : Option Bytes) (includeTarget : Bool) {es : List PropEntry}
    (h : answerDecodes es = true) : ∃ ctx, listing P (.init target includeTarget) es = some ctx :=
  Option.isSome_iff_exists.mp (listing_isSome P (fun _ h => nomatch h) (decodes_of_answerDecodes h))

theorem statNetwork_safe (u : Bytes) (buf : FileStat) (h : Safe w)
    (hd : answerDecodes (N.simplePropfind w.server u).2) : Safe (statNetwork P N u buf w).2.2 := by
  obtain ⟨ctx, hctx⟩ := listing_init_isSome P (cleanPath u) true hd
  have h₁ := h.logCall .simplePropfind
  unfold statNetwork
  simp only [World.logCall_server, hctx]
  split_ifs
  · exact ⟨h₁.defined, h₁.connected, h₁.live⟩
  · split <;> exact h₁

theorem stat_safe (u : Bytes) (buf : FileStat) (h : Safe w)
    (hd : answerDecodes (N.simplePropfind w.server u).2) : Safe (stat P N u buf w).2.2 := by
  unfold stat
  split_ifs
  · exact h
  · exact statNetwork_safe P N u _ h hd

theorem opendir_safe (u : Bytes) (h : Safe w) (hp : (cleanPath u).isSome)
    (hd : answerDecodes (N.simplePropfind w.server ((cleanPath u).getD [])).2) :
    Safe (opendir P N u w).2 := by
  obtain ⟨ctx, hctx⟩ := listing_init_isSome P (cleanPath u) false hd
  have h₁ := (h.logCall .simplePropfind).usePath hp
  unfold opendir
  simp only [davConnect_of_connected N u h.connected, World.usePath_server, World.logCall_server, hctx]
  split_ifs
  · have := h₁.sessionErrno N; exact ⟨this.defined, this.connected, this.live⟩
  · exact h₁.alloc _

theorem readdir_safe (p : Nat) (h : Safe w) (hp : Handle.isDir (w.heap p)) : Safe (readdir p w).2 := by
  unfold readdir
  split
  · split
    · exact h
    · exact ⟨h.defined, h.connected, h.live⟩
  · simp [Handle.isDir] at hp

theorem closedir_safe (p : Nat) (h : Safe w) (hp : Handle.isDir (w.heap p)) : Safe (closedir p w).2 := by
  unfold closedir
  split
  · exact h.setHandle p none
  · simp [Handle.isDir] at hp

theorem connectThenRequest_safe (call : NeCall) (request : σ → Bytes → Int × σ) (u : Bytes)
    (h : Safe w) (hp : (cleanPath u).isSome) : Safe (connectThenRequest N call request u w).2 := by
  have h₁ := (h.logCall call).usePath hp
  unfold connectThenRequest
  simp only [davConnect_of_connected N u h.connected, lt_irrefl, if_false]
  split_ifs <;> exact ⟨h₁.defined, h₁.connected, h₁.live⟩

theorem rename_safe (u v : Bytes) (h : Safe w) (hu : (cleanPath u).isSome) (hv : (cleanPath v).isSome) :
    Safe (rename N u v w).2 := by
  have h₁ := ((h.logCall .move).usePath hu).usePath hv
  unfold rename
  simp only [davConnect_of_connected N u h.connected, lt_irrefl, if_false]
  split_ifs <;> simp [Safe.iff, sessionErrno, World.logCall, World.usePath, h.defined, h.connected, h.live, hu, hv]

theorem unlink_safe (u : Bytes) (h : Safe w) : Safe (unlink N u w).2 := by
  unfold unlink
  split
  · exact ⟨h.defined, h.connected, h.live⟩
  · simp only [davConnect_of_connected N u h.connected, lt_irrefl, if_false]
    split_ifs <;> simp [Safe.iff, World.logCall, h.defined, h.connected, h.live]

theorem utimes_safe (u : Bytes) (t : Option Int) (h : Safe w) (hp : (cleanPath u).isSome) :
    Safe (utimes N u t w).2 := by
  have h₁ := (h.logCall .proppatch).usePath hp
  unfold utimes
  split
  · exact ⟨h.defined, h.connected, h.live⟩
  · dsimp only
    split_ifs <;> exact ⟨h₁.defined, h₁.connected, h₁.live⟩

theorem openTransfer_safe (u : Option Bytes) (put : Bool) (h : Safe w) : Safe (openTransfer N u put w).2 := by
  unfold openTransfer
  split
  · exact h
  · dsimp only
    split_ifs <;> simp [Safe.iff, World.logCall, World.alloc, h.defined, h.connected, h.live]

theorem openTransfer_isTransfer (u : Option Bytes) (put : Bool) {p : Nat}
    (hp : (openTransfer N u put w).1 = some p) : Handle.isTransfer ((openTransfer N u put w).2.heap p) := by
  unfold openTransfer at hp ⊢
  split at hp
  · cases hp
  · dsimp only at hp ⊢
    split_ifs at hp ⊢ <;> cases hp <;> simp [Handle.isTransfer, World.alloc]

theorem openFile_safe (u : Bytes) (f : OpenFlags) (h : Safe w)
    (hd : !(f.wronly || f.rdwr || f.creat) || parentFine P N w u) : Safe (openFile P N u f w).2 := by
  unfold openFile
  simp only [davConnect_of_connected N u h.connected, ite_self]
  split_ifs with h₁ h₂
  · simp [parentFine, h₁.2, h₂] at hd
  · have hp : parentFine P N w u = true := by simpa [h₁.2] using hd
    exact openTransfer_safe N _ _ (stat_safe P N (cDirname u) .zero h (Bool.and_eq_true_iff.mp hp).1)
  · exact openTransfer_safe N _ _ h

theorem openFile_isTransfer (u : Bytes) (f : OpenFlags) {p : Nat} (hp : (openFile P N u f w).1 = some p) :
    Handle.isTransfer ((openFile P N u f w).2.heap p) := by
  unfold openFile at hp ⊢
  dsimp only at hp ⊢
  split_ifs at hp ⊢ <;> first | cases hp | exact openTransfer_isTransfer N _ _ hp

theorem write_safe (p : Nat) (d : Bytes) (h : Safe w) (hp : Handle.isTransfer (w.heap p)) :
    Safe (write (some p) d w).2 := by
  simp only [write]
  split
  · split_ifs
    · exact ⟨h.defined, h.connected, h.live⟩
    · exact h
  · simp [Handle.isTransfer] at hp

theorem creat_safe (u : Bytes) (h : Safe w) (hd : parentFine P N w u) : Safe (creat P N u w).2 := by
  have ho := openFile_safe P N u ⟨true, false, true⟩ h (by simpa using hd)
  unfold creat
  dsimp only
  cases hp : (openFile P N u ⟨true, false, true⟩ w).1 with
  | none => exact ho
  | some p => exact write_safe p [] ho (openFile_isTransfer P N u _ hp)

theorem read_safe (p n : Nat) (h : Safe w) (hp : Handle.isTransfer (w.heap p)) : Safe (read p n w).2.2 := by
  unfold read
  split
  · dsimp only
    split_ifs <;> exact ⟨h.defined, h.connected, h.live⟩
  · simp [Handle.isTransfer] at hp

theorem closePut_safe (c : TransferContext) (h : Safe w) : Safe (closePut N c w).2 := by
  unfold closePut
  dsimp only
  split_ifs <;> simp [Safe.iff, World.logCall, sessionErrno, h.defined, h.connected, h.live]

theorem close_safe (p : Nat) (h : Safe w) (hp : Handle.isTransfer (w.heap p)) : Safe (close N p w).2 := by
  unfold close
  split
  · rename_i c _
    have hc : Safe (if c.method = cstr "PUT" then closePut N c w
        else (0, if c.fd > -1 then { w with disk := (w.disk.close c.fd).2 } else w)).2 := by
      split_ifs
      · exact closePut_safe N c h
      · exact ⟨h.defined, h.connected, h.live⟩
      · exact h
    exact ⟨hc.defined, hc.connected, hc.live⟩
  · simp [Handle.isTransfer] at hp

/-- One call, fine where it is made and not the shutdown, keeps a process connected, live and
defined. -/
theorem exec_safe (op : Op) (hop : op ≠ .shutdown) (h : Safe w) (hf : op.fine P N w = true) :
    Safe (exec P N w op).2 := by
  cases op
  case openFile u f => exact openFile_safe P N u f h hf
  case creat u => exact creat_safe P N u h hf
  case close p => exact close_safe N p h hf
  case read p n => exact read_safe p n h hf
  case write p d => exact write_safe p d h hf
  case lseek => exact h
  case opendir u =>
    obtain ⟨hp, hd⟩ := Bool.and_eq_true_iff.mp hf
    exact opendir_safe P N u h hp hd
  case closedir p => exact closedir_safe p h hf
  case readdir p => exact readdir_safe p h hf
  case mkdir u => exact connectThenRequest_safe N _ _ u h hf
  case rmdir u => exact connectThenRequest_safe N _ _ u h hf
  case stat u => exact stat_safe P N u _ h hf
  case rename u v =>
    obtain ⟨hu, hv⟩ := Bool.and_eq_true_iff.mp hf
    exact rename_safe N u v h hu hv
  case unlink u => exact unlink_safe N u h
  case chmod => exact h
  case chown => exact h
  case utimes u t => exact utimes_safe N u t h hf
  case shutdown => exact absurd rfl hop

theorem run_safe (ops : List Op) (hno : Op.shutdown ∉ ops) (h : Safe w) (hf : fineRun P N ops w = true) :
    Safe (run P N ops w).2 := by
  induction ops generalizing w with
  | nil => exact h
  | cons op ops ih =>
    obtain ⟨h₁, h₂⟩ := Bool.and_eq_true_iff.mp hf
    have hs : step P N w op = exec P N w op := by simp [step, h.defined]
    rw [hs] at h₂
    simp only [run, hs]
    exact ih (fun hm => hno (List.mem_cons_of_mem _ hm))
      (exec_safe P N op (fun he => hno (he ▸ List.mem_cons_self _ _)) h h₁) h₂

end

/-- A listing of `/d1` connects; then a listing read, an upload, a directory made, the listing
closed. -/
def listedD1 : World DavServer :=
  (run sampleBuild DavServer.neon [.opendir (cstr "owncloud://h/d1")] (.init stdDisk twinServer)).2

def connectedRun : List Op :=
  [.readdir 1, .creat (cstr "owncloud://h/d1/f"), .write 2 (cstr "da"), .close 2,
    .mkdir (cstr "owncloud://h/d3"), .closedir 1]

end Owncloud
