import CsyncOwncloud.Errors

/-! The session the adapter hands neon. `dav_connect` sets `_connected` only together with a
live session, so until `vio_module_shutdown` every call that first connects and checks the
result (`_mkdir`, `_rmdir`, `_rename`, `_unlink`) issues its requests on a live session.
`_stat` and `_utimes` never connect, and the shutdown frees the session while `_connected`
stays set. -/

namespace Owncloud

section
variable {σ : Type} (P : Platform) (N : Neon σ)

/-- The three outcomes of `dav_connect`: already connected, a failure that leaves
`_connected` clear, or a fresh live session. -/
theorem davConnect_cases (b : Bytes) (w : World σ) :
    (w.connected = true ∧ davConnect N b w = (0, w)) ∨
    (w.connected = false ∧ (davConnect N b w).1 = -1 ∧ (davConnect N b w).2.connected = false) ∨
    ((davConnect N b w).1 = 0 ∧ (davConnect N b w).2.connected = true ∧
      (davConnect N b w).2.session.ctx = .live) := by
  unfold davConnect
  split
  · exact .inl ⟨‹_›, rfl⟩
  · have hc : w.connected = false := by simpa using ‹¬w.connected = true›
    split
    · exact .inr (.inl ⟨hc, rfl, hc⟩)
    · dsimp only
      by_cases h1 : N.sockInit w.server < 0
      · rw [if_pos h1]; exact .inr (.inl ⟨hc, rfl, hc⟩)
      · rw [if_neg h1]
        generalize N.sessionCreate _ _ _ _ = c
        cases c
        · exact .inr (.inl ⟨hc, rfl, hc⟩)
        · exact .inr (.inr ⟨rfl, rfl, rfl⟩)

/-- `_connected` promises a live session. -/
def ConnectedLive (w : World σ) : Prop := w.connected = true → w.session.ctx = .live

theorem davConnect_connectedLive (b : Bytes) {w : World σ} (h : ConnectedLive w) :
    ConnectedLive (davConnect N b w).2 := by
  rcases davConnect_cases N b w with ⟨-, he⟩ | ⟨-, -, hc⟩ | ⟨-, -, hl⟩
  · rw [he]; exact h
  · intro h'; rw [hc] at h'; cases h'
  · intro; exact hl

/-- A connect that succeeds leaves a live session. -/
theorem davConnect_live (b : Bytes) {w : World σ} (h : ConnectedLive w)
    (hc : 0 ≤ (davConnect N b w).1) : (davConnect N b w).2.session.ctx = .live := by
  rcases davConnect_cases N b w with ⟨hw, he⟩ | ⟨-, hf, -⟩ | ⟨-, -, hl⟩
  · rw [he]; exact h hw
  · rw [hf] at hc; cases hc
  · exact hl

theorem statNetwork_connectedLive (u : Bytes) (buf : FileStat) {w : World σ} (h : ConnectedLive w) :
    ConnectedLive (statNetwork P N u buf w).2.2 := by
  unfold statNetwork
  dsimp only
  split
  · exact h
  · split_ifs
    · exact h
    · split <;> exact h

theorem stat_connectedLive (u : Bytes) (buf : FileStat) {w : World σ} (h : ConnectedLive w) :
    ConnectedLive (stat P N u buf w).2.2 := by
  unfold stat
  split_ifs
  · exact h
  · exact statNetwork_connectedLive P N u _ h

theorem opendir_connectedLive (u : Bytes) {w : World σ} (h : ConnectedLive w) :
    ConnectedLive (opendir P N u w).2 := by
  have := davConnect_connectedLive N u h
  unfold opendir ConnectedLive at *
  dsimp only
  split
  · exact this
  · split_ifs <;> simpa using this

theorem connectThenRequest_connectedLive (call : NeCall) (request : σ → Bytes → Int × σ)
    (u : Bytes) {w : World σ} (h : ConnectedLive w) :
    ConnectedLive (connectThenRequest N call request u w).2 := by
  have := davConnect_connectedLive N u h
  unfold connectThenRequest ConnectedLive at *
  dsimp only
  split_ifs <;> simpa using this

theorem rename_connectedLive (u v : Bytes) {w : World σ} (h : ConnectedLive w) :
    ConnectedLive (rename N u v w).2 := by
  have := davConnect_connectedLive N u h
  unfold rename ConnectedLive at *
  dsimp only
  split_ifs <;> simpa using this

theorem unlink_connectedLive (u : Bytes) {w : World σ} (h : ConnectedLive w) :
    ConnectedLive (unlink N u w).2 := by
  have := davConnect_connectedLive N u h
  unfold unlink ConnectedLive at *
  split
  · exact h
  · dsimp only
    split_ifs <;> simpa using this

theorem openTransfer_connectedLive (u : Option Bytes) (put : Bool) {w : World σ}
    (h : ConnectedLive w) : ConnectedLive (openTransfer N u put w).2 := by
  unfold openTransfer ConnectedLive at *
  split
  · exact h
  · dsimp only
    split_ifs <;> simpa using h

theorem openFile_connectedLive (u : Bytes) (f : OpenFlags) {w : World σ} (h : ConnectedLive w) :
    ConnectedLive (openFile P N u f w).2 := by
  unfold openFile
  by_cases hs : (cleanPath u).isSome = true
  · have h' := davConnect_connectedLive N u h
    simp only [hs, if_true, true_and]
    split_ifs
    · exact stat_connectedLive P N _ _ h'
    · exact openTransfer_connectedLive N _ _ (stat_connectedLive P N _ _ h')
    · exact openTransfer_connectedLive N _ _ h'
  · simp only [hs, if_false, false_and]
    exact openTransfer_connectedLive N _ _ h

theorem write_connectedLive (p : Option Nat) (d : Bytes) {w : World σ} (h : ConnectedLive w) :
    ConnectedLive (write p d w).2 := by
  unfold write
  split
  · exact h
  · split
    · split_ifs <;> exact h
    · exact h

theorem read_connectedLive (p n : Nat) {w : World σ} (h : ConnectedLive w) :
    ConnectedLive (read p n w).2.2 := by
  unfold read ConnectedLive at *
  split
  · dsimp only; split_ifs <;> simpa using h
  · exact h

theorem close_connectedLive (p : Nat) {w : World σ} (h : ConnectedLive w) :
    ConnectedLive (close N p w).2 := by
  unfold close closePut ConnectedLive at *
  split
  · dsimp only; split_ifs <;> simpa using h
  · exact h

theorem closedir_connectedLive (p : Nat) {w : World σ} (h : ConnectedLive w) :
    ConnectedLive (closedir p w).2 := by
  unfold closedir
  split <;> exact h

theorem readdir_connectedLive (p : Nat) {w : World σ} (h : ConnectedLive w) :
    ConnectedLive (readdir p w).2 := by
  unfold readdir
  split
  · split <;> exact h
  · exact h

theorem utimes_connectedLive (u : Bytes) (t : Option Int) {w : World σ} (h : ConnectedLive w) :
    ConnectedLive (utimes N u t w).2 := by
  unfold utimes
  split
  · exact h
  · dsimp only
    split_ifs <;> exact h

theorem exec_connectedLive (w : World σ) (op : Op) (hop : op ≠ .shutdown) (h : ConnectedLive w) :
    ConnectedLive (exec P N w op).2 := by
  cases op
  case openFile u f => exact openFile_connectedLive P N u f h
  case creat u => exact write_connectedLive _ _ (openFile_connectedLive P N u _ h)
  case close p => exact close_connectedLive N p h
  case read p n => exact read_connectedLive p n h
  case write p d => exact write_connectedLive _ d h
  case opendir u => exact opendir_connectedLive P N u h
  case closedir p => exact closedir_connectedLive p h
  case readdir p => exact readdir_connectedLive p h
  case mkdir u => exact connectThenRequest_connectedLive N .mkcol N.mkcol u h
  case rmdir u => exact connectThenRequest_connectedLive N .delete N.delete u h
  case stat u => exact stat_connectedLive P N u _ h
  case rename u v => exact rename_connectedLive N u v h
  case unlink u => exact unlink_connectedLive N u h
  case utimes u t => exact utimes_connectedLive N u t h
  case shutdown => exact absurd rfl hop
  all_goals exact h

/-- Without a shutdown, every state a run reaches keeps the promise of `_connected`. -/
theorem run_connectedLive (ops : List Op) (hno : Op.shutdown ∉ ops) {w : World σ}
    (h : ConnectedLive w) : ConnectedLive (run P N ops w).2 := by
  induction ops generalizing w with
  | nil => exact h
  | cons op ops ih =>
    refine ih (fun hm => hno (List.mem_cons_of_mem _ hm)) ?_
    unfold step
    split
    · exact h
    · exact exec_connectedLive P N w op (fun he => hno (he ▸ List.mem_cons_self _ _)) h

/-- The calls that connect first and test the result before issuing a request. -/
def Op.connectsFirst : Op → Bool
  | .mkdir _ | .rmdir _ | .rename _ _ | .unlink _ => true
  | _ => false

/-- Every request added to the log between `w` and `w'` was handed a live session. -/
def IssuesLive (w w' : World σ) : Prop := ∀ c ∈ w'.calls, c ∈ w.calls ∨ c.2 = .live

theorem connectThenRequest_issuesLive (call : NeCall) (request : σ → Bytes → Int × σ)
    (u : Bytes) {w : World σ} (h : ConnectedLive w) :
    IssuesLive w (connectThenRequest N call request u w).2 := by
  unfold connectThenRequest IssuesLive
  dsimp only
  intro c hc
  split_ifs at hc with h1
  · exact .inl (by simpa using hc)
  all_goals
    simp only [World.logCall, World.usePath, davConnect_calls, List.mem_append,
      List.mem_singleton] at hc
    rcases hc with hc | rfl
    · exact .inl hc
    · exact .inr (davConnect_live N u h (by omega))

theorem rename_issuesLive (u v : Bytes) {w : World σ} (h : ConnectedLive w) :
    IssuesLive w (rename N u v w).2 := by
  unfold rename IssuesLive
  dsimp only
  intro c hc
  split_ifs at hc with h1
  · exact .inl (by simpa using hc)
  all_goals
    simp only [World.logCall, World.usePath, sessionErrno, davConnect_calls, List.mem_append,
      List.mem_singleton, or_assoc] at hc
    rcases hc with hc | rfl | rfl <;>
      first | exact .inl hc | exact .inr (davConnect_live N u h (by omega))

theorem unlink_issuesLive (u : Bytes) {w : World σ} (h : ConnectedLive w) :
    IssuesLive w (unlink N u w).2 := by
  unfold unlink IssuesLive
  intro c hc
  split at hc
  · exact .inl hc
  · dsimp only at hc
    split_ifs at hc with h1
    all_goals
      simp only [World.logCall, davConnect_calls, List.mem_append, List.mem_singleton] at hc
      first
        | exact .inl hc
        | rcases hc with hc | rfl
          · exact .inl hc
          · exact .inr (davConnect_live N u h (by rw [h1]; decide))

/-- Until the module is shut down, the calls that connect first hand neon only a live
session, in every state a run from the start reaches. -/
theorem connecting_calls_issue_live (disk : LocalFs) (server : σ) (ops : List Op)
    (hno : Op.shutdown ∉ ops) (op : Op) (hop : op.connectsFirst = true) :
    IssuesLive (run P N ops (.init disk server)).2 (exec P N (run P N ops (.init disk server)).2 op).2 := by
  have h := run_connectedLive P N ops hno (w := .init disk server) (fun h => absurd h (by simp [World.init]))
  cases op <;> simp only [Op.connectsFirst, Bool.false_eq_true] at hop
  case mkdir u => exact connectThenRequest_issuesLive N .mkcol N.mkcol u h
  case rmdir u => exact connectThenRequest_issuesLive N .delete N.delete u h
  case rename u v => exact rename_issuesLive N u v h
  case unlink u => exact unlink_issuesLive N u h

end

theorem connecting_calls_issue_live_after_listing :
    Op.shutdown ∉ [Op.opendir (cstr "owncloud://h/d1")] ∧
      IssuesLive (run sampleBuild DavServer.neon [.opendir (cstr "owncloud://h/d1")] (.init stdDisk twinServer)).2
        (exec sampleBuild DavServer.neon
          (run sampleBuild DavServer.neon [.opendir (cstr "owncloud://h/d1")] (.init stdDisk twinServer)).2
          (.rmdir (cstr "owncloud://h/d1"))).2 :=
  ⟨by decide, connecting_calls_issue_live sampleBuild DavServer.neon stdDisk twinServer _ (by decide) _ rfl⟩

theorem stat_before_connect_hands_null :
    (run sampleBuild DavServer.neon [.stat (cstr "owncloud://h/d1")] (.init stdDisk twinServer)).2.calls =
      [(.simplePropfind, .null)] ∧
    (run sampleBuild DavServer.neon
      [.opendir (cstr "owncloud://h/d1"), .shutdown, .mkdir (cstr "owncloud://h/d3")]
      (.init stdDisk twinServer)).2.calls =
      [(.simplePropfind, .live), (.sessionDestroy, .live), (.mkcol, .freed)] := by
  decide

end Owncloud
