import CsyncOwncloud.Catalog

/-! Directory handles over runs that interleave other calls. A call changes the handles only
by allocating at `nextPtr` or by replacing the one handle it is given, so a `_readdir` cursor
moves with the `_readdir` calls on its own handle and nothing else: they answer its records in
order, each once, then NULL, whatever calls on other handles, other paths or the server come
between. -/

namespace Owncloud

/-- The handle a call is given. -/
def Op.given : Op → Option Nat
  | .close h | .read h _ | .write h _ | .lseek h | .closedir h | .readdir h => some h
  | _ => none

/-- The answers a run's `_readdir` calls on handle `h` gave, in order, from the run's answers. -/
def readdirAnswers (h : Nat) : List Op → List Out → List Out
  | op :: ops, o :: outs => (if op = .readdir h then [o] else []) ++ readdirAnswers h ops outs
  | _, _ => []

section
variable {σ : Type}

/-- A step from `w` to `w'` by a call given the handle `g`: `nextPtr` does not go down, and
every handle below it but `g` keeps its contents. -/
def HeapFrame (g : Option Nat) (w w' : World σ) : Prop :=
  w.nextPtr ≤ w'.nextPtr ∧ ∀ q, q < w.nextPtr → g ≠ some q → w'.heap q = w.heap q

variable {g : Option Nat} {w w₁ w₂ : World σ}

theorem HeapFrame.of_eq (hh : w₁.heap = w.heap) (hn : w₁.nextPtr = w.nextPtr) : HeapFrame g w w₁ :=
  ⟨hn.ge, fun _ _ _ => by rw [hh]⟩

theorem HeapFrame.trans (h₁ : HeapFrame g w w₁) (h₂ : HeapFrame g w₁ w₂) : HeapFrame g w w₂ :=
  ⟨h₁.1.trans h₂.1, fun q hq hg => (h₂.2 q (hq.trans_le h₁.1) hg).trans (h₁.2 q hq hg)⟩

theorem HeapFrame.alloc (x : Handle) : HeapFrame g w (w.alloc x).2 :=
  ⟨by simp, fun q hq _ => by simp [Function.update_noteq (Nat.ne_of_lt hq)]⟩

theorem HeapFrame.of_update {p : Nat} {x : Option Handle} (hh : w₁.heap = Function.update w.heap p x)
    (hn : w₁.nextPtr = w.nextPtr) : HeapFrame (some p) w w₁ :=
  ⟨hn.ge, fun q _ hq => by rw [hh, Function.update_noteq fun he => hq (by rw [he])]⟩

variable (P : Platform) (N : Neon σ)

theorem statNetwork_heapFrame (u : Bytes) (buf : FileStat) (w : World σ) :
    HeapFrame g w (statNetwork P N u buf w).2.2 := by
  unfold statNetwork; dsimp only
  split
  · exact .of_eq rfl rfl
  · split_ifs
    · exact .of_eq rfl rfl
    · split <;> exact .of_eq rfl rfl

theorem stat_heapFrame (u : Bytes) (buf : FileStat) (w : World σ) : HeapFrame g w (stat P N u buf w).2.2 := by
  unfold stat; split_ifs
  · exact .of_eq rfl rfl
  · exact statNetwork_heapFrame P N u _ w

theorem opendir_heapFrame (u : Bytes) (w : World σ) : HeapFrame g w (opendir P N u w).2 := by
  unfold opendir; dsimp only
  split
  · exact .of_eq (by simp) (by simp)
  · split_ifs
    · exact .of_eq (by simp) (by simp)
    · exact (HeapFrame.of_eq (by simp) (by simp)).trans (.alloc _)

theorem readdir_heapFrame (h : Nat) (w : World σ) : HeapFrame (some h) w (readdir h w).2 := by
  unfold readdir
  split
  · split
    · exact .of_eq rfl rfl
    · exact .of_update rfl rfl
  · exact .of_eq rfl rfl

theorem closedir_heapFrame (h : Nat) (w : World σ) : HeapFrame (some h) w (closedir h w).2 := by
  unfold closedir
  split
  · exact .of_update rfl rfl
  · exact .of_eq rfl rfl

theorem connectThenRequest_heapFrame (call : NeCall) (request : σ → Bytes → Int × σ) (u : Bytes)
    (w : World σ) : HeapFrame g w (connectThenRequest N call request u w).2 := by
  unfold connectThenRequest; dsimp only; split_ifs <;> exact .of_eq (by simp) (by simp)

theorem rename_heapFrame (u v : Bytes) (w : World σ) : HeapFrame g w (rename N u v w).2 := by
  unfold rename; dsimp only; split_ifs <;> exact .of_eq (by simp) (by simp)

theorem unlink_heapFrame (u : Bytes) (w : World σ) : HeapFrame g w (unlink N u w).2 := by
  unfold unlink; split
  · exact .of_eq rfl rfl
  · dsimp only; split_ifs <;> exact .of_eq (by simp) (by simp)

theorem utimes_heapFrame (u : Bytes) (t : Option Int) (w : World σ) : HeapFrame g w (utimes N u t w).2 := by
  unfold utimes; split
  · exact .of_eq rfl rfl
  · dsimp only; split_ifs <;> exact .of_eq rfl rfl

theorem openTransfer_heapFrame (u : Option Bytes) (put : Bool) (w : World σ) :
    HeapFrame g w (openTransfer N u put w).2 := by
  unfold openTransfer
  split
  · exact .of_eq rfl rfl
  · dsimp only
    split_ifs
    all_goals first | exact .of_eq rfl rfl | exact (HeapFrame.of_eq rfl rfl).trans (.alloc _)

theorem openFile_heapFrame (u : Bytes) (f : OpenFlags) (w : World σ) : HeapFrame g w (openFile P N u f w).2 := by
  have h₁ : HeapFrame g w (if (cleanPath u).isSome then (davConnect N u w).2 else w) := by
    split_ifs <;> exact .of_eq (by simp) (by simp)
  unfold openFile; dsimp only
  generalize (if (cleanPath u).isSome = true then (davConnect N u w).2 else w) = w₁ at h₁ ⊢
  split_ifs
  · exact h₁.trans ((stat_heapFrame P N _ _ _).trans (.of_eq rfl rfl))
  · exact h₁.trans ((stat_heapFrame P N _ _ _).trans (openTransfer_heapFrame N _ _ _))
  · exact h₁.trans (openTransfer_heapFrame N _ _ _)

theorem write_heapFrame (h : Option Nat) (d : Bytes) (w : World σ) : HeapFrame g w (write h d w).2 := by
  unfold write
  split
  · exact .of_eq rfl rfl
  · split
    · split_ifs <;> exact .of_eq rfl rfl
    · exact .of_eq rfl rfl

theorem read_heapFrame (h n : Nat) (w : World σ) : HeapFrame (some h) w (read h n w).2.2 := by
  unfold read
  split
  · dsimp only; split_ifs <;> exact .of_update rfl rfl
  · exact .of_eq rfl rfl

theorem close_heapFrame (h : Nat) (w : World σ) : HeapFrame (some h) w (close N h w).2 := by
  unfold close
  split
  · refine HeapFrame.trans ?_ (.of_update rfl rfl)
    dsimp only
    split_ifs
    · simp only [closePut]
      split_ifs <;> exact .of_eq (by simp) (by simp)
    all_goals exact .of_eq rfl rfl
  · exact .of_eq rfl rfl

/-- Every call keeps every handle below `nextPtr` but the one it is given. -/
theorem exec_heapFrame (op : Op) (w : World σ) : HeapFrame op.given w (exec P N w op).2 := by
  cases op
  case openFile u f => exact openFile_heapFrame P N u f w
  case creat u => exact (openFile_heapFrame P N u _ w).trans (write_heapFrame _ [] _)
  case close h => exact close_heapFrame N h w
  case read h n => exact read_heapFrame h n w
  case write h d => exact write_heapFrame (some h) d w
  case opendir u => exact opendir_heapFrame P N u w
  case closedir h => exact closedir_heapFrame h w
  case readdir h => exact readdir_heapFrame h w
  case mkdir u => exact connectThenRequest_heapFrame N _ _ u w
  case rmdir u => exact connectThenRequest_heapFrame N _ _ u w
  case stat u => exact stat_heapFrame P N u _ w
  case rename u v => exact rename_heapFrame N u v w
  case unlink u => exact unlink_heapFrame N u w
  case utimes u t => exact utimes_heapFrame N u t w
  all_goals exact .of_eq rfl rfl

theorem take_append_replicate_succ {α : Type} (l : List α) (a : α) (k : Nat) :
    (l ++ List.replicate (k + 1) a).take k = (l ++ List.replicate k a).take k := by
  simp only [List.take_append_eq_append_take, List.take_replicate]
  congr 2
  omega

/-- Over every run that stays defined from a process in which `h` is a directory handle below
`nextPtr` with the records `rs` ahead of its cursor, and in which no call but `_readdir` is
given `h`, the `_readdir` calls on `h` answer the records in order, then NULL. -/
theorem run_readdir_interleaved (ops : List Op) {w : World σ} {h : Nat} {c : ListdirContext}
    (hh : w.heap h = some (.dir c)) (hlt : h < w.nextPtr)
    (hops : ∀ op ∈ ops, op.given = some h → op = .readdir h) (hub : (run P N ops w).2.ub = false) :
    readdirAnswers h ops (run P N ops w).1 =
      (c.currResource.map (fun r => Out.entry (some (resourceToFileStat r))) ++
        List.replicate (ops.count (.readdir h)) (Out.entry none)).take (ops.count (.readdir h)) := by
  induction ops generalizing w c with
  | nil => rfl
  | cons op ops ih =>
    obtain ⟨hw, -, hub⟩ := ub_of_run_cons P N hub
    have hops' := fun op' hm => hops op' (List.mem_cons_of_mem op hm)
    simp only [run, step, hw, Bool.false_eq_true, if_false, readdirAnswers, List.count_cons]
    by_cases hop : op = .readdir h
    · subst hop
      cases hr : c.currResource with
      | nil =>
        have he : exec P N w (.readdir h) = (.entry none, w) := by simp [exec, readdir, hh, hr]
        rw [he] at hub ⊢
        rw [ih hh hlt hops' hub, hr]
        simp [List.replicate_succ]
      | cons r rs =>
        have h₁ : (exec P N w (.readdir h)).2.heap h = some (.dir { c with currResource := rs }) := by
          simp [exec, readdir, hh, hr]
        have h₂ : (exec P N w (.readdir h)).1 = .entry (some (resourceToFileStat r)) := by
          simp [exec, readdir, hh, hr]
        rw [ih h₁ (hlt.trans_le (readdir_heapFrame h w).1) hops' hub, h₂]
        simp [take_append_replicate_succ]
    · have hf := exec_heapFrame P N op w
      have hg : op.given ≠ some h := fun he => hop (hops op (List.mem_cons_self op ops) he)
      rw [ih (by rw [hf.2 h hlt hg, hh]) (hlt.trans_le hf.1) hops' hub]
      simp [hop]

/-- Over every run that stays defined after `_opendir` returned handle `h`, in which no call
but `_readdir` is given `h`, the run's `_readdir` calls on `h` answer the catalogued records of
the listing `_opendir` made, in order and each once, then NULL, whatever calls on other
handles, other paths or the server came between. -/
theorem readdir_interleaved (u : Bytes) (w w' : World σ) (h : Nat) (ho : opendir P N u w = (some h, w'))
    (ops : List Op) (hops : ∀ op ∈ ops, op.given = some h → op = .readdir h)
    (hub : (run P N ops w').2.ub = false) :
    ∃ ctx, listing P (.init (cleanPath u) false) (N.simplePropfind w.server ((cleanPath u).getD [])).2 = some ctx ∧
      Catalog (kept P (cleanPath u) false (N.simplePropfind w.server ((cleanPath u).getD [])).2) ctx ∧
      readdirAnswers h ops (run P N ops w').1 =
        (ctx.list.map (fun r => Out.entry (some (resourceToFileStat r))) ++
          List.replicate (ops.count (.readdir h)) (Out.entry none)).take (ops.count (.readdir h)) := by
  obtain ⟨ctx, hl, hh, hlt⟩ := opendir_some P N ho
  have hcat := listing_catalog P (Catalog.init _ _) hl
  rw [List.nil_append] at hcat
  exact ⟨ctx, hl, hcat, run_readdir_interleaved P N ops hh hlt hops hub⟩

/-- `_readdir` on the listing of `/d1`, with a `_stat`, a second listing read through its own
handle and an `_mkdir` between. -/
def interleavedRun : List Op :=
  [.readdir 1, .stat (cstr "owncloud://h/d2/x"), .opendir (cstr "owncloud://h/d2"), .readdir 2,
    .readdir 1, .mkdir (cstr "owncloud://h/d3"), .readdir 1, .readdir 1]

theorem readdir_interleaved_twin :
    (readdirAnswers 1 interleavedRun (run sampleBuild DavServer.neon interleavedRun
      (opendir sampleBuild DavServer.neon (cstr "owncloud://h/d1") (.init stdDisk twinServer)).2).1).drop 1 =
        List.replicate 3 (.entry none) ∧
    ∃ ctx, listing sampleBuild (.init (cleanPath (cstr "owncloud://h/d1")) false)
        (DavServer.neon.simplePropfind twinServer ((cleanPath (cstr "owncloud://h/d1")).getD [])).2 = some ctx ∧
      Catalog (kept sampleBuild (cleanPath (cstr "owncloud://h/d1")) false
        (DavServer.neon.simplePropfind twinServer ((cleanPath (cstr "owncloud://h/d1")).getD [])).2) ctx ∧
      readdirAnswers 1 interleavedRun (run sampleBuild DavServer.neon interleavedRun
        (opendir sampleBuild DavServer.neon (cstr "owncloud://h/d1") (.init stdDisk twinServer)).2).1 =
        (ctx.list.map (fun r => Out.entry (some (resourceToFileStat r))) ++
          List.replicate (interleavedRun.count (.readdir 1)) (Out.entry none)).take (interleavedRun.count (.readdir 1)) :=
  ⟨by decide, readdir_interleaved sampleBuild DavServer.neon (cstr "owncloud://h/d1") (.init stdDisk twinServer) _ 1
    (Prod.ext (by decide) rfl) interleavedRun (by decide) (by decide)⟩

end

end Owncloud
