import CsyncOwncloud.Lifecycle

/-! What the adapter leaves on the local disk. After every run that stays defined, each
temporary file `mkstemp` made during the run that still exists, and each descriptor opened
during the run that is still open, belongs to a live transfer handle, or was left by an `_open`
that returned no handle after its `mkstemp`: `_close` removes the file and closes the
descriptors of the handle it frees, and `_read` opens a descriptor only for its own handle. -/

namespace Owncloud

open LocalFs

section
variable {σ : Type}

/-- A live transfer handle holds this temporary file. -/
def HoldsName (w : World σ) (name : Bytes) : Prop :=
  ∃ p c, w.heap p = some (.transfer c) ∧ c.tmpFileName.getD [] = name

/-- A live transfer handle holds this descriptor. -/
def HoldsFd (w : World σ) (fd : Int) : Prop := ∃ p c, w.heap p = some (.transfer c) ∧ c.fd = fd

/-- Every temporary file made since `d0` that still exists, and every descriptor opened since
`d0` that is still open, is held by a live transfer handle or listed in `lost`; such a
descriptor is never negative. -/
structure Accounted (d0 : LocalFs) (lost : List (Bytes × Int)) (w : World σ) : Prop where
  files : ∀ n, Minted d0 w.disk n → (w.disk.files n).isSome → HoldsName w n ∨ n ∈ lost.map Prod.fst
  fds : ∀ fd, d0.fds.lookup fd = none → (w.disk.fds.lookup fd).isSome →
    0 ≤ fd ∧ (HoldsFd w fd ∨ fd ∈ lost.map Prod.snd)

/-- What a call that returned no handle left of a `mkstemp` it made: the file it named, the last
name the counter passed, and the descriptor it opened. -/
def lost (w w' : World σ) (failed : Bool) : List (Bytes × Int) :=
  if failed ∧ w.disk.tmpCount < w'.disk.tmpCount then [(tmpName (w'.disk.tmpCount - 1), lowestFree w.disk.fds)]
  else []

variable {d0 : LocalFs} {L : List (Bytes × Int)} {g s : Nat → Bytes} {w w' : World σ}

theorem Accounted.init (d : LocalFs) (server : σ) : Accounted d [] (World.init d server) where
  files _ h := let ⟨_, h1, h2, _⟩ := h; absurd h2 (by simpa [World.init] using h1)
  fds fd h0 h := by simp [World.init, h0] at h

theorem Accounted.append (ha : Accounted d0 L w) (L' : List (Bytes × Int)) : Accounted d0 (L ++ L') w where
  files n hn h := (ha.files n hn h).imp_right fun h => List.map_subset _ (List.subset_append_left _ _) h
  fds fd h0 h := (ha.fds fd h0 h).imp_right (Or.imp_right fun h => List.map_subset _ (List.subset_append_left _ _) h)

theorem HoldsName.keeps {n : Bytes} (h : HoldsName w n) (hs : Sound d0 g s w) (hk : Keeps w w') : HoldsName w' n :=
  let ⟨p, c, hp, hn⟩ := h; ⟨p, c, hk.2.2.2 p c (hs.below p c hp) hp, hn⟩

theorem HoldsFd.keeps {fd : Int} (h : HoldsFd w fd) (hs : Sound d0 g s w) (hk : Keeps w w') : HoldsFd w' fd :=
  let ⟨p, c, hp, hn⟩ := h; ⟨p, c, hk.2.2.2 p c (hs.below p c hp) hp, hn⟩

theorem Accounted.keeps (ha : Accounted d0 L w) (hs : Sound d0 g s w) (hk : Keeps w w') : Accounted d0 L w' where
  files n hn h := by
    rw [hk.1] at hn h; exact (ha.files n hn h).imp_left (·.keeps hs hk)
  fds fd h0 h := by
    rw [hk.1] at h; exact (ha.fds fd h0 h).imp_right (Or.imp_left (·.keeps hs hk))

theorem HoldsName.of_heap {n : Bytes} (h : HoldsName w n) (he : w'.heap = w.heap) : HoldsName w' n :=
  let ⟨p, c, hp, hn⟩ := h; ⟨p, c, he ▸ hp, hn⟩

theorem HoldsFd.of_heap {fd : Int} (h : HoldsFd w fd) (he : w'.heap = w.heap) : HoldsFd w' fd :=
  let ⟨p, c, hp, hn⟩ := h; ⟨p, c, he ▸ hp, hn⟩

theorem Accounted.of_disk (ha : Accounted d0 L w) {d : LocalFs} (hcount : d.tmpCount = w.disk.tmpCount)
    (hf : ∀ n, (d.files n).isSome → (w.disk.files n).isSome)
    (hfd : ∀ fd, (d.fds.lookup fd).isSome → (w.disk.fds.lookup fd).isSome ∨ 0 ≤ fd ∧ HoldsFd w fd) :
    Accounted d0 L { w with disk := d } where
  files n hn h := ha.files n (hn.mono hcount.le) (hf _ h)
  fds fd h0 h := (hfd fd h).elim (ha.fds fd h0) fun h => ⟨h.1, .inl h.2⟩

theorem Accounted.setHandle (ha : Accounted d0 L w) {p : Nat} {c c' : TransferContext}
    (hp : w.heap p = some (.transfer c)) (hname : c'.tmpFileName = c.tmpFileName) (hfd : c'.fd = c.fd ∨ c.fd = -1) :
    Accounted d0 L (w.setHandle p (some (.transfer c'))) where
  files n hn' h := (ha.files n hn' h).imp_left fun ⟨q, c₁, hq, hn⟩ => by
    by_cases hpq : q = p
    · subst hpq; rw [hp] at hq; cases hq
      exact ⟨q, c', by simp, by rw [hname, hn]⟩
    · exact ⟨q, c₁, by simpa [Function.update_noteq hpq] using hq, hn⟩
  fds fd h0 h := (ha.fds fd h0 h).imp_right (Or.imp_left fun ⟨q, c₁, hq, hn⟩ => by
    by_cases hpq : q = p
    · subst hpq; rw [hp] at hq; cases hq
      refine ⟨q, c', by simp, hfd.elim (·.trans hn) fun h' => ?_⟩
      have := (ha.fds fd h0 h).1; omega
    · exact ⟨q, c₁, by simpa [Function.update_noteq hpq] using hq, hn⟩)

theorem write_accounted (p : Nat) (z : Bytes) (ha : Accounted d0 L w) (hs : Sound d0 g s w) :
    Accounted d0 L (write (some p) z w).2 := by
  simp only [write]
  split
  · rename_i c hp
    split_ifs with hfd
    · obtain ⟨-, -, f, hl, hfp⟩ := (hs.live p c hp).fd.resolve_left (by omega)
      refine ⟨fun n hn h => ?_, fun fd h0 h => ha.fds fd h0 (by rwa [LocalFs.write, writeWith_lookup_isSome] at h)⟩
      rcases writeWith_files_isSome_of _ _ _ _ h with h | ⟨f', hf, rfl⟩
      · exact ha.files n (hn.mono (by simp [LocalFs.write])) h
      · rw [hl] at hf; cases hf; exact .inl ⟨p, c, hp, hfp.symm⟩
    · exact ha
  · exact ⟨ha.1, ha.2⟩

theorem Accounted.readDisk (ha : Accounted d0 L w) (fd : Int) (n : Nat) :
    Accounted d0 L { w with disk := (w.disk.read fd n).2.2 } :=
  ha.of_disk (by simp) (by simp) fun _ h => .inl (by rwa [read_lookup_isSome] at h)

theorem read_accounted (p n : Nat) (ha : Accounted d0 L w) :
    Accounted d0 L (read p n w).2.2 := by
  unfold read
  split
  · rename_i c hp
    by_cases hfd : c.fd = -1
    · have h₀ : Accounted d0 L
          (w.setHandle p (some (.transfer { c with fd := (w.disk.openRead (c.tmpFileName.getD [])).1 }))) :=
        ha.setHandle hp rfl (.inr hfd)
      have h₁ := h₀.of_disk (d := (w.disk.openRead (c.tmpFileName.getD [])).2) (by simp) (by simp) fun fd h => by
        rcases w.disk.openRead_cases (c.tmpFileName.getD []) with ⟨-, he⟩ | ⟨-, he⟩
        · rw [he] at h; exact .inl h
        rw [he, lookup_cons_ite] at h
        split_ifs at h with hx
        · exact .inr ⟨hx ▸ lowestFree_nonneg _, p, { c with fd := (w.disk.openRead (c.tmpFileName.getD [])).1 },
            by simp, by rw [he, hx]⟩
        · exact .inl h
      simp only [if_pos hfd]
      split_ifs
      exacts [h₁, h₁.readDisk _ _, h₁]
    · have h₁ : Accounted d0 L { w.setHandle p (some (.transfer { c with fd := c.fd })) with disk := w.disk } :=
        ha.setHandle hp rfl (.inl rfl)
      simp only [if_neg hfd]
      split_ifs
      exacts [h₁, h₁.readDisk _ _, h₁]
  · exact ⟨ha.1, ha.2⟩

theorem HoldsName.free {p : Nat} {c : TransferContext} {n : Bytes} (h : HoldsName w n)
    (hp : w.heap p = some (.transfer c)) (hne : n ≠ c.tmpFileName.getD []) : HoldsName (w.setHandle p none) n := by
  obtain ⟨q, c', hq, rfl⟩ := h
  refine ⟨q, c', ?_, rfl⟩
  rw [World.setHandle_heap, Function.update_noteq (by rintro rfl; rw [hp] at hq; cases hq; exact hne rfl)]
  exact hq

theorem HoldsFd.free {p : Nat} {c : TransferContext} {fd : Int} (h : HoldsFd w fd)
    (hp : w.heap p = some (.transfer c)) (hne : fd ≠ c.fd) : HoldsFd (w.setHandle p none) fd := by
  obtain ⟨q, c', hq, rfl⟩ := h
  refine ⟨q, c', ?_, rfl⟩
  rw [World.setHandle_heap, Function.update_noteq (by rintro rfl; rw [hp] at hq; cases hq; exact hne rfl)]
  exact hq

theorem lost_made {n : Nat} (h : w'.disk.tmpCount = n + 1) (hn : w.disk.tmpCount ≤ n) :
    lost w w' true = [(tmpName n, lowestFree w.disk.fds)] := by
  simp [lost, h, Nat.lt_succ_of_le hn]

theorem lost_false : lost w w' false = [] := by simp [lost]

theorem Accounted.mint (ha : Accounted d0 L w) (hs : Sound d0 g s w) {E : List (Bytes × Int)} {n : Nat}
    (hheap : ∀ q c, q < w.nextPtr → w.heap q = some (.transfer c) → w'.heap q = some (.transfer c))
    (hfiles : ∀ m, m ≠ tmpName n → w'.disk.files m = w.disk.files m)
    (hfds : ∀ fd, (w'.disk.fds.lookup fd).isSome → (w.disk.fds.lookup fd).isSome ∨ fd = lowestFree w.disk.fds)
    (hname : HoldsName w' (tmpName n) ∨ tmpName n ∈ E.map Prod.fst)
    (hfd : (w'.disk.fds.lookup (lowestFree w.disk.fds)).isSome →
      HoldsFd w' (lowestFree w.disk.fds) ∨ lowestFree w.disk.fds ∈ E.map Prod.snd) :
    Accounted d0 (L ++ E) w' where
  files m hm h := by
    by_cases hn : m = tmpName n
    · subst hn
      exact hname.imp_right fun h => List.map_subset _ (List.subset_append_right _ _) h
    · rw [hfiles _ hn] at h
      rcases ha.files m (hs.disk.minted_of_isSome hm h) h with ⟨q, c, hq, he⟩ | h
      · exact .inl ⟨q, c, hheap q c (hs.below q c hq) hq, he⟩
      · exact .inr (List.map_subset _ (List.subset_append_left _ _) h)
  fds fd h0 h := by
    rcases hfds fd h with h' | rfl
    · obtain ⟨hn, hh⟩ := ha.fds fd h0 h'
      exact ⟨hn, hh.imp (fun ⟨q, c, hq, he⟩ => ⟨q, c, hheap q c (hs.below q c hq) hq, he⟩)
        fun h => List.map_subset _ (List.subset_append_left _ _) h⟩
    · exact ⟨lowestFree_nonneg _, (hfd h).imp_right fun h => List.map_subset _ (List.subset_append_right _ _) h⟩

theorem Accounted.mint_lost (ha : Accounted d0 L w) (hs : Sound d0 g s w) {n : Nat} (hheap : w'.heap = w.heap)
    (hfiles : ∀ m, m ≠ tmpName n → w'.disk.files m = w.disk.files m)
    (hfds : ∀ fd, (w'.disk.fds.lookup fd).isSome → (w.disk.fds.lookup fd).isSome ∨ fd = lowestFree w.disk.fds) :
    Accounted d0 (L ++ [(tmpName n, lowestFree w.disk.fds)]) w' :=
  have hnew := List.mem_singleton_self (tmpName n, lowestFree w.disk.fds)
  ha.mint hs (fun _ _ _ h => hheap ▸ h) hfiles hfds (.inr (List.mem_map_of_mem _ hnew))
    fun _ => .inr (List.mem_map_of_mem _ hnew)

theorem Accounted.free (ha : Accounted d0 L w) {p : Nat} {c : TransferContext} (hp : w.heap p = some (.transfer c))
    {r : World σ} (hheap : r.heap = w.heap) (hcount : r.disk.tmpCount = w.disk.tmpCount)
    (hfiles : r.disk.files = w.disk.files)
    (hfds : ∀ fd, (r.disk.fds.lookup fd).isSome → (w.disk.fds.lookup fd).isSome ∧ (c.fd > -1 → fd ≠ c.fd)) :
    Accounted d0 L { r.setHandle p none with disk := (r.disk.unlink (c.tmpFileName.getD [])).2 } where
  files m hm h := by
    simp only [unlink_snd] at h
    by_cases hn : m = c.tmpFileName.getD []
    · rw [hn, Function.update_same] at h; cases h
    · rw [Function.update_noteq hn, hfiles] at h
      exact (ha.files m (hm.mono (by simp [hcount])) h).imp_left fun h =>
        (h.free hp hn).of_heap (by simp [hheap])
  fds fd h0 h := by
    simp only [unlink_snd] at h
    obtain ⟨h, hne⟩ := hfds fd h
    obtain ⟨hfd, hh⟩ := ha.fds fd h0 h
    have hne : fd ≠ c.fd := fun he => by
      by_cases hc : c.fd > -1
      · exact hne hc he
      · omega
    exact ⟨hfd, hh.imp_left fun h => (h.free hp hne).of_heap (by simp [hheap])⟩

variable (P : Platform) (N : Neon σ)

theorem closePut_disk (c : TransferContext) (w : World σ) :
    (closePut N c w).2.heap = w.heap ∧ (closePut N c w).2.disk.tmpCount = w.disk.tmpCount ∧
      (closePut N c w).2.disk.files = w.disk.files ∧
      ∀ fd, ((closePut N c w).2.disk.fds.lookup fd).isSome → (w.disk.fds.lookup fd).isSome ∧ (c.fd > -1 → fd ≠ c.fd) := by
  by_cases hfd : c.fd > -1
  · obtain ⟨hheap, -, hd⟩ := closePut_frame N c w hfd
    refine ⟨hheap, by rw [hd]; split_ifs <;> simp, by rw [hd]; split_ifs <;> simp, fun x h => ?_⟩
    have hx : ((w.disk.close c.fd).2.fds.lookup x).isSome → (w.disk.fds.lookup x).isSome ∧ (c.fd > -1 → x ≠ c.fd) := by
      rw [close_lookup]
      split_ifs with h1
      · simp
      · exact fun h => ⟨h, fun _ => h1⟩
    rw [hd] at h
    rcases (w.disk.close c.fd).2.openRead_cases (c.tmpFileName.getD []) with ⟨he, he'⟩ | ⟨-, he⟩
    · rw [he, he'] at h
      exact hx (by simpa using h)
    · have hn := lowestFree_nonneg (w.disk.close c.fd).2.fds
      rw [he, if_neg (not_lt.mpr hn), close_lookup] at h
      split_ifs at h with h1
      · simp at h
      · exact hx (by simpa [lookup_cons_ite, h1] using h)
  · unfold closePut
    rw [if_neg hfd]
    exact ⟨rfl, rfl, rfl, fun x h => ⟨h, fun h' => absurd h' hfd⟩⟩

theorem close_accounted (p : Nat) (ha : Accounted d0 L w) : Accounted d0 L (close N p w).2 := by
  unfold close
  split
  · rename_i c hp
    dsimp only
    split_ifs with hm hfd
    · obtain ⟨h1, h2, h3, h4⟩ := closePut_disk N c w
      exact ha.free hp h1 h2 h3 h4
    · refine ha.free hp rfl (by simp) (by simp) fun x h => ?_
      rw [close_lookup] at h
      split_ifs at h with h1
      · simp at h
      · exact ⟨h, fun _ => h1⟩
    · exact ha.free hp rfl rfl rfl fun x h => ⟨h, fun h' => absurd h' hfd⟩
  · exact ⟨ha.1, ha.2⟩

theorem openTransfer_accounted (u : Option Bytes) (put : Bool) (ha : Accounted d0 L w) (hs : Sound d0 g s w) :
    Accounted d0 (L ++ lost w (openTransfer N u put w).2 (openTransfer N u put w).1.isNone)
      (openTransfer N u put w).2 := by
  cases u with
  | none => simpa [openTransfer, lost] using ha
  | some u =>
    rcases w.disk.mkstemp_cases with ⟨h1, h2⟩ | ⟨n, hn, -, he⟩
    · simp only [openTransfer, h1, if_true]
      rw [lost, if_neg (by simp [h2]), List.append_nil]
      exact ha.of_disk (by simp [h2]) (by simp [h2]) fun fd h => .inl (by simpa [h2] using h)
    have hm : lowestFree w.disk.fds ≠ -1 := by have := lowestFree_nonneg w.disk.fds; omega
    have hfiles := fun m => @made_files_of_ne w.disk n m
    have hfds := fun fd => @made_lookup_isSome w.disk n fd
    simp only [openTransfer, he, if_neg hm]
    split_ifs with hput hr hg
    · rw [Option.isNone_none, lost_made (by simp) hn]
      exact ha.mint_lost hs rfl hfiles hfds
    · rw [Option.isNone_some, lost_false]
      set c₁ : TransferContext := ⟨some u, lowestFree w.disk.fds, some (tmpName n), cstr "PUT"⟩
      exact ha.mint hs (fun q c hq h => by simpa [Function.update_noteq (Nat.ne_of_lt hq)] using h)
        hfiles hfds (.inl ⟨w.nextPtr, c₁, by simp, rfl⟩) fun _ => .inl ⟨w.nextPtr, c₁, by simp, rfl⟩
    · obtain ⟨h1, h2, h3⟩ := made_writeAll_close w.disk n _ rfl
      rw [Option.isNone_none, lost_made h1 hn]
      exact ha.mint_lost hs rfl h2 fun fd h => .inl (h3 fd h)
    · obtain ⟨h1, h2, h3⟩ := made_writeAll_close w.disk n _ rfl
      rw [Option.isNone_some, lost_false]
      set c₁ : TransferContext := ⟨none, -1, some (tmpName n), cstr "GET"⟩
      exact ha.mint hs (fun q c hq h => by simpa [Function.update_noteq (Nat.ne_of_lt hq)] using h) h2
        (fun fd h => .inl (h3 fd h)) (.inl ⟨w.nextPtr, c₁, by simp, rfl⟩)
        fun h => absurd (h3 _ h) (by simp [lookup_lowestFree])

theorem lost_of_disk {w₁ : World σ} (h : w₁.disk = w.disk) (w' : World σ) (b : Bool) :
    lost w₁ w' b = lost w w' b := by
  simp only [lost, h]

theorem lost_of_tmpCount {w₁ w₂ : World σ} (h : w₁.disk.tmpCount = w₂.disk.tmpCount) (b : Bool) :
    lost w w₁ b = lost w w₂ b := by
  simp only [lost, h]

theorem openFile_accounted (u : Bytes) (f : OpenFlags) (ha : Accounted d0 L w) (hs : Sound d0 g s w) :
    Accounted d0 (L ++ lost w (openFile P N u f w).2 (openFile P N u f w).1.isNone) (openFile P N u f w).2 := by
  unfold openFile
  dsimp only
  by_cases hc : (cleanPath u).isSome = true
  · have hk₁ := davConnect_keeps N u w
    have hk₂ := stat_keeps P N (cDirname u) .zero (davConnect N u w).2
    have ha₂ := (ha.keeps hs hk₁).keeps (hs.keeps hk₁) hk₂
    have hs₂ := (hs.keeps hk₁).keeps hk₂
    simp only [hc, if_true, true_and]
    split_ifs
    · exact (ha₂.keeps hs₂ (by simp [Keeps])).append _
    · rw [← lost_of_disk (hk₂.1.trans hk₁.1)]
      exact openTransfer_accounted N _ _ ha₂ hs₂
    · rw [← lost_of_disk hk₁.1]
      exact openTransfer_accounted N _ _ (ha.keeps hs hk₁) (hs.keeps hk₁)
  · simp only [hc, if_false, false_and]
    exact openTransfer_accounted N _ _ ha hs

theorem write_disk_tmpCount (h : Option Nat) (z : Bytes) (w : World σ) :
    (write h z w).2.disk.tmpCount = w.disk.tmpCount := by
  unfold write
  split
  · rfl
  · split
    · split_ifs <;> simp [LocalFs.write]
    · rfl

theorem creat_accounted (u : Bytes) (ha : Accounted d0 L w) (hs : Sound d0 g s w) :
    Accounted d0 (L ++ lost w (creat P N u w).2 (creat P N u w).1.isNone) (creat P N u w).2 := by
  have ho := openFile_accounted P N u ⟨true, false, true⟩ ha hs
  unfold creat
  dsimp only
  rw [lost_of_tmpCount (write_disk_tmpCount _ _ _)]
  cases hp : (openFile P N u ⟨true, false, true⟩ w).1 with
  | none => simpa [write, hp] using ho
  | some p =>
    rw [hp] at ho
    exact write_accounted p [] ho (openFile_sound P N u _ hs)

/-- What a call left of a `mkstemp` it made without returning a handle. -/
def leftBy (w : World σ) (op : Op) : List (Bytes × Int) :=
  lost w (step P N w op).2 ((step P N w op).1 == .handle none)

theorem handle_beq_none (x : Option Nat) : (Out.handle x == .handle none) = x.isNone := by
  cases x <;> rfl

/-- One call keeps every temporary file and descriptor accounted for. -/
theorem exec_accounted (op : Op) (ha : Accounted d0 L w) (hs : Sound d0 g s w) (hw : w.ub = false) :
    Accounted d0 (L ++ leftBy P N w op) (exec P N w op).2 := by
  have hstep : step P N w op = exec P N w op := by simp [step, hw]
  rw [leftBy, hstep]
  cases op
  case openFile u f => simpa only [exec, handle_beq_none] using openFile_accounted P N u f ha hs
  case creat u => simpa only [exec, handle_beq_none] using creat_accounted P N u ha hs
  all_goals refine Accounted.append ?_ _
  case close p => exact close_accounted N p ha
  case read p n => exact read_accounted p n ha
  case write p d => exact write_accounted p d ha hs
  case opendir u => exact ha.keeps hs (opendir_keeps P N u w)
  case closedir p => exact ha.keeps hs (closedir_keeps p w)
  case readdir p => exact ha.keeps hs (readdir_keeps p w)
  case mkdir u => exact ha.keeps hs (connectThenRequest_keeps N _ _ u w)
  case rmdir u => exact ha.keeps hs (connectThenRequest_keeps N _ _ u w)
  case stat u => exact ha.keeps hs (stat_keeps P N u _ w)
  case rename u v => exact ha.keeps hs (rename_keeps N u v w)
  case unlink u => exact ha.keeps hs (unlink_keeps N u w)
  case utimes u t => exact ha.keeps hs (utimes_keeps N u t w)
  case shutdown => exact ha.keeps hs (shutdown_keeps w)
  all_goals exact ha

/-- What a run's calls left, call by call. -/
def leftByRun : List Op → World σ → List (Bytes × Int)
  | [], _ => []
  | op :: ops, w => leftBy P N w op ++ leftByRun ops (step P N w op).2

theorem leftByRun_frozen (ops : List Op) {w : World σ} (h : w.ub = true) : leftByRun P N ops w = [] := by
  induction ops with
  | nil => rfl
  | cons op ops ih => simp [leftByRun, leftBy, step, h, ih, lost]

/-- Over every run, what the calls leave is all that is left unaccounted for. -/
theorem run_accounted (ops : List Op) (ha : Accounted d0 L w) (hs : Sound d0 g s w) :
    Accounted d0 (L ++ leftByRun P N ops w) (run P N ops w).2 := by
  induction ops generalizing L g s w with
  | nil => simpa [leftByRun, run] using ha
  | cons op ops ih =>
    cases hw : w.ub
    case true => rw [run_frozen P N _ hw, leftByRun_frozen P N _ hw, List.append_nil]; exact ha
    case false =>
      have h₁ := exec_accounted P N op ha hs hw
      simp only [run, leftByRun, step, hw, Bool.false_eq_true, if_false, ← List.append_assoc]
      cases hx : (exec P N w op).2.ub
      case false => exact ih h₁ (exec_sound P N op hs hx)
      case true => rw [run_frozen P N _ hx, leftByRun_frozen P N _ hx, List.append_nil]; exact h₁

/-- A GET of a missing file, then an upload begun. -/
def leakRun : List Op :=
  [.openFile (cstr "owncloud://h/d1/nope") ⟨false, false, false⟩, .creat (cstr "owncloud://h/d1/f")]

end

end Owncloud
