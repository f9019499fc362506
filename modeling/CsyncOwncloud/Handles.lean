import CsyncOwncloud.Server

/-! The transfer handles and the local disk over whole runs. `_open` gives every handle a
temporary file of its own, from `mkstemp`, and a descriptor opened by the adapter; `_write`,
`_read` and `_close` touch only the file and the descriptor of the handle they are given,
whichever of their local calls the kernel fails. `Sound` states this of a process together
with the bytes written through each handle, and holds after every call of a run that stays
defined: the files the process had and the descriptors it had open before the first call are
never touched, and an upload's temporary file holds exactly the bytes the kernel took through
its handle, while the bytes read through a download are the start of its temporary file, up to
the descriptor's offset. -/

namespace Owncloud

open LocalFs

section
variable (d0 : LocalFs)

/-- A name `mkstemp` has handed out since the disk was `d0`, before the disk `d`: one of the
names `/tmp/csync.<k>` from `d0`'s counter on that no file had at `d0`. -/
def Minted (d : LocalFs) (name : Bytes) : Prop :=
  ∃ k, d0.tmpCount ≤ k ∧ k < d.tmpCount ∧ name = tmpName k ∧ d0.files name = none

/-- The process's own files and descriptors: every file but those `mkstemp` made since `d0`,
and every descriptor open in `d0`, are as they were. -/
structure DiskKeeps (d : LocalFs) : Prop where
  count_le : d0.tmpCount ≤ d.tmpCount
  files_eq : ∀ name, ¬Minted d0 d name → d.files name = d0.files name
  fds_eq : ∀ fd f, d0.fds.lookup fd = some f → d.fds.lookup fd = some f

/-- A live transfer handle with `data` written and `seen` read through it. Its temporary file
was minted by the adapter and exists; its descriptor is -1 or one the adapter opened on that
file; an upload's descriptor is open for writing at the end of the file, which holds `data`;
nothing is written through a download, which has read nothing while its descriptor is -1, and
after that, through a descriptor open for reading only, the file up to the offset. -/
structure HandleOk (d : LocalFs) (c : TransferContext) (data seen : Bytes) : Prop where
  minted : Minted d0 d (c.tmpFileName.getD [])
  present : (d.files (c.tmpFileName.getD [])).isSome
  fd : c.fd = -1 ∨ 0 ≤ c.fd ∧ d0.fds.lookup c.fd = none ∧
    ∃ f, d.fds.lookup c.fd = some f ∧ f.path = c.tmpFileName.getD []
  upload : c.method = cstr "PUT" → c.fd ≠ -1 ∧ d.files (c.tmpFileName.getD []) = some data ∧
    d.fds.lookup c.fd = some ⟨c.tmpFileName.getD [], data.length, true⟩
  reads : c.method ≠ cstr "PUT" → data = [] ∧ (c.fd = -1 → seen = []) ∧
    ∀ f, c.fd ≠ -1 → d.fds.lookup c.fd = some f →
      f.writable = false ∧ seen = ((d.files (c.tmpFileName.getD [])).getD []).take f.pos

end

variable {d0 d d' : LocalFs} {c c' : TransferContext} {x y r r' : Bytes}

theorem Minted.mono {n : Bytes} (h : Minted d0 d n) (hc : d.tmpCount ≤ d'.tmpCount) : Minted d0 d' n :=
  let ⟨k, h1, h2, h3, h4⟩ := h; ⟨k, h1, by omega, h3, h4⟩

theorem Minted.ne_of_le {n : Bytes} {m : Nat} (h : Minted d0 d n) (hm : d.tmpCount ≤ m) : n ≠ tmpName m := by
  obtain ⟨k, -, hk, rfl, -⟩ := h
  exact fun he => absurd (tmpName_injective he) (by omega)

namespace DiskKeeps

theorem lowestFree (h : DiskKeeps d0 d) : d0.fds.lookup (lowestFree d.fds) = none := by
  cases hf : d0.fds.lookup (LocalFs.lowestFree d.fds) with
  | none => rfl
  | some f => have := h.fds_eq _ _ hf; rw [lookup_lowestFree] at this; cases this

theorem of_agree (h : DiskKeeps d0 d) (hc : d.tmpCount ≤ d'.tmpCount)
    (hf : ∀ name, ¬Minted d0 d' name → d'.files name = d.files name)
    (hl : ∀ fd f, d0.fds.lookup fd = some f → d'.fds.lookup fd = d.fds.lookup fd) : DiskKeeps d0 d' :=
  ⟨h.count_le.trans hc, fun n hn => (hf n hn).trans (h.files_eq n fun hm => hn (hm.mono hc)),
    fun fd f hfd => (hl fd f hfd).trans (h.fds_eq fd f hfd)⟩

theorem next (h : DiskKeeps d0 d) : DiskKeeps d0 d.next.2 :=
  h.of_agree le_rfl (fun _ _ => rfl) fun _ _ _ => rfl

theorem minted_made (h : DiskKeeps d0 d) {n : Nat} (hn : d.tmpCount ≤ n) (hf : d.files (tmpName n) = none) :
    Minted d0 (d.made n) (tmpName n) :=
  ⟨n, h.count_le.trans hn, by simp, rfl, by rw [← h.files_eq _ fun hm => hm.ne_of_le hn rfl]; exact hf⟩

theorem minted_of_isSome (h : DiskKeeps d0 d) {m : Bytes} (hm : Minted d0 d' m) (hf : (d.files m).isSome) :
    Minted d0 d m := by
  obtain ⟨k, h1, -, rfl, h4⟩ := hm
  refine ⟨k, h1, Nat.lt_of_not_le fun hk => ?_, rfl, h4⟩
  rw [h.files_eq _ fun hm => hm.ne_of_le hk rfl, h4] at hf
  cases hf

theorem made (h : DiskKeeps d0 d) {n : Nat} (hn : d.tmpCount ≤ n) (hf : d.files (tmpName n) = none) :
    DiskKeeps d0 (d.made n) :=
  h.of_agree (by simp; omega) (fun m hm => made_files_of_ne _ fun he => hm (he ▸ h.minted_made hn hf))
    fun fd f hfd => by simp [lookup_cons_ite, ne_lowestFree (h.fds_eq fd f hfd)]

theorem mkstemp (h : DiskKeeps d0 d) : DiskKeeps d0 d.mkstemp.2.2 := by
  rcases d.mkstemp_cases with ⟨-, he⟩ | ⟨n, hn, hf, he⟩ <;> rw [he]
  exacts [h.next, h.made hn hf]

theorem openRead (h : DiskKeeps d0 d) (p : Bytes) : DiskKeeps d0 (d.openRead p).2 :=
  h.of_agree (by simp) (by simp) (fun fd f hfd => by rw [openRead_lookup _ p (h.fds_eq fd f hfd), h.fds_eq fd f hfd])

theorem close (h : DiskKeeps d0 d) {fd : Int} (hfd : d0.fds.lookup fd = none) : DiskKeeps d0 (d.close fd).2 :=
  h.of_agree (by simp) (by simp) (fun x f hx => by
    rw [close_lookup, if_neg (by rintro rfl; rw [hfd] at hx; cases hx)])

theorem writeWith (h : DiskKeeps d0 d) {fd : Int} (hfd : d0.fds.lookup fd = none)
    (hm : ∀ f, d.fds.lookup fd = some f → Minted d0 d f.path) (b : Bool) (z : Bytes) :
    DiskKeeps d0 (d.writeWith b fd z).2 :=
  h.of_agree (by simp)
    (fun n hn => writeWith_files_of_ne _ _ _ _ fun f hf he => hn (he ▸ (hm f hf).mono (by simp)))
    (fun x f hx => writeWith_lookup_of_ne _ _ _ _ (by rintro rfl; rw [hfd] at hx; cases hx))

theorem read (h : DiskKeeps d0 d) {fd : Int} (hfd : d0.fds.lookup fd = none) (n : Nat) :
    DiskKeeps d0 (d.read fd n).2.2 :=
  h.of_agree (by simp) (by simp) (fun x f hx => read_lookup_of_ne _ (by rintro rfl; rw [hfd] at hx; cases hx) _)

theorem unlink (h : DiskKeeps d0 d) {p : Bytes} (hm : Minted d0 d p) : DiskKeeps d0 (d.unlink p).2 :=
  h.of_agree (by simp) (fun n hn => by
      simp [Function.update_noteq (fun he : n = p => hn (he ▸ hm.mono (by simp)))]) (by simp)

end DiskKeeps

namespace HandleOk

theorem fd_ne_lowestFree (h : HandleOk d0 d c x r) : c.fd ≠ lowestFree d.fds := by
  rcases h.fd with hfd | ⟨-, -, f, hl, -⟩
  · have := lowestFree_nonneg d.fds; omega
  · exact ne_lowestFree hl

theorem fd_ne (h : HandleOk d0 d c x r) (h' : HandleOk d0 d c' y r')
    (hn : c.tmpFileName.getD [] ≠ c'.tmpFileName.getD []) (hc : c.fd ≠ -1) : c'.fd ≠ c.fd := by
  intro he
  obtain ⟨-, -, f, hl, hf⟩ := h.fd.resolve_left hc
  obtain ⟨-, -, f', hl', hf'⟩ := h'.fd.resolve_left (he ▸ hc)
  rw [he, hl] at hl'
  cases hl'
  exact hn (hf.symm.trans hf')

theorem of_agree (h : HandleOk d0 d c x r) (hc : d.tmpCount ≤ d'.tmpCount)
    (hf : d'.files (c.tmpFileName.getD []) = d.files (c.tmpFileName.getD []))
    (hl : c.fd ≠ -1 → d'.fds.lookup c.fd = d.fds.lookup c.fd) : HandleOk d0 d' c x r where
  minted := h.minted.mono hc
  present := hf ▸ h.present
  fd := h.fd.imp id fun ⟨h1, h2, f, h3, h4⟩ => ⟨h1, h2, f, by rw [hl (by omega), h3], h4⟩
  upload hm := let ⟨h1, h2, h3⟩ := h.upload hm; ⟨h1, hf ▸ h2, by rw [hl h1, h3]⟩
  reads hm := let ⟨h1, h2, h3⟩ := h.reads hm
    ⟨h1, h2, fun f hc hf' => by rw [hf]; exact h3 f hc (by rwa [← hl hc])⟩

theorem next (h : HandleOk d0 d c x r) : HandleOk d0 d.next.2 c x r :=
  h.of_agree le_rfl rfl fun _ => rfl

theorem made (h : HandleOk d0 d c x r) {n : Nat} (hn : d.tmpCount ≤ n) : HandleOk d0 (d.made n) c x r :=
  h.of_agree (by simp; omega) (made_files_of_ne _ (h.minted.ne_of_le hn))
    fun _ => by simp [lookup_cons_ite, h.fd_ne_lowestFree]

theorem mkstemp (h : HandleOk d0 d c x r) : HandleOk d0 d.mkstemp.2.2 c x r := by
  rcases d.mkstemp_cases with ⟨-, he⟩ | ⟨n, hn, -, he⟩ <;> rw [he]
  exacts [h.next, h.made hn]

theorem openRead (h : HandleOk d0 d c x r) (p : Bytes) : HandleOk d0 (d.openRead p).2 c x r :=
  h.of_agree (by simp) (by simp) (fun hc => by
    obtain ⟨-, -, f, hl, -⟩ := h.fd.resolve_left hc
    rw [openRead_lookup _ p hl, hl])

theorem close (h : HandleOk d0 d c x r) {fd : Int} (hfd : c.fd ≠ fd) : HandleOk d0 (d.close fd).2 c x r :=
  h.of_agree (by simp) (by simp) (fun _ => by rw [close_lookup, if_neg hfd])

theorem writeWith (h : HandleOk d0 d c x r) {fd : Int} (hfd : c.fd ≠ fd)
    (hp : ∀ f, d.fds.lookup fd = some f → f.path ≠ c.tmpFileName.getD []) (b : Bool) (z : Bytes) :
    HandleOk d0 (d.writeWith b fd z).2 c x r :=
  h.of_agree (by simp) (writeWith_files_of_ne _ _ _ _ hp) (fun _ => writeWith_lookup_of_ne _ _ _ _ hfd)

theorem unlink (h : HandleOk d0 d c x r) {p : Bytes} (hp : p ≠ c.tmpFileName.getD []) :
    HandleOk d0 (d.unlink p).2 c x r :=
  h.of_agree (by simp) (by simp [Function.update_noteq hp.symm]) (by simp)

theorem read (h : HandleOk d0 d c x r) {fd : Int} (hfd : c.fd ≠ fd) (n : Nat) :
    HandleOk d0 (d.read fd n).2.2 c x r :=
  h.of_agree (by simp) (by simp) (fun _ => read_lookup_of_ne _ hfd _)

/-- A read through the handle's own descriptor: the bytes it returns continue what was read
before, from the offset on; an upload's offset is at the end of its file, where a read finds
nothing. -/
theorem read_self (h : HandleOk d0 d c x r) (hc : c.fd ≠ -1) (n : Nat) :
    HandleOk d0 (d.read c.fd n).2.2 c x (r ++ (d.read c.fd n).2.1) := by
  obtain ⟨h1, h2, f, hl, hp⟩ := h.fd.resolve_left hc
  rw [read_of_lookup _ hl]
  split_ifs
  · simpa using h.next
  generalize d.next.1.cap n = k
  rw [hp]
  refine ⟨h.minted.mono le_rfl, h.present, .inr ⟨h1, h2, _, lookup_setPos_self hl _, hp⟩,
    fun hm => ?_, fun hm => ?_⟩
  · obtain ⟨h3, h4, h5⟩ := h.upload hm
    rw [hl] at h5
    cases h5
    simp [lookup_setPos, h3, h4, hl]
  · obtain ⟨h3, -, h5⟩ := h.reads hm
    refine ⟨h3, fun h' => absurd h' hc, fun f' _ hf => ?_⟩
    rw [lookup_setPos_self hl] at hf
    cases hf
    obtain ⟨h6, h7⟩ := h5 f hc hl
    rw [h7]
    exact ⟨h6, take_append_take_drop _ _ _⟩

theorem openRead_self (h : HandleOk d0 d c x r) (hd : DiskKeeps d0 d) (hfd : c.fd = -1) :
    HandleOk d0 (d.openRead (c.tmpFileName.getD [])).2 { c with fd := (d.openRead (c.tmpFileName.getD [])).1 } x r := by
  have hup : c.method ≠ cstr "PUT" := fun hm => (h.upload hm).1 hfd
  obtain ⟨hx, hr, -⟩ := h.reads hup
  rcases d.openRead_cases (c.tmpFileName.getD []) with ⟨h1, h2⟩ | ⟨-, he⟩
  · rw [h1, h2]
    exact ⟨h.minted.mono le_rfl, h.present, .inl rfl, fun hm => absurd hm hup,
      fun _ => ⟨hx, fun _ => hr hfd, fun _ h' => absurd rfl h'⟩⟩
  · rw [he]
    refine ⟨h.minted.mono le_rfl, h.present,
      .inr ⟨lowestFree_nonneg _, hd.lowestFree, ⟨c.tmpFileName.getD [], 0, false⟩, by simp [lookup_cons_ite], rfl⟩,
      fun hm => absurd hm hup, fun _ => ⟨hx, fun _ => hr hfd, fun f _ hf => ?_⟩⟩
    rw [lookup_cons_ite, if_pos rfl] at hf
    cases hf
    simp [hr hfd]

/-- A write through the handle's own descriptor: an upload's file grows by the bytes the kernel
took, the first of the bytes given, as many as the write answers; a download's descriptor is
not open for writing, so there the write fails. -/
theorem write_self (h : HandleOk d0 d c x r) (hc : c.fd ≠ -1) (z : Bytes) :
    HandleOk d0 (d.write c.fd z).2 c (x ++ z.take (d.write c.fd z).1.toNat) r := by
  obtain ⟨h1, h2, f, hl, hp⟩ := h.fd.resolve_left hc
  rw [write_of_lookup _ hl]
  split_ifs with hw
  · simpa using h.next
  have hm : c.method = cstr "PUT" := by
    by_contra hm
    exact hw (.inr ((h.reads hm).2.2 f hc hl).1)
  obtain ⟨-, h4, h5⟩ := h.upload hm
  rw [hl] at h5
  cases h5
  rw [Int.toNat_natCast, ← List.prefix_iff_eq_take.mp (List.take_prefix _ z)]
  generalize z.take (d.next.1.cap z.length) = e
  refine ⟨h.minted.mono le_rfl, by simp [put_files], .inr ⟨h1, h2, _, lookup_setPos_self hl _, rfl⟩,
    fun _ => ⟨hc, by simp [put_files, h4], by simp [put_fds, lookup_setPos, hl]⟩, fun h' => absurd hm h'⟩

end HandleOk

theorem HandleOk.fresh (hd : DiskKeeps d0 d) {n : Nat} (hn : d.tmpCount ≤ n) (hf : d.files (tmpName n) = none)
    (req : Option Bytes) :
    HandleOk d0 (d.made n) ⟨req, lowestFree d.fds, some (tmpName n), cstr "PUT"⟩ [] [] where
  minted := hd.minted_made hn hf
  present := by simp [made_files]
  fd := .inr ⟨lowestFree_nonneg _, hd.lowestFree, ⟨tmpName n, 0, true⟩, by simp [lookup_cons_ite], rfl⟩
  upload _ := ⟨by show lowestFree d.fds ≠ -1; have := lowestFree_nonneg d.fds; omega,
    by simp [made_files], by simp [lookup_cons_ite]⟩
  reads hm := absurd rfl hm

theorem HandleOk.download (hd : DiskKeeps d0 d) {n : Nat} (hn : d.tmpCount ≤ n) (hf : d.files (tmpName n) = none)
    (body : Bytes) :
    HandleOk d0 (((d.made n).writeAll (lowestFree d.fds) body).2.close (lowestFree d.fds)).2
      ⟨none, -1, some (tmpName n), cstr "GET"⟩ [] [] where
  minted := (hd.minted_made hn hf).mono (by simp [writeAll])
  present := by
    simpa [writeAll] using writeWith_files_isSome _ true (lowestFree d.fds) body
      (by simp [made_files] : ((d.made n).files (tmpName n)).isSome)
  fd := .inl rfl
  upload h := absurd h (by show cstr "GET" ≠ cstr "PUT"; decide)
  reads _ := ⟨rfl, fun _ => rfl, fun _ h => absurd rfl h⟩

section
variable {σ : Type}

/-- The transfer handles of a process and its disk, against the disk `d0` the process began
with, and the bytes `data p` written and `seen p` read through each handle `p`. -/
structure Sound (d0 : LocalFs) (data seen : Nat → Bytes) (w : World σ) : Prop where
  disk : DiskKeeps d0 w.disk
  below : ∀ p c, w.heap p = some (.transfer c) → p < w.nextPtr
  unwritten : ∀ p, w.nextPtr ≤ p → data p = []
  unseen : ∀ p, w.nextPtr ≤ p → seen p = []
  live : ∀ p c, w.heap p = some (.transfer c) → HandleOk d0 w.disk c (data p) (seen p)
  distinct : ∀ p q c c', w.heap p = some (.transfer c) → w.heap q = some (.transfer c') →
    c.tmpFileName.getD [] = c'.tmpFileName.getD [] → p = q

/-- A call that leaves the disk and the transfer handles alone; it may allocate or free
directory handles. -/
def Keeps (w w' : World σ) : Prop :=
  w'.disk = w.disk ∧ w.nextPtr ≤ w'.nextPtr ∧
    (∀ p c, w'.heap p = some (.transfer c) → w.heap p = some (.transfer c)) ∧
    ∀ p c, p < w.nextPtr → w.heap p = some (.transfer c) → w'.heap p = some (.transfer c)

theorem Keeps.refl (w : World σ) : Keeps w w := ⟨rfl, le_rfl, fun _ _ => id, fun _ _ _ => id⟩

variable {g g' s s' : Nat → Bytes} {w w' : World σ}

theorem Sound.init (d : LocalFs) (server : σ) : Sound d (fun _ => []) (fun _ => []) (World.init d server) where
  disk := ⟨le_rfl, fun _ _ => rfl, fun _ _ => id⟩
  below _ _ h := nomatch h
  unwritten _ _ := rfl
  unseen _ _ := rfl
  live _ _ h := nomatch h
  distinct _ _ _ _ h := nomatch h

theorem Sound.keeps (h : Sound d0 g s w) (hk : Keeps w w') : Sound d0 g s w' where
  disk := hk.1 ▸ h.disk
  below p c hp := (h.below p c (hk.2.2.1 p c hp)).trans_le hk.2.1
  unwritten p hp := h.unwritten p (hk.2.1.trans hp)
  unseen p hp := h.unseen p (hk.2.1.trans hp)
  live p c hp := hk.1 ▸ h.live p c (hk.2.2.1 p c hp)
  distinct p q c c' hp hq := h.distinct p q c c' (hk.2.2.1 p c hp) (hk.2.2.1 q c' hq)

theorem Sound.of_disk (h : Sound d0 g s w) (hheap : w'.heap = w.heap) (hnext : w'.nextPtr = w.nextPtr)
    (hd : DiskKeeps d0 w'.disk) (hu : ∀ p, w.nextPtr ≤ p → g' p = []) (hv : ∀ p, w.nextPtr ≤ p → s' p = [])
    (hl : ∀ p c, w.heap p = some (.transfer c) → HandleOk d0 w'.disk c (g' p) (s' p)) : Sound d0 g' s' w' where
  disk := hd
  below p c hp := hnext ▸ h.below p c (hheap ▸ hp)
  unwritten p hp := hu p (hnext ▸ hp)
  unseen p hp := hv p (hnext ▸ hp)
  live p c hp := hl p c (hheap ▸ hp)
  distinct p q c c' hp hq := h.distinct p q c c' (hheap ▸ hp) (hheap ▸ hq)

theorem Sound.name_ne (h : Sound d0 g s w) {p q : Nat} (hpq : p ≠ q) (hp : w.heap p = some (.transfer c))
    (hq : w.heap q = some (.transfer c')) : c.tmpFileName.getD [] ≠ c'.tmpFileName.getD [] :=
  fun he => hpq (h.distinct p q c c' hp hq he)

theorem Sound.mkstemp (h : Sound d0 g s w) : Sound d0 g s { w with disk := w.disk.mkstemp.2.2 } :=
  h.of_disk rfl rfl h.disk.mkstemp h.unwritten h.unseen fun p c hp => (h.live p c hp).mkstemp

theorem Sound.openRead (h : Sound d0 g s w) (n : Bytes) : Sound d0 g s { w with disk := (w.disk.openRead n).2 } :=
  h.of_disk rfl rfl (h.disk.openRead n) h.unwritten h.unseen fun p c hp => (h.live p c hp).openRead n

theorem Sound.read_self (h : Sound d0 g s w) {p : Nat} {c : TransferContext}
    (hp : w.heap p = some (.transfer c)) (hc : c.fd ≠ -1) (n : Nat) :
    Sound d0 g (fun q => s q ++ if p = q then (w.disk.read c.fd n).2.1 else [])
      { w with disk := (w.disk.read c.fd n).2.2 } := by
  have hcp := h.live p c hp
  refine h.of_disk rfl rfl (h.disk.read (hcp.fd.resolve_left hc).2.1 n) h.unwritten
    (fun q hq => by rw [h.unseen q hq, if_neg (by have := h.below p c hp; omega)]; rfl) fun q c' hq => ?_
  by_cases hpq : p = q
  · subst hpq; rw [hp] at hq; cases hq
    simpa using hcp.read_self hc n
  · simpa [hpq] using (h.live q c' hq).read (hcp.fd_ne (h.live q c' hq) (h.name_ne hpq hp hq) hc) n

theorem Sound.close (h : Sound d0 g s w) {fd : Int} (h0 : d0.fds.lookup fd = none)
    (hl : ∀ q c', w.heap q = some (.transfer c') → c'.fd ≠ fd) :
    Sound d0 g s { w with disk := (w.disk.close fd).2 } :=
  h.of_disk rfl rfl (h.disk.close h0) h.unwritten h.unseen fun p c hp => (h.live p c hp).close (hl p c hp)

theorem Sound.unlink (h : Sound d0 g s w) {n : Bytes} (hm : Minted d0 w.disk n)
    (hl : ∀ q c', w.heap q = some (.transfer c') → n ≠ c'.tmpFileName.getD []) :
    Sound d0 g s { w with disk := (w.disk.unlink n).2 } :=
  h.of_disk rfl rfl (h.disk.unlink hm) h.unwritten h.unseen fun p c hp => (h.live p c hp).unlink (hl p c hp)

theorem World.heap_of_setHandle_none {p q : Nat} {x : Handle} (h : (w.setHandle p none).heap q = some x) :
    w.heap q = some x := by
  simp only [World.setHandle_heap, Function.update_apply] at h
  split_ifs at h
  exact h

theorem Sound.remove (h : Sound d0 g s w) (p : Nat) : Sound d0 g s (w.setHandle p none) where
  disk := h.disk
  below q c hq := h.below q c (World.heap_of_setHandle_none hq)
  unwritten := h.unwritten
  unseen := h.unseen
  live q c hq := h.live q c (World.heap_of_setHandle_none hq)
  distinct q r c c' hq hr :=
    h.distinct q r c c' (World.heap_of_setHandle_none hq) (World.heap_of_setHandle_none hr)

theorem Sound.alloc (h : Sound d0 g s w) (hc : HandleOk d0 w.disk c (g w.nextPtr) (s w.nextPtr))
    (hn : ∀ q c', w.heap q = some (.transfer c') → c'.tmpFileName.getD [] ≠ c.tmpFileName.getD []) :
    Sound d0 g s (w.alloc (.transfer c)).2 where
  disk := h.disk
  below p c' hp := by
    simp only [World.alloc_heap, World.alloc_nextPtr, Function.update_apply] at hp ⊢
    split_ifs at hp with he
    · omega
    · have := h.below p c' hp; omega
  unwritten p hp := h.unwritten p (by simp at hp; omega)
  unseen p hp := h.unseen p (by simp at hp; omega)
  live p c' hp := by
    simp only [World.alloc_heap, World.alloc_disk, Function.update_apply] at hp ⊢
    split_ifs at hp with he
    · cases hp; subst he; exact hc
    · exact h.live p c' hp
  distinct p q c₁ c₂ hp hq he := by
    simp only [World.alloc_heap, Function.update_apply] at hp hq
    split_ifs at hp hq with h1 h2 h2
    · rw [h1, h2]
    · cases hp; exact absurd he.symm (hn q c₂ hq)
    · cases hq; exact absurd he (hn p c₁ hp)
    · exact h.distinct p q c₁ c₂ hp hq he

theorem Sound.congr (h : Sound d0 g s w) (hd : w'.disk = w.disk) (hheap : w'.heap = w.heap)
    (hnext : w'.nextPtr = w.nextPtr) : Sound d0 g s w' :=
  h.of_disk hheap hnext (hd ▸ h.disk) h.unwritten h.unseen fun p c hp => hd ▸ h.live p c hp

theorem Sound.replace (h : Sound d0 g s w) {p : Nat} {c c₁ : TransferContext}
    (hp : w.heap p = some (.transfer c)) {d : LocalFs} (hd : DiskKeeps d0 d)
    (hc₁ : HandleOk d0 d c₁ (g p) (s p)) (hname : c₁.tmpFileName = c.tmpFileName)
    (hl : ∀ q c', q ≠ p → w.heap q = some (.transfer c') → HandleOk d0 d c' (g q) (s q)) :
    Sound d0 g s { w.setHandle p (some (.transfer c₁)) with disk := d } where
  disk := hd
  below q c' hq := by
    simp only [World.setHandle_heap, Function.update_apply] at hq
    split_ifs at hq with he
    · exact he ▸ h.below p c hp
    · exact h.below q c' hq
  unwritten := h.unwritten
  unseen := h.unseen
  live q c' hq := by
    simp only [World.setHandle_heap, Function.update_apply] at hq
    split_ifs at hq with he
    · cases hq; exact he ▸ hc₁
    · exact hl q c' he hq
  distinct q r c' c'' hq hr he := by
    simp only [World.setHandle_heap, Function.update_apply] at hq hr
    split_ifs at hq hr with h1 h2 h2
    · rw [h1, h2]
    · cases hq; exact absurd (h.distinct p r c c'' hp hr (by rwa [← hname])) (Ne.symm h2)
    · cases hr; exact absurd (h.distinct q p c' c hq hp (by rwa [← hname])) h1
    · exact h.distinct q r c' c'' hq hr he

theorem Sound.download (h : Sound d0 g s w) {n : Nat} (hn : w.disk.tmpCount ≤ n)
    (hf : w.disk.files (tmpName n) = none) (body : Bytes) (hheap : w'.heap = w.heap)
    (hnext : w'.nextPtr = w.nextPtr)
    (hd : w'.disk = (((w.disk.made n).writeAll (lowestFree w.disk.fds) body).2.close (lowestFree w.disk.fds)).2) :
    Sound d0 g s w' := by
  have h0 := h.disk.lowestFree
  have hl : (w.disk.made n).fds.lookup (lowestFree w.disk.fds) = some ⟨tmpName n, 0, true⟩ := by
    simp [lookup_cons_ite]
  refine h.of_disk hheap hnext ?_ h.unwritten h.unseen fun p c hp => ?_
  · rw [hd]
    refine ((h.disk.made hn hf).writeWith h0 (fun f hf' => ?_) true body).close h0
    rw [hl] at hf'; cases hf'
    exact h.disk.minted_made hn hf
  · have hc := h.live p c hp
    rw [hd]
    refine ((hc.made hn).writeWith hc.fd_ne_lowestFree (fun f hf' => ?_) true body).close hc.fd_ne_lowestFree
    rw [hl] at hf'; cases hf'
    exact (hc.minted.ne_of_le hn).symm

theorem Sound.free (h : Sound d0 g s w) {p : Nat} {c : TransferContext} (hp : w.heap p = some (.transfer c))
    {w₂ : World σ} (h₂ : Sound d0 g s { w.setHandle p none with disk := w₂.disk }) (hheap : w₂.heap = w.heap)
    (hnext : w₂.nextPtr = w.nextPtr) (hcount : w₂.disk.tmpCount = w.disk.tmpCount) :
    Sound d0 g s { w₂.setHandle p none with disk := (w₂.disk.unlink (c.tmpFileName.getD [])).2 } := by
  refine (h₂.unlink ((h.live p c hp).minted.mono hcount.ge) fun q c' hq => ?_).congr rfl
    (by simp [hheap]) (by simp [hnext])
  have hq' := World.heap_of_setHandle_none hq
  exact h.name_ne (by rintro rfl; simp at hq) hp hq'

end

end Owncloud
