import CsyncOwncloud.Catalog

/-! How the calls report failure. A failing `_mkdir`, `_rmdir`, `_rename`, `_utimes`, `_stat`
or `_opendir` stores into `errno` a value computed from what this call's neon requests
answered, never one left over from before; `ne_error_to_errno` maps `NE_ERROR` to 0 by
design, so that value may be 0. `_open` and `_creat` store `ENOENT` for a missing parent, but
only after its `_stat` has freed their stack buffer. `_unlink` answers 0 whatever its DELETE
answered. -/

namespace Owncloud

/-- The calls whose failure paths translate a neon answer into `errno`. -/
def Op.translatesErrors : Op → Bool
  | .mkdir _ | .rmdir _ | .rename _ _ | .utimes _ _ | .stat _ | .opendir _ => true
  | _ => false

/-- An answer that reports failure: -1 or NULL. -/
def Out.failed : Out → Bool
  | .int r | .stat r _ | .data r _ => r = -1
  | .handle h => h.isNone
  | .entry _ | .none => false

section
variable {σ : Type} (P : Platform) (N : Neon σ)

theorem davConnect_set_errno (b : Bytes) (w : World σ) (e : Int) :
    davConnect N b { w with errno := e } =
      ((davConnect N b w).1, { (davConnect N b w).2 with errno := e }) := by
  unfold davConnect
  dsimp only
  by_cases hc : w.connected = true
  · rw [if_pos hc, if_pos hc]
  · rw [if_neg hc, if_neg hc]
    cases neUriParse b with
    | none => rfl
    | some uri =>
      dsimp only
      by_cases h1 : N.sockInit w.server < 0
      · rw [if_pos h1, if_pos h1]
      · rw [if_neg h1, if_neg h1]
        generalize N.sessionCreate _ _ _ _ = c
        cases c <;> rfl

/-- What a failing call leaves in `errno`: the same whatever `errno` held before, and a code
of the module's taxonomy or 0. -/
def SetsErrno (f : World σ → World σ) (w : World σ) : Prop :=
  ∀ e, (f { w with errno := e }).errno = (f w).errno ∧ (f w).errno ∈ errnoCodes

theorem connectThenRequest_sets_errno (c : NeCall) (request : σ → Bytes → Int × σ) (u : Bytes)
    (w : World σ) (hf : (connectThenRequest N c request u w).1 = -1) :
    SetsErrno (fun w => (connectThenRequest N c request u w).2) w := by
  intro e
  unfold connectThenRequest at *
  simp only [davConnect_set_errno] at hf ⊢
  dsimp only [World.logCall, World.usePath] at hf ⊢
  split_ifs at hf ⊢
  · exact ⟨rfl, by simp [errnoCodes, einval]⟩
  · exact ⟨rfl, neErrorToErrno_mem _⟩

theorem rename_sets_errno (u v : Bytes) (w : World σ) (hf : (rename N u v w).1 = -1) :
    SetsErrno (fun w => (rename N u v w).2) w := by
  intro e
  unfold rename at *
  simp only [davConnect_set_errno] at hf ⊢
  dsimp only [World.logCall, World.usePath, sessionErrno] at hf ⊢
  split_ifs at hf ⊢
  · exact ⟨rfl, by simp [errnoCodes, einval]⟩
  · exact ⟨rfl, neErrorToErrno_mem _⟩

theorem utimes_sets_errno (u : Bytes) (t : Option Int) (w : World σ) (hf : (utimes N u t w).1 = -1) :
    SetsErrno (fun w => (utimes N u t w).2) w := by
  intro e
  unfold utimes at *
  cases t with
  | none => exact ⟨rfl, by simp [errnoCodes, eperm]⟩
  | some s =>
    dsimp only [World.logCall, World.usePath] at hf ⊢
    split_ifs at hf ⊢
    exact ⟨rfl, neErrorToErrno_mem _⟩

theorem statNetwork_sets_errno (u : Bytes) (buf : FileStat) (w : World σ)
    (hf : (statNetwork P N u buf w).1 = -1) : SetsErrno (fun w => (statNetwork P N u buf w).2.2) w := by
  intro e
  unfold statNetwork at *
  dsimp only [World.logCall] at hf ⊢
  split at hf
  · simp at hf
  · split_ifs at hf ⊢
    · exact ⟨rfl, neErrorToErrno_mem _⟩
    · split at hf <;> simp at hf

theorem stat_sets_errno (u : Bytes) (buf : FileStat) (w : World σ)
    (hf : (stat P N u buf w).1 = -1) : SetsErrno (fun w => (stat P N u buf w).2.2) w := by
  intro e
  unfold stat at *
  dsimp only at hf ⊢
  split_ifs at hf ⊢
  exact statNetwork_sets_errno P N u _ w hf e

theorem opendir_sets_errno (u : Bytes) (w : World σ) (hf : (opendir P N u w).1 = none)
    (hub : (opendir P N u w).2.ub = false) : SetsErrno (fun w => (opendir P N u w).2) w := by
  intro e
  unfold opendir at *
  simp only [davConnect_set_errno] at hf hub ⊢
  dsimp only [World.logCall, World.usePath, sessionErrno] at hf hub ⊢
  simp only [davConnect_server] at hf hub ⊢
  rcases hl : listing P (.init (cleanPath u) false)
    (N.simplePropfind w.server ((cleanPath u).getD [])).2 with _ | ctx <;>
    simp only [hl] at hf hub ⊢
  · simp at hub
  · split_ifs at hf ⊢
    exact ⟨rfl, sessionErrorErrno_mem _⟩

/-- `_open` for writing under a parent its `_stat` does not find: NULL with `ENOENT`, after the
failing `_stat` has destroyed `_open`'s stack buffer. -/
theorem openFile_of_parent_missing (u : Bytes) (f : OpenFlags) (w : World σ) (hu : (cleanPath u).isSome = true)
    (hput : (f.wronly || f.rdwr || f.creat) = true)
    (hs : (stat P N (cDirname u) .zero (davConnect N u w).2).1 ≠ 0) :
    openFile P N u f w =
      (none, { (stat P N (cDirname u) .zero (davConnect N u w).2).2.2 with errno := enoent, ub := true }) := by
  simp [openFile, hu, hput, hs]

/-- Every failing call that translates an error stores a value computed in that call; `_open`
and `_creat` store `ENOENT` for a missing parent only after doing something undefined. -/
theorem failed_call_sets_errno (w : World σ) :
    (∀ op : Op, op.translatesErrors = true → (exec P N w op).1.failed = true →
      (exec P N w op).2.ub = false → SetsErrno (fun w => (exec P N w op).2) w) ∧
    (∀ u f, (cleanPath u).isSome = true → (f.wronly || f.rdwr || f.creat) = true →
      (stat P N (cDirname u) .zero (davConnect N u w).2).1 ≠ 0 →
      (exec P N w (.openFile u f)).1 = .handle none ∧ (exec P N w (.openFile u f)).2.errno = enoent ∧
        (exec P N w (.openFile u f)).2.ub = true) ∧
    (∀ u, (cleanPath u).isSome = true → (stat P N (cDirname u) .zero (davConnect N u w).2).1 ≠ 0 →
      (exec P N w (.creat u)).1 = .handle none ∧ (exec P N w (.creat u)).2.errno = enoent ∧
        (exec P N w (.creat u)).2.ub = true) := by
  refine ⟨fun op hop hf hub => ?_, fun u f hu hput hs => ?_, fun u hu hs => ?_⟩
  · cases op <;> simp only [Op.translatesErrors, Bool.false_eq_true] at hop <;>
      simp only [exec, Out.failed] at hf hub
    case mkdir u => exact connectThenRequest_sets_errno N .mkcol N.mkcol u w (by simpa [mkdir] using hf)
    case rmdir u => exact connectThenRequest_sets_errno N .delete N.delete u w (by simpa [rmdir] using hf)
    case rename u v => exact rename_sets_errno N u v w (by simpa using hf)
    case utimes u t => exact utimes_sets_errno N u t w (by simpa using hf)
    case stat u => exact stat_sets_errno P N u _ w (by simpa using hf)
    case opendir u => exact opendir_sets_errno P N u w (by simpa using hf) hub
  · simp [exec, openFile_of_parent_missing P N u f w hu hput hs]
  · simp [exec, creat, write, openFile_of_parent_missing P N u ⟨true, false, true⟩ w hu rfl hs]

end

theorem failed_call_sets_errno_mkdir :
    SetsErrno (fun w => (exec sampleBuild DavServer.neon w (.mkdir (cstr "owncloud://h/d1"))).2)
        (.init stdDisk twinServer) ∧
      (exec sampleBuild DavServer.neon (.init stdDisk twinServer) (.creat (cstr "owncloud://h/nope/f"))).1 =
        .handle none ∧
      (exec sampleBuild DavServer.neon (.init stdDisk twinServer) (.creat (cstr "owncloud://h/nope/f"))).2.errno =
        enoent ∧
      (exec sampleBuild DavServer.neon (.init stdDisk twinServer) (.creat (cstr "owncloud://h/nope/f"))).2.ub = true :=
  ⟨(failed_call_sets_errno sampleBuild DavServer.neon _).1 _ rfl (by decide) (by decide),
    (failed_call_sets_errno sampleBuild DavServer.neon _).2.2 _ (by decide) (by decide)⟩

theorem mkdir_fails_with_errno_zero :
    (twinServer.mkcol (cstr "/d1")).1 = neError ∧
      ∃ w, run sampleBuild DavServer.neon [.mkdir (cstr "owncloud://h/d1")]
          { World.init stdDisk twinServer with errno := eio } = ([.int (-1)], w) ∧ w.errno = 0 :=
  ⟨by decide, _, Prod.ext (by decide) rfl, by decide⟩

theorem unlink_answers_zero_on_failed_delete :
    (twinServer.delete (cstr "/nope")).1 = neError ∧
      ∃ w, run sampleBuild DavServer.neon [.unlink (cstr "owncloud://h/nope")]
          (.init stdDisk twinServer) = ([.int 0], w) ∧ w.ub = false :=
  ⟨by decide, _, Prod.ext (by decide) rfl, by decide⟩

end Owncloud
