import CsyncOwncloud.Server

/-! `ne_auth`, the callback neon calls when a server asks for credentials. It copies the
session's user and password, or else the answers of the module's `csync_auth_callback`, into
neon's `NE_ABUFSIZ`-byte buffers with `strncpy (dst, src, NE_ABUFSIZ)`. Such a copy leaves a
terminator only when the string is shorter than the buffer. The callback's answers always
are, since each comes in a zeroed buffer of which the callback may fill `NE_ABUFSIZ - 1`
bytes; the session's user and password, split from the URL, may be of any length. -/

namespace Owncloud

/-- `NE_ABUFSIZ` of neon's `ne_auth.h`. -/
def neAbufsiz : Nat := 256

/-- A `char` array of `n` bytes. -/
structure CharBuf (n : Nat) where
  bytes : Bytes
  length_eq : bytes.length = n
  deriving DecidableEq

namespace CharBuf

variable {n : Nat}

/-- `memset (buf, 0, n)`. -/
def zero (n : Nat) : CharBuf n := ⟨List.replicate n 0, List.length_replicate _ _⟩

/-- The bytes `a` stored from the start of the buffer; the bytes past them are left as they
were. -/
def write (b : CharBuf n) (a : Bytes) (h : a.length ≤ n) : CharBuf n :=
  ⟨a ++ b.bytes.drop a.length, by simp [b.length_eq]; omega⟩

/-- `strncpy (dst, src, k)`: the string at `src` up to its NUL, cut at `k` bytes, then NULs up
to `k` bytes. -/
def strncpy (dst : CharBuf n) (src : Bytes) (k : Nat) (hk : k ≤ n) : CharBuf n :=
  let s := (src.takeWhile (· ≠ 0)).take k
  dst.write (s ++ List.replicate (k - s.length) 0) (by simp [s]; omega)

/-- The string a C reader finds in the buffer: the bytes before its first NUL, or nothing
when the buffer holds no NUL and the reader runs past its end. -/
def cString (b : CharBuf n) : Option Bytes :=
  if 0 ∈ b.bytes then some (b.bytes.takeWhile (· ≠ 0)) else none

/-- `strncpy` over a whole buffer writes every byte of it. -/
theorem strncpy_bytes (dst : CharBuf n) (src : Bytes) :
    (dst.strncpy src n le_rfl).bytes =
      (src.takeWhile (· ≠ 0)).take n ++ List.replicate (n - (src.takeWhile (· ≠ 0)).length) 0 := by
  have hdrop : dst.bytes.drop n = [] := List.drop_eq_nil_of_le dst.length_eq.le
  simp only [strncpy, write, List.length_append, List.length_replicate, List.length_take]
  rw [show min n (src.takeWhile (· ≠ 0)).length + (n - min n (src.takeWhile (· ≠ 0)).length) = n by omega,
    hdrop, List.append_nil,
    show n - min n (src.takeWhile (· ≠ 0)).length = n - (src.takeWhile (· ≠ 0)).length by omega]

/-- After `strncpy (dst, src, n)` into `n` bytes, a reader finds the string at `src` exactly
when it is shorter than `n`; otherwise the buffer holds no NUL at all. -/
theorem cString_strncpy (dst : CharBuf n) (src : Bytes) :
    (dst.strncpy src n le_rfl).cString =
      if (src.takeWhile (· ≠ 0)).length < n then some (src.takeWhile (· ≠ 0)) else none := by
  have hnz : ∀ c ∈ src.takeWhile (· ≠ 0), c ≠ 0 := fun c hc => by
    simpa using List.mem_takeWhile_imp hc
  rw [cString, strncpy_bytes]
  split_ifs with h0 hl hl
  · rw [List.take_of_length_le hl.le, List.takeWhile_append_of_pos (by simpa using hnz),
      List.takeWhile_replicate]
    simp
  · rw [Nat.sub_eq_zero_of_le (not_lt.mp hl), List.replicate_zero, List.append_nil] at h0
    exact hnz 0 (List.mem_of_mem_take h0) rfl
  · exact absurd (List.mem_append_right _ (List.mem_replicate.mpr ⟨by omega, rfl⟩)) h0
  · rfl

end CharBuf

/-- The module's `csync_auth_callback`, by what it writes into the buffer it is handed: given
the prompt, the buffer's length and the echo and verify flags, at most that many bytes. -/
structure AuthCallback where
  answer : Bytes → Nat → Bool → Bool → Bytes
  answer_le : ∀ prompt len echo verify, (answer prompt len echo verify).length ≤ len

/-- `memset (buf, 0, NE_ABUFSIZ)`, then the callback asked with `NE_ABUFSIZ - 1` as the
buffer's length. -/
def askCallback (cb : AuthCallback) (prompt : Bytes) (echo : Bool) : CharBuf neAbufsiz :=
  (CharBuf.zero neAbufsiz).write (cb.answer prompt (neAbufsiz - 1) echo false)
    ((cb.answer_le _ _ _ _).trans (Nat.sub_le _ _))

theorem takeWhile_append_zeros (a : Bytes) {m : Nat} (hm : 0 < m) :
    (a ++ List.replicate m 0).takeWhile (· ≠ 0) = a.takeWhile (· ≠ 0) := by
  induction a with
  | nil => obtain ⟨m, rfl⟩ := Nat.exists_eq_succ_of_ne_zero hm.ne'; simp [List.replicate_succ]
  | cons c a ih =>
    by_cases hc : c = 0
    · simp [hc]
    · simpa [List.takeWhile_cons, hc] using ih

/-- The string the callback left in the zeroed buffer: its answer up to the first NUL. -/
theorem askCallback_takeWhile (cb : AuthCallback) (prompt : Bytes) (echo : Bool) :
    (askCallback cb prompt echo).bytes.takeWhile (· ≠ 0) =
      (cb.answer prompt (neAbufsiz - 1) echo false).takeWhile (· ≠ 0) := by
  have hle := cb.answer_le prompt (neAbufsiz - 1) echo false
  simp only [askCallback, CharBuf.write, CharBuf.zero, List.drop_replicate]
  exact takeWhile_append_zeros _ (by simp only [neAbufsiz] at hle ⊢; omega)

/-- `ne_auth`: its answer and neon's username and password buffers after the call. With a
session user the static credentials are copied, the password only when there is one; else
the callback is asked for both; else nothing is written. -/
def neAuthCallback (authcb : Option AuthCallback) (sess : DavSession) (attempt : Int)
    (username password : Option (CharBuf neAbufsiz)) :
    Int × Option (CharBuf neAbufsiz) × Option (CharBuf neAbufsiz) :=
  match username, password with
  | some u, some p =>
    match sess.user, authcb with
    | some user, _ =>
      (attempt, some (u.strncpy user neAbufsiz le_rfl),
        some (match sess.pwd with
          | some pwd => p.strncpy pwd neAbufsiz le_rfl
          | none => p))
    | none, some cb =>
      (attempt, some (u.strncpy (askCallback cb (cstr "Enter your username: ") true).bytes neAbufsiz le_rfl),
        some (p.strncpy (askCallback cb (cstr "Enter your password: ") false).bytes neAbufsiz le_rfl))
    | none, none => (attempt, some u, some p)
  | _, _ => (attempt, username, password)

section
variable (authcb : Option AuthCallback) (attempt : Int) (u p : CharBuf neAbufsiz)

theorem neAuthCallback_of_user {sess : DavSession} {user : Bytes} (h : sess.user = some user) :
    neAuthCallback authcb sess attempt (some u) (some p) =
      (attempt, some (u.strncpy user neAbufsiz le_rfl),
        some (match sess.pwd with
          | some pwd => p.strncpy pwd neAbufsiz le_rfl
          | none => p)) := by
  simp only [neAuthCallback, h]

theorem neAuthCallback_of_callback (cb : AuthCallback) {sess : DavSession} (h : sess.user = none) :
    neAuthCallback (some cb) sess attempt (some u) (some p) =
      (attempt, some (u.strncpy (askCallback cb (cstr "Enter your username: ") true).bytes neAbufsiz le_rfl),
        some (p.strncpy (askCallback cb (cstr "Enter your password: ") false).bytes neAbufsiz le_rfl)) := by
  simp only [neAuthCallback, h]

end

section
variable {σ : Type} (N : Neon σ)

/-- For the user and password `dav_connect` splits from a URL, of any length, `ne_auth` leaves
each buffer terminated and holding the credential exactly when the credential is shorter than
`NE_ABUFSIZ`; otherwise the buffer holds no NUL. -/
theorem neAuthCallback_copies_url_credentials (b : Bytes) {w : World σ} (hw : w.connected = false)
    {user pwd : Bytes}
    (hs : (neUriParse b).bind (fun uri => uri.userinfo.bind splitUserinfo) = some (user, pwd))
    (authcb : Option AuthCallback) (attempt : Int) (u p : CharBuf neAbufsiz) :
    (neAuthCallback authcb (davConnect N b w).2.session attempt (some u) (some p)).2.1.map
        CharBuf.cString = some (if user.length < neAbufsiz then some user else none) ∧
      (neAuthCallback authcb (davConnect N b w).2.session attempt (some u) (some p)).2.2.map
        CharBuf.cString = some (if pwd.length < neAbufsiz then some pwd else none) := by
  obtain ⟨uri, hu, hui⟩ := Option.bind_eq_some.mp hs
  obtain ⟨ui, hi, hsplit⟩ := Option.bind_eq_some.mp hui
  obtain ⟨huser, hpwd⟩ := davConnect_credentials N b hw hu hui
  have hnul (x : Bytes) (hx : ∀ c ∈ x, c ∈ ui) : x.takeWhile (· ≠ 0) = x :=
    List.takeWhile_eq_self_iff.mpr fun c hc => decide_eq_true fun h0 =>
      absurd (h0 ▸ neUriParse_userinfo hu hi c (hx c hc)) (by decide)
  obtain ⟨hu', hp'⟩ := splitUserinfo_subset hsplit
  rw [neAuthCallback_of_user authcb attempt u p huser, hpwd]
  simp only [Option.map_some', CharBuf.cString_strncpy, hnul user hu', hnul pwd hp', and_self]

end

theorem neAuthCallback_copies_url_credentials_alice :
    (World.init stdDisk twinServer).connected = false ∧
      (neUriParse (cstr "owncloud://alice:secret@h/")).bind (fun uri => uri.userinfo.bind splitUserinfo) =
        some (cstr "alice", cstr "secret") ∧
      (neAuthCallback none (davConnect DavServer.neon (cstr "owncloud://alice:secret@h/")
          (.init stdDisk twinServer)).2.session 0 (some (.zero neAbufsiz)) (some (.zero neAbufsiz))).2.1.map
        CharBuf.cString = some (if (cstr "alice").length < neAbufsiz then some (cstr "alice") else none) ∧
      (neAuthCallback none (davConnect DavServer.neon (cstr "owncloud://alice:secret@h/")
          (.init stdDisk twinServer)).2.session 0 (some (.zero neAbufsiz)) (some (.zero neAbufsiz))).2.2.map
        CharBuf.cString = some (if (cstr "secret").length < neAbufsiz then some (cstr "secret") else none) :=
  have hw : (World.init stdDisk twinServer).connected = false := rfl
  have hs : (neUriParse (cstr "owncloud://alice:secret@h/")).bind
      (fun uri => uri.userinfo.bind splitUserinfo) = some (cstr "alice", cstr "secret") := by decide
  ⟨hw, hs, neAuthCallback_copies_url_credentials DavServer.neon _ hw hs none 0 _ _⟩

/-- Without a session user, `ne_auth` asks the callback, and each buffer ends up holding the
callback's answer, terminated: the answer has at most `NE_ABUFSIZ - 1` bytes. -/
theorem neAuthCallback_callback_terminated (cb : AuthCallback) {sess : DavSession}
    (hs : sess.user = none) (attempt : Int) (u p : CharBuf neAbufsiz) :
    (neAuthCallback (some cb) sess attempt (some u) (some p)).2.1.map CharBuf.cString =
        some (some ((cb.answer (cstr "Enter your username: ") (neAbufsiz - 1) true false).takeWhile (· ≠ 0))) ∧
      (neAuthCallback (some cb) sess attempt (some u) (some p)).2.2.map CharBuf.cString =
        some (some ((cb.answer (cstr "Enter your password: ") (neAbufsiz - 1) false false).takeWhile (· ≠ 0))) := by
  have hlt (prompt : Bytes) (echo : Bool) :
      ((cb.answer prompt (neAbufsiz - 1) echo false).takeWhile (· ≠ 0)).length < neAbufsiz :=
    calc _ ≤ (cb.answer prompt (neAbufsiz - 1) echo false).length :=
          (List.takeWhile_prefix _).sublist.length_le
      _ ≤ neAbufsiz - 1 := cb.answer_le _ _ _ _
      _ < neAbufsiz := by decide
  rw [neAuthCallback_of_callback attempt u p cb hs]
  simp only [Option.map_some', CharBuf.cString_strncpy, askCallback_takeWhile, hlt, if_true, and_self]

/-- A callback that answers `alice` to every prompt. -/
def aliceCallback : AuthCallback :=
  ⟨fun _ len _ _ => (cstr "alice").take len, fun _ _ _ _ => List.length_take_le _ _⟩

theorem neAuthCallback_callback_terminated_alice :
    (⟨.null, none, none⟩ : DavSession).user = none ∧
      (neAuthCallback (some aliceCallback) ⟨.null, none, none⟩ 0 (some (.zero neAbufsiz))
        (some (.zero neAbufsiz))).2.1.map CharBuf.cString = some (some (cstr "alice")) ∧
      (neAuthCallback (some aliceCallback) ⟨.null, none, none⟩ 0 (some (.zero neAbufsiz))
        (some (.zero neAbufsiz))).2.2.map CharBuf.cString = some (some (cstr "alice")) :=
  ⟨rfl, neAuthCallback_callback_terminated aliceCallback rfl 0 _ _⟩

/-- A base URL whose user name is `NE_ABUFSIZ` bytes long. -/
def longUserUrl : Bytes := cstr "owncloud://" ++ List.replicate neAbufsiz 117 ++ cstr ":p@h/"

set_option maxRecDepth 2000 in
theorem long_user_fills_username_without_nul (u p : CharBuf neAbufsiz) :
    (davConnect DavServer.neon longUserUrl (.init stdDisk twinServer)).2.session.user =
        some (List.replicate neAbufsiz 117) ∧
      (neAuthCallback none (davConnect DavServer.neon longUserUrl (.init stdDisk twinServer)).2.session 0
        (some u) (some p)).2.1.map CharBuf.cString = some none := by
  have hs : (davConnect DavServer.neon longUserUrl (.init stdDisk twinServer)).2.session.user =
      some (List.replicate neAbufsiz 117) := by
    decide
  refine ⟨hs, ?_⟩
  rw [neAuthCallback_of_user none 0 u p hs]
  simp only [Option.map_some', CharBuf.cString_strncpy]
  decide

end Owncloud
