import CsyncOwncloud.Listing

/-! What the adapter calls out to: neon's network side, as an oracle whose answers are drawn
from a state `σ` of the server and the connection, and the local POSIX file calls behind
the transfer handles' temporary files. -/

namespace Owncloud

/-- The `ne_session *` held in `dav_session.ctx`. -/
inductive SessionPtr
  | null
  | live
  | freed
  deriving DecidableEq, Repr

/-- The neon calls that are handed the session. -/
inductive NeCall
  | simplePropfind
  | getError
  | mkcol
  | delete
  | move
  | proppatch
  | requestCreate
  | requestDispatch
  | get
  | sessionDestroy
  deriving DecidableEq, Repr

/-- The answers of neon's network calls. A call that changes the server returns its new
state; `requestDispatch` also answers the class of the final status. -/
structure Neon (σ : Type) where
  sockInit : σ → Int
  sessionCreate : σ → Bytes → Bytes → Int → Bool
  simplePropfind : σ → Bytes → Int × List PropEntry
  getError : σ → Bytes
  mkcol : σ → Bytes → Int × σ
  delete : σ → Bytes → Int × σ
  move : σ → Bytes → Bytes → Int × σ
  proppatch : σ → Bytes → Bytes → Int × σ
  beginRequest : σ → Bytes → Int × σ
  requestDispatch : σ → Bytes → Bytes → Int × Nat × σ
  get : σ → Bytes → Int × Bytes
  scheme : σ → Bytes
  hostport : σ → Bytes

/-- An open file description: the file, the offset, and whether it is open for writing. -/
structure OpenFile where
  path : Bytes
  pos : Nat
  writable : Bool
  deriving DecidableEq, Repr

/-- What the kernel does with one fallible local call: carries it out in full, fails it
(-1), or, for a write or a read, moves only its first `n` bytes. -/
inductive Outcome
  | full
  | fail
  | short (n : Nat)
  deriving DecidableEq, Repr

/-- How many of the `n` bytes a write or a read asks for the kernel moves. -/
def Outcome.cap : Outcome → Nat → Nat
  | .short k, n => min k n
  | _, n => n

/-- The local files the adapter touches and the process's descriptor table as its own calls
see it; the socket neon opens is not modelled, so it holds none of these descriptors.
`mkstemp` tries the names `/tmp/csync.<k>` from a counter on. `outcomes` is what the kernel
does with the next calls, in order, one each; once it is used up every call succeeds. A call
on a bad descriptor or a missing file fails whatever its outcome. -/
structure LocalFs where
  files : Bytes → Option Bytes
  fds : List (Int × OpenFile)
  tmpCount : Nat
  outcomes : List Outcome

namespace LocalFs

/-- The kernel's answer to the next fallible call, and the disk with that answer used. -/
def next (fs : LocalFs) : Outcome × LocalFs :=
  (fs.outcomes.headD .full, { fs with outcomes := fs.outcomes.tail })

/-- POSIX hands out the lowest free descriptor. -/
def lowestFree (fds : List (Int × OpenFile)) : Int :=
  ((List.range (fds.length + 1)).find? fun n => (fds.lookup (n : Int)).isNone).getD fds.length

def tmpName (n : Nat) : Bytes := cstr "/tmp/csync." ++ cstr (toString n)

/-- glibc's `TMP_MAX`: how many names `mkstemp` tries before it gives up. -/
def tmpMax : Nat := 238328

/-- The first of `n` names `/tmp/csync.<k>`, `/tmp/csync.<k+1>`, ... that no file has. -/
def freshIndex (files : Bytes → Option Bytes) (k : Nat) : Nat → Option Nat
  | 0 => none
  | n + 1 => if (files (tmpName k)).isNone then some k else freshIndex files (k + 1) n

/-- The disk once `mkstemp` has made `/tmp/csync.<n>` empty and opened it for reading and
writing on the lowest free descriptor. -/
def made (fs : LocalFs) (n : Nat) : LocalFs :=
  { fs.next.2 with files := Function.update fs.files (tmpName n) (some []),
                   fds := (lowestFree fs.fds, ⟨tmpName n, 0, true⟩) :: fs.fds, tmpCount := n + 1 }

/-- `mkstemp` on `/tmp/csync.XXXXXX`: a file of a name no file has, opened on the lowest free
descriptor; -1 when the kernel fails the call or no name is free. -/
def mkstemp (fs : LocalFs) : Int × Bytes × LocalFs :=
  match freshIndex fs.files fs.tmpCount tmpMax with
  | some n => if fs.next.1 = .fail then (-1, cstr "/tmp/csync.XXXXXX", fs.next.2)
    else (lowestFree fs.fds, tmpName n, fs.made n)
  | none => (-1, cstr "/tmp/csync.XXXXXX", fs.next.2)

/-- `open (path, O_RDONLY)`. -/
def openRead (fs : LocalFs) (path : Bytes) : Int × LocalFs :=
  match fs.files path with
  | none => (-1, fs.next.2)
  | some _ => if fs.next.1 = .fail then (-1, fs.next.2)
    else (lowestFree fs.fds, { fs.next.2 with fds := (lowestFree fs.fds, ⟨path, 0, false⟩) :: fs.fds })

/-- `close`: the descriptor is released even when the kernel reports a failure, as on Linux. -/
def close (fs : LocalFs) (fd : Int) : Int × LocalFs :=
  match fs.fds.lookup fd with
  | none => (-1, fs.next.2)
  | some _ => (if fs.next.1 = .fail then -1 else 0, { fs.next.2 with fds := fs.fds.filter (·.1 ≠ fd) })

def setPos (fds : List (Int × OpenFile)) (fd : Int) (pos : Nat) : List (Int × OpenFile) :=
  fds.map fun d => if d.1 = fd then (fd, { d.2 with pos := pos }) else d

/-- The bytes `data` put at the offset of `fd`, open on `f`, which moves past them. -/
def put (fs : LocalFs) (fd : Int) (f : OpenFile) (data : Bytes) : LocalFs :=
  let old := (fs.files f.path).getD []
  { fs with files := Function.update fs.files f.path (some (old.take f.pos ++ data ++ old.drop (f.pos + data.length))),
            fds := setPos fs.fds fd (f.pos + data.length) }

/-- A `write` of `data` at the offset, which fails on a descriptor not open for writing
(`EBADF`); a short one is reported, unless the caller writes again until the whole of `data`
is in (`whole`). -/
def writeWith (whole : Bool) (fs : LocalFs) (fd : Int) (data : Bytes) : Int × LocalFs :=
  match fs.fds.lookup fd with
  | none => (-1, fs.next.2)
  | some f =>
    if fs.next.1 = .fail ∨ f.writable = false then (-1, fs.next.2) else
    let data := if whole then data else data.take (fs.next.1.cap data.length)
    (data.length, fs.next.2.put fd f data)

/-- `write`: as many of the bytes as the kernel takes go at the offset. -/
def write (fs : LocalFs) (fd : Int) (data : Bytes) : Int × LocalFs := fs.writeWith false fd data

/-- How `ne_get` writes a response body to a descriptor: it writes again after a short write,
so the body lands whole unless the kernel fails the call. -/
def writeAll (fs : LocalFs) (fd : Int) (data : Bytes) : Int × LocalFs := fs.writeWith true fd data

/-- `read`: up to `count` bytes from the offset, as many as the kernel moves. Every descriptor
the adapter opens is open for reading. -/
def read (fs : LocalFs) (fd : Int) (count : Nat) : Int × Bytes × LocalFs :=
  match fs.fds.lookup fd with
  | none => (-1, [], fs.next.2)
  | some f =>
    if fs.next.1 = .fail then (-1, [], fs.next.2) else
    let data := (((fs.files f.path).getD []).drop f.pos).take (fs.next.1.cap count)
    (data.length, data, { fs.next.2 with fds := setPos fs.fds fd (f.pos + data.length) })

/-- The whole file behind a descriptor, as `fstat` sizes it and a body read from offset 0
sends it. -/
def contents (fs : LocalFs) (fd : Int) : Bytes :=
  ((fs.fds.lookup fd).bind fun f => fs.files f.path).getD []

/-- `unlink`, whose answer `_close` ignores. -/
def unlink (fs : LocalFs) (path : Bytes) : Int × LocalFs :=
  match fs.files path with
  | none => (-1, fs)
  | some _ => (0, { fs with files := Function.update fs.files path none })

theorem tmpName_injective : Function.Injective tmpName := fun m n h => by
  have := congrArg digitsValue (List.append_cancel_left h)
  rwa [digitsValue_toString, digitsValue_toString] at this

theorem lookup_cons_ite (x k : Int) (f : OpenFile) (l : List (Int × OpenFile)) :
    ((k, f) :: l).lookup x = if x = k then some f else l.lookup x := by
  by_cases h : x = k
  · simp [List.lookup_cons, h]
  · simp [List.lookup_cons, h, beq_eq_false_iff_ne.mpr h]

theorem lookup_lowestFree (fds : List (Int × OpenFile)) : fds.lookup (lowestFree fds) = none := by
  unfold lowestFree
  cases h : List.find? _ _ with
  | some n => simpa using List.find?_some h
  | none =>
    have hsub : (List.range (fds.length + 1)).map (Nat.cast : Nat → Int) ⊆ fds.map Prod.fst := by
      intro x hx
      obtain ⟨n, hn, rfl⟩ := List.mem_map.mp hx
      have := List.find?_eq_none.mp h n (List.mem_flatMap.mpr ⟨n, hn, List.mem_singleton_self _⟩)
      obtain ⟨f, hf⟩ : ∃ f, ((n : Int), f) ∈ fds := by simpa using this
      exact List.mem_map.mpr ⟨_, hf, rfl⟩
    have := (List.subperm_of_subset ((List.nodup_range _).map fun _ _ => Int.ofNat.inj) hsub).length_le
    simp only [List.length_map, List.length_range] at this
    omega

theorem lowestFree_nonneg (fds : List (Int × OpenFile)) : 0 ≤ lowestFree fds := by
  unfold lowestFree
  cases h : List.find? _ _ with
  | none => exact Int.natCast_nonneg _
  | some n =>
    obtain ⟨a, -, rfl⟩ : ∃ a, a < fds.length + 1 ∧ n = (a : Int) := by
      simpa using List.mem_of_find?_eq_some h
    exact Int.natCast_nonneg a

theorem ne_lowestFree {fds : List (Int × OpenFile)} {x : Int} {f : OpenFile} (h : fds.lookup x = some f) :
    x ≠ lowestFree fds := by
  rintro rfl; rw [lookup_lowestFree] at h; cases h

theorem lookup_filter_ne (fds : List (Int × OpenFile)) (fd x : Int) :
    (fds.filter (·.1 ≠ fd)).lookup x = if x = fd then none else fds.lookup x := by
  induction fds with
  | nil => simp
  | cons e fds ih =>
    obtain ⟨k, f⟩ := e
    by_cases hk : k = fd
    · subst hk
      rw [List.filter_cons_of_neg (by simp), ih, lookup_cons_ite]
      split_ifs <;> simp_all [lookup_cons_ite]
    · rw [List.filter_cons_of_pos (by simpa using hk), lookup_cons_ite, ih, lookup_cons_ite]
      split_ifs <;> simp_all [lookup_cons_ite]

theorem lookup_setPos (fds : List (Int × OpenFile)) (fd x : Int) (pos : Nat) :
    (setPos fds fd pos).lookup x =
      if x = fd then (fds.lookup fd).map ({ · with pos := pos }) else fds.lookup x := by
  induction fds with
  | nil => simp [setPos]
  | cons e fds ih =>
    obtain ⟨k, f⟩ := e
    simp only [setPos, List.map_cons] at ih ⊢
    by_cases hk : k = fd
    · subst hk
      simp only [if_pos rfl, lookup_cons_ite, ih]
      split_ifs <;> simp_all [lookup_cons_ite]
    · simp only [if_neg hk, lookup_cons_ite, ih]
      split_ifs <;> simp_all [lookup_cons_ite]

theorem lookup_setPos_self {fds : List (Int × OpenFile)} {fd : Int} {f : OpenFile} (h : fds.lookup fd = some f)
    (pos : Nat) : (setPos fds fd pos).lookup fd = some { f with pos := pos } := by
  simp [lookup_setPos, h]

theorem freshIndex_spec {files : Bytes → Option Bytes} {k n j : Nat} (h : freshIndex files k n = some j) :
    k ≤ j ∧ files (tmpName j) = none := by
  induction n generalizing k with
  | zero => cases h
  | succ n ih =>
    simp only [freshIndex] at h
    split_ifs at h with hk
    · cases h; exact ⟨le_rfl, Option.isNone_iff_eq_none.mp hk⟩
    · exact (ih h).imp_left (by omega)

theorem take_append_take_drop (l : Bytes) (pos n : Nat) :
    l.take pos ++ (l.drop pos).take n = l.take (pos + ((l.drop pos).take n).length) := by
  rw [List.take_add, List.length_take, ← List.take_take, List.take_length]

section
variable (fs : LocalFs)

@[simp] theorem next_files : fs.next.2.files = fs.files := rfl
@[simp] theorem next_fds : fs.next.2.fds = fs.fds := rfl
@[simp] theorem next_tmpCount : fs.next.2.tmpCount = fs.tmpCount := rfl

@[simp] theorem made_tmpCount (n : Nat) : (fs.made n).tmpCount = n + 1 := rfl
@[simp] theorem made_fds (n : Nat) : (fs.made n).fds = (lowestFree fs.fds, ⟨tmpName n, 0, true⟩) :: fs.fds := rfl
theorem made_files (n : Nat) : (fs.made n).files = Function.update fs.files (tmpName n) (some []) := rfl

theorem mkstemp_cases :
    (fs.mkstemp.1 = -1 ∧ fs.mkstemp.2.2 = fs.next.2) ∨
      ∃ n, fs.tmpCount ≤ n ∧ fs.files (tmpName n) = none ∧
        fs.mkstemp = (lowestFree fs.fds, tmpName n, fs.made n) := by
  unfold mkstemp
  split
  · rename_i n hn
    split_ifs
    · exact .inl ⟨rfl, rfl⟩
    · exact .inr ⟨n, (freshIndex_spec hn).1, (freshIndex_spec hn).2, rfl⟩
  · exact .inl ⟨rfl, rfl⟩

@[simp] theorem openRead_files (p : Bytes) : (fs.openRead p).2.files = fs.files := by
  unfold openRead; split <;> [rfl; split_ifs <;> rfl]
@[simp] theorem openRead_tmpCount (p : Bytes) : (fs.openRead p).2.tmpCount = fs.tmpCount := by
  unfold openRead; split <;> [rfl; split_ifs <;> rfl]
theorem openRead_cases (p : Bytes) :
    ((fs.openRead p).1 = -1 ∧ (fs.openRead p).2 = fs.next.2) ∨
      (fs.files p).isSome ∧
        fs.openRead p = (lowestFree fs.fds, { fs.next.2 with fds := (lowestFree fs.fds, ⟨p, 0, false⟩) :: fs.fds }) := by
  unfold openRead
  split
  · exact .inl ⟨rfl, rfl⟩
  · split_ifs
    · exact .inl ⟨rfl, rfl⟩
    · exact .inr ⟨by simp [*], rfl⟩
theorem openRead_lookup {x : Int} {f : OpenFile} (p : Bytes) (h : fs.fds.lookup x = some f) :
    (fs.openRead p).2.fds.lookup x = some f := by
  rcases fs.openRead_cases p with ⟨-, he⟩ | ⟨-, he⟩ <;> rw [he]
  · exact h
  · simp [lookup_cons_ite, ne_lowestFree h, h]

@[simp] theorem close_tmpCount (fd : Int) : (fs.close fd).2.tmpCount = fs.tmpCount := by
  unfold close; split <;> rfl
@[simp] theorem close_files (fd : Int) : (fs.close fd).2.files = fs.files := by
  unfold close; split <;> rfl
theorem close_lookup (fd x : Int) :
    (fs.close fd).2.fds.lookup x = if x = fd then none else fs.fds.lookup x := by
  unfold close
  split
  · split_ifs with h
    · subst h; assumption
    · rfl
  · exact lookup_filter_ne _ _ _
theorem close_of_lookup {fd : Int} {f : OpenFile} (h : fs.fds.lookup fd = some f) :
    (fs.close fd).1 = if fs.next.1 = .fail then -1 else 0 := by
  simp [close, h]

theorem put_files (fd : Int) (f : OpenFile) (d : Bytes) :
    (fs.put fd f d).files = Function.update fs.files f.path
      (some (((fs.files f.path).getD []).take f.pos ++ d ++ ((fs.files f.path).getD []).drop (f.pos + d.length))) :=
  rfl
theorem put_fds (fd : Int) (f : OpenFile) (d : Bytes) :
    (fs.put fd f d).fds = setPos fs.fds fd (f.pos + d.length) := rfl

section
variable {fd : Int} {f : OpenFile} (e : Bytes)

@[simp] theorem put_tmpCount : (fs.put fd f e).tmpCount = fs.tmpCount := rfl
theorem put_lookup_of_ne {x : Int} (h : x ≠ fd) : (fs.put fd f e).fds.lookup x = fs.fds.lookup x := by
  simp [put_fds, lookup_setPos, h]
theorem put_lookup_isSome (hf : fs.fds.lookup fd = some f) (x : Int) :
    ((fs.put fd f e).fds.lookup x).isSome = (fs.fds.lookup x).isSome := by
  by_cases h : x = fd
  · subst h; simp [put_fds, lookup_setPos, hf]
  · rw [put_lookup_of_ne _ _ h]
theorem put_files_of_ne {q : Bytes} (h : q ≠ f.path) : (fs.put fd f e).files q = fs.files q := by
  rw [put_files, Function.update_noteq h]
theorem put_files_isSome {p : Bytes} (hp : (fs.files p).isSome) : ((fs.put fd f e).files p).isSome := by
  by_cases h : p = f.path
  · subst h; simp [put_files]
  · rwa [put_files_of_ne _ _ h]

end

section
variable (b : Bool) (fd : Int) (d : Bytes)

theorem writeWith_cases :
    (fs.writeWith b fd d).2 = fs.next.2 ∨
      ∃ f e, fs.fds.lookup fd = some f ∧ (fs.writeWith b fd d).2 = fs.next.2.put fd f e := by
  unfold writeWith
  split
  · exact .inl rfl
  · split_ifs
    · exact .inl rfl
    all_goals exact .inr ⟨_, _, ‹_›, rfl⟩

@[simp] theorem writeWith_tmpCount : (fs.writeWith b fd d).2.tmpCount = fs.tmpCount := by
  rcases fs.writeWith_cases b fd d with h | ⟨f, e, -, h⟩ <;> rw [h] <;> rfl
theorem writeWith_lookup_of_ne {x : Int} (h : x ≠ fd) : (fs.writeWith b fd d).2.fds.lookup x = fs.fds.lookup x := by
  rcases fs.writeWith_cases b fd d with he | ⟨f, e, -, he⟩ <;> rw [he]
  · rfl
  · exact put_lookup_of_ne _ _ h
theorem writeWith_files_of_ne {q : Bytes} (h : ∀ f, fs.fds.lookup fd = some f → f.path ≠ q) :
    (fs.writeWith b fd d).2.files q = fs.files q := by
  rcases fs.writeWith_cases b fd d with he | ⟨f, e, hf, he⟩ <;> rw [he]
  · rfl
  · exact put_files_of_ne _ _ (h f hf).symm
theorem writeWith_lookup_isSome (x : Int) :
    ((fs.writeWith b fd d).2.fds.lookup x).isSome = (fs.fds.lookup x).isSome := by
  rcases fs.writeWith_cases b fd d with he | ⟨f, e, hf, he⟩ <;> rw [he]
  · rfl
  · exact put_lookup_isSome _ _ hf x
theorem writeWith_files_isSome_of {n : Bytes} (h : ((fs.writeWith b fd d).2.files n).isSome) :
    (fs.files n).isSome ∨ ∃ f, fs.fds.lookup fd = some f ∧ f.path = n := by
  rcases fs.writeWith_cases b fd d with he | ⟨f, e, hf, he⟩ <;> rw [he] at h
  · exact .inl h
  · by_cases hn : n = f.path
    · exact .inr ⟨f, hf, hn.symm⟩
    · exact .inl (by rwa [put_files_of_ne _ _ hn] at h)
theorem writeWith_files_isSome {p : Bytes} (hp : (fs.files p).isSome) : ((fs.writeWith b fd d).2.files p).isSome := by
  rcases fs.writeWith_cases b fd d with he | ⟨f, e, -, he⟩ <;> rw [he]
  · exact hp
  · exact put_files_isSome _ _ hp

end

theorem write_of_lookup {fd : Int} {f : OpenFile} (h : fs.fds.lookup fd = some f) (d : Bytes) :
    fs.write fd d = if fs.next.1 = .fail ∨ f.writable = false then (-1, fs.next.2) else
      (((d.take (fs.next.1.cap d.length)).length : Int), fs.next.2.put fd f (d.take (fs.next.1.cap d.length))) := by
  simp [write, writeWith, h]

@[simp] theorem read_files (fd : Int) (n : Nat) : (fs.read fd n).2.2.files = fs.files := by
  unfold read; split <;> [rfl; split_ifs <;> rfl]
@[simp] theorem read_tmpCount (fd : Int) (n : Nat) : (fs.read fd n).2.2.tmpCount = fs.tmpCount := by
  unfold read; split <;> [rfl; split_ifs <;> rfl]
theorem read_of_lookup {fd : Int} {f : OpenFile} (h : fs.fds.lookup fd = some f) (n : Nat) :
    fs.read fd n = if fs.next.1 = .fail then (-1, [], fs.next.2) else
      ((((((fs.files f.path).getD []).drop f.pos).take (fs.next.1.cap n)).length : Int),
        (((fs.files f.path).getD []).drop f.pos).take (fs.next.1.cap n),
        { fs.next.2 with fds := setPos fs.fds fd (f.pos +
            ((((fs.files f.path).getD []).drop f.pos).take (fs.next.1.cap n)).length) }) := by
  simp [read, h]
theorem read_lookup_of_ne {fd x : Int} (h : x ≠ fd) (n : Nat) :
    (fs.read fd n).2.2.fds.lookup x = fs.fds.lookup x := by
  unfold read; split <;> [rfl; split_ifs <;> simp [lookup_setPos, h]]
theorem read_lookup_isSome (fd x : Int) (n : Nat) :
    ((fs.read fd n).2.2.fds.lookup x).isSome = (fs.fds.lookup x).isSome := by
  unfold read; split
  · rfl
  · split_ifs
    · rfl
    · rw [lookup_setPos]; split_ifs with h
      · subst h; simp [*]
      · rfl

@[simp] theorem unlink_snd (p : Bytes) : (fs.unlink p).2 = { fs with files := Function.update fs.files p none } := by
  unfold unlink
  split
  · have := Function.update_eq_self p fs.files
    rw [‹fs.files p = none›] at this
    rw [this]
  · rfl

@[simp] theorem unlink_files_self (p : Bytes) : (fs.unlink p).2.files p = none := by
  simp

theorem made_files_of_ne {n : Nat} {m : Bytes} (h : m ≠ tmpName n) : (fs.made n).files m = fs.files m := by
  rw [made_files, Function.update_noteq h]

theorem made_lookup_isSome {n : Nat} {x : Int} (h : ((fs.made n).fds.lookup x).isSome) :
    (fs.fds.lookup x).isSome ∨ x = lowestFree fs.fds := by
  rw [made_fds, lookup_cons_ite] at h
  split_ifs at h with hx
  exacts [.inr hx, .inl h]

theorem made_writeAll_close (n : Nat) (body : Bytes) {d : LocalFs}
    (hd : d = (((fs.made n).writeAll (lowestFree fs.fds) body).2.close (lowestFree fs.fds)).2) :
    d.tmpCount = n + 1 ∧ (∀ m, m ≠ tmpName n → d.files m = fs.files m) ∧
      ∀ x, (d.fds.lookup x).isSome → (fs.fds.lookup x).isSome := by
  subst hd
  refine ⟨by simp [writeAll], fun m hm => ?_, fun x h => ?_⟩
  · rw [close_files, writeAll, writeWith_files_of_ne _ _ _ _ (fun f hf => by
      simp [lookup_cons_ite] at hf; rw [← hf]; exact hm.symm), made_files_of_ne _ hm]
  · rw [close_lookup] at h
    split_ifs at h with hx
    · simp at h
    · exact (made_lookup_isSome fs (by rwa [writeAll, writeWith_lookup_isSome] at h)).resolve_right hx

end

end LocalFs

end Owncloud
