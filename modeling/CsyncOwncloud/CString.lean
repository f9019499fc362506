import Mathlib.Data.List.Basic
import Mathlib.Algebra.Group.Int

/-! C strings as the bytes before their terminating NUL, and the libc and csync string
functions the module calls: `strcmp`, `strncmp`, `c_basename`, `c_dirname`. -/

namespace Owncloud

/-- A C string: the bytes before its terminating NUL. -/
abbrev Bytes := List UInt8

/-- An ASCII literal as a C string. -/
def cstr (s : String) : Bytes := s.toList.map fun c => c.toNat.toUInt8

def slash : UInt8 := 47

/-- `strcmp`, walking both strings while the bytes agree. C fixes only the sign of the
result, so the model answers `-1`, `0` or `1`. -/
def strcmp : Bytes → Bytes → Int
  | [], [] => 0
  | [], _ :: _ => -1
  | _ :: _, [] => 1
  | a :: as, b :: bs => if a = b then strcmp as bs else if a.toNat < b.toNat then -1 else 1

/-- `strncmp`: `strcmp` on the first `n` bytes. -/
def strncmp (a b : Bytes) (n : Nat) : Int := strcmp (a.take n) (b.take n)

theorem uint8_eq_iff {a b : UInt8} : a = b ↔ a.toNat = b.toNat :=
  ⟨congrArg _, UInt8.toNat.inj⟩

@[simp] theorem strcmp_self (a : Bytes) : strcmp a a = 0 := by
  induction a with
  | nil => rfl
  | cons x xs ih => simp [strcmp, ih]

theorem strcmp_eq_zero {a b : Bytes} : strcmp a b = 0 ↔ a = b := by
  refine ⟨fun h => ?_, fun h => h ▸ strcmp_self a⟩
  induction a generalizing b with
  | nil => cases b <;> simp_all [strcmp]
  | cons x xs ih =>
    cases b with
    | nil => simp [strcmp] at h
    | cons y ys =>
      simp only [strcmp] at h
      split_ifs at h with hxy
      · rw [hxy, ih h]
      all_goals omega

theorem strcmp_swap (a b : Bytes) : strcmp b a = -strcmp a b := by
  induction a generalizing b with
  | nil => cases b <;> rfl
  | cons x xs ih =>
    cases b with
    | nil => rfl
    | cons y ys =>
      simp only [strcmp, uint8_eq_iff, ih]
      split_ifs <;> omega

theorem strcmp_le_trans {a b c : Bytes} (hab : strcmp a b ≤ 0) (hbc : strcmp b c ≤ 0) :
    strcmp a c ≤ 0 := by
  induction a generalizing b c with
  | nil => cases c <;> simp [strcmp]
  | cons x xs ih =>
    match b, c with
    | [], _ => simp [strcmp] at hab
    | _ :: _, [] => simp [strcmp] at hbc
    | y :: ys, z :: zs =>
      simp only [strcmp, uint8_eq_iff] at hab hbc ⊢
      split_ifs at hab hbc ⊢ <;> first | omega | exact ih hab hbc

/-- A proper prefix sorts first. -/
theorem strcmp_append (a c : Bytes) (hc : c ≠ []) : strcmp a (a ++ c) = -1 := by
  induction a with
  | nil => cases c <;> simp_all [strcmp]
  | cons x xs ih => simp [strcmp, ih]

def dropTrailingSlashes (p : Bytes) : Bytes := (p.reverse.dropWhile (· = slash)).reverse

/-- csync's `c_basename`: the last path component, trailing slashes removed. -/
def cBasename (path : Bytes) : Bytes :=
  if path = [] then cstr "." else
    let p := dropTrailingSlashes path
    if p = [] then cstr "/" else (p.reverse.takeWhile (· ≠ slash)).reverse

/-- csync's `c_dirname`: everything before the last path component. -/
def cDirname (path : Bytes) : Bytes :=
  if path = [] then cstr "." else
    let p := dropTrailingSlashes path
    if p = [] then cstr "/" else
      let d := (p.reverse.dropWhile (· ≠ slash)).reverse
      if d = [] then cstr "." else if d.length = 1 then cstr "/" else dropTrailingSlashes d

end Owncloud
