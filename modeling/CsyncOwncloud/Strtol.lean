import CsyncOwncloud.CString

/-! The libc numeral parsers behind `DAV_STRTOL` and `ne_session_error_errno`:
`strtoull` and `strtol` in base 10, with the end pointer they report. -/

namespace Owncloud

def isSpace (c : UInt8) : Bool := c = 32 || (9 ≤ c.toNat && c.toNat ≤ 13)

def isDigit (c : UInt8) : Bool := 48 ≤ c.toNat && c.toNat ≤ 57

def digitsValue (ds : Bytes) : Nat := ds.foldl (fun n d => 10 * n + (d.toNat - 48)) 0

theorem digitChar_byte {d : Nat} (h : d < 10) : (Nat.digitChar d).toNat.toUInt8.toNat = 48 + d := by
  have : ∀ d : Fin 10, (Nat.digitChar d).toNat.toUInt8.toNat = 48 + d := by decide
  exact this ⟨d, h⟩

theorem toDigitsCore_succ (f n : Nat) (ds : List Char) :
    Nat.toDigitsCore 10 (f + 1) n ds =
      if n / 10 = 0 then Nat.digitChar (n % 10) :: ds
      else Nat.toDigitsCore 10 f (n / 10) (Nat.digitChar (n % 10) :: ds) := rfl

theorem toDigitsCore_append (f n : Nat) (ds : List Char) :
    Nat.toDigitsCore 10 f n ds = Nat.toDigitsCore 10 f n [] ++ ds := by
  induction f generalizing n ds with
  | zero => rfl
  | succ f ih =>
    rw [toDigitsCore_succ, toDigitsCore_succ]
    split_ifs
    · rfl
    · rw [ih _ (_ :: ds), ih _ [_], List.append_assoc, List.singleton_append]

theorem digitsValue_toDigitsCore (f n : Nat) (h : n < f) :
    digitsValue ((Nat.toDigitsCore 10 f n []).map fun c => c.toNat.toUInt8) = n := by
  induction f generalizing n with
  | zero => omega
  | succ f ih =>
    have hd := digitChar_byte (Nat.mod_lt n (by decide : 10 > 0))
    rw [toDigitsCore_succ]
    split_ifs with h0
    · simp [digitsValue, hd]; omega
    · rw [toDigitsCore_append, List.map_append, digitsValue, List.foldl_append, ← digitsValue,
        ih _ (by omega)]
      simp [hd]; omega

/-- `toString` writes the decimal digits that `digitsValue` reads back. -/
theorem digitsValue_toString (n : Nat) : digitsValue (cstr (toString n)) = n :=
  digitsValue_toDigitsCore (n + 1) n (Nat.lt_succ_self n)

/-- What a base-10 `strto*` call reads: white space, an optional sign, then the digits,
and the bytes its end pointer is left at. -/
structure Numeral where
  negative : Bool
  digits : Bytes
  rest : Bytes

def scanNumeral (s : Bytes) : Numeral :=
  let t := s.dropWhile isSpace
  let (neg, u) : Bool × Bytes :=
    match t with
    | c :: u => if c = 45 then (true, u) else if c = 43 then (false, u) else (false, t)
    | [] => (false, [])
  ⟨neg, u.takeWhile isDigit, u.dropWhile isDigit⟩

def ullongMax : Nat := 2 ^ 64 - 1

/-- `strtoull (s, &end, 10)`: the value and the bytes from `end` on. Without digits the
value is 0 and `end` is `s`; past `ULLONG_MAX` it saturates; a minus sign negates modulo
`2^64`. -/
def strtoull (s : Bytes) : UInt64 × Bytes :=
  let n := scanNumeral s
  if n.digits = [] then (0, s) else
    let v := digitsValue n.digits
    if ullongMax < v then (UInt64.ofNat ullongMax, n.rest)
    else (UInt64.ofNat (if n.negative then (2 ^ 64 - v) % 2 ^ 64 else v), n.rest)

def longMax : Int := 2 ^ 63 - 1

/-- `strtol (s, &end, 10)` for a 64-bit `long`, saturating at `LONG_MIN` and `LONG_MAX`. -/
def strtol (s : Bytes) : Int × Bytes :=
  let n := scanNumeral s
  if n.digits = [] then (0, s) else
    let v : Int := digitsValue n.digits
    (if n.negative then max (-v) (-longMax - 1) else min v longMax, n.rest)

theorem isDigit_toNat {c : UInt8} (h : isDigit c = true) : 48 ≤ c.toNat ∧ c.toNat ≤ 57 := by
  simpa [isDigit] using h

theorem isDigit_not_space {c : UInt8} (h : isDigit c = true) : isSpace c = false := by
  have := isDigit_toNat h
  have h32 : c ≠ 32 := by rintro rfl; exact absurd this (by decide)
  simp [isSpace, h32]
  omega

/-- A string of digits is read whole. -/
theorem scanNumeral_digits {ds : Bytes} (hd : ∀ c ∈ ds, isDigit c = true) :
    scanNumeral ds = ⟨false, ds, []⟩ := by
  cases ds with
  | nil => rfl
  | cons c cs =>
    have hc := isDigit_toNat (hd c (List.mem_cons_self _ _))
    have h45 : c ≠ 45 := by rintro rfl; exact absurd hc (by decide)
    have h43 : c ≠ 43 := by rintro rfl; exact absurd hc (by decide)
    simp [scanNumeral, isDigit_not_space (hd c (List.mem_cons_self _ _)), h45, h43,
      List.takeWhile_eq_self_iff.mpr hd, List.dropWhile_eq_nil_iff.mpr hd]

theorem scanNumeral_minus {ds : Bytes} (hd : ∀ c ∈ ds, isDigit c = true) :
    scanNumeral (45 :: ds) = ⟨true, ds, []⟩ := by
  have hs : isSpace 45 = false := by decide
  simp [scanNumeral, hs, List.takeWhile_eq_self_iff.mpr hd, List.dropWhile_eq_nil_iff.mpr hd]

/-- The configuration macros that choose `DAV_STRTOL`. -/
structure Config where
  haveUnsignedLongLong : Bool
  haveStrtoull : Bool

/-- `DAV_STRTOL (s, &p, 10)` stored into a `dav_size_t`: `strtoull` when both macros are
set, else `strtol` converted to the unsigned 64-bit type. -/
def davStrtol (cfg : Config) (s : Bytes) : UInt64 × Bytes :=
  if cfg.haveUnsignedLongLong && cfg.haveStrtoull then strtoull s
  else
    let r := strtol s
    (UInt64.ofNat (r.1 % 2 ^ 64).toNat, r.2)

theorem davStrtol_of_no_digits (cfg : Config) {s : Bytes} (h : (scanNumeral s).digits = []) :
    davStrtol cfg s = (0, s) := by
  unfold davStrtol; split_ifs <;> simp [strtoull, strtol, h]

theorem davStrtol_snd (cfg : Config) {s : Bytes} (h : (scanNumeral s).digits ≠ []) :
    (davStrtol cfg s).2 = (scanNumeral s).rest := by
  unfold davStrtol strtoull strtol
  simp only [h, if_false]
  split_ifs <;> rfl

/-- `strtol` saturates into the range of a 64-bit `long`. -/
theorem strtol_bounds (s : Bytes) : -2 ^ 63 ≤ (strtol s).1 ∧ (strtol s).1 < 2 ^ 63 := by
  unfold strtol longMax; dsimp only; split_ifs <;> omega

end Owncloud
