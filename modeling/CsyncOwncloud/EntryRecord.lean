import CsyncOwncloud.Server

/-! The size and the time in the record a PropFind entry yields. The content length goes
through `DAV_STRTOL`, which skips white space, takes a sign and saturates, and only bytes left
after the numeral make it 0; the record always carries the MTIME flag, with 0 when no date
came. -/

namespace Owncloud

theorem toOffT_ofNat (n : Nat) :
    toOffT (UInt64.ofNat n) =
      if n % 2 ^ 64 < 2 ^ 63 then ((n % 2 ^ 64 : Nat) : Int) else ((n % 2 ^ 64 : Nat) : Int) - 2 ^ 64 := by
  have : (UInt64.ofNat n).toNat = n % 2 ^ 64 := by simp [UInt64.ofNat, UInt64.toNat]
  simp only [toOffT, this]

/-- A `long` stored through `dav_size_t` into the record's `off_t` comes back unchanged. -/
theorem toOffT_ofInt {x : Int} (h1 : -2 ^ 63 ≤ x) (h2 : x < 2 ^ 63) :
    toOffT (UInt64.ofNat (x % 2 ^ 64).toNat) = x := by
  rw [toOffT_ofNat]; split_ifs <;> omega

/-- Without `strtoull`, the record's size is what `strtol` read. -/
theorem toOffT_davStrtol_of_strtol {cfg : Config}
    (hc : (cfg.haveUnsignedLongLong && cfg.haveStrtoull) = false) (s : Bytes) :
    toOffT (davStrtol cfg s).1 = (strtol s).1 := by
  simp only [davStrtol, hc, Bool.false_eq_true, if_false]
  exact toOffT_ofInt (strtol_bounds s).1 (strtol_bounds s).2

theorem parseContentLength_of_rest (cfg : Config) {s : Bytes}
    (h : (scanNumeral s).digits = [] ∨ (scanNumeral s).rest ≠ []) : parseContentLength cfg s = 0 := by
  by_cases hd : (scanNumeral s).digits = []
  · simp [parseContentLength, davStrtol_of_no_digits cfg hd]
  · simp [parseContentLength, davStrtol_snd cfg hd, h.resolve_left hd]

theorem parseContentLength_of_numeral (cfg : Config) {s : Bytes} (hne : (scanNumeral s).digits ≠ [])
    (hr : (scanNumeral s).rest = []) : parseContentLength cfg s = (davStrtol cfg s).1 := by
  simp [parseContentLength, davStrtol_snd cfg hne, hr]

/-- The size a numeral with nothing after it gives, for either `DAV_STRTOL`: its value while
that fits in a `long`, and past that a value that depends on the macro but is never 0. -/
theorem parseContentLength_numeral (cfg : Config) {s : Bytes} {n : Numeral} (hs : scanNumeral s = n)
    (hd : n.digits ≠ []) (hr : n.rest = []) :
    (n.negative = false → digitsValue n.digits ≤ 2 ^ 63 - 1 →
      toOffT (parseContentLength cfg s) = digitsValue n.digits) ∧
    (n.negative = true → digitsValue n.digits ≤ 2 ^ 63 →
      toOffT (parseContentLength cfg s) = -(digitsValue n.digits : Int)) ∧
    (n.negative = false → 2 ^ 63 ≤ digitsValue n.digits →
      toOffT (parseContentLength cfg s) < 0 ∨ toOffT (parseContentLength cfg s) = longMax) ∧
    (n.negative = true → 2 ^ 63 < digitsValue n.digits →
      toOffT (parseContentLength cfg s) = -2 ^ 63 ∨
        toOffT (parseContentLength cfg s) = 2 ^ 64 - digitsValue n.digits ∨
        toOffT (parseContentLength cfg s) = -1) := by
  subst hs
  rw [parseContentLength_of_numeral cfg hd hr]
  generalize hv : digitsValue (scanNumeral s).digits = v
  cases hn : (scanNumeral s).negative <;> cases hc : cfg.haveUnsignedLongLong && cfg.haveStrtoull <;>
    simp only [Bool.false_eq_true, Bool.true_eq_false, false_implies, true_implies, and_true, true_and]
  case false.false =>
    rw [toOffT_davStrtol_of_strtol hc]
    simp only [strtol, hd, hv, hn, if_false, Bool.false_eq_true, longMax, min_def]
    constructor <;> intro h <;> split_ifs <;> omega
  case true.false =>
    rw [toOffT_davStrtol_of_strtol hc]
    simp only [strtol, hd, hv, hn, if_false, if_true, longMax, max_def]
    constructor <;> intro h <;> split_ifs <;> omega
  case false.true =>
    simp only [davStrtol, hc, strtoull, hd, hv, hn, if_true, if_false, Bool.false_eq_true, ullongMax]
    constructor <;> intro h <;> split_ifs <;> simp only [toOffT_ofNat] <;> split_ifs <;> omega
  case true.true =>
    simp only [davStrtol, hc, strtoull, hd, hv, hn, if_true, if_false, ullongMax]
    constructor <;> intro h <;> split_ifs with hu
    all_goals simp only [toOffT_ofNat]
    all_goals try (have hsub : 2 ^ 64 - v + v = 2 ^ 64 := Nat.sub_add_cancel (by omega)
                   generalize 2 ^ 64 - v = t at hsub ⊢)
    all_goals split_ifs <;> omega

theorem newResource_size (P : Platform) {e : PropEntry} {s : Bytes} (h : e.getcontentlength = some s) :
    (resourceToFileStat (newResource P e)).size = toOffT (parseContentLength P.config s) := by
  simp [resourceToFileStat, newResource, h]

/-- The size a record reports for each form of content length, and its time. -/
theorem entry_size_mtime (P : Platform) (e : PropEntry) :
    let fs := resourceToFileStat (newResource P e)
    (e.getcontentlength = none → fs.size = 0) ∧
    (∀ s, e.getcontentlength = some s →
      (scanNumeral s).digits = [] ∨ (scanNumeral s).rest ≠ [] → fs.size = 0) ∧
    (∀ s n, e.getcontentlength = some s → scanNumeral s = n → n.digits ≠ [] → n.rest = [] →
      (n.negative = false → digitsValue n.digits ≤ 2 ^ 63 - 1 → fs.size = digitsValue n.digits) ∧
      (n.negative = true → digitsValue n.digits ≤ 2 ^ 63 → fs.size = -(digitsValue n.digits : Int)) ∧
      (n.negative = false → 2 ^ 63 ≤ digitsValue n.digits → fs.size < 0 ∨ fs.size = longMax) ∧
      (n.negative = true → 2 ^ 63 < digitsValue n.digits →
        fs.size = -2 ^ 63 ∨ fs.size = 2 ^ 64 - digitsValue n.digits ∨ fs.size = -1)) ∧
    fs.fields.mtime = true ∧ fs.mtime = (e.getlastmodified.map P.httpdateParse).getD 0 := by
  refine ⟨fun h => by simp [resourceToFileStat, newResource, h]; rfl, fun s h hs => ?_,
    fun s n h hs hd hr => ?_, rfl, rfl⟩
  · rw [newResource_size P h, parseContentLength_of_rest _ hs]; rfl
  · rw [newResource_size P h]; exact parseContentLength_numeral _ hs hd hr

theorem entry_size_mtime_sample :
    (resourceToFileStat (newResource sampleBuild ⟨cstr "/f", none, some (cstr " +42"), none⟩)).size =
        digitsValue (cstr "42") ∧
      (resourceToFileStat (newResource sampleBuild ⟨cstr "/f", none, some (cstr "-7"), none⟩)).size =
        -(digitsValue (cstr "7") : Int) ∧
      (resourceToFileStat (newResource sampleBuild ⟨cstr "/f", none, some (cstr "4 2"), none⟩)).size = 0 ∧
      let big := resourceToFileStat (newResource sampleBuild
        ⟨cstr "/f", none, some (cstr "-9223372036854775809"), none⟩)
      big.size = -2 ^ 63 ∨ big.size = 2 ^ 64 - digitsValue (cstr "9223372036854775809") ∨ big.size = -1 :=
  ⟨((entry_size_mtime sampleBuild _).2.2.1 (cstr " +42") ⟨false, cstr "42", []⟩ rfl rfl (by decide)
      rfl).1 rfl (by decide),
    ((entry_size_mtime sampleBuild _).2.2.1 (cstr "-7") ⟨true, cstr "7", []⟩ rfl rfl (by decide)
      rfl).2.1 rfl (by decide),
    (entry_size_mtime sampleBuild _).2.1 (cstr "4 2") rfl (by decide),
    ((entry_size_mtime sampleBuild _).2.2.1 (cstr "-9223372036854775809") ⟨true, cstr "9223372036854775809", []⟩
      rfl rfl (by decide) rfl).2.2.2 rfl (by decide)⟩

theorem minus_length_and_absent_date :
    let fs := resourceToFileStat (newResource sampleBuild ⟨cstr "/f", none, some (cstr "-5"), none⟩)
    fs.size = -5 ∧ fs.fields.mtime = true := by
  decide

end Owncloud
