import CsyncOwncloud.Strtol

/-! The neon URI helpers the module relies on (`ne_path_unescape`, `ne_path_escape`,
`ne_path_compare`, `ne_uri_parse`), with their neon 0.29 character classes, and the
module's own `_cleanPath`. -/

namespace Owncloud

def isAlpha (c : UInt8) : Bool :=
  (65 ≤ c.toNat && c.toNat ≤ 90) || (97 ≤ c.toNat && c.toNat ≤ 122)

def isUnreserved (c : UInt8) : Bool :=
  isAlpha c || isDigit c || (cstr "-._~").contains c

def isSubDelim (c : UInt8) : Bool := (cstr "!$&()*+,;=").contains c || c = 39

/-- Bytes allowed in a path by neon's URI grammar (`URI_SEGCHAR`). -/
def isSegChar (c : UInt8) : Bool :=
  isUnreserved c || isSubDelim c || (cstr "%:@/").contains c

/-- Bytes allowed in a userinfo (`URI_USERINFO`). -/
def isUserinfoChar (c : UInt8) : Bool :=
  isUnreserved c || isSubDelim c || (cstr "%:").contains c

def isSchemeChar (c : UInt8) : Bool := isAlpha c || isDigit c || (cstr "+-.").contains c

/-- The value of a hex digit, if `isxdigit` holds. -/
def hexDigit (c : UInt8) : Option Nat :=
  if 48 ≤ c.toNat ∧ c.toNat ≤ 57 then some (c.toNat - 48)
  else if 97 ≤ c.toNat ∧ c.toNat ≤ 102 then some (c.toNat - 87)
  else if 65 ≤ c.toNat ∧ c.toNat ≤ 70 then some (c.toNat - 55)
  else none

def percent : UInt8 := 37

/-- The decoding loop of `ne_path_unescape`: `none` for a `%` without two hex digits. -/
def unescapeBuffer : Bytes → Option Bytes
  | [] => some []
  | c :: rest =>
    if c = percent then
      match rest with
      | h :: l :: rest' =>
        match hexDigit h, hexDigit l with
        | some a, some b => ((a * 16 + b).toUInt8 :: ·) <$> unescapeBuffer rest'
        | _, _ => none
      | _ => none
    else (c :: ·) <$> unescapeBuffer rest

/-- `ne_path_unescape` as a C string: a decoded `%00` ends it. -/
def nePathUnescape (p : Bytes) : Option Bytes := (unescapeBuffer p).map (·.takeWhile (· ≠ 0))

def hexLower (n : Nat) : UInt8 := if n < 10 then (48 + n).toUInt8 else (87 + n).toUInt8

/-- `ne_path_escape`: every byte outside the unreserved set and `/` becomes `%xx`. -/
def nePathEscape (p : Bytes) : Bytes :=
  p.flatMap fun c =>
    if isUnreserved c || c = slash then [c] else [percent, hexLower (c.toNat / 16), hexLower (c.toNat % 16)]

def asciiLower (c : UInt8) : UInt8 := if 65 ≤ c.toNat ∧ c.toNat ≤ 90 then c + 32 else c

def neStrcasecmp (a b : Bytes) : Int := strcmp (a.map asciiLower) (b.map asciiLower)

def hasTrailingSlash (p : Bytes) : Bool := p.getLast? = some slash

/-- `ne_path_compare`: 0 when the paths agree up to ASCII case, or when the longer one is the
shorter one followed by a single `/`. -/
def nePathCompare (a b : Bytes) : Int :=
  let ret := neStrcasecmp a b
  if ret ≠ 0 ∧ hasTrailingSlash a ≠ hasTrailingSlash b ∧
      ((a.length = b.length + 1 ∧ hasTrailingSlash a) ∨ (b.length = a.length + 1 ∧ hasTrailingSlash b)) ∧
      neStrcasecmp (a.take (min a.length b.length)) (b.take (min a.length b.length)) = 0
  then 0 else ret

theorem nePathCompare_of_lower_eq {a b : Bytes} (h : a.map asciiLower = b.map asciiLower) :
    nePathCompare a b = 0 := by
  simp [nePathCompare, neStrcasecmp, h]

theorem asciiLower_eq_slash {c : UInt8} (h : asciiLower c = slash) : c = slash := by
  unfold asciiLower at h
  split_ifs at h with hc
  · have h1 : (c + 32).toNat = (c.toNat + 32) % 256 := rfl
    have h2 : (c + 32).toNat = 47 := by rw [h]; rfl
    omega
  · exact h

/-- Two paths that agree up to ASCII case, but for one trailing slash on `b`, match both ways. -/
theorem nePathCompare_of_lower_append_slash {a b : Bytes} (ha : hasTrailingSlash a = false)
    (h : b.map asciiLower = (a ++ [slash]).map asciiLower) :
    nePathCompare a b = 0 ∧ nePathCompare b a = 0 := by
  have hl : asciiLower slash = slash := by decide
  rw [List.map_append, List.map_singleton, hl] at h
  have hlen : b.length = a.length + 1 := by simpa using congrArg List.length h
  have hb : hasTrailingSlash b = true := by
    have := congrArg List.getLast? h
    rw [List.getLast?_map, List.getLast?_append, List.getLast?_singleton] at this
    obtain ⟨c, hc, hcl⟩ := Option.map_eq_some'.mp this
    simp [hasTrailingSlash, hc, asciiLower_eq_slash hcl]
  have hab : neStrcasecmp a b = -1 := by
    rw [neStrcasecmp, h, strcmp_append _ _ (List.cons_ne_nil _ _)]
  have hba : neStrcasecmp b a = 1 := by
    rw [neStrcasecmp, strcmp_swap, ← neStrcasecmp, hab]; rfl
  have htake : (b.take a.length).map asciiLower = a.map asciiLower := by
    rw [List.map_take, h, List.take_left' (List.length_map _ _)]
  have hs : hasTrailingSlash a ≠ hasTrailingSlash b := by rw [ha, hb]; decide
  have hm : min a.length b.length = a.length := min_eq_left (by omega)
  have hpre : neStrcasecmp (a.take a.length) (b.take a.length) = 0 := by
    rw [List.take_length, neStrcasecmp, htake, strcmp_self]
  constructor
  · unfold nePathCompare
    rw [if_pos ⟨by omega, hs, Or.inr ⟨hlen, hb⟩, by rwa [hm]⟩]
  · have hpre' : neStrcasecmp (b.take (min b.length a.length)) (a.take (min b.length a.length)) = 0 := by
      rw [min_comm, hm, neStrcasecmp, strcmp_swap, ← neStrcasecmp, hpre, Int.neg_zero]
    unfold nePathCompare
    rw [if_pos ⟨by omega, hs.symm, Or.inl ⟨hlen, hb⟩, hpre'⟩]

/-- The fields of an `ne_uri` the module reads. -/
structure NeUri where
  scheme : Option Bytes
  userinfo : Option Bytes
  host : Option Bytes
  port : Int
  path : Bytes
  deriving DecidableEq

def colon : UInt8 := 58

def atSign : UInt8 := 64

/-- The authority `[userinfo@]host[:port]`: the userinfo is the run of userinfo bytes when an
`@` ends it; the port follows the last colon of the rest. -/
def parseAuthority (a : Bytes) : Option Bytes × Bytes × Int :=
  let ui := a.takeWhile isUserinfoChar
  let (userinfo, hp) : Option Bytes × Bytes :=
    if (a.drop ui.length).head? = some atSign then (some ui, a.drop (ui.length + 1)) else (none, a)
  match (hp.reverse.dropWhile (· ≠ colon)).reverse with
  | [] => (userinfo, hp, 0)
  | hc => (userinfo, hc.dropLast, (strtol (hp.drop hc.length)).1)

/-- `ne_uri_parse`: an optional `scheme:`, an optional `//authority`, then the path, which
neon requires to be followed by nothing, a query or a fragment (IP literals are not
modelled). -/
def neUriParse (s : Bytes) : Option NeUri :=
  let sc := s.takeWhile isSchemeChar
  let (scheme, r) : Option Bytes × Bytes :=
    if (s.head?.map isAlpha = some true) ∧ (s.drop sc.length).head? = some colon then
      (some sc, s.drop (sc.length + 1)) else (none, s)
  let (auth, r) : Option (Option Bytes × Bytes × Int) × Bytes :=
    match r with
    | 47 :: 47 :: t =>
      let a := t.takeWhile (· ≠ slash)
      let rest := t.drop a.length
      (some (parseAuthority a), if rest = [] then [slash] else rest)
    | _ => (none, r)
  let path := r.takeWhile isSegChar
  let ok : Bool :=
    match r.drop path.length with
    | [] => true
    | c :: _ => c = 63 || c = 35
  if ok then some ⟨scheme, auth.bind (·.1), auth.map (·.2.1), (auth.map (·.2.2)).getD 0, path⟩
  else none

/-- Modelled from the spec: `_cleanPath` is called throughout the file but defined nowhere in
it. The spec names its result only as the URI a request is issued against (the listing's
`targetURI`); the file's `_cleanUrl`, which parses the URL and escapes its path, is taken as
its body. -/
def cleanPath (uri : Bytes) : Option Bytes := (neUriParse uri).map fun u => nePathEscape u.path

theorem parseAuthority_userinfo {a ui : Bytes} (h : (parseAuthority a).1 = some ui) :
    ∀ c ∈ ui, isUserinfoChar c = true := by
  unfold parseAuthority at h
  dsimp only at h
  split_ifs at h <;> split at h <;> cases h
  all_goals exact fun c hc => List.mem_takeWhile_imp hc

/-- A parsed userinfo holds only userinfo bytes; in particular no NUL. -/
theorem neUriParse_userinfo {s : Bytes} {uri : NeUri} {ui : Bytes} (hu : neUriParse s = some uri)
    (hi : uri.userinfo = some ui) : ∀ c ∈ ui, isUserinfoChar c = true := by
  unfold neUriParse at hu
  obtain ⟨-, h⟩ := Option.ite_none_right_eq_some.mp hu
  obtain rfl := Option.some.inj h
  dsimp only at hi
  split at hi
  · exact parseAuthority_userinfo (by simpa using hi)
  · simp at hi

end Owncloud
