import CsyncOwncloud.Strtol

/-! The error taxonomy: neon's result codes, the Linux `errno` values the module uses, and
the two translators `ne_error_to_errno` and `ne_session_error_errno`. -/

namespace Owncloud

def neOk : Int := 0
def neError : Int := 1
def neAuth : Int := 3
def neProxyauth : Int := 4
def neConnect : Int := 5
def neTimeout : Int := 6
def neFailed : Int := 7
def neRetry : Int := 8
def neRedirect : Int := 9

def eperm : Int := 1
def enoent : Int := 2
def eio : Int := 5
def eagain : Int := 11
def eacces : Int := 13
def einval : Int := 22
def enospc : Int := 28

/-- `ne_error_to_errno`. -/
def neErrorToErrno (neErr : Int) : Int :=
  if neErr = neOk ∨ neErr = neError then 0
  else if neErr = neAuth ∨ neErr = neProxyauth then eacces
  else if neErr = neConnect ∨ neErr = neTimeout ∨ neErr = neRetry then eagain
  else if neErr = neFailed then einval
  else if neErr = neRedirect then enoent
  else eio

/-- The `switch` of `ne_session_error_errno` on the HTTP status; the codes the source lists
under `EIO` fall to its `default`, which is `EIO` too. -/
def statusErrno (err : Int) : Int :=
  if err ∈ [200, 201, 202, 203, 204, 205, 207, 304] then 0
  else if err ∈ [401, 402, 407] then eperm
  else if err ∈ [301, 303, 404, 410] then enoent
  else if err ∈ [408, 504] then eagain
  else if err = 423 then eacces
  else if err ∈ [400, 403, 405, 409, 411, 412, 414, 415, 424, 501] then einval
  else if err ∈ [413, 507] then enospc
  else eio

/-- A `long` stored into an `int`: GCC keeps the low 32 bits, read as a signed value. -/
def toCInt (x : Int) : Int := (x + 2 ^ 31) % 2 ^ 32 - 2 ^ 31

/-- `ne_session_error_errno` given the session's error text `ne_get_error`: the number
`strtol` reads at its start, stored into `int err` and switched on as an HTTP status; `EIO`
when no number starts it. -/
def sessionErrorErrno (p : Bytes) : Int :=
  let r := strtol p
  if r.2 = p then eio else statusErrno (toCInt r.1)

example : sessionErrorErrno (cstr "4294967700 Not Found") = enoent := by decide

/-- The values the module stores into `errno`: its error taxonomy, and 0. -/
def errnoCodes : List Int := [0, eperm, enoent, eio, eagain, eacces, einval, enospc]

/-- A choice between two values of a list is a value of the list. -/
theorem ite_mem {c : Prop} [Decidable c] {a b : Int} {l : List Int} (ha : a ∈ l) (hb : b ∈ l) :
    (if c then a else b) ∈ l := by
  split_ifs <;> assumption

theorem neErrorToErrno_mem (rc : Int) : neErrorToErrno rc ∈ errnoCodes := by
  unfold neErrorToErrno
  repeat' apply ite_mem
  all_goals decide

theorem statusErrno_mem (err : Int) : statusErrno err ∈ errnoCodes := by
  unfold statusErrno
  repeat' apply ite_mem
  all_goals decide

theorem sessionErrorErrno_mem (p : Bytes) : sessionErrorErrno p ∈ errnoCodes :=
  ite_mem (by decide) (statusErrno_mem _)

end Owncloud
