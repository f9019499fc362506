import CsyncOwncloud.Adapter

/-! Runs of the adapter: the calls the sync engine makes through the method table, one step
per call, from the process before any call. A process that has done something undefined
takes no further step. -/

namespace Owncloud

/-- One call into the adapter's method table, or the module's shutdown. -/
inductive Op
  | openFile (uri : Bytes) (flags : OpenFlags)
  | creat (uri : Bytes)
  | close (h : Nat)
  | read (h : Nat) (count : Nat)
  | write (h : Nat) (data : Bytes)
  | lseek (h : Nat)
  | opendir (uri : Bytes)
  | closedir (h : Nat)
  | readdir (h : Nat)
  | mkdir (uri : Bytes)
  | rmdir (uri : Bytes)
  | stat (uri : Bytes)
  | rename (olduri newuri : Bytes)
  | unlink (uri : Bytes)
  | chmod (uri : Bytes)
  | chown (uri : Bytes)
  | utimes (uri : Bytes) (times : Option Int)
  | shutdown
  deriving DecidableEq, Repr

/-- What a call answers; `stat` also hands back the caller's buffer as the call left it. -/
inductive Out
  | int (r : Int)
  | handle (h : Option Nat)
  | stat (r : Int) (buf : Option FileStat)
  | entry (e : Option FileStat)
  | data (r : Int) (bytes : Bytes)
  | none
  deriving DecidableEq, Repr

section
variable {σ : Type} (P : Platform) (N : Neon σ)

/-- One call, by the method table's entry for it; `stat` is given a zeroed buffer. -/
def exec (w : World σ) : Op → Out × World σ
  | .openFile u f => let r := openFile P N u f w; (.handle r.1, r.2)
  | .creat u => let r := creat P N u w; (.handle r.1, r.2)
  | .close h => let r := close N h w; (.int r.1, r.2)
  | .read h n => let r := read h n w; (.data r.1 r.2.1, r.2.2)
  | .write h d => let r := write (some h) d w; (.int r.1, r.2)
  | .lseek _ => (.int (-1), w)
  | .opendir u => let r := opendir P N u w; (.handle r.1, r.2)
  | .closedir h => let r := closedir h w; (.int r.1, r.2)
  | .readdir h => let r := readdir h w; (.entry r.1, r.2)
  | .mkdir u => let r := mkdir N u w; (.int r.1, r.2)
  | .rmdir u => let r := rmdir N u w; (.int r.1, r.2)
  | .stat u => let r := stat P N u .zero w; (.stat r.1 r.2.1, r.2.2)
  | .rename a b => let r := rename N a b w; (.int r.1, r.2)
  | .unlink u => let r := unlink N u w; (.int r.1, r.2)
  | .chmod _ => (.int 0, w)
  | .chown _ => (.int 0, w)
  | .utimes u t => let r := utimes N u t w; (.int r.1, r.2)
  | .shutdown => (.none, shutdown w)

def step (w : World σ) (op : Op) : Out × World σ := if w.ub then (.none, w) else exec P N w op

/-- A run of calls: what each answered, and the process after the last. -/
def run : List Op → World σ → List Out × World σ
  | [], w => ([], w)
  | op :: ops, w =>
    let r := step P N w op
    let rs := run ops r.2
    (r.1 :: rs.1, rs.2)

/-- A process that has done something undefined stays so. -/
theorem run_ub (ops : List Op) {w : World σ} (h : w.ub = true) : (run P N ops w).2.ub = true := by
  induction ops with
  | nil => exact h
  | cons op ops ih => simpa [run, step, h] using ih

/-- A process that has done something undefined takes no further step. -/
theorem run_frozen (ops : List Op) {w : World σ} (h : w.ub = true) : (run P N ops w).2 = w := by
  induction ops with
  | nil => rfl
  | cons op ops ih => simpa [run, step, h] using ih

/-- A run that ends defined was defined before and after its first call. -/
theorem ub_of_run_cons {op : Op} {ops : List Op} {w : World σ} (h : (run P N (op :: ops) w).2.ub = false) :
    w.ub = false ∧ (exec P N w op).2.ub = false ∧ (run P N ops (exec P N w op).2).2.ub = false := by
  cases hw : w.ub
  · have h' : (run P N ops (exec P N w op).2).2.ub = false := by simpa [run, step, hw] using h
    refine ⟨rfl, ?_, h'⟩
    cases hx : (exec P N w op).2.ub
    · rfl
    · rw [run_ub P N ops hx] at h'; cases h'
  · rw [run, step, if_pos hw, run_ub P N ops hw] at h; cases h

end

end Owncloud
