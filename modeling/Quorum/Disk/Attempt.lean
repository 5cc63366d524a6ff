import Quorum.Disk

/-!
# Attempts

Work on a disk that may fail on the way. What was done before the failure stays done.
-/

namespace Quorum

/-- Work that changes a disk and yields a value, or fails with a reason. -/
def Attempt (ε α : Type) : Type := Disk → Except ε α × Disk

namespace Attempt

variable {ε ε' α β : Type}

def done (a : α) : Attempt ε α := fun d => (.ok a, d)

def fail (e : ε) : Attempt ε α := fun d => (.error e, d)

/-- One piece of work after another; the first failure ends it. -/
def andThen (x : Attempt ε α) (f : α → Attempt ε β) : Attempt ε β := fun d =>
  match x d with
  | (.ok a, d) => f a d
  | (.error e, d) => (.error e, d)

instance : Monad (Attempt ε) where
  pure := done
  bind := andThen

/-- The disk as it is. -/
def disk : Attempt ε Disk := fun d => (.ok d, d)

/-- A value, or the reason why there is none. -/
def ofExcept (r : Except ε α) : Attempt ε α := fun d => (r, d)

/-- One operation on the disk, with its failure put in other words. -/
def operate (wrap : IoError → ε) (op : Disk → Except IoError Disk) : Attempt ε Unit := fun d =>
  match op d with
  | .ok d => (.ok (), d)
  | .error e => (.error (wrap e), d)

/-- The same work with its failures put in other words. -/
def mapError (wrap : ε → ε') (x : Attempt ε α) : Attempt ε' α := fun d =>
  let (r, d) := x d
  (r.mapError wrap, d)

/-- Work that is followed by something that cannot fail, whether it succeeds or not. -/
def closing (x : Attempt ε α) (last : Disk → Disk) : Attempt ε α := fun d =>
  let (r, d) := x d
  (r, last d)

@[simp] theorem done_apply (a : α) (d : Disk) : (done a : Attempt ε α) d = (.ok a, d) := rfl

@[simp] theorem fail_apply (e : ε) (d : Disk) : (fail e : Attempt ε α) d = (.error e, d) := rfl

@[simp] theorem pure_apply (a : α) (d : Disk) : (pure a : Attempt ε α) d = (.ok a, d) := rfl

theorem bind_ok {x : Attempt ε α} {f : α → Attempt ε β} {a : α} {d d' : Disk}
    (h : x d = (.ok a, d')) : (x >>= f) d = f a d' := by
  show andThen x f d = _
  simp [andThen, h]

theorem bind_error {x : Attempt ε α} {f : α → Attempt ε β} {e : ε} {d d' : Disk}
    (h : x d = (.error e, d')) : (x >>= f) d = (.error e, d') := by
  show andThen x f d = _
  simp [andThen, h]

end Attempt

end Quorum
