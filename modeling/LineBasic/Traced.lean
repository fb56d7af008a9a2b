/-
# Results with notices

A computation that may fail and reports on its way.  Notices are kept in order, also those given
before a failure, and never influence the result: on results alone, `Traced` is `Except`
(`result_pure`, `result_bind`).
-/
import LineBasic.Notice

namespace LineBasic

/-- A result, and the notices given on the way to it. -/
structure Traced (ε α : Type) where
  notices : List Notice
  result : Except ε α

namespace Traced

variable {ε δ α β : Type}

/-- A value, with nothing to report. -/
def ok (a : α) : Traced ε α := ⟨[], .ok a⟩

/-- A failure, with nothing to report. -/
def fail (e : ε) : Traced ε α := ⟨[], .error e⟩

/-- A report alone. -/
def report (notices : List Notice) : Traced ε Unit := ⟨notices, .ok ()⟩

/-- Goes on with the value, if there is one. -/
def andThen (x : Traced ε α) (f : α → Traced ε β) : Traced ε β :=
  match x.result with
  | .error e => ⟨x.notices, .error e⟩
  | .ok a => ⟨x.notices ++ (f a).notices, (f a).result⟩

instance : Monad (Traced ε) where
  pure := ok
  bind := andThen

/-- The same, with failures of another type. -/
def mapError (f : ε → δ) (x : Traced ε α) : Traced δ α := ⟨x.notices, x.result.mapError f⟩

@[simp] theorem result_ok (a : α) : (ok a : Traced ε α).result = .ok a := rfl

@[simp] theorem result_fail (e : ε) : (fail e : Traced ε α).result = .error e := rfl

@[simp] theorem result_pure (a : α) : (pure a : Traced ε α).result = .ok a := rfl

@[simp] theorem result_bind (x : Traced ε α) (f : α → Traced ε β) :
    (x >>= f).result = x.result.bind fun a => (f a).result := by
  show (x.andThen f).result = _
  unfold andThen
  cases x.result <;> rfl

end Traced

end LineBasic
