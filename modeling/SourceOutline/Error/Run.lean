import SourceOutline.Error.Failure
import SourceOutline.Log.Record

/-!
# Runs

A run has a result or a failure, and the log records that were sent on the way, those before a
failure included.
-/

namespace SourceOutline

/-- The outcome of an operation with its log. -/
structure Run (α : Type) where
  log : List Log.Record := []
  result : Except Failure α

namespace Run

/-- Ends without a result. -/
def fail (f : Failure) : Run α :=
  { result := .error f }

/-- Goes on with the result, if there is one. -/
def andThen (r : Run α) (f : α → Run β) : Run β :=
  match r.result with
  | .error e => ⟨r.log, .error e⟩
  | .ok a => ⟨r.log ++ (f a).log, (f a).result⟩

instance : Monad Run where
  pure a := { result := .ok a }
  bind := andThen

/-- Sends a log record. -/
def report (channel : String) (level : Log.Level) (message : String) : Run Unit :=
  ⟨[⟨channel, level, message⟩], .ok ()⟩

/-- A run without log records. -/
def ofExcept (r : Except Failure α) : Run α :=
  { result := r }

@[simp] theorem log_pure (a : α) : (pure a : Run α).log = [] := rfl

@[simp] theorem result_pure (a : α) : (pure a : Run α).result = .ok a := rfl

theorem result_bind (r : Run α) (f : α → Run β) :
    (r >>= f).result = r.result >>= fun a => (f a).result := by
  show (andThen r f).result = _
  unfold andThen
  cases r.result <;> rfl

end Run

end SourceOutline
