/-
# Errors and results

`Result<T>` holds a value or an `Error`; the components answer with one, and the code of the
error is what their callers branch on.
-/
import Mathlib.Data.Nat.Notation

namespace Kf2Optimizer

inductive ErrorCode
  | none
  | invalidArgument
  | notFound
  | accessDenied
  | ioFailure
  | platformFailure
  | staleData
  | alreadyRunning
  | internalFailure
  | recoveryRequired
  deriving DecidableEq, Repr

structure Error where
  code : ErrorCode := .none
  message : String := ""
  nativeCode : ℕ := 0
  deriving DecidableEq, Repr

abbrev Result := Except Error

end Kf2Optimizer
