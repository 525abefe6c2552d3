/-!
# C++ exceptions

The exception classes the modelled code throws. A `catch` clause is a match on the class:
`isRuntimeError` is the test behind every `catch (std::runtime_error&)` of the sources.
-/

namespace Dss

/-- The exception classes of the modelled code. The texts are the ones a
handler could read through `what()`. -/
inductive Exception : Type where
  /-- a plain `std::runtime_error` -/
  | runtimeError : String → Exception
  /-- `ItemNotFoundException`, a `DSSException` -/
  | itemNotFound : String → Exception
  /-- `ItemDuplicateException`, a `DSSException` -/
  | itemDuplicate : String → Exception
  /-- `PropertyTypeMismatch`, a `std::runtime_error` -/
  | typeMismatch : String → Exception
  /-- `std::invalid_argument`, a `std::logic_error` -/
  | invalidArgument : String → Exception
  /-- `std::out_of_range`, a `std::logic_error` -/
  | outOfRange : Exception
  /-- `std::bad_cast`, thrown by a failing reference cast -/
  | badCast : Exception
  deriving DecidableEq

namespace Exception

/-- Whether `catch (std::runtime_error&)` catches the exception. -/
def isRuntimeError : Exception → Bool
  | runtimeError _ | itemNotFound _ | itemDuplicate _ | typeMismatch _ => true
  | invalidArgument _ | outOfRange | badCast => false

end Exception

end Dss
