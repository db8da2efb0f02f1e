import Mathlib.Data.List.Basic

/-!
# Exceptions

The classes of `errors.py` beside the built-in and library classes that the
package raises or catches.  An `except` clause names classes and catches every
instance of them or of a class derived from them, so the model keeps for each
class the list of its ancestors.
-/

namespace Usmp

inductive ExnClass where
  | usmpError
  | frameError
  | crcError
  | magicError
  | versionError
  | payloadError
  | handshakeError
  | authError
  | cryptoError
  | sequenceError
  | usmpTimeoutError
  | connectionClosedError
  | notConnectedError
  | runtimeError
  | valueError
  | structError
  | osError
  | connectionResetError
  | connectionAbortedError
  | timeoutError
  | eofError
  | incompleteReadError
  | overflowError
  | cancelledError
  deriving DecidableEq, Repr

/-- The class and its ancestors, up to the last one that the package names. -/
def ExnClass.ancestors : ExnClass → List ExnClass
  | .usmpError => [.usmpError]
  | .frameError => [.frameError, .usmpError]
  | .crcError => [.crcError, .frameError, .usmpError]
  | .magicError => [.magicError, .frameError, .usmpError]
  | .versionError => [.versionError, .frameError, .usmpError]
  | .payloadError => [.payloadError, .frameError, .usmpError]
  | .handshakeError => [.handshakeError, .usmpError]
  | .authError => [.authError, .handshakeError, .usmpError]
  | .cryptoError => [.cryptoError, .usmpError]
  | .sequenceError => [.sequenceError, .usmpError]
  | .usmpTimeoutError => [.usmpTimeoutError, .usmpError]
  | .connectionClosedError => [.connectionClosedError, .usmpError]
  | .notConnectedError => [.notConnectedError, .usmpError, .runtimeError]
  | .runtimeError => [.runtimeError]
  | .valueError => [.valueError]
  | .structError => [.structError]
  | .osError => [.osError]
  | .connectionResetError => [.connectionResetError, .osError]
  | .connectionAbortedError => [.connectionAbortedError, .osError]
  | .timeoutError => [.timeoutError, .osError]
  | .eofError => [.eofError]
  | .incompleteReadError => [.incompleteReadError, .eofError]
  | .overflowError => [.overflowError]
  | .cancelledError => [.cancelledError]

/-- A raised exception: its class and its text. -/
structure Exn where
  cls : ExnClass
  message : String
  deriving DecidableEq, Repr

/-- Whether `except classes` catches the exception. -/
def Exn.caughtBy (exn : Exn) (classes : List ExnClass) : Bool :=
  exn.cls.ancestors.any (classes.contains ·)

end Usmp
