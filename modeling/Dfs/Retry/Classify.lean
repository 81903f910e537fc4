import Dfs.Basic
import Mathlib.Data.List.Infix

/-!
# Exceptions and their classification for retries

The exception classes of `utils/exceptions.h`, each with the arguments of its constructor and
the message `what()` its constructor builds (the implementation of `exceptions.h`), and the
two classifications of a caught exception: `RetryHandler::classify_error`, which decides
whether `RetryHandler::execute_with_retry` tries again, and
`ExceptionHandler::classify_exception`, with `ExceptionHandler::should_retry` and
`ExceptionHandler::get_user_message`.

Both classifications first test the dynamic type of the exception with `dynamic_cast`, and
then look for words in its message. Every class derives from `FileSystemException` directly,
so a `dynamic_cast` to one of the classes succeeds exactly for exceptions of that class.
`ExceptionHandler::classify_exception` tests `TransactionTimeoutException` twice: first with
`ConcurrentAccessException`, so that its `TIMEOUT` branch is never taken
(`classifyException_ne_timeout`). Apart from that and from the word `busy`, which only
`classify_error` looks for, the two classifications agree (`classifyError_eq_classifyException`).

`std::string::find(pattern) != npos` is `contains`: the pattern occurs in the string. The
patterns are ASCII, which occur in the UTF-8 bytes of a string exactly where they occur in its
characters. The `context` argument of every constructor and the error codes are stored and
never read by the functions modelled here.
-/

namespace Dfs

/-- A thrown exception: its dynamic type and the arguments of its constructor. `runtime`
stands for `std::runtime_error` and every other `std::exception` outside `exceptions.h`. -/
inductive Exception where
  | fileSystem (message : String)
  | inodeNotFound (inodeNum : UInt32)
  | inodeAlreadyExists (inodeNum : UInt32)
  | inodeCorrupted (inodeNum : UInt32)
  | blockNotFound (blockId : UInt32)
  | insufficientSpace (required available : UInt64)
  | blockCorrupted (blockId : UInt32)
  | fileNotFound (filePath : String)
  | fileAlreadyExists (filePath : String)
  | directoryNotFound (dirPath : String)
  | directoryNotEmpty (dirPath : String)
  | permissionDenied (path operation : String)
  | transactionNotFound (txId : UInt64)
  | transactionAborted (txId : UInt64) (reason : String)
  | transactionTimeout (txId : UInt64) (timeout : ℤ)
  | concurrentAccess (inodeNum : UInt32) (operation : String)
  | fileSystemNotMounted
  | fileSystemCorrupted (reason : String)
  | configuration (parameter value : String)
  | network (endpoint reason : String)
  | api (endpoint : String) (httpStatus : UInt32) (response : String)
  | rateLimitExceeded (clientId : String) (limit : UInt32)
  | runtime (message : String)

/-- The classes of `exceptions.h` that a `dynamic_cast` tells apart. -/
inductive ExceptionClass where
  | fileSystem | inodeNotFound | inodeAlreadyExists | inodeCorrupted | blockNotFound
  | insufficientSpace | blockCorrupted | fileNotFound | fileAlreadyExists | directoryNotFound
  | directoryNotEmpty | permissionDenied | transactionNotFound | transactionAborted
  | transactionTimeout | concurrentAccess | fileSystemNotMounted | fileSystemCorrupted
  | configuration | network | api | rateLimitExceeded | runtime
  deriving Repr, DecidableEq

namespace Exception

/-- The dynamic type of an exception. -/
def dynamicType : Exception → ExceptionClass
  | fileSystem _ => .fileSystem
  | inodeNotFound _ => .inodeNotFound
  | inodeAlreadyExists _ => .inodeAlreadyExists
  | inodeCorrupted _ => .inodeCorrupted
  | blockNotFound _ => .blockNotFound
  | insufficientSpace _ _ => .insufficientSpace
  | blockCorrupted _ => .blockCorrupted
  | fileNotFound _ => .fileNotFound
  | fileAlreadyExists _ => .fileAlreadyExists
  | directoryNotFound _ => .directoryNotFound
  | directoryNotEmpty _ => .directoryNotEmpty
  | permissionDenied _ _ => .permissionDenied
  | transactionNotFound _ => .transactionNotFound
  | transactionAborted _ _ => .transactionAborted
  | transactionTimeout _ _ => .transactionTimeout
  | concurrentAccess _ _ => .concurrentAccess
  | fileSystemNotMounted => .fileSystemNotMounted
  | fileSystemCorrupted _ => .fileSystemCorrupted
  | configuration _ _ => .configuration
  | network _ _ => .network
  | api _ _ _ => .api
  | rateLimitExceeded _ _ => .rateLimitExceeded
  | runtime _ => .runtime

/-- `what()`: the message each constructor passes to `FileSystemException`, with
`std::to_string` of its numbers. -/
def what : Exception → String
  | fileSystem message => message
  | inodeNotFound inodeNum => "Inode not found: " ++ toString inodeNum
  | inodeAlreadyExists inodeNum => "Inode already exists: " ++ toString inodeNum
  | inodeCorrupted inodeNum => "Inode corrupted: " ++ toString inodeNum
  | blockNotFound blockId => "Block not found: " ++ toString blockId
  | insufficientSpace required available =>
    "Insufficient space: required " ++ toString required ++ ", available " ++ toString available
  | blockCorrupted blockId => "Block corrupted: " ++ toString blockId
  | fileNotFound filePath => "File not found: " ++ filePath
  | fileAlreadyExists filePath => "File already exists: " ++ filePath
  | directoryNotFound dirPath => "Directory not found: " ++ dirPath
  | directoryNotEmpty dirPath => "Directory not empty: " ++ dirPath
  | permissionDenied path operation => "Permission denied: " ++ operation ++ " on " ++ path
  | transactionNotFound txId => "Transaction not found: " ++ toString txId
  | transactionAborted txId reason => "Transaction aborted: " ++ toString txId ++ " - " ++ reason
  | transactionTimeout txId timeout =>
    "Transaction timeout: " ++ toString txId ++ " after " ++ toString timeout ++ " seconds"
  | concurrentAccess inodeNum operation =>
    "Concurrent access: " ++ operation ++ " on inode " ++ toString inodeNum
  | fileSystemNotMounted => "File system not mounted"
  | fileSystemCorrupted reason => "File system corrupted: " ++ reason
  | configuration parameter value => "Configuration error: " ++ parameter ++ " = " ++ value
  | network endpoint reason => "Network error: " ++ endpoint ++ " - " ++ reason
  | api endpoint httpStatus response =>
    "API error: " ++ endpoint ++ " returned " ++ toString httpStatus ++ " - " ++ response
  | rateLimitExceeded clientId limit =>
    "Rate limit exceeded: " ++ clientId ++ " limit " ++ toString limit
  | runtime message => message

end Exception

/-- `s.find(pattern) != std::string::npos`. -/
def contains (s pattern : String) : Bool := decide (pattern.toList <:+: s.toList)

/-- `RetryHandler::ErrorType`; `ExceptionHandler::ExceptionType` has the same enumerators in
the same order. -/
inductive ErrorType where
  | transient | permanent | corruption | concurrency | timeout | network | unknown
  deriving Repr, DecidableEq

namespace RetryHandler

/-- `RetryHandler::classify_error`. -/
def classifyError (e : Exception) : ErrorType :=
  let errorMsg := e.what
  if e.dynamicType = .inodeNotFound ∨ e.dynamicType = .blockNotFound ∨
      e.dynamicType = .fileNotFound then .permanent
  else if e.dynamicType = .concurrentAccess then .concurrency
  else if e.dynamicType = .inodeCorrupted ∨ e.dynamicType = .blockCorrupted ∨
      e.dynamicType = .fileSystemCorrupted then .corruption
  else if e.dynamicType = .network ∨ e.dynamicType = .rateLimitExceeded then .network
  else if e.dynamicType = .transactionTimeout then .timeout
  else if contains errorMsg "timeout" || contains errorMsg "temporary" ||
      contains errorMsg "retry" || contains errorMsg "busy" then .transient
  else .unknown

end RetryHandler

namespace ExceptionHandler

/-- `ExceptionHandler::classify_exception`. -/
def classifyException (e : Exception) : ErrorType :=
  let errorMsg := e.what
  if e.dynamicType = .inodeNotFound ∨ e.dynamicType = .blockNotFound ∨
      e.dynamicType = .fileNotFound then .permanent
  else if e.dynamicType = .concurrentAccess ∨ e.dynamicType = .transactionTimeout then .concurrency
  else if e.dynamicType = .inodeCorrupted ∨ e.dynamicType = .blockCorrupted ∨
      e.dynamicType = .fileSystemCorrupted then .corruption
  else if e.dynamicType = .network ∨ e.dynamicType = .rateLimitExceeded then .network
  else if e.dynamicType = .transactionTimeout then .timeout
  else if contains errorMsg "timeout" || contains errorMsg "temporary" ||
      contains errorMsg "retry" then .transient
  else .unknown

/-- `ExceptionHandler::should_retry`. -/
def shouldRetry (e : Exception) (attemptCount : UInt32) : Bool :=
  match classifyException e with
  | .transient | .concurrency | .timeout | .network => attemptCount < 3
  | .permanent | .corruption => false
  | .unknown => attemptCount < 1

/-- `ExceptionHandler::get_user_message`. -/
def getUserMessage (e : Exception) : String :=
  let errorMsg := e.what
  if contains errorMsg "not found" then "The requested resource was not found."
  else if contains errorMsg "permission denied" then
    "You don't have permission to perform this operation."
  else if contains errorMsg "insufficient space" then
    "There is not enough space to complete this operation."
  else if contains errorMsg "timeout" then "The operation timed out. Please try again."
  else if contains errorMsg "network" then
    "A network error occurred. Please check your connection."
  else "An unexpected error occurred. Please try again."

/-- The `TIMEOUT` branch of `classify_exception` is dead: a `TransactionTimeoutException`
is classified `CONCURRENCY` before it is reached. -/
theorem classifyException_ne_timeout (e : Exception) : classifyException e ≠ .timeout := by
  simp only [classifyException]
  cases e.dynamicType <;>
    simp only [reduceCtorEq, false_or, or_false, or_self, if_false, if_true, true_or, or_true]
  all_goals first | decide | (split <;> decide)

end ExceptionHandler

/-- Looking for one word more in the message makes a difference only where the other words
were not found. -/
theorem transient_or_busy (timeout temporary retry busy : Bool) :
    (if (timeout || temporary || retry || busy) = true then ErrorType.transient else .unknown) =
      if (if (timeout || temporary || retry) = true then ErrorType.transient else .unknown) =
          .unknown ∧ busy = true then .transient
      else if (timeout || temporary || retry) = true then .transient else .unknown := by
  cases timeout <;> cases temporary <;> cases retry <;> cases busy <;> rfl

/-- The two classifications agree, except on a `TransactionTimeoutException`, which
`classify_error` calls `TIMEOUT` and `classify_exception` calls `CONCURRENCY`, and on an
exception that neither classifies by its type and whose message says `busy` and none of
`timeout`, `temporary` and `retry`, which only `classify_error` calls `TRANSIENT`. -/
theorem classifyError_eq_classifyException (e : Exception) :
    RetryHandler.classifyError e =
      if e.dynamicType = .transactionTimeout then .timeout
      else if ExceptionHandler.classifyException e = .unknown ∧ contains e.what "busy" = true
        then .transient
      else ExceptionHandler.classifyException e := by
  simp only [RetryHandler.classifyError, ExceptionHandler.classifyException]
  cases e.dynamicType <;>
    simp only [reduceCtorEq, false_or, or_false, or_self, if_false, if_true, true_or, or_true]
  all_goals first | rfl | exact transient_or_busy _ _ _ _

end Dfs
