import SocketReactor.Text.Numeral

/-!
# Error numbers

The numbers by which the operating system tells why a call failed, and a text
for each. The common network errors have short texts of this library; any other
number has the text of the system's table and the number after it.
-/

namespace SocketReactor

structure Errno where
  code : Int32
  deriving DecidableEq, Repr

namespace Errno

def notPermitted : Errno := ⟨1⟩

def noEntry : Errno := ⟨2⟩

def interrupted : Errno := ⟨4⟩

def badDescriptor : Errno := ⟨9⟩

def tryAgain : Errno := ⟨11⟩

def accessDenied : Errno := ⟨13⟩

def alreadyExists : Errno := ⟨17⟩

def noDevice : Errno := ⟨19⟩

def invalidArgument : Errno := ⟨22⟩

def tooManyFiles : Errno := ⟨24⟩

def brokenPipe : Errno := ⟨32⟩

def messageTooLong : Errno := ⟨90⟩

def optionUnknown : Errno := ⟨92⟩

def protocolNotSupported : Errno := ⟨93⟩

def notSupported : Errno := ⟨95⟩

def familyNotSupported : Errno := ⟨97⟩

def addressInUse : Errno := ⟨98⟩

def addressNotAvailable : Errno := ⟨99⟩

def networkUnreachable : Errno := ⟨101⟩

def connectionReset : Errno := ⟨104⟩

def noBuffers : Errno := ⟨105⟩

def notConnected : Errno := ⟨107⟩

def timedOut : Errno := ⟨110⟩

def connectionRefused : Errno := ⟨111⟩

def inProgress : Errno := ⟨115⟩

def shortText? (errno : Errno) : Option String :=
  if errno = interrupted then some "interrupted by signal"
  else if errno = badDescriptor then some "bad file descriptor"
  else if errno = tryAgain then some "resource temporarily unavailable"
  else if errno = accessDenied then some "permission denied"
  else if errno = invalidArgument then some "invalid argument"
  else if errno = tooManyFiles then some "too many open files"
  else if errno = brokenPipe then some "broken pipe"
  else if errno = familyNotSupported then some "address family not supported"
  else if errno = addressInUse then some "address already in use"
  else if errno = addressNotAvailable then some "address not available"
  else if errno = networkUnreachable then some "network unreachable"
  else if errno = connectionReset then some "connection reset by peer"
  else if errno = noBuffers then some "no buffer space available"
  else if errno = notConnected then some "not connected"
  else if errno = timedOut then some "connection timed out"
  else if errno = connectionRefused then some "connection refused"
  else if errno = inProgress then some "operation in progress"
  else none

/-- The system's texts for the numbers from zero on; an empty text marks an unused number. -/
def systemTexts : List String := [
  "Success", "Operation not permitted", "No such file or directory", "No such process",
  "Interrupted system call", "Input/output error", "No such device or address",
  "Argument list too long", "Exec format error", "Bad file descriptor", "No child processes",
  "Resource temporarily unavailable", "Cannot allocate memory", "Permission denied", "Bad address",
  "Block device required", "Device or resource busy", "File exists", "Invalid cross-device link",
  "No such device", "Not a directory", "Is a directory", "Invalid argument",
  "Too many open files in system", "Too many open files", "Inappropriate ioctl for device",
  "Text file busy", "File too large", "No space left on device", "Illegal seek",
  "Read-only file system", "Too many links", "Broken pipe", "Numerical argument out of domain",
  "Numerical result out of range", "Resource deadlock avoided", "File name too long",
  "No locks available", "Function not implemented", "Directory not empty",
  "Too many levels of symbolic links", "", "No message of desired type", "Identifier removed",
  "Channel number out of range", "Level 2 not synchronized", "Level 3 halted", "Level 3 reset",
  "Link number out of range", "Protocol driver not attached", "No CSI structure available",
  "Level 2 halted", "Invalid exchange", "Invalid request descriptor", "Exchange full", "No anode",
  "Invalid request code", "Invalid slot", "", "Bad font file format", "Device not a stream",
  "No data available", "Timer expired", "Out of streams resources",
  "Machine is not on the network", "Package not installed", "Object is remote",
  "Link has been severed", "Advertise error", "Srmount error", "Communication error on send",
  "Protocol error", "Multihop attempted", "RFS specific error", "Bad message",
  "Value too large for defined data type", "Name not unique on network",
  "File descriptor in bad state", "Remote address changed",
  "Can not access a needed shared library", "Accessing a corrupted shared library",
  ".lib section in a.out corrupted", "Attempting to link in too many shared libraries",
  "Cannot exec a shared library directly", "Invalid or incomplete multibyte or wide character",
  "Interrupted system call should be restarted", "Streams pipe error", "Too many users",
  "Socket operation on non-socket", "Destination address required", "Message too long",
  "Protocol wrong type for socket", "Protocol not available", "Protocol not supported",
  "Socket type not supported", "Operation not supported", "Protocol family not supported",
  "Address family not supported by protocol", "Address already in use",
  "Cannot assign requested address", "Network is down", "Network is unreachable",
  "Network dropped connection on reset", "Software caused connection abort",
  "Connection reset by peer", "No buffer space available",
  "Transport endpoint is already connected", "Transport endpoint is not connected",
  "Cannot send after transport endpoint shutdown", "Too many references: cannot splice",
  "Connection timed out", "Connection refused", "Host is down", "No route to host",
  "Operation already in progress", "Operation now in progress", "Stale file handle",
  "Structure needs cleaning", "Not a XENIX named type file", "No XENIX semaphores available",
  "Is a named type file", "Remote I/O error", "Disk quota exceeded", "No medium found",
  "Wrong medium type", "Operation canceled", "Required key not available", "Key has expired",
  "Key has been revoked", "Key was rejected by service", "Owner died", "State not recoverable",
  "Operation not possible due to RF-kill", "Memory page has hardware error"]

def systemText (errno : Errno) : String :=
  let number := errno.code.toInt
  let listed := if 0 ≤ number then systemTexts[number.toNat]? else none
  match listed with
  | some text => if text = "" then "Unknown error " ++ Numeral.signed number else text
  | none => "Unknown error " ++ Numeral.signed number

def text (errno : Errno) : String :=
  match errno.shortText? with
  | some text => text
  | none => errno.systemText ++ " (os error " ++ Numeral.signed errno.code.toInt ++ ")"

end Errno

end SocketReactor
