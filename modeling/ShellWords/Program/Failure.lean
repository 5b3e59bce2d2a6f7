import ShellWords.Catalog.Load
import ShellWords.EventLog
import ShellWords.KernelFiles
import ShellWords.Settings.Load

/-!
Failures: every way in which a part of the program can fail, under one roof, with the name of the
kind that a report gives and the message. Malformed input and trouble with files are answers of the
program; the other kinds end it.
-/
namespace ShellWords

inductive Failure
  | read (e : ReadError)
  | quoting (e : QuotingError)
  | undecodable (e : DecodeError)
  | file (e : FileError)
  | settings (e : SettingsError)
  | home (fault : HomeFault)
  | unresolvable (e : FileTree.ResolveError)
  | catalog (e : CatalogError)
  | plural (e : PluralFault)
  | logClosed (e : LogClosed)
  | foreign (e : ForeignError)
  deriving DecidableEq, Repr

namespace Failure

def ofTextFile : TextFileError → Failure
  | .file e => file e
  | .undecodable e => undecodable e

def ofLoad : LoadError → Failure
  | .settings e => settings e
  | .home fault => home fault
  | .unresolvable e => unresolvable e
  | .unreadable e => ofTextFile e

def ofKernel : Kernel.LineError → Failure
  | .unreadable e => ofTextFile e
  | .quoting e => quoting e

/-- The numbers of the system that have a kind of their own. -/
def systemKinds : List (Nat × Text) :=
  [(1, "PermissionError"), (2, "FileNotFoundError"), (3, "ProcessLookupError"),
   (4, "InterruptedError"), (10, "ChildProcessError"), (11, "BlockingIOError"),
   (13, "PermissionError"), (17, "FileExistsError"), (20, "NotADirectoryError"),
   (21, "IsADirectoryError"), (32, "BrokenPipeError"), (103, "ConnectionAbortedError"),
   (104, "ConnectionResetError"), (108, "BrokenPipeError"), (110, "TimeoutError"),
   (111, "ConnectionRefusedError"), (114, "BlockingIOError"), (115, "BlockingIOError")]

def fileKind (fault : FileFault) : Text × Family :=
  match fault.number? with
  | some number => ((systemKinds.lookup number).getD "OSError", .system)
  | none => ("ValueError", .value)

def homeKind : HomeFault → Text × Family
  | .unknown => ("RuntimeError", .other)
  | .nulCharacter => ("ValueError", .value)

def catalogKind : CatalogFault → Text × Family
  | .tooShort _ => ("error", .other)
  | .wrongMark | .wrongVersion _ | .corrupt => ("OSError", .system)
  | .headerIncomplete => ("IndexError", .other)
  | .undecodable _ => ("UnicodeDecodeError", .value)
  | .foreign e => (e.kind, e.family)
  | .plural .misplacedNegation => ("SyntaxError", .other)
  | .tooManyParts | .plural _ => ("ValueError", .value)

/-- The name of the kind and what it counts as. -/
def kind : Failure → Text × Family
  | read (.lex .escapeAtEnd) => ("UnterminatedEscapeError", .value)
  | read (.lex .quoteOpen) => ("UnterminatedQuoteError", .value)
  | read (.undecodable _) => ("UnicodeDecodeError", .value)
  | read (.stream f) => (f.kind, .other)
  | quoting .unbalanced => ("UnbalancedQuotingError", .value)
  | quoting .unexpected => ("UnexpectedQuotingError", .value)
  | undecodable _ => ("UnicodeDecodeError", .value)
  | file e => fileKind e.fault
  | settings (.line _ _) => ("ValueError", .value)
  | settings .homeUnknown => homeKind .unknown
  | home fault => homeKind fault
  | unresolvable (.linkLoop _) => ("RuntimeError", .other)
  | unresolvable .nulCharacter => ("ValueError", .value)
  | catalog (.file e) => fileKind e.fault
  | catalog (.faulty fault _) => catalogKind fault
  | plural _ => ("ZeroDivisionError", .other)
  | logClosed _ => ("ValueError", .value)
  | foreign e => (e.kind, e.family)

def name (f : Failure) : Text := f.kind.1

def family (f : Failure) : Family := f.kind.2

def catalogMessage (fault : CatalogFault) (path : Text) : Text :=
  let aboutFile (complaint : Text) : Text := "[Errno 0] " ++ complaint ++ ": " ++ Text.literal path
  match fault with
  | .tooShort needed => "unpack requires a buffer of " ++ Text.ofNat needed ++ " bytes"
  | .wrongMark => aboutFile "Bad magic number"
  | .wrongVersion major => aboutFile ("Bad version number " ++ Text.ofNat major)
  | .corrupt => aboutFile "File is corrupt"
  | .headerIncomplete => "list index out of range"
  | .undecodable e => e.message
  | .foreign e => e.message
  | .tooManyParts => "too many values to unpack (expected 2)"
  | .plural e => e.message

/-- The message as it is before any translation. -/
def text : Failure → Text
  | read e => e.message id
  | quoting e => e.message
  | undecodable e => e.message
  | file e => e.message
  | settings e => e.message
  | home fault => fault.message
  | unresolvable e => e.message
  | catalog (.file e) => e.message
  | catalog (.faulty fault path) => catalogMessage fault path
  | plural e => e.message
  | logClosed e => e.message
  | foreign e => e.message

/-- Only messages about malformed text are translated. -/
def isTranslated : Failure → Bool
  | read (.lex _) | quoting _ => true
  | _ => false

/-- The message in a report. Translating it may fail. -/
def message (translate : Text → Except PluralFault Text) (f : Failure) : Except PluralFault Text :=
  if f.isTranslated then translate f.text else .ok f.text

end Failure

end ShellWords
