import PaymentConnector.Text.Fields
import PaymentConnector.Text.Quoted
import PaymentConnector.Text.Utf8

/-!
Where the program reads from: files, given by their paths, and the standard input,
which a hyphen stands for. A path is kept without repeated slashes and without parts
that are a single point.
-/

namespace PaymentConnector.CommandLine

open Text

/-- Why a file could not be read, with the number that the system has for it. -/
structure FileFault where
  number : Nat
  reason : String
  deriving DecidableEq, Repr

namespace FileFault

def missing : FileFault := ⟨2, "No such file or directory"⟩

def notDirectory : FileFault := ⟨20, "Not a directory"⟩

def isDirectory : FileFault := ⟨21, "Is a directory"⟩

def nameTooLong : FileFault := ⟨36, "File name too long"⟩

def message (f : FileFault) (path : String) : String :=
  "[Errno " ++ toString f.number ++ "] " ++ f.reason ++ ": " ++ quoted path

end FileFault

structure Sources where
  file : String → Except FileFault (List UInt8)
  input : List Char

/-- The argument that stands for the standard input. -/
def inputPath : String := "-"

/-- The slashes that a path starts with: two stay two, more of them are one. -/
def leadingSlashes : List Char → List Char
  | '/' :: '/' :: '/' :: _ => ['/']
  | '/' :: '/' :: _ => ['/', '/']
  | '/' :: _ => ['/']
  | _ => []

def pathParts (path : String) : List (List Char) :=
  (fields (· = '/') path.toList).filter fun part => part ≠ [] ∧ part ≠ ['.']

def tidyPath (path : String) : String :=
  match leadingSlashes path.toList ++ ['/'].intercalate (pathParts path) with
  | [] => "."
  | tidy => String.ofList tidy

namespace Sources

/-- The files of one directory, without directories in it. -/
def inDirectory (files : List (String × List UInt8)) (path : String) :
    Except FileFault (List UInt8) :=
  match files.lookup path with
  | some content => .ok content
  | none =>
    match pathParts path with
    | [] => .error .isDirectory
    | first :: rest =>
      if (first :: rest).all (· = ['.', '.']) then .error .isDirectory
      else if rest ≠ [] ∧ (files.lookup (String.ofList first)).isSome then .error .notDirectory
      else if (first :: rest).any fun part => 255 < (Utf8.encode part).length then
        .error .nameTooLong
      else .error .missing

def ofFiles (files : List (String × List UInt8)) (input : List Char) : Sources :=
  ⟨inDirectory files, input⟩

/-- The sources once a path has been read: the standard input is read to its end. -/
def after (s : Sources) (path : String) : Sources :=
  if path = inputPath then { s with input := [] } else s

end Sources

/-- Every way to end a line, as a line feed. -/
def unifyBreaks : List Char → List Char
  | [] => []
  | '\r' :: '\n' :: rest => '\n' :: unifyBreaks rest
  | '\r' :: rest => '\n' :: unifyBreaks rest
  | c :: rest => c :: unifyBreaks rest

end PaymentConnector.CommandLine
