import StaleBuild.Failure
import StaleBuild.Text.Basic
import StaleBuild.Text.Utf8

/-!
What a compiler can answer: success, diagnostics about its input, or a fault of its own. The
diagnostics of an external compiler are read off what it wrote: the messages are the lines that are
not blank, and the last line that counts errors decides between one error and several.
-/

namespace StaleBuild

/-- Whether a compiler reported one error or several. -/
inductive DiagnosticKind where
  | multipleErrors
  | compilationFailed
deriving DecidableEq

namespace DiagnosticKind

/-- The name of a kind in a report. -/
def name : DiagnosticKind → String
  | .multipleErrors => "multiple-errors"
  | .compilationFailed => "compilation-failed"

/-- The name of a kind in a heading. -/
def title : DiagnosticKind → String
  | .multipleErrors => "MultipleErrors"
  | .compilationFailed => "CompilationFailed"

end DiagnosticKind

/-- What a compiler reports about its input. -/
structure Diagnostics where
  kind : DiagnosticKind
  messages : List String
deriving DecidableEq

/-- A failure of the compiler itself. -/
structure Fault where
  message : String
  trace : String
deriving DecidableEq

namespace Fault

/-- A fault of which only the message is known. -/
def ofMessage (message : String) : Fault := ⟨message, message⟩

/-- The fault of an error with a chain of causes. -/
def ofChain (message : String) (causes : List String) : Fault :=
  ⟨message, causes.foldl (fun trace cause => trace ++ "\ncaused by: " ++ cause) message⟩

/-- The fault of a build error, which has no further causes. -/
def ofError (e : BuildError) : Fault := ofChain e.message []

/-- The line that announces a fault. -/
def line (f : Fault) : String := faultHeading ++ f.message

end Fault

/-- The answer of a compiler. -/
inductive CompileOutcome where
  | success
  | diagnostics (d : Diagnostics)
  | fault (f : Fault)
deriving DecidableEq

/-! ## Reading a report -/

namespace Report

/-- What a report of several errors contains, wherever it stands. -/
def severalMarker : List Char := "MultipleCompilationErrorsException".toList

/-- Whether `part` stands somewhere in a text. -/
def contains (part : List Char) : List Char → Bool
  | [] => part.isEmpty
  | c :: rest => part.isPrefixOf (c :: rest) || contains part rest

/-- The number of errors that a line announces: a count, blanks, and `error` or `errors`. -/
def announced? (line : List Char) : Option Nat :=
  let line := Text.trimChars line
  match (" errors".toList.isSuffixOf? line).or (" error".toList.isSuffixOf? line) with
  | some number => Text.count? (Text.trimChars number)
  | none => none

/-- One error or several: several if the marker says so or the last announcement is above one. -/
def classify (report : List Char) : DiagnosticKind :=
  if contains severalMarker report then .multipleErrors
  else
    let count := ((Text.lines report).reverse.findSome? announced?).getD 1
    if 1 < count then .multipleErrors else .compilationFailed

/-- The lines of a report that are not blank, trimmed. -/
def messages (report : List Char) : List String :=
  (((Text.lines report).map Text.trimChars).filter (· ≠ [])).map String.ofList

/-- The diagnostics of a compiler that failed and wrote this. What it wrote to its two outputs is
read as one report, errors behind the rest. -/
def diagnostics (output errors : Bytes) : Diagnostics :=
  let report := Utf8.decodeLossyChars output ++ Utf8.decodeLossyChars errors
  ⟨classify report, messages report⟩

end Report

end StaleBuild
