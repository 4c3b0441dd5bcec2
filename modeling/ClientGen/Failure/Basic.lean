import ClientGen.Api.Source
import ClientGen.Generation

/-!
# Failures

Why a run fails ([Failure]), and the code that it ends with. A failure that can be expected has a
kind, which decides the code ([FailureKind.exitCode]); any other one ends a run with the code for
failures in general, and says that it was not expected.
-/

namespace ClientGen

/-- The kinds of failures. -/
inductive FailureKind where
  | general | usage | configuration | description | template | writing | backend
  deriving DecidableEq, Repr

/-- The code of a run that succeeds. -/
def successCode : Nat := 0

/-- The code of a run with a failure of a kind. -/
def FailureKind.exitCode : FailureKind → Nat
  | general => 1
  | usage => 2
  | configuration => 1
  | description => 7
  | template => 8
  | writing => 9
  | backend => 10

/-- Why a run fails. -/
inductive Failure where
  | options (fault : OptionsFault)
  | description (fault : Api.LoadFault)
  | generation (fault : GenerationFault)
  | writing (fault : Files.WriteFault)
  | backend (fault : BackendFault)
  /-- A value that is to be listed has no text. -/
  | text (fault : TextFault)
  /-- The console refuses the markup of a message. -/
  | markup (words : String)
  deriving Repr

namespace Failure

/-- The kind of a failure, if it can be expected. -/
def kind? : Failure → Option FailureKind
  | options (.pair _) => some .usage
  | options (.file (.undecodable _)) => none
  | options (.file (.reading _)) => none
  | options (.file (.unfindable _)) => none
  | options (.file _) => some .configuration
  | description (.undecodable _) => none
  | description (.badUrl _) => none
  | description (.charset _) => none
  | description (.unfindable _) => none
  | description (.content (.reading _)) => none
  | description _ => some .description
  | generation (.render (.text _)) => none
  | generation (.render _) => some .template
  | generation _ => none
  | writing (.unfindable _) => none
  | writing .nullCharacter => none
  | writing _ => some .writing
  | backend (.compositeMode _) => none
  | backend (.text _) => none
  | backend _ => some .backend
  | text _ => none
  | markup _ => none

/-- The message of a failure. -/
def message : Failure → Message
  | options fault => fault.message
  | description fault => fault.message
  | generation fault => fault.message
  | writing fault => fault.message
  | backend fault => fault.message
  | text fault => ⟨fault.words, .absent⟩
  | markup words => ⟨words, .absent⟩

/-- The code of a run with a failure. -/
def exitCode (f : Failure) : Nat := (f.kind?.getD .general).exitCode

/-- What is said about a failure at the end of a run. -/
def report (f : Failure) : Message :=
  if f.kind?.isSome then f.message
  else { f.message with headline := "Unexpected error: " ++ f.message.headline }

/-- What is recorded about a failure, behind the report. -/
def records (f : Failure) : List Log.Record :=
  if f.kind?.isSome then [] else [⟨.debug, "clientforge.app", "Unhandled exception"⟩]

end Failure

end ClientGen
