import RStepper.Adapter.Serving
import RStepper.CommandLine
import RStepper.Console.Dialogue
import RStepper.Host

/-!
The program as a whole: from a command line and the input to the exit code and what is printed on the
two output streams.
-/

namespace RStepper.Program
open Console

/-- What a run of the program leaves behind. -/
structure Finished where
  code : Nat
  output : String
  diagnostics : String
  deriving DecidableEq, Repr, Inhabited

def success : Nat := 0

def failed : Nat := 1

/-- The exit code for a command line that cannot be read. -/
def misused : Nat := 2

def versionText : String := "r-debugger 0.1.0\n"

/-- A piece of what was shown, as it is printed on the output stream. -/
def outputOf : Utterance → String
  | .console _ => ""
  | .program record => if record.isDiagnostic then "" else record.endedText

/-- A piece of what was shown, as it is printed on the diagnostic stream. -/
def diagnosticsOf : Utterance → String
  | .console text => text
  | .program record => if record.isDiagnostic then record.endedText else ""

/-- The exit code behind a dialogue. -/
def codeOf : Outcome → Nat
  | .finished => success
  | .stalled => success
  | .fault _ => failed

variable {σ : Type}

/-- The dialogue about a session that is prepared. -/
def dialogueOf (prepared : Prepared σ) : Dialogue σ :=
  .start prepared.debuggee .empty (Script.linesOf prepared.source)

variable [Interpreter σ]

def debug (host : Host σ) (launch : Launch) (input : List UInt8) : Finished :=
  match host.prepare launch with
  | .error _ => ⟨failed, "", ""⟩
  | .ok prepared =>
    let (outcome, last) := (dialogueOf prepared).hold input
    ⟨codeOf outcome, String.join (last.shown.map outputOf),
      String.join (last.shown.map diagnosticsOf)⟩

def serve (host : Host σ) (input : List UInt8) : Finished :=
  let service := Adapter.Server.fresh.serve host input
  ⟨if service.ending.fault?.isSome then failed else success,
    String.ofList (service.server.written.flatMap Adapter.Message.frame), ""⟩

def run (host : Host σ) (invocation : CommandLine.Invocation) (input : List UInt8) : Finished :=
  match invocation with
  | .adapter => serve host input
  | .console launch => debug host launch input
  | .noScript => ⟨failed, "", ""⟩
  | .help => ⟨success, "", ""⟩
  | .version => ⟨success, versionText, ""⟩
  | .misuse => ⟨misused, "", ""⟩

end RStepper.Program
