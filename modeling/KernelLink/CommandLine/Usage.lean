import KernelLink.CommandLine.Execute
import KernelLink.CommandLine.Parse

/-!
# Usage

What is shown when a command line is not carried out: help on the regular output if it was asked
for, and otherwise the fault and a reminder on the error output, with a status of its own.
-/

namespace KernelLink

/-- An option as help shows it. -/
def OptionName.usage (o : OptionName) : String := "  --" ++ o.text ++ " <VALUE>"

def usageLines : List String :=
  ["Usage: revlink [OPTIONS] <COMMAND>", "", "Commands:"] ++
    SubcommandName.all.map (fun n => "  " ++ n.text) ++
    ["", "Options:"] ++ Side.before.options.map (·.usage) ++ ["  -h, --help"]

def usageText : String := String.join (usageLines.map (· ++ "\n"))

def UsageFault.message : UsageFault → String
  | helpWanted => "help was asked for"
  | nothingGiven => "a subcommand is required"
  | noSubcommand => "a subcommand is required"
  | unknownSubcommand word => "unrecognized subcommand '" ++ word ++ "'"
  | unknownArgument word => "unexpected argument '" ++ word ++ "' found"
  | unneededValue word => "unexpected value in '" ++ word ++ "'"
  | missingValue option => "a value is required for '--" ++ option.text ++ "'"
  | noChoice option value => "invalid value '" ++ value ++ "' for '--" ++ option.text ++ "'"
  | unreadable option value => "invalid value '" ++ value ++ "' for '--" ++ option.text ++ "'"
  | missingOption option => "'--" ++ option.text ++ "' is required"
  | repeated option => "'--" ++ option.text ++ "' cannot be used multiple times"

/-- How a command line ends that is not carried out. -/
def UsageFault.ending : UsageFault → Ending
  | helpWanted => ⟨0, usageText, ""⟩
  | nothingGiven => ⟨2, "", usageText⟩
  | f => ⟨2, "", "error: " ++ f.message ++ "\n\n" ++ usageText⟩

/-- Reads a command line and carries it out. -/
def runCommandLine (words : List String) (around : Surroundings) (t : FileTree) :
    Ending × FileTree :=
  match CommandLine.parse words with
  | .ok c => c.execute around t
  | .error f => (f.ending, t)

end KernelLink
