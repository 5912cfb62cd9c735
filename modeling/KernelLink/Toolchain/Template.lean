import KernelLink.Machine.Path
import KernelLink.Text.Search

/-!
# Command templates

A program with arguments that have places for the language option, the inputs and the output. An
argument that is nothing but the place for the inputs becomes one argument per input; inside a
longer argument the inputs stand with spaces between them.

The places are filled one kind after the other, so a text that was filled in is searched again for
the kinds that come later.
-/

namespace KernelLink

structure CommandTemplate where
  program : String
  args : List String
deriving DecidableEq, Repr

namespace CommandTemplate

def languagePlace : String := "\x7bstd\x7d"

def inputPlace : String := "\x7binput\x7d"

def outputPlace : String := "\x7boutput\x7d"

/-- The inputs as they stand inside a longer argument. -/
def joinedInputs (inputs : List Path) : String := " ".intercalate (inputs.map (·.text))

/-- Fills the places of one argument. -/
def fill (language : String) (inputs : List Path) (output : Path) (arg : String) : String :=
  replaceText outputPlace output.text <|
    replaceText inputPlace (joinedInputs inputs) <|
      replaceText languagePlace language arg

/-- The arguments that one argument of the template stands for. -/
def renderArg (language : String) (inputs : List Path) (output : Path) (arg : String) :
    List String :=
  if arg = inputPlace then inputs.map (·.text) else [fill language inputs output arg]

/-- The arguments of a command. -/
def render (c : CommandTemplate) (language : String) (inputs : List Path) (output : Path) :
    List String :=
  c.args.flatMap (renderArg language inputs output)

end CommandTemplate

end KernelLink
