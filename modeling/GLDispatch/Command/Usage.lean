import GLDispatch.Text.Quoted

/-! # Usage

The options of the command and what it says about its use. -/
namespace GLDispatch

inductive Switch where
  | help
  | output
  | verbose
  deriving DecidableEq, Repr

namespace Switch

def all : List Switch :=
  [help, output, verbose]

def letter : Switch → Char
  | help => 'h'
  | output => 'o'
  | verbose => 'v'

/-- The long name without its dashes. -/
def word : Switch → Text
  | help => "help".toList
  | output => "output".toList
  | verbose => "verbose".toList

def long (s : Switch) : Text :=
  "--".toList ++ s.word

/-- Both names, as errors give them. -/
def names (s : Switch) : Text :=
  ['-', s.letter, '/'] ++ s.long

end Switch

/-- Why a command line cannot be used. -/
inductive UsageError where
  /-- A shortened long option may stand for several. -/
  | ambiguous (argument : Text) (candidates : List Switch)
  /-- An option without a value was given one. -/
  | ignoredValue (switch : Switch) (value : Text)
  | missingValue (switch : Switch)
  | unrecognized (arguments : List Text)
  deriving DecidableEq, Repr

def UsageError.message : UsageError → Text
  | ambiguous argument candidates =>
    "ambiguous option: ".toList ++ argument ++ " could match ".toList ++
      List.intercalate ", ".toList (candidates.map Switch.long)
  | ignoredValue switch value =>
    "argument ".toList ++ switch.names ++ ": ignored explicit argument ".toList ++
      Text.quoted value
  | missingValue switch => "argument ".toList ++ switch.names ++ ": expected one argument".toList
  | unrecognized arguments =>
    "unrecognized arguments: ".toList ++ List.intercalate [' '] arguments

def programName : Text :=
  "gl-binding-generator".toList

def usageLine : Text :=
  "usage: ".toList ++ programName ++ " [-h] [-o OUTPUT] [-v] [header]\n".toList

def UsageError.report (e : UsageError) : Text :=
  usageLine ++ programName ++ ": error: ".toList ++ e.message ++ ['\n']

/-- The header which is read if the command line names none. -/
def defaultHeader : Text :=
  "gl3.h".toList

def helpText : Text :=
  usageLine ++
  "\nGenerates the function pointers, wrapper methods and loader statements of a GL\n".toList ++
  "context from a GL header\n".toList ++
  "\npositional arguments:\n".toList ++
  "  header                Path to the GL header (default: ".toList ++ defaultHeader ++
  ")\n".toList ++
  "\noptions:\n".toList ++
  "  -h, --help            show this help message and exit\n".toList ++
  "  -o OUTPUT, --output OUTPUT\n".toList ++
  "                        Write the generated code to this file instead of\n".toList ++
  "                        stdout\n".toList ++
  "  -v, --verbose         Log parsing details\n".toList

end GLDispatch
