import GLDispatch.Command.Usage
import GLDispatch.Text.Digit

/-! # Tokens of the command line

What each argument is, judged by its own spelling. -/
namespace GLDispatch

/-- What one option asks for. -/
inductive Request where
  | help
  | verbose
  | output (path : Text)
  /-- The path is the next argument. -/
  | outputNext
  deriving DecidableEq, Repr

inductive Token where
  | operand (text : Text)
  /-- An argument which looks like an option but is none. -/
  | unknown (argument : Text)
  /-- The requests of one argument in order, or the reason why it cannot be used. -/
  | options (requests : Except UsageError (List Request))

namespace Switch

def ofLetter? (c : Char) : Option Switch :=
  all.find? (·.letter == c)

/-- The switches whose long name starts with the given word. -/
def candidates (word : Text) : List Switch :=
  all.filter (word.isPrefixOf ·.word)

/-- The request of an option without a value of its own. -/
def request : Switch → Request
  | help => .help
  | output => .outputNext
  | verbose => .verbose

end Switch

namespace Token
open Text

/-- Ends the options where it stands alone as an argument. -/
def doubleDash : Text :=
  "--".toList

/-- Output to the path given in the option's own argument. The double dash is no path, and leaves
the empty one. -/
def outputTo (value : Text) : Request :=
  .output (if value = doubleDash then [] else value)

/-- The requests of short options joined in one argument, where the text stands behind the letter of
`switch`. Letters of further switches may follow a switch without a value, and nothing else. All
that follows a switch with a value is the value. -/
def cluster (switch : Switch) : Text → Except UsageError (List Request)
  | [] => .ok [switch.request]
  | c :: rest =>
    if switch = .output then .ok [outputTo (c :: rest)]
    else match Switch.ofLetter? c with
      | some next => (cluster next rest).map (switch.request :: ·)
      | none => .error (.ignoredValue switch (c :: rest))

/-- The requests of an option with a value behind an equals sign, or without one. -/
def valueRequests (switch : Switch) (value : Option Text) : Except UsageError (List Request) :=
  match switch, value with
  | .output, some path => .ok [outputTo path]
  | _, some text => .error (.ignoredValue switch text)
  | _, none => .ok [switch.request]

/-- The requests of an argument which begins with the letter of `switch`. An equals sign right
behind that letter may set off what follows, and one behind a later letter is part of it. -/
def shortRequests (switch : Switch) (rest : Text) : Except UsageError (List Request) :=
  match rest with
  | ['='] => valueRequests switch (some [])
  | '=' :: value => cluster switch value
  | _ => cluster switch rest

/-- A number behind one minus sign: digits, with a point before the last of them or without. A line
feed may follow. -/
def isNegativeNumber (argument : Text) : Bool :=
  match argument with
  | '-' :: digits =>
    let digits := if digits.getLast? == some '\n' then digits.dropLast else digits
    match digits.dropWhile isDecimal with
    | [] => !digits.isEmpty
    | '.' :: fraction => !fraction.isEmpty && fraction.all isDecimal
    | _ => false
  | _ => false

/-- An argument with a dash which is no option: numbers and text with a space are operands. -/
def unlisted (argument : Text) : Token :=
  if isNegativeNumber argument || argument.contains ' ' then operand argument
  else unknown argument

/-- The token of an argument in front of a lone double dash. A long option may be shortened as long
as it stands for one switch only. -/
def ofArgument (argument : Text) : Except UsageError Token :=
  match argument with
  | '-' :: '-' :: body =>
    let word := before '=' body
    match Switch.candidates word with
    | [] => .ok (unlisted argument)
    | [switch] => .ok (options (valueRequests switch ((word ++ ['=']).isPrefixOf? body)))
    | several => .error (.ambiguous argument several)
  | '-' :: c :: rest => match Switch.ofLetter? c with
    | some switch => .ok (options (shortRequests switch rest))
    | none => .ok (unlisted argument)
  | _ => .ok (operand argument)

end Token
end GLDispatch
