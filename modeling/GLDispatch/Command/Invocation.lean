import GLDispatch.Command.Token

/-! # Invocations

What a command line asks for as a whole. -/
namespace GLDispatch

structure Settings where
  header : Text := defaultHeader
  /-- Without a path, or with an empty one, the output is printed. -/
  output : Option Text := none
  verbose : Bool := false
  deriving DecidableEq, Repr

inductive Invocation where
  | help
  | unusable (error : UsageError)
  | run (settings : Settings)
  deriving DecidableEq, Repr

namespace Invocation

/-- What the arguments so far amount to. -/
structure Reading where
  header : Option Text := none
  output : Option Text := none
  verbose : Bool := false
  /-- Arguments for which there is no use. -/
  extras : List Text := []
  /-- Whether the argument just read was taken as the header. -/
  headerJustTaken : Bool := false
  deriving DecidableEq, Repr

namespace Reading

/-- The first operand is the header. -/
def operand (r : Reading) (text : Text) : Reading :=
  match r.header with
  | none => { r with header := some text, headerJustTaken := true }
  | some _ => { r with extras := r.extras ++ [text], headerJustTaken := false }

def unknown (r : Reading) (argument : Text) : Reading :=
  { r with extras := r.extras ++ [argument], headerJustTaken := false }

/-- Takes one request, or stops at a request for help. -/
def request? (r : Reading) : Request → Option Reading
  | .help => none
  | .verbose => some { r with verbose := true }
  | .output path => some { r with output := some path }
  | .outputNext => some r

def requests? (r : Reading) (requests : List Request) : Option Reading :=
  requests.foldlM request? { r with headerJustTaken := false }

/-- The arguments behind a lone double dash. The dash belongs to the header if it stands right in
front of it or behind it. -/
def operands (r : Reading) (texts : List Text) : Reading :=
  match r.header, texts with
  | none, [] => r
  | none, header :: rest => { r with header := some header, extras := r.extras ++ rest }
  | some _, _ =>
    let dash := if r.headerJustTaken then [] else [Token.doubleDash]
    { r with extras := r.extras ++ dash ++ texts }

def finish (r : Reading) : Invocation :=
  if r.extras.isEmpty then .run ⟨r.header.getD defaultHeader, r.output, r.verbose⟩
  else .unusable (.unrecognized r.extras)

end Reading

/-- Reads the tokens from left to right, with the operands behind a lone double dash at the end. -/
def ofTokens (r : Reading) (behindDash : Option (List Text)) : List Token → Invocation
  | [] => (match behindDash with
    | none => r
    | some texts => r.operands texts).finish
  | .operand text :: rest => ofTokens (r.operand text) behindDash rest
  | .unknown argument :: rest => ofTokens (r.unknown argument) behindDash rest
  | .options (.error error) :: _ => .unusable error
  | .options (.ok requests) :: rest =>
    if requests.getLast? = some .outputNext then
      match rest with
      | .operand path :: rest => match r.requests? (requests ++ [.output path]) with
        | some next => ofTokens next behindDash rest
        | none => .help
      | _ => .unusable (.missingValue .output)
    else match r.requests? requests with
      | some next => ofTokens next behindDash rest
      | none => .help

/-- An ambiguous argument makes the command line unusable, whatever stands in front of it. -/
def ofArguments (arguments : List Text) : Invocation :=
  let dash := Token.doubleDash
  let behindDash :=
    if dash ∈ arguments then some ((arguments.dropWhile (· != dash)).drop 1) else none
  match (arguments.takeWhile (· != dash)).mapM Token.ofArgument with
  | .error error => .unusable error
  | .ok tokens => ofTokens {} behindDash tokens

end Invocation
end GLDispatch
