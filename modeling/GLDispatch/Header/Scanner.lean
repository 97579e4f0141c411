import GLDispatch.DefinitionTable
import GLDispatch.Event
import GLDispatch.Header.Directive
import GLDispatch.Text.Line

/-! # Scanning

A scanner reads a header line by line. It is either looking for a line which opens a region or is
inside one, where it counts nested conditionals to tell the line which closes the region. -/
namespace GLDispatch

structure Scanner where
  definitions : DefinitionTable := ∅
  /-- The guard of the open region. -/
  region : Option Text := none
  nesting : Nat := 0
  deriving DecidableEq, Repr

namespace Scanner

/-- A scanner before its first line. -/
def start : Scanner := {}

/-- Opens a region. A guard that was seen before goes on with its definition. -/
def enter (s : Scanner) (guard : Text) : Scanner × List Event :=
  let definitions :=
    if s.definitions.contains guard then s.definitions
    else s.definitions.insert guard { guard := guard }
  (⟨definitions, some guard, 0⟩, [.entered guard])

def leave (s : Scanner) : Scanner × List Event :=
  ({ s with region := none }, (s.region.map .left).toList)

/-- Takes a line as contents of the open region. -/
def record (s : Scanner) (line : Text) : Scanner :=
  match s.region with
  | none => s
  | some guard => match s.definitions.get? guard, Entry.ofLine? line with
    | some d, some entry => { s with definitions := s.definitions.insert guard (d.record entry) }
    | _, _ => s

/-- Reads one line. -/
def read (s : Scanner) (line : Text) : Scanner × List Event :=
  match s.region with
  | none => match Directive.opening? line with
    | some guard => s.enter guard
    | none => (s, [])
  | some _ =>
    if Directive.opensConditional line then ({ s with nesting := s.nesting + 1 }, [])
    else if Directive.closesConditional line then
      if s.nesting = 0 then s.leave else ({ s with nesting := s.nesting - 1 }, [])
    else (s.record line, [])

/-- Reads lines in turn, without their endings. -/
def feed (s : Scanner) (lines : List Text) : Scanner × List Event :=
  lines.foldl (fun (s, events) line =>
    let (next, new) := s.read (Text.trimEnding line)
    (next, events ++ new)) (s, [])

/-- Reads the last lines and hands over all definitions. The scanner starts over. -/
def finish (s : Scanner) (lines : List Text) : DefinitionTable × Scanner × List Event :=
  let (last, events) := s.feed lines
  (last.definitions, start, events ++ (last.region.map .abandoned).toList)

/-- What can be done with a scanner. -/
inductive Operation where
  | read (line : Text)
  | finish (lines : List Text)
  | enter (guard : Text)
  | leave
  | record (line : Text)
  deriving DecidableEq, Repr

/-- A scanner after an operation, with what was reported and handed over. -/
structure Outcome where
  scanner : Scanner
  events : List Event := []
  table : Option DefinitionTable := none
  deriving DecidableEq, Repr

def apply (s : Scanner) : Operation → Outcome
  | .read line =>
    let (next, events) := s.read line
    { scanner := next, events }
  | .finish lines =>
    let (table, next, events) := s.finish lines
    { scanner := next, events, table := some table }
  | .enter guard =>
    let (next, events) := s.enter guard
    { scanner := next, events }
  | .leave =>
    let (next, events) := s.leave
    { scanner := next, events }
  | .record line => { scanner := s.record line }

/-- The outcomes of operations in turn. -/
def perform (s : Scanner) : List Operation → List Outcome
  | [] => []
  | operation :: rest =>
    let outcome := s.apply operation
    outcome :: outcome.scanner.perform rest

end Scanner

/-- A header's definitions, and what was reported on the way. -/
structure Parsed where
  table : DefinitionTable
  events : List Event
  deriving DecidableEq, Repr

def Parsed.ofLines (lines : List Text) : Parsed :=
  let (table, _, events) := Scanner.start.finish lines
  ⟨table, events⟩

end GLDispatch
