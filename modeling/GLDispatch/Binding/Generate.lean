import GLDispatch.Binding.Fragment
import GLDispatch.Header.Scanner
import GLDispatch.Text.Utf8

/-! # Generation

From the bytes of a header to the text of its binding. -/
namespace GLDispatch

/-- The lines of a file: UTF-8 with any of the three usual line endings. -/
def headerLines (bytes : Bytes) : List Text :=
  Text.lines (Text.unifyEndings (Utf8.decode bytes))

def Parsed.ofBytes (bytes : Bytes) : Parsed :=
  .ofLines (headerLines bytes)

structure Generated where
  output : Text
  events : List Event
  deriving DecidableEq, Repr

/-- Each fragment walks the blocks anew and reports on its walk. -/
def Generated.ofHeader (bytes : Bytes) : Generated :=
  let parsed := Parsed.ofBytes bytes
  ⟨parsed.table.binding,
    parsed.events ++ [.parsed parsed.table.size parsed.table.versionGuards.length] ++
      Fragment.all.flatMap fun _ => parsed.table.skippedExtensions⟩

end GLDispatch
