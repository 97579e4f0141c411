import GLDispatch.Definition
import GLDispatch.Text.Order
import GLDispatch.Text.Quoted

/-! # Definition tables

The definitions of a header by guard. Whoever walks a table sees its guards in code point order,
whatever the order of their arrival. -/
namespace GLDispatch

abbrev DefinitionTable := OrderedMap Text Definition

namespace DefinitionTable
open Text

/-- The guards in code point order. -/
def guards (table : DefinitionTable) : List Text :=
  table.keys.mergeSort atMost

/-- The guards of core versions bear this mark; all others are extensions. -/
def versionMark : Text :=
  "_VERSION_".toList

def isVersion (guard : Text) : Bool :=
  hasPart versionMark guard

def versionGuards (table : DefinitionTable) : List Text :=
  table.guards.filter isVersion

def versionDefinitions (table : DefinitionTable) : List Definition :=
  table.versionGuards.filterMap table.get?

/-- The table's guards for display. -/
def summary (table : DefinitionTable) : Text :=
  "DefinitionTable(".toList ++ quotedList table.guards ++ [')']

end DefinitionTable
end GLDispatch
