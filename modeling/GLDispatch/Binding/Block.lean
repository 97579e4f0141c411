import GLDispatch.Binding.Name
import GLDispatch.DefinitionTable
import GLDispatch.Event

/-! # Blocks

The layout of a binding: a block for each core version, with its own functions first and then, for
each extension bundled into it, a marker and the functions of the extension. Every fragment of the
binding follows the same blocks. -/
namespace GLDispatch

structure BoundFunction where
  name : Text
  signature : Signature
  /-- The guard of the region which declares the function. -/
  origin : Text
  deriving DecidableEq, Repr

inductive Item where
  /-- Marks where the functions of an extension begin. -/
  | extension (guard : Text)
  | function (function : BoundFunction)
  deriving DecidableEq, Repr

structure Block where
  guard : Text
  items : List Item
  deriving DecidableEq, Repr

namespace Definition

/-- A function can be bound where the type of a pointer to it is defined as well. -/
def binds (d : Definition) (name : Text) : Bool :=
  Name.isEntryPoint name && d.functions.contains (Name.pointerType name)

/-- The functions which can be bound, in the order of their first declaration. -/
def boundFunctions (d : Definition) : List BoundFunction :=
  (d.functions.entries.filter fun entry => d.binds entry.1).map
    fun entry => ⟨entry.1, entry.2, d.guard⟩

end Definition

namespace DefinitionTable

/-- The items of one bundled extension: none if the table does not define it. -/
def extensionItems (table : DefinitionTable) (extension : Text) : List Item :=
  let guard := Name.extensionGuard extension
  match table.get? guard with
  | none => []
  | some d => .extension guard :: d.boundFunctions.map .function

def block (table : DefinitionTable) (d : Definition) : Block :=
  ⟨d.guard, d.boundFunctions.map .function ++ d.includes.flatMap table.extensionItems⟩

def blocks (table : DefinitionTable) : List Block :=
  table.versionDefinitions.map table.block

/-- What one walk over the blocks reports: the bundled extensions which are not defined. -/
def skippedExtensions (table : DefinitionTable) : List Event :=
  table.versionDefinitions.flatMap fun d =>
    (d.includes.filter fun extension => !table.contains (Name.extensionGuard extension)).map
      fun extension => .skipped d.guard extension (Name.extensionGuard extension)

end DefinitionTable
end GLDispatch
