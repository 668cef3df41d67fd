import DartTree.Grammar.Kind
import DartTree.Json.Record
import DartTree.Json.Value

/-! Kinds and categories as JSON: by their names. -/
namespace DartTree
open Json

def Kind.toJson (kind : Kind) : Value := .string kind.name

def Kind.ofJson : Scan → Read Kind := Scan.readName ofName? (all.map name)

def Category.toJson (category : Category) : Value := .string category.name

def Category.ofJson : Scan → Read Category := Scan.readName ofName? (all.map name)

end DartTree
