import AttributeSchema.Source.Item
import AttributeSchema.Source.Reading
/-!
# Faults of files

A file is read once more before it is written. A path that spells a type or a path by itself may still
be refused where the file puts it: an import takes names without arguments only, and a reference takes
a single bound, unless a relaxed one in parentheses comes first.
-/

namespace AttributeSchema.Source

/-- The message where a type is wanted and a plus sign comes. -/
def typeMessage : String :=
  "expected one of: \x60for\x60, parentheses, \x60fn\x60, \x60unsafe\x60, \x60extern\x60, " ++
    "identifier, \x60::\x60, \x60<\x60, \x60dyn\x60, square brackets, \x60*\x60, " ++
    "\x60&\x60, \x60!\x60, \x60impl\x60, \x60_\x60, lifetime"

/-- What is wrong with bounds as the target of a reference inside angle brackets. -/
def boundsFault? (keyword : BoundsKeyword) (bounds : List Bound) (hasTrailingPlus : Bool) :
    Option String :=
  match keyword, bounds with
  | .absent, .lifetime _ :: _ => some typeMessage
  | .dynamic, .lifetime _ :: _ => some "at least one trait is required for an object type"
  | .abstract, .lifetime _ :: _ => some "at least one trait must be specified"
  | .abstract, .captures .. :: _ => some "at least one trait must be specified"
  | .absent, .trait true true .. :: _ => none
  | _, _ :: _ :: _ => some "expected \x60,\x60"
  | _, _ => if hasTrailingPlus then some "expected \x60,\x60" else none

def Ty.fault? : Ty → Option String
  | .path _ [.angle _ _ [.type (.reference _ _ (.bounded keyword bounds trailing))] _] =>
    boundsFault? keyword bounds trailing
  | _ => none

def FunctionItem.fault? (f : FunctionItem) : Option String :=
  f.parameters.findSome? fun (_, type) => type.fault?

def Item.fault? : Item → Option String
  | .import path => importFault? Ahead.isName path.segments
  | .function f => f.fault?
  | .implementation _ functions => functions.findSome? FunctionItem.fault?
  | _ => none

/-- What is wrong with a file, at the first item that is wrong. -/
def File.fault? (f : File) : Option String := f.items.findSome? Item.fault?

end AttributeSchema.Source
