import AttributeSchema.Generator.Mapping
import AttributeSchema.Generator.Spelled
import AttributeSchema.Source.Construct
import AttributeSchema.Source.Item
/-!
# Holder types

A holder has one attribute value for each tagged field of a native type. It is built from a native value,
and it writes its values that are not null back into one. Writing stops at the first value that the
native field does not take; what nested holders report does not stop it.
-/

namespace AttributeSchema

open Source (Expr Ty Stmt Item FunctionItem FieldValue)

/-- How a field of a holder carries its value; a nested one names the nested holder. -/
inductive HolderConversion
  | leaf (conversion : LeafConversion)
  | nested (holder : String) (isOptional : Bool)
  | nestedList (holder : String) (hasOptionalItems : Bool)
  deriving DecidableEq, Repr, Inhabited

structure HolderField where
  /-- The identifier of the field, in the holder and in the native type. -/
  name : String
  /-- The name by which reports call the field. -/
  label : String
  tag : String
  conversion : HolderConversion
  deriving DecidableEq, Repr, Inhabited

structure HolderType where
  name : String
  /-- The path of the native type as it was described. -/
  path : String
  native : Ty
  fields : List HolderField

namespace HolderConversion

def holderName (f : MappedField) : Except GeneratorError String :=
  match f.type.nested? with
  | none => .error (.invalidIdentifier f.name "nested field without a nested type")
  | some name => Spelled.identifier name ("nested holder of field '" ++ f.name ++ "'")

def ofMapped (f : MappedField) : Except GeneratorError HolderConversion :=
  match f.conversion with
  | .leaf conversion => .ok (.leaf conversion)
  | .nested isOptional => (holderName f).map (.nested · isOptional)
  | .nestedList hasOptionalItems => (holderName f).map (.nestedList · hasOptionalItems)

def unnamed : HolderConversion → Conversion
  | leaf conversion => .leaf conversion
  | nested _ isOptional => .nested isOptional
  | nestedList _ hasOptionalItems => .nestedList hasOptionalItems

def valueWord : LeafType → String
  | .bool => "Bool"
  | .number => "Number"
  | .string => "String"
  | .listOfString => "List"
  | .mapOfStringToString => "Map"

def valueNames (type : LeafType) : List String := ["attrgen", "types", valueWord type]

def type : HolderConversion → Ty
  | leaf conversion => .ofNames (valueNames conversion.type)
  | nested holder _ => .applied "Option" [.ofNames [holder]]
  | nestedList holder _ => .applied "Option" [.applied "Vec" [.ofNames [holder]]]

end HolderConversion

/-! ### From native values -/

def copiedPairs (pairs : Expr) : Expr :=
  ((pairs.send "iter" []).send "map"
    [.lambda [.tuple [.ofName "k", .ofName "v"] false]
      (.tuple [(Expr.ofName "k").send "clone" [], (Expr.ofName "v").send "clone" []] false)]).send
    "collect" []

/-- What the value of an attribute is made of, from the value of a native field. -/
def LeafConversion.carried (source : Expr) : LeafConversion → Expr
  | .bool => source
  | .integer kind =>
    if kind.isPointerSized then .cast source (.ofNames ["i128"])
    else .invoke ["i128", "from"] [source]
  | .text => source.send "clone" []
  | .duration => .invoke ["attrgen", "text", "format_duration"] [source]
  | .timestamp => .invoke ["attrgen", "text", "format_timestamp"] [source.toRef]
  | .bytes => (Expr.invoke ["String", "from_utf8_lossy"] [source.toRef]).send "into_owned" []
  | .stringList => source.send "clone" []
  | .stringMap => copiedPairs source

def LeafConversion.hasTrailingComma : LeafConversion → Bool
  | .stringMap => true
  | _ => false

def HolderConversion.setter (name : String) (c : HolderConversion) : Expr :=
  let source := Expr.field (.ofName "value") name
  match c with
  | leaf conversion =>
    .call (.ofNames (valueNames conversion.type ++ ["new"])) [conversion.carried source]
      conversion.hasTrailingComma
  | nested holder false => .invoke [holder, "new"] [.invoke ["Some"] [source.toRef]]
  | nested holder true => .invoke [holder, "new"] [source.send "as_ref" []]
  | nestedList holder hasOptionalItems =>
    let item :=
      if hasOptionalItems then (Expr.ofName "item").send "as_ref" []
      else .invoke ["Some"] [.ofName "item"]
    .invoke ["Some"]
      [((source.send "iter" []).send "filter_map"
        [.lambda [.ofName "item"] (.invoke [holder, "new"] [item])]).send "collect" []]

/-! ### Into native values -/

/-- Assigns to a native field what a conversion gives; if it fails, reports that and stops. -/
def convertOrStop (target : Expr) (label : String) (converted : Expr) : Stmt :=
  .result
    (.select converted []
      [.ofPattern (.wrapped "Ok" "value") (.assign target (.ofName "value")),
        .ofPattern (.wrapped "Err" "err")
          (.ofBody
            [.run ((Expr.ofName "diags").send "push"
                [.invoke ["attrgen", "Diagnostic", "error"]
                  [.ofText ("Failed to convert " ++ label),
                    (Expr.ofName "err").send "to_string" []]]),
              .run (.giveBack (some (.ofName "diags")))])])

def LeafConversion.store (target : Expr) (label : String) : LeafConversion → Stmt
  | .bool => .run (.assign target (.unary "*" (.ofName "value")))
  | .integer kind =>
    convertOrStop target label
      (.invoke [kind.name, "try_from"] [.unary "*" (.ofName "value")])
  | .text => .run (.assign target ((Expr.ofName "value").send "clone" []))
  | .duration =>
    convertOrStop target label (.invoke ["attrgen", "text", "parse_duration"] [.ofName "value"])
  | .timestamp =>
    convertOrStop target label (.invoke ["attrgen", "text", "parse_timestamp"] [.ofName "value"])
  | .bytes =>
    .run (.assign target (((Expr.ofName "value").send "as_bytes" []).send "to_vec" []))
  | .stringList => .run (.assign target ((Expr.ofName "value").send "clone" []))
  | .stringMap => .run (.assign target (copiedPairs (.ofName "value")))

/-- Lets a nested holder write into a value, and keeps what it reports. -/
def writeNested (target : Expr) : Stmt :=
  .run ((Expr.ofName "diags").send "extend"
    [(Expr.ofName "nested").send "decode_into" [target.toMutableRef]])

/-- Writes the value of a field of the holder into the native value. -/
def Conversion.getter (name label : String) (c : Conversion) : Stmt :=
  let source := Expr.field (.ofName "self") name
  let target := Expr.field (.ofName "target") name
  match c with
  | leaf conversion =>
    .ifPresent "value" (source.send "value" []) [conversion.store target label]
  | nested false => .ifPresent "nested" source.toRef [writeNested target]
  | nested true =>
    .ifPresent "nested" source.toRef
      [.define (.ofMutableName "value") ((target.send "take" []).send "unwrap_or_default" []),
        writeNested (.ofName "value"),
        .run (.assign target (.invoke ["Some"] [.ofName "value"]))]
  | nestedList hasOptionalItems =>
    let item :=
      if hasOptionalItems then Expr.invoke ["Some"] [.ofName "item"] else .ofName "item"
    .ifPresent "items" source.toRef
      [.run (target.send "clear" []),
        .result (.forLoop none (.ofName "nested") (.ofName "items") []
          [.define (.ofMutableName "item") (.invoke ["Default", "default"] []),
            writeNested (.ofName "item"),
            .run (target.send "push" [item])])]

/-! ### Holders -/

namespace HolderField

def ofMapped (type : String) (f : MappedField) : Except GeneratorError HolderField := do
  let name ← Spelled.identifier f.name ("field of type '" ++ type ++ "'")
  let conversion ← HolderConversion.ofMapped f
  return ⟨name, f.name, f.tag, conversion⟩

def setter (f : HolderField) : FieldValue := .member [] f.name (f.conversion.setter f.name)

def getter (f : HolderField) : Stmt := f.conversion.unnamed.getter f.name f.label

end HolderField

namespace HolderType

def ofType (d : Descriptor) (fields : List MappedField) : Except GeneratorError HolderType := do
  let name ← Spelled.identifier d.name ("holder for type '" ++ d.name ++ "'")
  let native ← Spelled.type d.path ("path of type '" ++ d.name ++ "'")
  let fields ← fields.mapM (HolderField.ofMapped d.name)
  return ⟨name, d.path, native, fields⟩

def mayReport (h : HolderType) : Bool := h.fields.any fun f => f.conversion.unnamed.mayReport

def diagnosticsNames : List String := ["attrgen", "Diagnostics"]

def newFunction (h : HolderType) : FunctionItem where
  attributes := [.doc " Builds a holder from a native value; \x60None\x60 stays \x60None\x60."]
  visibility := .everyone
  name := "new"
  hasReceiver := false
  parameters := [("value", .applied "Option" [h.native.toRef])]
  result := .applied "Option" [.ofNames ["Self"]]
  body :=
    [.define (.ofName "value") (.attempt (.ofName "value")),
      .result (.invoke ["Some"] [.ofMembers "Self" (h.fields.map HolderField.setter)])]

def sourceType : Ty :=
  .toRef (.parenthesized (.bounded .abstract
    [.trait false false none false [.plain "attrgen", .plain "Getter"],
      .trait false true none false [.plain "Sized"]] false))

def decodeFunction (h : HolderType) : FunctionItem where
  attributes := [.doc " Reads the holder from \x60conf\x60 and decodes it into \x60target\x60."]
  visibility := .everyone
  name := "decode"
  hasReceiver := false
  parameters := [("conf", sourceType), ("target", h.native.toMutableRef)]
  result := .ofNames diagnosticsNames
  body :=
    [.result
      (.select
        (.methodCall (.ofName "conf") (.angle "read" true [.type (.ofNames ["Self"])] false) []
          false)
        []
        [.ofPattern (.wrapped "Ok" "model")
            ((Expr.ofName "model").send "decode_into" [.ofName "target"]),
          .ofPattern (.wrapped "Err" "diags") (.ofName "diags")])]

def decodeIntoFunction (h : HolderType) : FunctionItem where
  attributes := [.doc " Writes every non-null attribute into \x60target\x60."]
  visibility := .everyone
  name := "decode_into"
  hasReceiver := true
  parameters := [("target", h.native.toMutableRef)]
  result := .ofNames diagnosticsNames
  body :=
    .define (if h.mayReport then .ofMutableName "diags" else .ofName "diags")
        (.invoke (diagnosticsNames ++ ["new"]) []) ::
      h.fields.map HolderField.getter ++ [.result (.ofName "diags")]

def items (h : HolderType) : List Item :=
  [.struct
      [.doc (" Attribute holder for \x60" ++ h.path ++ "\x60."),
        .words "derive"
          ["Debug", "Clone", "Default", "PartialEq", "serde::Serialize", "serde::Deserialize"],
        .words "serde" ["default"]]
      h.name
      (h.fields.map fun f => ⟨[.setting "serde" "rename" f.tag], f.name, f.conversion.type⟩),
    .implementation h.name [h.newFunction, h.decodeFunction, h.decodeIntoFunction]]

end HolderType

end AttributeSchema
