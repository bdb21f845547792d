import AttributeSchema.Generator.RootModule
import AttributeSchema.Generator.UnitModule
import AttributeSchema.Proofs.Source.Parts
/-!
# What generated files declare, import and mention

The declarations, the imports and the nested types of a source file, as they are read off its items, and
what they are for the file of a module.
-/

namespace AttributeSchema

namespace Source

def Ty.nestedHolder? : Ty → Option String
  | .path false [.angle "Option" false [.type (.path false [.plain name])] false] => some name
  | .path false [.angle "Option" false
      [.type (.path false [.angle "Vec" false [.type (.path false [.plain name])] false])] false] =>
    some name
  | _ => none

def pairs : List String → List (String × String)
  | a :: b :: rest => (a, b) :: pairs rest
  | _ => []

namespace Item

def function? : Item → Option (String × Visibility)
  | .function f => some (f.name, f.visibility)
  | _ => none

def body? : Item → Option (String × List Stmt)
  | .function f => some (f.name, f.body)
  | _ => none

def holder? : Item → Option String
  | .struct _ name _ => some name
  | _ => none

def module? : Item → Option String
  | .module name => some name
  | _ => none

/-- The holders and schema functions that an item imports from another module, with that module. -/
def importPairs : Item → List (String × String × String)
  | .importGroup owner names => (pairs names).map (owner, ·)
  | _ => []

def nestedFunctions : Item → List String
  | .function f => (Stmt.allParts f.body).filterMap Expr.calledFunction?
  | _ => []

/-- The holders in the fields of a holder, and those that its function `new` builds. -/
def nestedHolders : Item → List String
  | .struct _ _ fields => fields.filterMap fun f => f.type.nestedHolder?
  | .implementation _ functions =>
    (functions.filter fun f => f.name == "new").flatMap fun f =>
      (Stmt.allParts f.body).filterMap Expr.builtType?
  | _ => []

end Item

namespace File

def functions (f : File) : List (String × Visibility) := f.items.filterMap Item.function?

def bodies (f : File) : List (String × List Stmt) := f.items.filterMap Item.body?

def holders (f : File) : List String := f.items.filterMap Item.holder?

def modules (f : File) : List String := f.items.filterMap Item.module?

def importPairs (f : File) : List (String × String × String) := f.items.flatMap Item.importPairs

def nestedFunctions (f : File) : List String := f.items.flatMap Item.nestedFunctions

def nestedHolders (f : File) : List String := f.items.flatMap Item.nestedHolders

end File

end Source

open Source (Expr Stmt Item File FieldValue)

/-! ## Schema functions -/

def EntryType.function? : EntryType → Option String
  | leaf _ => none
  | nested function => some function
  | nestedList function => some function

theorem calledFunctions_expr (e : SchemaEntry) :
    e.expr.parts.filterMap Expr.calledFunction? = e.type.function?.toList := by
  obtain ⟨tag, type⟩ := e
  cases type with
  | leaf type => rfl
  | nested function => rfl
  | nestedList function => rfl

theorem calledFunctions_entries (entries : List SchemaEntry) :
    (Expr.allParts (entries.map SchemaEntry.expr)).filterMap Expr.calledFunction? =
      entries.filterMap fun e => e.type.function? := by
  induction entries with
  | nil => rfl
  | cons e entries ih =>
      rw [List.map_cons, Expr.allParts, List.filterMap_append, calledFunctions_expr, ih,
        List.filterMap_cons]
      cases e.type.function? with
      | none => rfl
      | some function => rfl

theorem nestedFunctions_item (f : SchemaFunction) :
    f.item.nestedFunctions = f.entries.filterMap fun e => e.type.function? := by
  rw [← calledFunctions_entries, SchemaFunction.item, Item.nestedFunctions]
  change ((_ :: (_ :: [] ++ ((_ :: Expr.allParts (f.entries.map SchemaEntry.expr)) ++ []))) ++
    []).filterMap Expr.calledFunction? = _
  rw [List.append_nil, List.append_nil]
  rfl

/-! ## Holders -/

def HolderConversion.holder? : HolderConversion → Option String
  | leaf _ => none
  | nested holder _ => some holder
  | nestedList holder _ => some holder

theorem nestedHolder?_type (c : HolderConversion) : c.type.nestedHolder? = c.holder? := by
  cases c with
  | leaf conversion => rfl
  | nested holder isOptional => rfl
  | nestedList holder hasOptionalItems => rfl

theorem builtTypes_setter (name : String) (c : HolderConversion) :
    (c.setter name).parts.filterMap Expr.builtType? = c.holder?.toList := by
  cases c with
  | leaf conversion => cases conversion with
    | integer kind => cases kind <;> rfl
    | _ => rfl
  | nested holder isOptional => cases isOptional <;> rfl
  | nestedList holder hasOptionalItems => cases hasOptionalItems <;> rfl

def HolderType.nestedHolders (h : HolderType) : List String :=
  h.fields.filterMap fun f => f.conversion.holder?

theorem builtTypes_setters (fields : List HolderField) :
    (FieldValue.allParts (fields.map HolderField.setter)).filterMap Expr.builtType? =
      fields.filterMap fun f => f.conversion.holder? := by
  induction fields with
  | nil => rfl
  | cons f fields ih =>
      rw [List.map_cons, HolderField.setter, FieldValue.allParts, List.filterMap_append,
        builtTypes_setter, ih, List.filterMap_cons]
      cases f.conversion.holder? with
      | none => rfl
      | some holder => rfl

theorem nestedHolders_newFunction (h : HolderType) :
    (Stmt.allParts h.newFunction.body).filterMap Expr.builtType? = h.nestedHolders := by
  rw [HolderType.nestedHolders, ← builtTypes_setters]
  change (_ ++ ((_ :: (_ :: [] ++ ((_ :: (_ :: [] ++
    FieldValue.allParts (h.fields.map HolderField.setter))) ++ []))) ++ [])).filterMap
      Expr.builtType? = _
  rw [List.append_nil, List.append_nil]
  rfl

theorem nestedHolders_items (h : HolderType) :
    h.items.flatMap Item.nestedHolders = h.nestedHolders ++ h.nestedHolders := by
  have hfields : (h.fields.map fun f => (⟨[.setting "serde" "rename" f.tag], f.name,
      f.conversion.type⟩ : Source.FieldItem)).filterMap (fun f => f.type.nestedHolder?) =
      h.nestedHolders := by
    rw [List.filterMap_map, HolderType.nestedHolders]
    congr 1
    funext f
    exact nestedHolder?_type f.conversion
  have hbuilt : Item.nestedHolders (.implementation h.name
      [h.newFunction, h.decodeFunction, h.decodeIntoFunction]) = h.nestedHolders := by
    change (Stmt.allParts h.newFunction.body).filterMap Expr.builtType? ++ [] = _
    rw [List.append_nil, nestedHolders_newFunction]
  rw [HolderType.items, List.flatMap_cons, List.flatMap_cons, hbuilt, Item.nestedHolders, hfields,
    List.flatMap_nil, List.append_nil]

/-! ## Imports -/

theorem pairs_flatMap (names : List (String × String)) :
    Source.pairs (names.flatMap fun (holder, function) => [holder, function]) = names := by
  induction names with
  | nil => rfl
  | cons e names ih =>
      obtain ⟨holder, function⟩ := e
      rw [List.flatMap_cons]
      change (holder, function) :: Source.pairs (names.flatMap fun (holder, function) =>
        [holder, function]) = _
      rw [ih]

theorem importPairs_foreignItem (types : ForeignTypes) :
    (UnitModule.foreignItem types).importPairs = types.names.map (types.owner, ·) := by
  rw [UnitModule.foreignItem, Item.importPairs, pairs_flatMap]

/-! ## Modules of units -/

def SchemaFunction.visibility (f : SchemaFunction) : Source.Visibility :=
  if f.isPublic then .everyone else .package

namespace UnitModule

variable (m : UnitModule)

theorem functions_file : m.file.functions = m.functions.map fun f => (f.name, f.visibility) := by
  have hholders : (m.holders.flatMap HolderType.items).filterMap Item.function? = [] := by
    simp [List.filterMap_flatMap, HolderType.items, Item.function?]
  have hforeign : (m.foreign.map foreignItem).filterMap Item.function? = [] := by
    simp [List.filterMap_map, Function.comp_def, foreignItem, Item.function?]
  have himports : (m.imports.map Item.import).filterMap Item.function? = [] := by
    simp [List.filterMap_map, Function.comp_def, Item.function?]
  have hfunctions : (m.functions.map SchemaFunction.item).filterMap Item.function? =
      m.functions.map fun f => (f.name, f.visibility) := by
    rw [List.filterMap_map, ← List.filterMap_eq_map']
    rfl
  rw [File.functions, file]
  simp only [List.filterMap_append, hholders, hforeign, himports, hfunctions, List.nil_append,
    List.append_nil]

theorem holders_file : m.file.holders = m.holders.map HolderType.name := by
  have hholders : (m.holders.flatMap HolderType.items).filterMap Item.holder? =
      m.holders.map HolderType.name := by
    rw [List.filterMap_flatMap, List.map_eq_flatMap]
    rfl
  have hforeign : (m.foreign.map foreignItem).filterMap Item.holder? = [] := by
    simp [List.filterMap_map, Function.comp_def, foreignItem, Item.holder?]
  have himports : (m.imports.map Item.import).filterMap Item.holder? = [] := by
    simp [List.filterMap_map, Function.comp_def, Item.holder?]
  have hfunctions : (m.functions.map SchemaFunction.item).filterMap Item.holder? = [] := by
    simp [List.filterMap_map, Function.comp_def, SchemaFunction.item, Item.holder?]
  rw [File.holders, file]
  simp only [List.filterMap_append, hholders, hforeign, himports, hfunctions, List.nil_append]

theorem importPairs_file :
    m.file.importPairs = m.foreign.flatMap fun types => types.names.map (types.owner, ·) := by
  have hholders : (m.holders.flatMap HolderType.items).flatMap Item.importPairs = [] := by
    rw [List.flatMap_assoc, List.flatMap_eq_nil_iff]
    exact fun h _ => rfl
  have hforeign : (m.foreign.map foreignItem).flatMap Item.importPairs =
      m.foreign.flatMap fun types => types.names.map (types.owner, ·) := by
    rw [List.flatMap_map]
    congr 1
    funext types
    exact importPairs_foreignItem types
  have himports : (m.imports.map Item.import).flatMap Item.importPairs = [] := by
    simp [Item.importPairs]
  have hfunctions : (m.functions.map SchemaFunction.item).flatMap Item.importPairs = [] := by
    simp [SchemaFunction.item, Item.importPairs]
  rw [File.importPairs, file]
  simp only [List.flatMap_append, hholders, hforeign, himports, hfunctions, List.nil_append,
    List.append_nil]

theorem nestedFunctions_file :
    m.file.nestedFunctions =
      m.functions.flatMap fun f => f.entries.filterMap fun e => e.type.function? := by
  have hholders : (m.holders.flatMap HolderType.items).flatMap Item.nestedFunctions = [] := by
    rw [List.flatMap_assoc, List.flatMap_eq_nil_iff]
    exact fun h _ => rfl
  have hforeign : (m.foreign.map foreignItem).flatMap Item.nestedFunctions = [] := by
    simp [foreignItem, Item.nestedFunctions]
  have himports : (m.imports.map Item.import).flatMap Item.nestedFunctions = [] := by
    simp [Item.nestedFunctions]
  have hfunctions : (m.functions.map SchemaFunction.item).flatMap Item.nestedFunctions =
      m.functions.flatMap fun f => f.entries.filterMap fun e => e.type.function? := by
    rw [List.flatMap_map]
    congr 1
    funext f
    exact nestedFunctions_item f
  rw [File.nestedFunctions, file]
  simp only [List.flatMap_append, hholders, hforeign, himports, hfunctions, List.nil_append,
    List.append_nil]

theorem nestedHolders_file :
    m.file.nestedHolders = m.holders.flatMap fun h => h.nestedHolders ++ h.nestedHolders := by
  have hholders : (m.holders.flatMap HolderType.items).flatMap Item.nestedHolders =
      m.holders.flatMap fun h => h.nestedHolders ++ h.nestedHolders := by
    rw [List.flatMap_assoc]
    congr 1
    funext h
    exact nestedHolders_items h
  have hforeign : (m.foreign.map foreignItem).flatMap Item.nestedHolders = [] := by
    simp [foreignItem, Item.nestedHolders]
  have himports : (m.imports.map Item.import).flatMap Item.nestedHolders = [] := by
    simp [Item.nestedHolders]
  have hfunctions : (m.functions.map SchemaFunction.item).flatMap Item.nestedHolders = [] := by
    simp [SchemaFunction.item, Item.nestedHolders]
  rw [File.nestedHolders, file]
  simp only [List.flatMap_append, hholders, hforeign, himports, hfunctions, List.nil_append]

end UnitModule

/-! ## The module above all units -/

theorem RootModule.modules_file (m : RootModule) :
    m.file.modules = m.entries.map UnitEntry.module := by
  have hmodules : (m.entries.map fun e => Item.module e.module).filterMap Item.module? =
      m.entries.map UnitEntry.module := by
    rw [List.filterMap_map, ← List.filterMap_eq_map']
    rfl
  rw [File.modules, file, List.filterMap_append, hmodules]
  exact List.append_nil _

theorem RootModule.bodies_file (m : RootModule) :
    m.file.bodies = [("schemas", [.result (.invoke (mapNames ++ ["from"])
      [.array (m.entries.map schemaEntry) false])])] := by
  have hmodules : (m.entries.map fun e => Item.module e.module).filterMap Item.body? = [] := by
    simp [List.filterMap_map, Function.comp_def, Item.body?]
  rw [File.bodies, file, List.filterMap_append, hmodules, List.nil_append]
  rfl

end AttributeSchema
