import AttributeSchema.Attribute.Value
/-!
# Attribute schemas

A schema lists named attributes in order. An attribute is plain, one nested collection of attributes,
or a list of such collections.
-/

namespace AttributeSchema

mutual

inductive AttributeType
  | leaf (type : LeafType)
  | nested (attributes : Attributes)
  | nestedList (attributes : Attributes)
  deriving BEq, Repr

inductive Attributes
  | nil
  | cons (name : String) (type : AttributeType) (isOptional : Bool) (rest : Attributes)
  deriving BEq, Repr

end

instance : Inhabited AttributeType := ⟨.leaf .bool⟩
instance : Inhabited Attributes := ⟨.nil⟩

structure Attribute where
  type : AttributeType
  isOptional : Bool
  deriving BEq, Repr, Inhabited

def Attribute.optional (type : AttributeType) : Attribute := ⟨type, true⟩

namespace Attributes

def entries : Attributes → List (String × Attribute)
  | nil => []
  | cons name type isOptional rest => (name, ⟨type, isOptional⟩) :: rest.entries

def ofList : List (String × Attribute) → Attributes
  | [] => nil
  | (name, a) :: rest => cons name a.type a.isOptional (ofList rest)

def names (a : Attributes) : List String := a.entries.map (·.1)

def size (a : Attributes) : Nat := a.entries.length

def isEmpty (a : Attributes) : Bool := a.entries.isEmpty

def get? (a : Attributes) (name : String) : Option Attribute := a.entries.lookup name

@[simp] theorem entries_ofList (entries : List (String × Attribute)) :
    (ofList entries).entries = entries := by
  induction entries with
  | nil => rfl
  | cons e rest ih => simp [ofList, Attributes.entries, ih]

@[simp] theorem ofList_entries : ∀ a : Attributes, ofList a.entries = a
  | nil => rfl
  | cons name type isOptional rest => by
      have ih := ofList_entries rest
      rw [Attributes.entries, ofList, ih]

end Attributes

end AttributeSchema
