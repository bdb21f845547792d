import AttributeSchema.Text.AgeTable
import AttributeSchema.Text.Segmentation
/-!
# Sets of characters by name

A set of characters is named by a property, a general category or a script, or by a property and one of
its values. Names are compared loosely: cases, blanks, underscores, hyphens and a leading "is" make no
difference.
-/

namespace AttributeSchema.Text

def looseName (name : List Char) : List Char :=
  let (hasIs, rest) :=
    match name with
    | 'i' :: 's' :: rest | 'I' :: 's' :: rest | 'i' :: 'S' :: rest | 'I' :: 'S' :: rest => (true, rest)
    | rest => (false, rest)
  let kept := (rest.filter fun c => c.toNat < 128 && c != ' ' && c != '_' && c != '-').map Char.toLower
  -- "isc" is short for the comment of a character in a standard, not for the category "c"
  if hasIs && kept == ['c'] then ['i', 's', 'c'] else kept

/-- The value that some name in a table stands for; the name sought is a loose one. -/
def valueNamed? {α : Type} (table : List (List String × α)) (name : List Char) : Option α :=
  (table.find? fun entry => entry.1.any fun n => looseName n.toList == name).map (·.2)

/-! ### Values of properties -/

/-- The characters of a category or a group of categories, or all characters, all that are assigned, or
those of ASCII. -/
def categoryNamed? (name : List Char) : Option Ranges :=
  match valueNamed? [(["any"], [(0, 0x10FFFF)]), (["ascii"], [(0, 0x7F)]),
      (["assigned"], assignedCharacters)] name with
  | some set => some set
  | none => (valueNamed? Category.named name).map Category.union

def scriptNamed? (name : List Char) : Option Script :=
  valueNamed? ((looseScripts ++ scripts).map fun s => (s.names, s)) name

/-- The characters that are used in the script of a name. What scripts share is neither common to all
scripts nor without one. -/
def extendedScriptNamed? (name : List Char) : Option Ranges :=
  match valueNamed? (scripts.map fun s => (s.names, s)) name with
  | some script => some (script.own.union script.shared)
  | none =>
    (valueNamed? (looseScripts.map fun s => (s.names, s)) name).map fun script =>
      Ranges.difference script.own (scripts.flatMap Script.shared)

def versionNamed? (name : List Char) : Option Ranges :=
  let older := unicodeVersions.takeWhile fun v => !v.names.any fun n => looseName n.toList == name
  if older.length < unicodeVersions.length then
    some (Ranges.ordered ((unicodeVersions.take (older.length + 1)).flatMap UnicodeVersion.added))
  else none

/-! ### Properties -/

inductive ValuedProperty
  | category
  | script
  | scriptExtensions
  | age
  | clusterBreak
  | wordBreak
  | sentenceBreak
  deriving DecidableEq, Repr, Inhabited

def ValuedProperty.named : List (List String × ValuedProperty) := [
  (["General_Category", "gc"], category), (["Script", "sc"], script),
  (["Script_Extensions", "scx"], scriptExtensions), (["Age"], age),
  (["Grapheme_Cluster_Break", "GCB"], clusterBreak), (["Word_Break", "WB"], wordBreak),
  (["Sentence_Break", "SB"], sentenceBreak)]

def ValuedProperty.setNamed? (name : List Char) : ValuedProperty → Option Ranges
  | category => categoryNamed? name
  | script => (scriptNamed? name).map Script.own
  | scriptExtensions => extendedScriptNamed? name
  | age => versionNamed? name
  | clusterBreak => (valueNamed? ClusterBreak.named name).map ClusterBreak.ranges
  | wordBreak => (valueNamed? WordBreak.named name).map WordBreak.ranges
  | sentenceBreak => (valueNamed? SentenceBreak.named name).map SentenceBreak.ranges

def setWithValue? (property value : List Char) : Option Ranges := do
  (← valueNamed? ValuedProperty.named (looseName property)).setNamed? (looseName value)

/-- The characters with the property of a name, or else in the category or the script of that name. -/
def setNamed? (name : List Char) : Option Ranges :=
  let name := looseName name
  match valueNamed? Property.named name, categoryNamed? name with
  | some property, _ => some property.ranges
  | none, some set => some set
  | none, none => (scriptNamed? name).map Script.own

end AttributeSchema.Text
