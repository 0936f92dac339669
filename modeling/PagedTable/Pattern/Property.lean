/-
  PagedTable.Pattern.Property — sets of characters by the name of a property.

  Names are compared loosely: case, spaces, hyphens and underscores do not count, characters
  outside of ASCII are dropped, and a leading "is" is ignored.  A bare name is looked for among
  the yes-or-no properties, then the general categories, then the scripts; a pair of a property
  and a value names one class of that property.

  Main interface: `CharSet.property`, `CharSet.propertyValue`.
-/
import PagedTable.Pattern.CharSet
import PagedTable.Pattern.Fault
import PagedTable.Pattern.Table.Script
import PagedTable.Pattern.Table.Break

namespace PagedTable.Pattern

/-! ## §1. Names -/

/-- A name without what does not count. -/
def looseName (name : String) : String :=
  let spoken (cs : List Char) : List Char :=
    (cs.filter fun c => c.toNat < 0x80 && !" _-".toList.contains c).map Char.toLower
  match name.toList with
  | i :: s :: rest =>
    if i.toLower = 'i' ∧ s.toLower = 's' then
      let loose := spoken rest
      -- "isc" is the short name of a property, not the category "c" with a prefix
      String.ofList (if loose = ['c'] then ['i', 's', 'c'] else loose)
    else String.ofList (spoken (i :: s :: rest))
  | cs => String.ofList (spoken cs)

namespace CharSet

/-! ## §2. Categories and scripts -/

/-- Every character. -/
def all : CharSet := compl empty

/-- The characters below U+0080. -/
def ascii : CharSet := range '\x00' '\x7f'

/-- The characters with a general category. -/
def assigned : CharSet := unionAll (Table.categories.map fun entry => ranges (Table.ranges entry.2))

/-- The class that a loose name means among the general categories. -/
def category? (name : String) : Option CharSet :=
  if name = "any" then some all
  else if name = "assigned" then some assigned
  else if name = "ascii" then some ascii
  else if Table.unassignedNames.contains name then some (compl assigned)
  else
    match Table.categoryGroups.find? (·.1.contains name) with
    | some (_, members) =>
      some (unionAll (members.map fun m => if m = "cn" then compl assigned else category m))
    | none => named? Table.categories name

/-- The characters that belong to a script and to no other. -/
def script? (name : String) : Option CharSet := named? Table.scripts name

/-- The characters used by a script: its own and those it shares.  The two collective scripts
lose the characters that other scripts share. -/
def scriptUse? (name : String) : Option CharSet :=
  (Table.scripts.find? (·.1.contains name)).map fun (names, code) =>
    let own := ranges (Table.ranges code)
    let first := names.headD ""
    if first = "zyyy" ∨ first = "zinh" then
      diff own (unionAll (Table.scriptExtras.map fun entry => ranges (Table.ranges entry.2)))
    else union own ((named? Table.scriptExtras first).getD empty)

/-- The characters that a version of the standard or an earlier one has. -/
def age? (name : String) : Option CharSet :=
  let older := Table.ages.takeWhile (!·.1.contains name)
  (named? Table.ages name).map fun latest =>
    unionAll (latest :: older.map fun entry => ranges (Table.ranges entry.2))

/-! ## §3. Properties -/

/-- The class that a bare name means. -/
def property (name : String) : Except Cause CharSet :=
  let name := looseName name
  let found := ((named? Table.traits name).orElse fun _ => category? name).orElse fun _ =>
    script? name
  found.elim (.error .propertyNotFound) .ok

/-- The classes by the values of a property, if the property has such classes. -/
def values? (property : String) : Option (String → Option CharSet) :=
  if ["gc", "generalcategory"].contains property then some category?
  else if ["sc", "script"].contains property then some script?
  else if ["scx", "scriptextensions"].contains property then some scriptUse?
  else if property = "age" then some age?
  else if ["gcb", "graphemeclusterbreak"].contains property then some (named? Table.graphemeBreaks)
  else if ["wb", "wordbreak"].contains property then some (named? Table.wordBreaks)
  else if ["sb", "sentencebreak"].contains property then some (named? Table.sentenceBreaks)
  else none

/-- Is there a property of that name, though without classes by its values? -/
def isPlainProperty (name : String) : Bool :=
  Table.traits.any (·.1.contains name) || Table.otherProperties.contains name

/-- The class that a property and a value mean. -/
def propertyValue (property value : String) : Except Cause CharSet :=
  let property := looseName property
  match values? property with
  | some classes => (classes (looseName value)).elim (.error .propertyValueNotFound) .ok
  | none =>
    .error (if isPlainProperty property then .propertyValueNotFound else .propertyNotFound)

end CharSet
end PagedTable.Pattern
