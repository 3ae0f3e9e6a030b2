import InterRater.Text.Age
import InterRater.Text.BinaryProperty
import InterRater.Text.Script

/-!
# Properties of characters by name

A property is named alone, as a binary property, a category or a script, or it is named together
with a value.  In names the case of letters, blanks, dashes, low lines, a leading `is` and all
characters outside ASCII do not count.
-/

namespace InterRater

/-- The name without a leading `is`, if there is one. -/
def withoutIs : List Char → Option (List Char)
  | i :: s :: rest => if i.toLower = 'i' && s.toLower = 's' then some rest else none
  | _ => none

/-- The characters that count in a name, in small letters.  The name `isc` is kept as it is. -/
def propertyName (name : List Char) : String :=
  let counts (c : Char) : Bool := c.toNat < 128 && !([' ', '_', '-'].contains c)
  let short := (((withoutIs name).getD name).filter counts).map Char.toLower
  if (withoutIs name).isSome && short = ['c'] then "isc" else String.ofList short

/-- The parts of a text in front of and behind the first place where `separator` stands. -/
def splitAtFirst (separator : List Char) : List Char → Option (List Char × List Char)
  | [] => none
  | c :: rest =>
    if separator.isPrefixOf (c :: rest) then some ([], (c :: rest).drop separator.length)
    else (splitAtFirst separator rest).map fun (front, behind) => (c :: front, behind)

/-- The names of a property and of its value, if there is one. -/
def splitProperty (name : List Char) : Option (List Char × List Char) :=
  [['!', '='], [':'], ['=']].findSome? fun separator => splitAtFirst separator name

namespace CharSet

/-- The characters with the given value of a property. -/
def withValue? (property value : String) : Option CharSet :=
  if ["gc", "generalcategory"].contains property then category? value
  else if ["sc", "script"].contains property then script? value
  else if ["scx", "scriptextensions"].contains property then scriptExtension? value
  else if property = "age" then age? value
  else none

/-- The characters with the property of the given name, if it is known. -/
def withProperty? (name : List Char) : Option CharSet :=
  match splitProperty name with
  | some (property, value) => withValue? (propertyName property) (propertyName value)
  | none =>
    let name := propertyName name
    (binaryProperty? name).or ((category? name).or (script? name))

end CharSet

end InterRater
