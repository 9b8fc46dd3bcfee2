import ShaderShrink.Json.Basic
import ShaderShrink.Number.Decimal
import ShaderShrink.Text.Quoted

/-!
# JSON values inside messages

A value that a message shows is written on one line, with a blank after each comma and colon, with
`None`, `True` and `False` for the words of JSON, and with strings in single quotes.  A string that
stands alone is shown as it is.
-/

namespace ShaderShrink.Json

/-- The items with a comma and a blank between them. -/
def commaSeparated : List Text → Text
  | [] => []
  | [item] => item
  | item :: items => item ++ [',', ' '] ++ commaSeparated items

mutual

/-- A value inside a container. -/
def inline : Json → Text
  | .null => "None".toList
  | .bool value => if value then "True".toList else "False".toList
  | .int value => (toString value).toList
  | .double value => (NumberLayout.plain.doubleText value).toList
  | .str value => Text.quoted value.toList
  | .arr items => '[' :: commaSeparated (inlineItems items) ++ [']']
  | .obj fields => '\x7b' :: commaSeparated (inlineFields fields) ++ ['\x7d']

/-- The items of a list. -/
def inlineItems : List Json → List Text
  | [] => []
  | item :: items => item.inline :: inlineItems items

/-- The fields of an object. -/
def inlineFields : List (String × Json) → List Text
  | [] => []
  | (name, value) :: fields =>
    (Text.quoted name.toList ++ [':', ' '] ++ value.inline) :: inlineFields fields

end

/-- A value that stands alone. -/
def shown : Json → Text
  | .str value => value.toList
  | value => value.inline

end ShaderShrink.Json
