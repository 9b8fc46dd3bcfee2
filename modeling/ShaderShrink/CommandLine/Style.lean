import ShaderShrink.Fault
import ShaderShrink.Text.CaseFold
import ShaderShrink.Text.Word

/-!
# Styles of printed text

A style is written as words in any order: attributes, of which each may be turned off, a color, a color
behind `on` for the background, and a link.  Different words may mean the same style; its normal form is
one spelling for all of them.  Words that mean no style are a name, which only case may change.
-/

namespace ShaderShrink.Style

/-- The attributes, in the order of the normal form, each with its names. -/
def attributeNames : List (List String) :=
  [["bold", "b"], ["dim", "d"], ["italic", "i"], ["underline", "u"], ["blink"], ["blink2"],
    ["reverse", "r"], ["conceal", "c"], ["strike", "s"], ["underline2", "uu"], ["frame"], ["encircle"],
    ["overline", "o"]]

/-- The first name of the attribute with the given name. -/
def attribute? (word : Text) : Option String :=
  (attributeNames.find? fun names => names.contains (String.ofList word)).bind List.head?

/-- The colors with names. -/
def colorNames : List String :=
  ["default", "black", "red", "green", "yellow", "blue", "magenta", "cyan", "white", "bright_black",
    "bright_red", "bright_green", "bright_yellow", "bright_blue", "bright_magenta", "bright_cyan",
    "bright_white", "grey0", "gray0", "navy_blue", "dark_blue", "blue3", "blue1", "dark_green",
    "deep_sky_blue4", "dodger_blue3", "dodger_blue2", "green4", "spring_green4", "turquoise4",
    "deep_sky_blue3", "dodger_blue1", "green3", "spring_green3", "dark_cyan", "light_sea_green",
    "deep_sky_blue2", "deep_sky_blue1", "spring_green2", "cyan3", "dark_turquoise", "turquoise2",
    "green1", "spring_green1", "medium_spring_green", "cyan2", "cyan1", "dark_red", "deep_pink4",
    "purple4", "purple3", "blue_violet", "orange4", "grey37", "gray37", "medium_purple4",
    "slate_blue3", "royal_blue1", "chartreuse4", "dark_sea_green4", "pale_turquoise4", "steel_blue",
    "steel_blue3", "cornflower_blue", "chartreuse3", "cadet_blue", "sky_blue3", "steel_blue1",
    "pale_green3", "sea_green3", "aquamarine3", "medium_turquoise", "chartreuse2", "sea_green2",
    "sea_green1", "aquamarine1", "dark_slate_gray2", "dark_magenta", "dark_violet", "purple",
    "light_pink4", "plum4", "medium_purple3", "slate_blue1", "yellow4", "wheat4", "grey53", "gray53",
    "light_slate_grey", "light_slate_gray", "medium_purple", "light_slate_blue", "dark_olive_green3",
    "dark_sea_green", "light_sky_blue3", "sky_blue2", "dark_sea_green3", "dark_slate_gray3",
    "sky_blue1", "chartreuse1", "light_green", "pale_green1", "dark_slate_gray1", "red3",
    "medium_violet_red", "magenta3", "dark_orange3", "indian_red", "hot_pink3", "medium_orchid3",
    "medium_orchid", "medium_purple2", "dark_goldenrod", "light_salmon3", "rosy_brown", "grey63",
    "gray63", "medium_purple1", "gold3", "dark_khaki", "navajo_white3", "grey69", "gray69",
    "light_steel_blue3", "light_steel_blue", "yellow3", "dark_sea_green2", "light_cyan3",
    "light_sky_blue1", "green_yellow", "dark_olive_green2", "dark_sea_green1", "pale_turquoise1",
    "deep_pink3", "magenta2", "hot_pink2", "orchid", "medium_orchid1", "orange3", "light_pink3",
    "pink3", "plum3", "violet", "light_goldenrod3", "tan", "misty_rose3", "thistle3", "plum2",
    "khaki3", "light_goldenrod2", "light_yellow3", "grey84", "gray84", "light_steel_blue1",
    "yellow2", "dark_olive_green1", "honeydew2", "light_cyan1", "red1", "deep_pink2", "deep_pink1",
    "magenta1", "orange_red1", "indian_red1", "hot_pink", "dark_orange", "salmon1", "light_coral",
    "pale_violet_red1", "orchid2", "orchid1", "orange1", "sandy_brown", "light_salmon1",
    "light_pink1", "pink1", "plum1", "gold1", "navajo_white1", "misty_rose1", "thistle1", "yellow1",
    "light_goldenrod1", "khaki1", "wheat1", "cornsilk1", "grey100", "gray100", "grey3", "gray3",
    "grey7", "gray7", "grey11", "gray11", "grey15", "gray15", "grey19", "gray19", "grey23", "gray23",
    "grey27", "gray27", "grey30", "gray30", "grey35", "gray35", "grey39", "gray39", "grey42",
    "gray42", "grey46", "gray46", "grey50", "gray50", "grey54", "gray54", "grey58", "gray58",
    "grey62", "gray62", "grey66", "gray66", "grey70", "gray70", "grey74", "gray74", "grey78",
    "gray78", "grey82", "gray82", "grey85", "gray85", "grey89", "gray89", "grey93", "gray93"]

/-- The texts between commas. -/
def splitCommas : Text → List Text
  | [] => [[]]
  | c :: rest =>
    if c == ',' then [] :: splitCommas rest
    else
      match splitCommas rest with
      | [] => [[c]]
      | part :: parts => (c :: part) :: parts

/-- What stands between a word with a bracket and the closing bracket. -/
def inBrackets? (word : String) (t : Text) : Option Text :=
  match (Text.drop? (word.toList ++ ['(']) t).map List.reverse with
  | some (')' :: inside) => some inside.reverse
  | _ => none

/-- Whether a character is a digit in base sixteen. -/
def isHexDigit (c : Char) : Bool := Text.isAsciiDigit c || ('a' ≤ c && c ≤ 'f')

/-- Whether three numbers mix a color; a number without digits is a fault. -/
def mixesColor (inside : Text) : Except Fault Bool :=
  let parts := splitCommas inside
  if inside.isEmpty || parts.length != 3 || !inside.all fun c => c == ',' || Text.isDigit c then .ok false
  else if parts.contains [] then .error (.value "invalid literal for int() with base 10: ''")
  else .ok (parts.all fun part => Text.numeral part ≤ 255)

/-- Whether a word in lower case is a color. -/
def isColor (word : Text) : Except Fault Bool :=
  match inBrackets? "rgb" word with
  | some inside => mixesColor inside
  | none =>
    let numbered := (inBrackets? "color" word).any fun inside =>
      1 ≤ inside.length && inside.length ≤ 3 && inside.all Text.isAsciiDigit &&
        Text.numeral inside ≤ 255
    let mixed := word.head? = some '#' && word.length = 7 && (word.drop 1).all isHexDigit
    .ok (numbered || mixed || colorNames.contains (String.ofList word))

end Style

/-- A style. -/
structure Style where
  /-- The attributes that are turned on or off. -/
  attributes : List (String × Bool)
  color : Option Text
  background : Option Text
  link : Option Text

namespace Style

/-- The style without any words. -/
def plain : Style := ⟨[], none, none, none⟩

/-- The style with an attribute turned on or off. -/
def turn (style : Style) (name : String) (on : Bool) : Style :=
  { style with attributes := (name, on) :: style.attributes.filter fun entry => entry.1 != name }

/-- The style of some words behind a style; nothing if they mean none. -/
def ofWords? (style : Style) : List Text → Except Fault (Option Style)
  | [] => .ok (some style)
  | word :: rest => do
    let lowered := Text.lower word
    if lowered = "on".toList then
      match rest with
      | [] => return none
      | color :: rest =>
        if ← isColor (Text.lower color) then
          ofWords? { style with background := some (Text.lower color) } rest
        else return none
    else if lowered = "not".toList then
      match rest with
      | [] => return none
      | name :: rest =>
        match attribute? name with
        | some name => ofWords? (style.turn name false) rest
        | none => return none
    else if lowered = "link".toList then
      match rest with
      | [] => return none
      | target :: rest => ofWords? { style with link := some target } rest
    else
      match attribute? lowered with
      | some name => ofWords? (style.turn name true) rest
      | none =>
        if ← isColor lowered then ofWords? { style with color := some lowered } rest else return none

/-- The words of the normal form of a style. -/
def words (style : Style) : List Text :=
  (attributeNames.filterMap List.head?).flatMap (fun name =>
    match style.attributes.find? fun entry => entry.1 = name with
    | some (_, true) => [name.toList]
    | some (_, false) => ["not".toList, name.toList]
    | none => []) ++
  style.color.toList ++ (style.background.toList.flatMap fun color => ["on".toList, color]) ++
  style.link.toList.flatMap fun target => ["link".toList, target]

/-- The words of a text. -/
def splitWords (t : Text) : List Text :=
  (t.splitBy fun a b => Text.isBlank a == Text.isBlank b).filter fun word => !Text.blank word

/-- The normal form of a style. -/
def normal (t : Text) : Except Fault Text := do
  let words := if splitWords t = ["none".toList] then [] else splitWords t
  match ← ofWords? plain words with
  | some style => return if style.words.isEmpty then "none".toList else [' '].intercalate style.words
  | none => return Text.lowerAll (Text.trim t)

end Style

end ShaderShrink
