import PersonalFeed.Json.Basic
import PersonalFeed.Number.Scalar
import PersonalFeed.Text.Quoted

/-!
Values as a message shows them: `None`, `True` and `False`, numbers in their shortest form, texts
quoted, lists in brackets and records in braces.
-/

set_option autoImplicit false

namespace PersonalFeed.Json

variable {R : Type} [Numeral R]

def enclose (opening closing : String) (parts : List String) : String :=
  opening ++ String.intercalate ", " parts ++ closing

mutual

def display : Json R → String
  | .null => "None"
  | .bool true => "True"
  | .bool false => "False"
  | .int n => toString n
  | .real x => Numeral.text x
  | .string s => Text.quoted s
  | .array items => enclose "[" "]" (displayItems items)
  | .object fields => enclose "\x7b" "\x7d" (displayFields fields)

def displayItems : List (Json R) → List String
  | [] => []
  | item :: rest => display item :: displayItems rest

def displayFields : List (Text × Json R) → List String
  | [] => []
  | (name, value) :: rest => (Text.quoted name ++ ": " ++ display value) :: displayFields rest

end

def displayTexts (texts : List Text) : String := enclose "[" "]" (texts.map Text.quoted)

end PersonalFeed.Json
