import Gazetteer.Value.Basic
import Gazetteer.Text.Quoted

/-!
# Value/Text — values in messages and in features

`Value.shown` is how a value stands in running text: a string as it is. `Value.quoted` is how it
stands inside another value or in a diagnosis: a string between quotation marks.
-/

namespace Gazetteer.Value

mutual

/-- A value with strings between quotation marks. -/
def quoted : Value → String
  | null => "None"
  | bool true => "True"
  | bool false => "False"
  | int n => toString n
  | float x => Decimal.render x
  | string s => Text.quote s
  | array items => "[" ++ quotedItems items ++ "]"
  | object members => "\x7b" ++ quotedMembers members ++ "\x7d"

/-- The items of an array, separated by commas. -/
def quotedItems : List Value → String
  | [] => ""
  | [v] => quoted v
  | v :: rest => quoted v ++ ", " ++ quotedItems rest

/-- The members of an object, separated by commas. -/
def quotedMembers : List (String × Value) → String
  | [] => ""
  | [(k, v)] => Text.quote k ++ ": " ++ quoted v
  | (k, v) :: rest => Text.quote k ++ ": " ++ quoted v ++ ", " ++ quotedMembers rest

end

/-- A value in running text. -/
def shown : Value → String
  | string s => s
  | v => quoted v

@[simp] theorem shown_string (s : String) : shown (string s) = s := rfl

end Gazetteer.Value
