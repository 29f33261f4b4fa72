/-!
JSON data as it was written. Members keep their order and may repeat. An integer literal keeps
its value; every other number is only known to be one. A text is `none` when its escapes or
bytes encode no Unicode text, which matters only to a reader that wants the text.
-/

namespace SecretBroker

inductive Json where
  | null
  | bool (value : Bool)
  | integer (value : Int)
  | real
  | text (value : Option String)
  | array (items : List Json)
  | object (members : List (Option String × Json))
  deriving Inhabited

end SecretBroker
