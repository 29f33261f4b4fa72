/-!
Blank characters, the Unicode property White_Space, and text without blank ends.
-/

namespace SecretBroker.Text

/-- White_Space: five ASCII controls, the space, and the blanks of the other planes of use. -/
def isBlank (c : Char) : Bool :=
  let n := c.toNat
  (0x09 ≤ n && n ≤ 0x0d) || n == 0x20 || n == 0x85 || n == 0xa0 || n == 0x1680 ||
    (0x2000 ≤ n && n ≤ 0x200a) || n == 0x2028 || n == 0x2029 || n == 0x202f ||
    n == 0x205f || n == 0x3000

def trimChars (text : List Char) : List Char :=
  ((text.dropWhile isBlank).reverse.dropWhile isBlank).reverse

/-- The text without the blanks at its two ends. -/
def trim (text : String) : String := String.ofList (trimChars text.toList)

/-- The pieces between separators: one more than there are separators. -/
def splitChars (separator : Char) : List Char → List (List Char)
  | [] => [[]]
  | c :: rest =>
    match splitChars separator rest with
    | [] => [[c]]
    | piece :: pieces => if c = separator then [] :: piece :: pieces else (c :: piece) :: pieces

def split (separator : Char) (text : String) : List String :=
  (splitChars separator text.toList).map String.ofList

/-- A comma separated list: entries are trimmed and empty ones dropped. -/
def commaList (text : String) : List String :=
  ((split ',' text).map trim).filter (· ≠ "")

/-- `needle` occurs in `text` as a contiguous part. -/
def containsChars (needle : List Char) : List Char → Bool
  | [] => needle.isEmpty
  | c :: rest => needle.isPrefixOf (c :: rest) || containsChars needle rest

def contains (needle text : String) : Bool := containsChars needle.toList text.toList

/-- The text without the run of `c` at its end. -/
def dropTrailing (c : Char) (text : String) : String :=
  String.ofList ((text.toList.reverse.dropWhile (· = c)).reverse)

theorem splitChars_ne_nil (separator : Char) (text : List Char) :
    splitChars separator text ≠ [] := by
  cases text with
  | nil => simp [splitChars]
  | cons c rest =>
    simp only [splitChars]
    split
    · simp
    · split <;> simp

end SecretBroker.Text
