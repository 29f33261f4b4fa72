import SecretBroker.Text.Blank
import SecretBroker.Text.Fold

/-!
Files that set variables, one `NAME=value` a line. Values may be quoted, weakly or strongly, and
then go on over line ends; a dollar sign brings in another variable, and a hash after a blank
starts a comment. Variables that are set already keep their values. A line that cannot be read
ends the reading; what came before it counts.
-/

namespace SecretBroker.DotEnv

abbrev Variables := List (String × String)

/-- A line that cannot be read, and where in it. -/
structure Fault where
  line : String
  index : Nat
  deriving DecidableEq, Repr

def Fault.message (fault : Fault) : String :=
  "Error parsing line: '" ++ fault.line ++ "', error at line index: " ++ toString fault.index

/-! Lines -/

/-- Where in a line the reader is, while it looks for the line's end. -/
inductive Place where
  | plain
  | escape
  | strong
  | strongEscape
  | weak
  | weakEscape
  | blank
  deriving DecidableEq, Repr

/-- The place after a character; `none` where a comment starts. -/
def Place.next : Place → Char → Option Place
  | .blank, '#' => none
  | .blank, '\\' | .plain, '\\' => some .escape
  | .blank, '"' | .plain, '"' => some .weak
  | .blank, '\'' | .plain, '\'' => some .strong
  | .blank, _ => some .plain
  | .plain, c => some (if Text.isBlank c && c ≠ '\n' && c ≠ '\r' then .blank else .plain)
  | .escape, _ => some .plain
  | .weak, '\\' => some .weakEscape
  | .weak, '"' => some .plain
  | .weak, _ => some .weak
  | .weakEscape, _ => some .weak
  | .strong, '\\' => some .strongEscape
  | .strong, '\'' => some .plain
  | .strong, _ => some .strong
  | .strongEscape, _ => some .strong

/-- Reads a physical line: the place at its end, or the part before a comment. -/
def scan : Place → List Char → List Char → Place ⊕ List Char
  | place, _, [] => .inl place
  | place, before, c :: rest =>
    match place.next c with
    | some place => scan place (c :: before) rest
    | none => .inr before.reverse

/-- The physical lines, each with its line end. -/
def physicalLines : List Char → List (List Char)
  | [] => []
  | '\n' :: rest => ['\n'] :: physicalLines rest
  | c :: rest =>
    match physicalLines rest with
    | [] => [[c]]
    | line :: lines => (c :: line) :: lines

/-- A line without its line end. -/
def chomp (line : List Char) : List Char :=
  match line.reverse with
  | '\n' :: '\r' :: rest => rest.reverse
  | '\n' :: rest => rest.reverse
  | _ => line

/-- Logical lines: physical ones are joined while a quote is open. The last one is at fault if
it has no end. -/
def logicalLines : Place → List Char → List (List Char) → List (List Char ⊕ Fault)
  | .plain, _, [] => []
  | _, open_, [] => [.inr ⟨String.ofList open_, (String.ofList open_).utf8ByteSize⟩]
  | place, open_, line :: lines =>
    let whole := open_ ++ line
    if (whole.dropWhile Text.isBlank).head? = some '#' then .inl [] :: logicalLines .plain [] lines
    else
      match scan place [] line with
      | .inr before => .inl (open_ ++ before) :: logicalLines .plain [] lines
      | .inl .plain => .inl (chomp whole) :: logicalLines .plain [] lines
      | .inl place => logicalLines place whole lines

/-! Values -/

/-- Letters and digits that a short reference to a variable can hold. -/
def isReferenceChar (c : Char) : Bool := Text.isAsciiAlphanumeric c

inductive Reference where
  | none
  | short (name : List Char)
  | braced (name : List Char)
  deriving DecidableEq, Repr

structure ValueState where
  strong : Bool := false
  weak : Bool := false
  escaped : Bool := false
  ended : Bool := false
  reference : Reference := .none
  output : List Char := []
  deriving Repr

/-- The value of a variable, set outside or earlier in the file; unset ones are empty. -/
def valueOf (known : String → Option String) (name : List Char) : List Char :=
  ((known (String.ofList name)).getD "").toList

/-- Reads one character of a value; `none` if it cannot stand there. -/
def ValueState.read (known : String → Option String) (state : ValueState) (c : Char) :
    Option ValueState :=
  let push (chars : List Char) : ValueState := { state with output := state.output ++ chars }
  if state.ended then (if c = ' ' || c = '\t' then some state else none)
  else if state.escaped then
    if c = '\\' || c = '\'' || c = '"' || c = '$' || c = ' ' then
      some { push [c] with escaped := false }
    else if c = 'n' then some { push ['\n'] with escaped := false }
    else none
  else if state.strong then some (if c = '\'' then { state with strong := false } else push [c])
  else
    match state.reference with
    | .short name =>
      if isReferenceChar c then some { state with reference := .short (name ++ [c]) }
      else if c = '\x7b' && name.isEmpty then some { state with reference := .braced [] }
      else
        let next := push (valueOf known name)
        some (if c = '$' then { next with reference := .short [] }
          else { next with reference := .none, output := next.output ++ [c] })
    | .braced name =>
      some (if c = '\x7d' then { push (valueOf known name) with reference := .none }
        else { state with reference := .braced (name ++ [c]) })
    | .none =>
      some (if c = '$' then { state with reference := .short [] }
        else if state.weak then
          (if c = '"' then { state with weak := false }
          else if c = '\\' then { state with escaped := true }
          else push [c])
        else if c = '\'' then { state with strong := true }
        else if c = '"' then { state with weak := true }
        else if c = '\\' then { state with escaped := true }
        else if c = ' ' || c = '\t' then { state with ended := true }
        else push [c])

/-- The value in a text, or the index of the character that is at fault. -/
def value (known : String → Option String) (text : List Char) : Except Nat (List Char) :=
  let rec go (index : Nat) (state : ValueState) : List Char → Except Nat ValueState
    | [] => .ok state
    | c :: rest =>
      if state.ended && c = '#' then .ok state
      else
        match state.read known c with
        | some next => go (index + 1) next rest
        | none => .error index
  match go 0 {} text with
  | .error index => .error index
  | .ok state =>
    match state.reference with
    | .braced _ => .error ((String.ofList text).utf8ByteSize - 1)
    | .short name =>
      if state.weak then .error ((String.ofList text).utf8ByteSize - 1)
      else .ok (state.output ++ valueOf known name)
    | .none =>
      if state.strong || state.weak then .error ((String.ofList text).utf8ByteSize - 1)
      else .ok state.output

/-! Settings -/

def isNameStart (c : Char) : Bool := Text.isAsciiLetter c || c = '_'

def isNameChar (c : Char) : Bool := Text.isAsciiAlphanumeric c || c = '_' || c = '.'

/-- A rest of a line and its place in the line, in bytes. -/
abbrev Rest := Nat × List Char

def skipBlanks (rest : Rest) : Rest :=
  (rest.1 + (String.ofList (rest.2.takeWhile Text.isBlank)).utf8ByteSize,
    rest.2.dropWhile Text.isBlank)

def name? : Rest → Option (List Char × Rest)
  | (position, text) =>
    if text.head?.any isNameStart then
      let name := text.takeWhile isNameChar
      some (name, position + name.length, text.drop name.length)
    else none

def equals? : Rest → Option Rest
  | (position, '=' :: rest) => some (position + 1, rest)
  | _ => none

/-- A name and what stands after its equals sign; the word `export` may come first. The fault is
the place where something else was due. -/
def assignment (rest : Rest) : Except Nat (List Char × Rest) :=
  match name? rest with
  | none => .error rest.1
  | some (name, after) =>
    let after := skipBlanks after
    match equals? after with
    | some value => .ok (name, skipBlanks value)
    | none =>
      if name ≠ "export".toList then .error after.1
      else
        match name? after with
        | none => .error after.1
        | some (name, after) =>
          match equals? (skipBlanks after) with
          | some value => .ok (name, skipBlanks value)
          | none => .error (skipBlanks after).1

/-- The setting in a line, if it is not empty. -/
def setting (known : String → Option String) (line : List Char) :
    Except Fault (Option (String × String)) :=
  let start := skipBlanks (0, (line.reverse.dropWhile Text.isBlank).reverse)
  if start.2.isEmpty || start.2.head? = some '#' then .ok none
  else
    match assignment start with
    | .error index => .error ⟨String.ofList line, index⟩
    | .ok (name, _, text) =>
      if text.isEmpty || text.head? = some '#' then .ok (some (String.ofList name, ""))
      else
        match value known text with
        | .error index => .error ⟨String.ofList text, index⟩
        | .ok found => .ok (some (String.ofList name, String.ofList found))

/-- A mark that some editors put before the first line. -/
def byteOrderMark : Char := '\ufeff'

def lines (text : String) : List (List Char ⊕ Fault) :=
  logicalLines .plain [] (physicalLines
    (if text.toList.head? = some byteOrderMark then text.toList.tail else text.toList))

/-- Adds the settings of lines in order, each read with those before it at hand. A name that has
a value keeps it. -/
def loadLines (found : Variables) : List (List Char ⊕ Fault) → Variables × Option Fault
  | [] => (found, none)
  | .inr fault :: _ => (found, some fault)
  | .inl line :: rest =>
    match setting (fun name => found.lookup name) line with
    | .error fault => (found, some fault)
    | .ok none => loadLines found rest
    | .ok (some (name, value)) =>
      loadLines (if (found.lookup name).isSome then found else found ++ [(name, value)]) rest

/-- The variables with those of a file added, and the fault that ended the reading. -/
def load (outside : Variables) (text : String) : Variables × Option Fault :=
  loadLines outside (lines text)

end SecretBroker.DotEnv
