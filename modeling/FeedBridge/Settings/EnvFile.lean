import FeedBridge.Number.Rounding
import FeedBridge.Text.Alphanumeric
import FeedBridge.Text.Blank

/-!
# Files of variables

A file binds variables line by line: a key, an equals sign and a value, which may be quoted, hold
escapes and refer to other variables. A quoted value may run over several lines. The first thing
that is not understood, from the top, fails the file.

Reading goes on three levels. Physical lines are decoded one by one and joined to logical lines
(`LineState`); a logical line is cut into key and value (`readBinding`); and a value is read with
its quotes, escapes and references (`readValue`).
-/

namespace FeedBridge

abbrev Lookup := String → Option String

inductive EnvFileError
  | missing
  | unreadable (reason : String)
  | notUtf8
  | line (text : String) (position : Nat)
deriving DecidableEq

def EnvFileError.message : EnvFileError → String
  | missing => "No such file or directory (os error 2)"
  | unreadable reason => reason
  | notUtf8 => "stream did not contain valid UTF-8"
  | line text position =>
    "Error parsing line: '" ++ text ++ "', error at line index: " ++
      String.ofList (decimalDigits position)

abbrev EnvFile.Content := Except EnvFileError ByteArray

namespace EnvFile

def fileName : String := ".env"

def byteLength : List Char → Nat
  | [] => 0
  | c :: rest => c.utf8Size + byteLength rest

inductive ValueState
  | bare
  | weak
  | strong
  | escaped (inWeak : Bool)
  -- after a dollar sign, with the name so far
  | reference (inWeak : Bool) (name : List Char)
  -- after a dollar sign and a brace, with the name so far
  | braced (inWeak : Bool) (name : List Char)
  -- after a blank that ends the value
  | trailing

namespace ValueState

def surroundings (inWeak : Bool) : ValueState := if inWeak then weak else bare

def isClosed : ValueState → Bool
  | bare | trailing => true
  | escaped inWeak | reference inWeak _ => !inWeak
  | weak | strong | braced _ _ => false

def pending : ValueState → List Char
  | reference _ name => name
  | _ => []

end ValueState

def unescape? (c : Char) : Option Char :=
  if c = '\\' || c = '\'' || c = '"' || c = '$' || c = ' ' then some c
  else if c = 'n' then some '\n'
  else none

/-- A move of the value reader: a new state and the text put out, the end, or no way on. -/
inductive ValueMove
  | go (state : ValueState) (output : List Char)
  | stop
  | fail

def surroundingMove (inWeak : Bool) (c : Char) : ValueMove :=
  if c = '$' then .go (.reference inWeak []) []
  else if c = '\\' then .go (.escaped inWeak) []
  else if inWeak then if c = '"' then .go .bare [] else .go .weak [c]
  else if c = '\'' then .go .strong []
  else if c = '"' then .go .weak []
  else if c = ' ' || c = '\t' then .go .trailing []
  else .go .bare [c]

def valueMove (expand : List Char → List Char) (state : ValueState) (c : Char) : ValueMove :=
  match state with
  | .bare => surroundingMove false c
  | .weak => surroundingMove true c
  | .strong => if c = '\'' then .go .bare [] else .go .strong [c]
  | .escaped inWeak =>
    match unescape? c with
    | some char => .go (.surroundings inWeak) [char]
    | none => .fail
  | .reference inWeak name =>
    if Text.isAlphanumeric c then .go (.reference inWeak (name ++ [c])) []
    else if c = '{' && name.isEmpty then .go (.braced inWeak []) []
    else if c = '$' then .go (.reference inWeak []) (expand name)
    else .go (.surroundings inWeak) (expand name ++ [c])
  | .braced inWeak name =>
    if c = '}' then .go (.surroundings inWeak) (expand name)
    else .go (.braced inWeak (name ++ [c])) []
  | .trailing =>
    if c = ' ' || c = '\t' then .go .trailing []
    else if c = '#' then .stop
    else .fail

/-- Read the rest of a value from a position on. A failure gives its position; a value that ends
too early fails at its last byte. -/
def readValueFrom (expand : List Char → List Char) (last : Nat) (state : ValueState)
    (position : Nat) : List Char → Except Nat (List Char)
  | [] => if state.isClosed then .ok (expand state.pending) else .error last
  | c :: rest =>
    match valueMove expand state c with
    | .go state output =>
      (readValueFrom expand last state (position + 1) rest).map (output ++ ·)
    | .stop => .ok []
    | .fail => .error position

def readValue (expand : List Char → List Char) (cs : List Char) :
    Except EnvFileError (List Char) :=
  (readValueFrom expand (byteLength cs - 1) .bare 0 cs).mapError
    (EnvFileError.line (String.ofList cs))

abbrev Bindings := List (String × Option String)

def Bindings.get? (bindings : Bindings) (key : String) : Option String :=
  (bindings.lookup key).map (·.getD "")

/-- What a reference stands for: the variable of the process, else the earlier one of the file. -/
def expandName (process : Lookup) (bindings : Bindings) (name : List Char) : List Char :=
  let name := String.ofList name
  match process name with
  | some value => value.toList
  | none => ((bindings.get? name).getD "").toList

def startsKey (c : Char) : Bool := c.isAlpha || c = '_'

def continuesKey (c : Char) : Bool := c.isAlphanum || c = '_' || c = '.'

def key? : List Char → Option (List Char × List Char)
  | [] => none
  | c :: rest =>
    if startsKey c then some ((c :: rest).span continuesKey) else none

def keyAndRest? (cs : List Char) : Option (List Char × List Char) :=
  (key? cs).map fun (key, rest) => (key, Text.trimStart rest)

def errorAt (line rest : List Char) : EnvFileError :=
  .line (String.ofList line) (byteLength (Text.trimEnd line) - byteLength rest)

def readKey (line cs : List Char) : Except EnvFileError (String × List Char) :=
  match keyAndRest? cs with
  | none => .error (errorAt line cs)
  | some (key, '=' :: rest) => .ok (String.ofList key, rest)
  | some (key, rest) =>
    if String.ofList key = "export" then
      match keyAndRest? rest with
      | none => .error (errorAt line rest)
      | some (key, '=' :: rest) => .ok (String.ofList key, rest)
      | some (_, rest) => .error (errorAt line rest)
    else .error (errorAt line rest)

def isOver : List Char → Bool
  | [] => true
  | c :: _ => c = '#'

def readBinding (process : Lookup) (bindings : Bindings) (line : List Char) :
    Except EnvFileError Bindings :=
  let cs := Text.trimStart (Text.trimEnd line)
  if isOver cs then .ok bindings
  else do
    let (key, rest) ← readKey line cs
    let rest := Text.trimStart rest
    if isOver rest then return (key, none) :: bindings
    else
      let value ← readValue (expandName process bindings) rest
      return (key, some (String.ofList value)) :: bindings

inductive LineState
  | complete
  | blank
  | escape
  | weak
  | weakEscape
  | strong
  | strongEscape
deriving DecidableEq

namespace LineState

def opening? (c : Char) : Option LineState :=
  if c = '\\' then some escape
  else if c = '"' then some weak
  else if c = '\'' then some strong
  else none

def after (state : LineState) (c : Char) : LineState :=
  match state with
  | complete =>
    if Text.isBlank c && c != '\n' && c != '\r' then blank else (opening? c).getD complete
  | blank => (opening? c).getD complete
  | escape => complete
  | weak => if c = '\\' then weakEscape else if c = '"' then complete else weak
  | weakEscape => weak
  | strong => if c = '\\' then strongEscape else if c = '\'' then complete else strong
  | strongEscape => strong

end LineState

inductive LineEnd
  | state (state : LineState)
  | comment (before : List Char)

def LineEnd.push (c : Char) : LineEnd → LineEnd
  | state s => state s
  | comment before => comment (c :: before)

/-- Follow a physical line. A comment starts with a hash sign after a blank. -/
def lineEnd : LineState → List Char → LineEnd
  | s, [] => .state s
  | s, c :: rest =>
    if s = .blank && c = '#' then .comment [] else (lineEnd (s.after c) rest).push c

def dropLineBreak (cs : List Char) : List Char :=
  match cs.reverse with
  | '\n' :: '\r' :: rest => rest.reverse
  | '\n' :: rest => rest.reverse
  | _ => cs

structure Progress where
  line : List Char := []
  state : LineState := .complete
  bindings : Bindings := []

def Progress.close (process : Lookup) (p : Progress) (line : List Char) :
    Except EnvFileError Progress := do
  return { bindings := ← readBinding process p.bindings line }

def Progress.feed (process : Lookup) (p : Progress) (physical : Option (List Char)) :
    Except EnvFileError Progress :=
  match physical with
  | none => .error .notUtf8
  | some cs =>
    let line := p.line ++ cs
    if (Text.trimStart line).head? = some '#' then p.close process []
    else
      match lineEnd p.state cs with
      | .comment before => p.close process (p.line ++ before)
      | .state .complete => p.close process (dropLineBreak line)
      | .state state => .ok { p with line, state }

def Progress.finish (p : Progress) : Except EnvFileError Bindings :=
  if p.state = .complete then .ok p.bindings
  else .error (.line (String.ofList p.line) (byteLength p.line))

def physicalLines : List UInt8 → List (List UInt8)
  | [] => []
  | b :: rest =>
    if b = 10 then [b] :: physicalLines rest
    else match physicalLines rest with
      | line :: lines => (b :: line) :: lines
      | [] => [[b]]

def decodeLine (bytes : List UInt8) : Option (List Char) :=
  (String.fromUTF8? ⟨bytes.toArray⟩).map String.toList

def read (process : Lookup) (content : Content) : Except EnvFileError Bindings := do
  let lines := (physicalLines (← content).data.toList).map decodeLine
  (← lines.foldlM (Progress.feed process) {}).finish

end EnvFile

end FeedBridge
