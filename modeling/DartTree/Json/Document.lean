import DartTree.Json.StringScan

/-! Scanning a text. One state per character: the containers that are open, what
was read of each, and what may come next. The scan of a text is what the state
after its last character amounts to. -/
namespace DartTree.Json

/-- A container that is open around a value being read. What was read before
has the latest first. -/
inductive Frame where
  | item (before : List Scan)
  | member (before : List (Key × Scan)) (key : Key)

inductive Place where
  | value (context : List Frame)
  | key (before : List (Key × Scan)) (context : List Frame)

structure Document where
  value : Scan
  trailing : Bool := false

def enclose (inner : Scan) : List Frame → Scan
  | [] => inner
  | .item before :: context =>
    enclose (.array (.prepend before (.item inner (.cut .malformed)))) context
  | .member before key :: context =>
    enclose (.object (.prepend before (.member key inner (.cut .malformed)))) context

/-- The value at the top, where `key` is the last thing read, in an object of
the context. -/
def encloseKey (key : Key) (before : List (Key × Scan)) (context : List Frame) : Scan :=
  enclose (.object (.prepend before (.member key (.broken .junk) (.cut .malformed)))) context

def encloseFlaw (flaw : Flaw) : Place → Scan
  | .value context => enclose (.broken flaw) context
  | .key before context => encloseKey (.broken flaw) before context

inductive State where
  | valueDue (context : List Frame)
  | firstItem (context : List Frame)
  | firstKey (context : List Frame)
  | keyDue (before : List (Key × Scan)) (context : List Frame)
  | colonDue (before : List (Key × Scan)) (key : Key) (context : List Frame)
  | afterItem (before : List Scan) (context : List Frame)
  | afterMember (before : List (Key × Scan)) (context : List Frame)
  | inString (scan : StringScan) (place : Place)
  | inNumber (scan : NumberScan) (context : List Frame)
  /-- Inside a word, with the next character and those after it. -/
  | inWord (next : Char) (due : List Char) (meant : Scan) (context : List Frame)
  | finished (document : Document)
  | stuck (value : Scan)

def isSpace (char : Char) : Bool :=
  char = ' ' || char = '\n' || char = '\t' || char = '\r'

namespace State

def complete (value : Scan) : List Frame → State
  | [] => .finished ⟨value,false⟩
  | .item before :: context => .afterItem (value :: before) context
  | .member before key :: context => .afterMember ((key,value) :: before) context

def completeString (text : Option String) : Place → State
  | .value context => complete ((text.map Scan.string).getD .unpaired) context
  | .key before context => .colonDue before ((text.map Key.name).getD .unpaired) context

def fail (flaw : Flaw) (context : List Frame) : State := .stuck (enclose (.broken flaw) context)

def start (context : List Frame) (char : Char) : State :=
  if char = '"' then .inString {} (.value context)
  else if char = '-' then .inNumber { phase := .sign, negative := true } context
  else if char = '0' then .inNumber { phase := .zero } context
  else if char.isDigit then
    .inNumber { phase := .integer, significand := NumberScan.digitValue char } context
  else if char = 'n' then .inWord 'u' ['l','l'] .null context
  else if char = 't' then .inWord 'r' ['u','e'] (.bool true) context
  else if char = 'f' then .inWord 'a' ['l','s','e'] (.bool false) context
  else if char = '[' then .firstItem context
  else if char = '{' then .firstKey context
  else fail .junk context

def startKey (before : List (Key × Scan)) (context : List Frame) (char : Char) : State :=
  if char = '"' then .inString {} (.key before context)
  else .stuck (encloseKey (.broken .junk) before context)

def stepToken (state : State) (char : Char) : State :=
  match state with
  | .valueDue context =>
    if isSpace char then .valueDue context else start context char
  | .firstItem context =>
    if isSpace char then .firstItem context
    else if char = ']' then complete (.array .closed) context
    else start (.item [] :: context) char
  | .firstKey context =>
    if isSpace char then .firstKey context
    else if char = '}' then complete (.object .closed) context
    else startKey [] context char
  | .keyDue before context =>
    if isSpace char then .keyDue before context else startKey before context char
  | .colonDue before key context =>
    if isSpace char then .colonDue before key context
    else if char = ':' then .valueDue (.member before key :: context)
    else fail .junk (.member before key :: context)
  | .afterItem before context =>
    if isSpace char then .afterItem before context
    else if char = ',' then .valueDue (.item before :: context)
    else if char = ']' then complete (.array (.prepend before .closed)) context
    else .stuck (enclose (.array (.prepend before (.cut .malformed))) context)
  | .afterMember before context =>
    if isSpace char then .afterMember before context
    else if char = ',' then .keyDue before context
    else if char = '}' then complete (.object (.prepend before .closed)) context
    else .stuck (enclose (.object (.prepend before (.cut .malformed))) context)
  | .inString scan place =>
    match scan.step char with
    | .more scan => .inString scan place
    | .ended text => completeString text place
    | .malformed paired => .stuck (encloseFlaw (.badString paired .malformed) place)
  | .inWord next due meant context =>
    if char = next then
      match due with
      | [] => complete meant context
      | next :: due => .inWord next due meant context
    else fail .junk context
  | .finished document =>
    .finished { document with trailing := document.trailing || !isSpace char }
  | .inNumber scan context => .inNumber scan context
  | .stuck value => .stuck value

def endNumber : State → State
  | .inNumber scan context =>
    match scan.numeral? with
    | some numeral => complete (.number numeral) context
    | none => fail .cutNumber context
  | state => state

/-- One character. A number ends before the first character that does not
belong to it. -/
def step (state : State) (char : Char) : State :=
  match state with
  | .inNumber scan context =>
    match scan.step char with
    | .more scan => .inNumber scan context
    | .ended => (endNumber (.inNumber scan context)).stepToken char
    | .malformed => fail .junk context
  | state => state.stepToken char

def endToken : State → Document
  | .valueDue context => ⟨enclose (.broken .absent) context,false⟩
  | .firstItem context => ⟨enclose (.array (.cut .truncated)) context,false⟩
  | .firstKey context => ⟨enclose (.object (.cut .truncated)) context,false⟩
  | .keyDue before context => ⟨encloseKey (.broken .absent) before context,false⟩
  | .colonDue before key context =>
    ⟨enclose (.broken .absent) (.member before key :: context),false⟩
  | .afterItem before context =>
    ⟨enclose (.array (.prepend before (.cut .truncated))) context,false⟩
  | .afterMember before context =>
    ⟨enclose (.object (.prepend before (.cut .truncated))) context,false⟩
  | .inString scan place => ⟨encloseFlaw (.badString scan.paired .truncated) place,false⟩
  | .inWord _ _ _ context => ⟨enclose (.broken .cutLiteral) context,false⟩
  | .inNumber _ context => ⟨enclose (.broken .cutNumber) context,false⟩
  | .finished document => document
  | .stuck value => ⟨value,false⟩

def finish (state : State) : Document := state.endNumber.endToken

end State

def Document.ofText (text : String) : Document :=
  (text.toList.foldl State.step (.valueDue [])).finish

end DartTree.Json
