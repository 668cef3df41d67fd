import DartTree.Json.Scan

/-! Strings as JSON writes them, read character by character. Characters beyond
the basic plane are escaped by two surrogates in a row. -/
namespace DartTree.Json

inductive StringPhase where
  | plain
  | escape
  /-- After `\u`: the value of the digits so far, unless one was no digit, and
  how many bytes of the four were seen. -/
  | hex (value : Option Nat) (bytes : Nat)
deriving DecidableEq, Repr, Inhabited

structure StringScan where
  text : String := ""
  phase : StringPhase := .plain
  /-- A first surrogate that waits for the second. -/
  high : Option Nat := none
  paired : Bool := true
deriving DecidableEq, Repr, Inhabited

inductive StringStep where
  | more (scan : StringScan)
  /-- The string ended with the character. It has no text if a surrogate lacks
  its other half. -/
  | ended (text : Option String)
  | malformed (paired : Bool)

def hexValue? (char : Char) : Option Nat :=
  if char.isDigit then some (char.toNat - '0'.toNat)
  else if 'a' ≤ char && char ≤ 'f' then some (char.toNat - 'a'.toNat + 10)
  else if 'A' ≤ char && char ≤ 'F' then some (char.toNat - 'A'.toNat + 10)
  else none

def escaped? (char : Char) : Option Char :=
  match char with
  | '"' => some '"'
  | '\\' => some '\\'
  | '/' => some '/'
  | 'b' => some '\x08'
  | 'f' => some '\x0c'
  | 'n' => some '\n'
  | 'r' => some '\r'
  | 't' => some '\t'
  | _ => none

def isHighSurrogate (unit : Nat) : Bool := 0xd800 ≤ unit && unit < 0xdc00

def isLowSurrogate (unit : Nat) : Bool := 0xdc00 ≤ unit && unit < 0xe000

def ofSurrogates (high low : Nat) : Char :=
  Char.ofNat (0x10000 + (high - 0xd800) * 0x400 + (low - 0xdc00))

namespace StringScan

/-- The next character of the text. A first surrogate before it was alone. -/
def push (scan : StringScan) (char : Char) : StringScan where
  text := scan.text.push char
  paired := scan.paired && scan.high.isNone

def pushUnit (scan : StringScan) (unit : Nat) : StringScan :=
  match scan.high with
  | some high =>
    if isLowSurrogate unit then
      { text := scan.text.push (ofSurrogates high unit), paired := scan.paired }
    else { text := scan.text, paired := false }
  | none =>
    if isHighSurrogate unit then { scan with phase := .plain, high := some unit }
    else if isLowSurrogate unit then { text := scan.text, paired := false }
    else scan.push (Char.ofNat unit)

def text? (scan : StringScan) : Option String :=
  if scan.paired && scan.high.isNone then some scan.text else none

/-- One more character of the four digits of an escape. They are judged once
four bytes are there. -/
def hexStep (scan : StringScan) (value : Option Nat) (bytes : Nat) (char : Char) : StringStep :=
  let value := do return 16 * (← value) + (← hexValue? char)
  let bytes := bytes + char.utf8Size
  if bytes < 4 then .more { scan with phase := .hex value bytes }
  else match value with
    | some unit => .more (scan.pushUnit unit)
    | none => .malformed scan.paired

def step (scan : StringScan) (char : Char) : StringStep :=
  match scan.phase with
  | .plain =>
    if char = '"' then .ended scan.text?
    else if char = '\\' then .more { scan with phase := .escape }
    else if char.toNat < 0x20 then .malformed scan.paired
    else .more (scan.push char)
  | .escape =>
    if char = 'u' then .more { scan with phase := .hex (some 0) 0 }
    else match escaped? char with
      | some meant => .more (scan.push meant)
      | none => .malformed scan.paired
  | .hex value bytes => scan.hexStep value bytes char

end StringScan
end DartTree.Json
