/-! JSON values and the text they are written as: no space between the parts,
members in the order given. -/
namespace DartTree.Json

inductive Value where
  | null
  | number (value : UInt64)
  | string (text : String)
  | array (items : List Value)
  | object (members : List (String × Value))
deriving Inhabited

/-- The escape of a character inside a string. Of the characters that need one
the common ones have a short form. -/
def escapeChar (char : Char) : List Char :=
  if char = '"' then ['\\','"']
  else if char = '\\' then ['\\','\\']
  else if char = '\n' then ['\\','n']
  else if char = '\r' then ['\\','r']
  else if char = '\t' then ['\\','t']
  else if char = '\x08' then ['\\','b']
  else if char = '\x0c' then ['\\','f']
  else if char.toNat < 0x20 then
    ['\\','u','0','0',Nat.digitChar (char.toNat / 16),Nat.digitChar (char.toNat % 16)]
  else [char]

def appendQuoted (written text : String) : String :=
  (text.toList.foldl (fun written char => (escapeChar char).foldl String.push written)
    (written.push '"')).push '"'

namespace Value

mutual

def appendTo (written : String) : Value → String
  | .null => written ++ "null"
  | .number value => written ++ toString value.toNat
  | .string text => appendQuoted written text
  | .array items => (appendItems (written.push '[') true items).push ']'
  | .object members => (appendMembers (written.push '{') true members).push '}'

def appendItems (written : String) (first : Bool) : List Value → String
  | [] => written
  | value :: rest =>
    appendItems (value.appendTo (if first then written else written.push ',')) false rest

def appendMembers (written : String) (first : Bool) : List (String × Value) → String
  | [] => written
  | member :: rest =>
    appendMembers (appendMember (if first then written else written.push ',') member) false rest

def appendMember (written : String) : String × Value → String
  | (key,value) => value.appendTo ((appendQuoted written key).push ':')

end

def render (value : Value) : String := value.appendTo ""

end Value
end DartTree.Json
