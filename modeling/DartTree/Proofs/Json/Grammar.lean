import Mathlib.Data.List.Basic

/-! JSON texts in any spelling: with blanks wherever they may stand, with any
escapes in strings and any form of number. The grammar is given on characters and
knows nothing of the scanner. -/
namespace DartTree.Json

def Blank (text : List Char) : Prop := ∀ char ∈ text, char ∈ [' ','\n','\t','\r']

theorem blank_nil : Blank [] := by simp [Blank]

theorem blank_space : Blank [' '] := by simp [Blank]

theorem blank_newline : Blank ['\n'] := by simp [Blank]

def HexDigit (value : Nat) (char : Char) : Prop :=
  "0123456789abcdef".toList[value]? = some char ∨ "0123456789ABCDEF".toList[value]? = some char

inductive UnitEscape : List Char → Nat → Prop
  | mk {first second third fourth : Nat} {a b c d : Char} (highest : HexDigit first a)
      (higher : HexDigit second b) (lower : HexDigit third c) (lowest : HexDigit fourth d) :
      UnitEscape ['\\','u',a,b,c,d] (16 * (16 * (16 * first + second) + third) + fourth)

def shortEscapes : List (Char × Char) :=
  [('"','"'),('\\','\\'),('/','/'),('b','\x08'),('f','\x0c'),('n','\n'),('r','\r'),('t','\t')]

def Plain (char : Char) : Prop := 0x20 ≤ char.toNat ∧ char ≠ '"' ∧ char ≠ '\\'

instance : DecidablePred Plain := fun char =>
  inferInstanceAs (Decidable (0x20 ≤ char.toNat ∧ char ≠ '"' ∧ char ≠ '\\'))

/-- The spellings of one character inside a string. Those beyond the basic plane
are escaped by two surrogates. -/
inductive Letter : List Char → Char → Prop
  | plain (char : Char) (plain : Plain char) : Letter [char] char
  | short (mark char : Char) (listed : (mark,char) ∈ shortEscapes) : Letter ['\\',mark] char
  | unit (spelled : List Char) (unit : Nat) (escape : UnitEscape spelled unit)
      (single : unit < 0xd800 ∨ 0xe000 ≤ unit) : Letter spelled (Char.ofNat unit)
  | pair (first second : List Char) (high low : Nat) (escape : UnitEscape first high)
      (escapeLow : UnitEscape second low) (isHigh : 0xd800 ≤ high ∧ high < 0xdc00)
      (isLow : 0xdc00 ≤ low ∧ low < 0xe000) :
      Letter (first ++ second)
        (Char.ofNat (0x10000 + (high - 0xd800) * 0x400 + (low - 0xdc00)))

inductive Letters : List Char → List Char → Prop
  | nil : Letters [] []
  | cons {spelled rest : List Char} {char : Char} {text : List Char}
      (letter : Letter spelled char) (others : Letters rest text) :
      Letters (spelled ++ rest) (char :: text)

def Quoted (text : String) (spelled : List Char) : Prop :=
  ∃ inside, Letters inside text.toList ∧ spelled = '"' :: inside ++ ['"']

theorem letters_plain (text : List Char) (plain : text.all (Plain ·) = true) :
    Letters text text := by
  induction text with
  | nil => exact .nil
  | cons char rest ih =>
    obtain ⟨first,others⟩ := Bool.and_eq_true_iff.mp plain
    exact .cons (.plain char (of_decide_eq_true first)) (ih others)

def inQuotes (text : String) : List Char := '"' :: text.toList ++ ['"']

theorem quoted_inQuotes (text : String) (plain : text.toList.all (Plain ·) = true) :
    Quoted text (inQuotes text) :=
  ⟨text.toList,letters_plain text.toList plain,rfl⟩

/-- What may stand in a string by the grammar alone: escapes of surrogates need
not come in pairs, so that there may be no text to it. -/
inductive Symbols : List Char → Prop
  | nil : Symbols []
  | plain {char : Char} {rest : List Char} (plain : Plain char) (others : Symbols rest) :
      Symbols (char :: rest)
  | short {mark char : Char} {rest : List Char} (listed : (mark,char) ∈ shortEscapes)
      (others : Symbols rest) : Symbols ('\\' :: mark :: rest)
  | unit {spelled rest : List Char} {unit : Nat} (escape : UnitEscape spelled unit)
      (others : Symbols rest) : Symbols (spelled ++ rest)

def AnyString (spelled : List Char) : Prop :=
  ∃ inside, Symbols inside ∧ spelled = '"' :: inside ++ ['"']

def Digits (text : List Char) : Prop := ∀ char ∈ text, char.isDigit = true

inductive IntegerPart : List Char → Prop
  | zero : IntegerPart ['0']
  | digits (first : Char) (rest : List Char) (digit : first.isDigit = true) (nonzero : first ≠ '0')
      (digits : Digits rest) : IntegerPart (first :: rest)

inductive FractionPart : List Char → Prop
  | absent : FractionPart []
  | digits (first : Char) (rest : List Char) (digit : first.isDigit = true)
      (digits : Digits rest) : FractionPart ('.' :: first :: rest)

inductive ExponentPart : List Char → Prop
  | absent : ExponentPart []
  | digits (mark : Char) (sign : List Char) (first : Char) (rest : List Char)
      (marks : mark ∈ ['e','E']) (signs : sign ∈ [[],['+'],['-']])
      (digit : first.isDigit = true) (digits : Digits rest) :
      ExponentPart (mark :: sign ++ first :: rest)

def AnyNumber (text : List Char) : Prop :=
  ∃ sign integer fraction exponent, sign ∈ [[],['-']] ∧ IntegerPart integer ∧
    FractionPart fraction ∧ ExponentPart exponent ∧ text = sign ++ integer ++ fraction ++ exponent

def words : List (List Char) :=
  [['n','u','l','l'],['t','r','u','e'],['f','a','l','s','e']]

structure Item where
  before : List Char
  value : List Char
  after : List Char
  blankBefore : Blank before
  blankAfter : Blank after

def Item.bare (value : List Char) : Item := ⟨[],value,[],blank_nil,blank_nil⟩

def Item.text (item : Item) : List Char := item.before ++ item.value ++ item.after

structure Entry where
  before : List Char
  key : List Char
  between : List Char
  item : Item
  blankBefore : Blank before
  blankBetween : Blank between

def Entry.bare (key : String) (value : List Char) : Entry :=
  ⟨[],inQuotes key,[],.bare value,blank_nil,blank_nil⟩

def Entry.text (entry : Entry) : List Char :=
  entry.before ++ entry.key ++ entry.between ++ ':' :: entry.item.text

inductive Enclosed (opening closing : Char) : List (List Char) → List Char → Prop
  | empty (gap : List Char) (blank : Blank gap) :
      Enclosed opening closing [] (opening :: gap ++ [closing])
  | parts (first : List Char) (rest : List (List Char)) :
      Enclosed opening closing (first :: rest)
        (opening :: [','].intercalate (first :: rest) ++ [closing])

inductive AnyValue : List Char → Prop
  | word (text : List Char) (listed : text ∈ words) : AnyValue text
  | number (text : List Char) (number : AnyNumber text) : AnyValue text
  | string (text : List Char) (string : AnyString text) : AnyValue text
  | array (items : List Item) (text : List Char) (each : ∀ item ∈ items, AnyValue item.value)
      (enclosed : Enclosed '[' ']' (items.map Item.text) text) : AnyValue text
  | object (entries : List Entry) (text : List Char)
      (keys : ∀ entry ∈ entries, AnyString entry.key)
      (each : ∀ entry ∈ entries, AnyValue entry.item.value)
      (enclosed : Enclosed '{' '}' (entries.map Entry.text) text) : AnyValue text

end DartTree.Json
