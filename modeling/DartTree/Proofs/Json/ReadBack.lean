import DartTree.Json.Record
import DartTree.Json.Value
import Mathlib.Tactic.IntervalCases
import Mathlib.Tactic.SplitIfs

/-! The scan of a written value. Scanning is followed through the text as it is
written: every piece that is added takes the scanner from a known state to
another, so that a value of any depth ends up as its own scan. A number alone
is complete only with the character after it. -/
namespace DartTree.Json

def scanned (text : String) : State := text.toList.foldl State.step (.valueDue [])

private theorem scanned_push (text : String) (char : Char) :
    scanned (text.push char) = (scanned text).step char := by
  simp [scanned,List.foldl_append]

private theorem scanned_append (text more : String) :
    scanned (text ++ more) = more.toList.foldl State.step (scanned text) := by
  simp [scanned,List.foldl_append]

def endsNumber (char : Char) : Bool :=
  !char.isDigit && char != '.' && char != 'e' && char != 'E'

private theorem step_ended (scan : NumberScan) (numeral : Numeral) (char : Char)
    (complete : scan.numeral? = some numeral) (apart : endsNumber char = true) :
    scan.step char = .ended := by
  simp only [endsNumber,Bool.and_eq_true,Bool.not_eq_true',bne_iff_ne,ne_eq] at apart
  obtain ⟨⟨⟨digit,point⟩,small⟩,large⟩ := apart
  cases phase : scan.phase <;> simp [NumberScan.numeral?,phase] at complete <;>
    simp [NumberScan.step,NumberScan.afterInteger,phase,digit,point,small,large]

theorem step_settled (state after : State) (char : Char) (settled : state.endNumber = after)
    (alive : ∀ value, after ≠ .stuck value) (apart : endsNumber char = true) :
    state.step char = after.stepToken char := by
  cases state with
  | inNumber scan context =>
    cases complete : scan.numeral? with
    | none =>
      have stuck : after = State.fail .cutNumber context := by
        rw [← settled,State.endNumber,complete]
      exact absurd stuck (alive _)
    | some numeral =>
      simp only [State.step,step_ended scan numeral char complete apart,settled]
  | _ => rw [← settled]; rfl

theorem endNumber_complete (value : Scan) (context : List Frame) :
    (State.complete value context).endNumber = State.complete value context := by
  rcases context with _ | ⟨_ | _,_⟩ <;> rfl

def ValueReady (state : State) (context : List Frame) : Prop :=
  ∀ char, isSpace char = false → char ≠ ']' → state.step char = State.start context char

theorem ready_valueDue (context : List Frame) : ValueReady (.valueDue context) context := by
  intro char dense _
  simp [State.step,State.stepToken,dense]

theorem ready_firstItem (context : List Frame) :
    ValueReady (.firstItem context) (.item [] :: context) := by
  intro char dense notClosed
  simp [State.step,State.stepToken,dense,notClosed]

def inText (text : String) (place : Place) : State := .inString { text := text } place

private theorem read_short (char short : Char) (text : String) (place : Place)
    (apart : short ≠ 'u') (meant : escaped? short = some char) :
    ['\\',short].foldl State.step (inText text place) = inText (text.push char) place := by
  simp [inText,State.step,State.stepToken,StringScan.step,StringScan.push,apart,meant]

private theorem hexValue_digitChar (digit : Nat) (small : digit < 16) :
    hexValue? digit.digitChar = some digit ∧ digit.digitChar.utf8Size = 1 := by
  revert digit
  decide

private theorem read_unit (char : Char) (text : String) (place : Place)
    (small : char.toNat < 0x20) :
    ['\\','u','0','0',(char.toNat / 16).digitChar,(char.toNat % 16).digitChar].foldl State.step
      (inText text place) = inText (text.push char) place := by
  obtain ⟨high,highSize⟩ := hexValue_digitChar (char.toNat / 16) (by omega)
  obtain ⟨low,lowSize⟩ := hexValue_digitChar (char.toNat % 16) (by omega)
  obtain ⟨zero,zeroSize⟩ : hexValue? '0' = some 0 ∧ '0'.utf8Size = 1 := by decide
  have unit : 16 * (char.toNat / 16) + char.toNat % 16 = char.toNat := Nat.div_add_mod ..
  have single : isHighSurrogate char.toNat = false ∧ isLowSurrogate char.toNat = false := by
    simp only [isHighSurrogate,isLowSurrogate,Bool.and_eq_false_iff,decide_eq_false_iff_not]
    omega
  simp [inText,State.step,State.stepToken,StringScan.step,StringScan.hexStep,StringScan.pushUnit,
    StringScan.push,zero,zeroSize,high,highSize,low,lowSize,unit,single.1,single.2,Char.ofNat_toNat]

private theorem read_escaped (char : Char) (text : String) (place : Place) :
    (escapeChar char).foldl State.step (inText text place) = inText (text.push char) place := by
  unfold escapeChar
  split_ifs with quote backslash newline return_ tab backspace feed control
  · exact read_short char '"' text place (by decide) (by rw [quote]; rfl)
  · exact read_short char '\\' text place (by decide) (by rw [backslash]; rfl)
  · exact read_short char 'n' text place (by decide) (by rw [newline]; rfl)
  · exact read_short char 'r' text place (by decide) (by rw [return_]; rfl)
  · exact read_short char 't' text place (by decide) (by rw [tab]; rfl)
  · exact read_short char 'b' text place (by decide) (by rw [backspace]; rfl)
  · exact read_short char 'f' text place (by decide) (by rw [feed]; rfl)
  · exact read_unit char text place control
  · simp [inText,State.step,State.stepToken,StringScan.step,StringScan.push,quote,backslash,control]

private theorem scanned_pushAll (written : String) (chars : List Char) :
    scanned (chars.foldl String.push written) = chars.foldl State.step (scanned written) := by
  induction chars generalizing written with
  | nil => rfl
  | cons char rest ih => rw [List.foldl_cons,ih,scanned_push,List.foldl_cons]

theorem pushAll_toList (text : String) (chars : List Char) :
    (chars.foldl String.push text).toList = text.toList ++ chars := by
  induction chars generalizing text with
  | nil => simp
  | cons char rest ih => simp [ih]

private theorem scanned_escaped (chars : List Char) (written text : String) (place : Place)
    (opened : scanned written = inText text place) :
    scanned (chars.foldl (fun written char => (escapeChar char).foldl String.push written) written) =
      inText (chars.foldl String.push text) place := by
  induction chars generalizing written text with
  | nil => exact opened
  | cons char rest ih =>
    apply ih
    rw [scanned_pushAll,opened,read_escaped]

private theorem scanned_quoted (written text : String) (place : Place)
    (opens : (scanned written).step '"' = .inString {} place) :
    scanned (appendQuoted written text) = State.completeString (some text) place := by
  have inside := scanned_escaped text.toList (written.push '"') "" place
    ((scanned_push written '"').trans opens)
  have whole : text.toList.foldl String.push "" = text := by
    apply String.toList_inj.mp
    simp [pushAll_toList]
  rw [appendQuoted,scanned_push,inside,whole]
  rfl

def numberScan (value : Nat) : NumberScan :=
  { phase := if value = 0 then .zero else .integer, significand := value }

private theorem start_digit (context : List Frame) (digit : Nat) (small : digit < 10) :
    State.start context digit.digitChar = .inNumber (numberScan digit) context := by
  interval_cases digit <;> rfl

private theorem digitChar_digit (digit : Nat) (small : digit < 10) :
    digit.digitChar.isDigit = true ∧ NumberScan.digitValue digit.digitChar = digit := by
  revert digit
  decide

private theorem step_digit (context : List Frame) (value digit : Nat) (positive : 0 < value)
    (small : digit < 10) (bounded : 10 * value + digit < significandBound) :
    (State.inNumber (numberScan value) context).step digit.digitChar =
      .inNumber (numberScan (10 * value + digit)) context := by
  obtain ⟨isDigit,digitValue⟩ := digitChar_digit digit small
  have nonzero : value ≠ 0 := by omega
  simp [State.step,numberScan,NumberScan.step,NumberScan.integerDigit,nonzero,isDigit,digitValue,bounded]

theorem read_digits (context : List Frame) (state : State) (ready : ValueReady state context)
    (value : Nat) (bounded : value < significandBound) :
    (Nat.toDigits 10 value).foldl State.step state = .inNumber (numberScan value) context := by
  induction value using Nat.strongRecOn with
  | _ value ih =>
    by_cases small : value < 10
    · have dense : isSpace value.digitChar = false ∧ value.digitChar ≠ ']' := by
        interval_cases value <;> decide
      rw [Nat.toDigits_of_lt_base small]
      simp only [List.foldl_cons,List.foldl_nil]
      rw [ready _ dense.1 dense.2,start_digit context value small]
    · have tens := ih (value / 10) (by omega) (by omega)
      rw [Nat.toDigits_of_base_le (by omega) (by omega),List.foldl_append,tens]
      have split : 10 * (value / 10) + value % 10 = value := Nat.div_add_mod ..
      simp only [List.foldl_cons,List.foldl_nil]
      rw [step_digit context (value / 10) (value % 10) (by omega) (by omega) (by omega),split]

theorem endNumber_numberScan (context : List Frame) (value : Nat) :
    (State.inNumber (numberScan value) context).endNumber =
      State.complete (.number ⟨false,value,0,true⟩) context := by
  by_cases zero : value = 0 <;> simp [State.endNumber,numberScan,NumberScan.numeral?,zero]

namespace Value

mutual

def scan : Value → Scan
  | .null => .null
  | .number value => .number ⟨false,value.toNat,0,true⟩
  | .string text => .string text
  | .array items => .array (scanItems items)
  | .object members => .object (scanMembers members)

def scanItems : List Value → Items
  | [] => .closed
  | value :: rest => .item value.scan (scanItems rest)

def scanMembers : List (String × Value) → Members
  | [] => .closed
  | member :: rest => .member (.name member.1) (scanMember member) (scanMembers rest)

def scanMember : String × Value → Scan
  | (_,value) => value.scan

end

mutual

/-- A value that is written where one is due is complete, but for the character
that ends a number. -/
private theorem scanned_appendTo (value : Value) (written : String) (context : List Frame)
    (ready : ValueReady (scanned written) context) :
    (scanned (value.appendTo written)).endNumber = State.complete value.scan context := by
  cases value with
  | null =>
    have first := ready 'n' (by decide) (by decide)
    have word : scanned (written ++ "null") = State.complete .null context := by
      rw [scanned_append]
      change State.step (State.step (State.step (State.step (scanned written) 'n') 'u') 'l') 'l' = _
      rw [first]
      rfl
    rw [appendTo,word,endNumber_complete,scan]
  | number value =>
    have digits := read_digits context (scanned written) ready value.toNat value.toNat_lt
    rw [appendTo,scanned_append,Nat.toString_eq_repr,Nat.toList_repr,digits,scan]
    exact endNumber_numberScan context value.toNat
  | string text =>
    have first := ready '"' (by decide) (by decide)
    rw [appendTo,scanned_quoted written text (.value context) first]
    exact endNumber_complete (.string text) context
  | array items =>
    have opened : scanned (written.push '[') = .firstItem context := by
      rw [scanned_push,ready '[' (by decide) (by decide)]
      rfl
    rw [appendTo,scan]
    cases items with
    | nil =>
      rw [appendItems,scanned_push,opened]
      exact endNumber_complete (.array .closed) context
    | cons value rest =>
      have first := scanned_appendTo value (written.push '[') (.item [] :: context)
        (opened ▸ ready_firstItem context)
      have closed := scanned_appendItems rest _ [value.scan] context first
      rw [appendItems,if_pos rfl,closed]
      exact endNumber_complete _ context
  | object members =>
    have opened : scanned (written.push '{') = .firstKey context := by
      rw [scanned_push,ready '{' (by decide) (by decide)]
      rfl
    rw [appendTo,scan]
    cases members with
    | nil =>
      rw [appendMembers,scanned_push,opened]
      exact endNumber_complete (.object .closed) context
    | cons member rest =>
      have first := scanned_appendMember member (written.push '{') [] context (by rw [opened]; rfl)
      have closed := scanned_appendMembers rest _ _ context first
      rw [appendMembers,if_pos rfl,closed]
      exact endNumber_complete _ context

private theorem scanned_appendItems (items : List Value) (written : String) (before : List Scan)
    (context : List Frame) (settled : (scanned written).endNumber = .afterItem before context) :
    scanned ((appendItems written false items).push ']') =
      State.complete (.array (.prepend before (scanItems items))) context := by
  cases items with
  | nil =>
    rw [appendItems,scanned_push,step_settled _ _ _ settled (by simp) (by decide)]
    rfl
  | cons value rest =>
    have due : scanned (written.push ',') = .valueDue (.item before :: context) := by
      rw [scanned_push,step_settled _ _ _ settled (by simp) (by decide)]
      rfl
    have next := scanned_appendTo value (written.push ',') (.item before :: context)
      (due ▸ ready_valueDue _)
    rw [appendItems,if_neg Bool.false_ne_true]
    exact scanned_appendItems rest _ (value.scan :: before) context next

private theorem scanned_appendMembers (members : List (String × Value)) (written : String)
    (before : List (Key × Scan)) (context : List Frame)
    (settled : (scanned written).endNumber = .afterMember before context) :
    scanned ((appendMembers written false members).push '}') =
      State.complete (.object (.prepend before (scanMembers members))) context := by
  cases members with
  | nil =>
    rw [appendMembers,scanned_push,step_settled _ _ _ settled (by simp) (by decide)]
    rfl
  | cons member rest =>
    have due : scanned (written.push ',') = .keyDue before context := by
      rw [scanned_push,step_settled _ _ _ settled (by simp) (by decide)]
      rfl
    have next := scanned_appendMember member (written.push ',') before context (by rw [due]; rfl)
    rw [appendMembers,if_neg Bool.false_ne_true]
    exact scanned_appendMembers rest _ _ context next

private theorem scanned_appendMember (member : String × Value) (written : String)
    (before : List (Key × Scan)) (context : List Frame)
    (opens : (scanned written).step '"' = .inString {} (.key before context)) :
    (scanned (appendMember written member)).endNumber =
      .afterMember ((.name member.1,scanMember member) :: before) context := by
  obtain ⟨key,value⟩ := member
  have named := scanned_quoted written key (.key before context) opens
  have due : scanned ((appendQuoted written key).push ':') =
      .valueDue (.member before (.name key) :: context) := by
    rw [scanned_push,named]
    rfl
  exact scanned_appendTo value _ (.member before (.name key) :: context) (due ▸ ready_valueDue _)

end

/-- The text of a value is scanned as the value, with nothing after it. -/
theorem ofText_render (value : Value) : Document.ofText value.render = ⟨value.scan,false⟩ := by
  have whole := scanned_appendTo value "" [] (ready_valueDue [])
  unfold Document.ofText State.finish
  change (scanned value.render).endNumber.endToken = _
  rw [render,whole]
  rfl

theorem read_render {α : Type} (value : Value) (reader : Scan → Read α) :
    (Document.ofText value.render).read reader = reader value.scan := by
  rw [ofText_render,Document.read]
  cases reader value.scan <;> rfl

theorem readOffset_scan (value : UInt64) : (Value.number value).scan.readOffset = .ok value := by
  rw [scan,Scan.readOffset]
  simp [Numeral.number,pure,Except.pure]

end Value

theorem Read.bind_ok {α β : Type} {read : Read α} {content : α} (reads : read = .ok content)
    (next : α → Read β) : (read >>= next) = next content := by
  rw [reads]
  rfl

/-- Members that are read one after another, each by the field of its name, take
one draft to another. -/
inductive RecordField.Carries {δ : Type} (fields : List (RecordField δ)) :
    List (String × Value) → δ → δ → Prop
  | done (draft : δ) : Carries fields [] draft draft
  | member {name : String} {value : Value} {rest : List (String × Value)} {draft next last : δ}
      (field : RecordField δ) (found : fields.find? (·.name == name) = some field)
      (unset : field.isSet draft = false) (read : field.read value.scan draft = .ok next)
      (onward : Carries fields rest next last) : Carries fields ((name,value) :: rest) draft last

theorem RecordField.carries_append {δ : Type} {fields : List (RecordField δ)}
    {first rest : List (String × Value)} {draft next last : δ}
    (carries : Carries fields first draft next) (onward : Carries fields rest next last) :
    Carries fields (first ++ rest) draft last := by
  induction carries with
  | done draft => exact onward
  | member field found unset read _ ih => exact .member field found unset read (ih onward)

/-- A member that may be left out, with what the draft is for each content. -/
theorem RecordField.carries_optional {δ α : Type} (fields : List (RecordField δ)) (name : String)
    (write : α → Value) (draft : Option α → δ) (content : Option α)
    (carries : ∀ held, Carries fields [(name,write held)] (draft none) (draft (some held))) :
    Carries fields (content.map fun held => (name,write held)).toList (draft none)
      (draft content) := by
  cases content with
  | none => exact .done _
  | some held => exact carries held

theorem RecordField.readMembers_carries {δ : Type} {fields : List (RecordField δ)}
    {members : List (String × Value)} {draft last : δ}
    (carries : Carries fields members draft last) :
    readMembers fields (Value.scanMembers members) draft = .ok last := by
  induction carries with
  | done draft => rfl
  | @member name value rest draft next last field found unset read _ ih =>
    have named : (Key.name name).read = .ok name := rfl
    rw [Value.scanMembers,readMembers,named,Read.bind_ok rfl,found]
    simp only [unset,Bool.false_eq_true,if_false,Value.scanMember]
    rw [Read.bind_ok read,ih]

theorem Items.readAll_scanItems {α : Type} (write : α → Value) (reader : Scan → Read α)
    (reads : ∀ value, reader (write value).scan = .ok value) (values : List α) :
    (Value.scanItems (values.map write)).readAll reader = .ok values := by
  induction values with
  | nil => rfl
  | cons value rest ih =>
    rw [List.map_cons,Value.scanItems,readAll,reads,ih]
    rfl

/-- Every value is read back from its text, with nothing left over, and no two
values have the same text. -/
structure Lossless {α : Type} (write : α → Value) (read : Scan → Read α) : Prop where
  back : ∀ value, (Document.ofText (write value).render).read read = .ok value
  apart : ∀ left right, (write left).render = (write right).render → left = right

theorem lossless_of_scan {α : Type} (write : α → Value) (read : Scan → Read α)
    (reads : ∀ value, read (write value).scan = .ok value) : Lossless write read := by
  have back (value : α) : (Document.ofText (write value).render).read read = .ok value := by
    rw [Value.read_render,reads]
  refine ⟨back,?_⟩
  intro left right same
  have first := back left
  rw [same,back right] at first
  exact (Except.ok.inj first).symm

end DartTree.Json
