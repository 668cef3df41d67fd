import DartTree.Proofs.Json.Grammar
import DartTree.Proofs.Json.ReadBack
import Mathlib.Data.List.Forall2

/-! The scanner takes whatever the grammar derives. Each form is read from where
a value is due to where it is complete, wherever in a text that is: first words,
strings and numbers, then arrays and objects from what is known of their parts. -/
namespace DartTree.Json

def Idle (state : State) : Prop := ∀ char, isSpace char = true → state.step char = state

private theorem isSpace_of_mem (char : Char) (listed : char ∈ [' ','\n','\t','\r']) :
    isSpace char = true := by
  simpa [isSpace,or_assoc] using listed

private theorem endsNumber_of_isSpace (char : Char) (space : isSpace char = true) :
    endsNumber char = true := by
  simp only [isSpace,Bool.or_eq_true,decide_eq_true_eq] at space
  rcases space with ((rfl | rfl) | rfl) | rfl <;> rfl

private theorem foldl_blank (state : State) (gap : List Char) (idle : Idle state)
    (blank : Blank gap) :
    gap.foldl State.step state = state := by
  induction gap with
  | nil => rfl
  | cons char rest ih =>
    obtain ⟨space,others⟩ := List.forall_mem_cons.mp blank
    rw [List.foldl_cons,idle char (isSpace_of_mem char space),ih others]

private theorem complete_alive (value : Scan) (context : List Frame) (stuck : Scan) :
    State.complete value context ≠ .stuck stuck := by
  rcases context with _ | ⟨_ | _,_⟩ <;> exact nofun

private theorem idle_complete (value : Scan) (context : List Frame) :
    ∀ char, isSpace char = true →
      (State.complete value context).stepToken char = State.complete value context := by
  intro char space
  rcases context with _ | ⟨_ | _,_⟩ <;> simp [State.complete,State.stepToken,space]

/-- Blanks after a value end it, if it is a number, and change nothing else. -/
private theorem settled_blank (state : State) (value : Scan) (context : List Frame)
    (gap : List Char) (settled : state.endNumber = State.complete value context) (blank : Blank gap)
    :
    (gap.foldl State.step state).endNumber = State.complete value context := by
  induction gap generalizing state with
  | nil => exact settled
  | cons char rest ih =>
    obtain ⟨listed,others⟩ := List.forall_mem_cons.mp blank
    have space := isSpace_of_mem char listed
    have first : state.step char = State.complete value context := by
      rw [step_settled state _ char settled (complete_alive value context)
        (endsNumber_of_isSpace char space)]
      exact idle_complete value context char space
    rw [List.foldl_cons,first]
    exact ih _ (endNumber_complete value context) others

/-- A text that is read where a value is due is complete, but for the character
that ends a number. -/
def Completes (text : List Char) (value : Scan) : Prop :=
  ∀ state context, ValueReady state context →
    (text.foldl State.step state).endNumber = State.complete value context

structure Waits (state : State) (context : List Frame) : Prop where
  idle : Idle state
  ready : ValueReady state context

private theorem waits_valueDue (context : List Frame) : Waits (.valueDue context) context := by
  refine ⟨?_,ready_valueDue context⟩
  intro char space
  simp [State.step,State.stepToken,space]

private theorem waits_firstItem (context : List Frame) :
    Waits (.firstItem context) (.item [] :: context) := by
  refine ⟨?_,ready_firstItem context⟩
  intro char space
  simp [State.step,State.stepToken,space]

def Fills (text : List Char) (value : Scan) : Prop :=
  ∀ state context, Waits state context →
    (text.foldl State.step state).endNumber = State.complete value context

theorem Item.fills (item : Item) (value : Scan) (completes : Completes item.value value) :
    Fills item.text value := by
  intro state context waits
  rw [text,List.foldl_append,List.foldl_append,foldl_blank state _ waits.idle item.blankBefore]
  exact settled_blank _ value context _ (completes state context waits.ready) item.blankAfter

theorem completes_null : Completes ['n','u','l','l'] .null := by
  intro state context ready
  rw [List.foldl_cons,ready 'n' (by decide) (by decide)]
  exact endNumber_complete .null context

private theorem completes_word (text : List Char) (listed : text ∈ words) :
    ∃ value, value.skip = .ok () ∧ Completes text value := by
  simp only [words,List.mem_cons,List.not_mem_nil,or_false] at listed
  rcases listed with rfl | rfl | rfl
  · exact ⟨.null,rfl,completes_null⟩
  · refine ⟨.bool true,rfl,?_⟩
    intro state context ready
    rw [List.foldl_cons,ready 't' (by decide) (by decide)]
    exact endNumber_complete (.bool true) context
  · refine ⟨.bool false,rfl,?_⟩
    intro state context ready
    rw [List.foldl_cons,ready 'f' (by decide) (by decide)]
    exact endNumber_complete (.bool false) context

private theorem hexDigit_value (value : Nat) (char : Char) (digit : HexDigit value char) :
    hexValue? char = some value ∧ char.utf8Size = 1 := by
  have small : value < 16 := by
    rcases digit with found | found <;> exact (List.getElem?_eq_some_iff.mp found).1
  unfold HexDigit at digit
  interval_cases value <;> simp at digit <;> rcases digit with rfl | rfl <;> decide

private theorem pushUnit_phase (scan : StringScan) (phase : StringPhase) (unit : Nat) :
    StringScan.pushUnit { scan with phase := phase } unit = scan.pushUnit unit := by
  obtain ⟨text,_,high,paired⟩ := scan
  cases high <;> rfl

private theorem pushUnit_plain (scan : StringScan) (unit : Nat) :
    (scan.pushUnit unit).phase = .plain := by
  unfold StringScan.pushUnit
  cases scan.high with
  | some high => dsimp only; split_ifs <;> rfl
  | none => dsimp only; split_ifs <;> rfl

private theorem read_unitEscape (scan : StringScan) (place : Place) (spelled : List Char)
    (unit : Nat) (escape : UnitEscape spelled unit) (plain : scan.phase = .plain) :
    spelled.foldl State.step (.inString scan place) = .inString (scan.pushUnit unit) place := by
  obtain ⟨highest,higher,lower,lowest⟩ := escape
  obtain ⟨first,firstSize⟩ := hexDigit_value _ _ highest
  obtain ⟨second,secondSize⟩ := hexDigit_value _ _ higher
  obtain ⟨third,thirdSize⟩ := hexDigit_value _ _ lower
  obtain ⟨fourth,fourthSize⟩ := hexDigit_value _ _ lowest
  simp [State.step,State.stepToken,StringScan.step,StringScan.hexStep,plain,first,firstSize,second,
    secondSize,third,thirdSize,fourth,fourthSize,pushUnit_phase]

private theorem shortEscape_meant (mark char : Char) (listed : (mark,char) ∈ shortEscapes) :
    mark ≠ 'u' ∧ escaped? mark = some char := by
  have each : ∀ row ∈ shortEscapes, row.1 ≠ 'u' ∧ escaped? row.1 = some row.2 := by decide
  exact each (mark,char) listed

private theorem step_plain (scan : StringScan) (place : Place) (char : Char) (plain : Plain char)
    (outside : scan.phase = .plain) :
    (State.inString scan place).step char = .inString (scan.push char) place := by
  obtain ⟨shown,quote,backslash⟩ := plain
  have visible : ¬char.toNat < 0x20 := by omega
  simp [State.step,State.stepToken,StringScan.step,outside,quote,backslash,visible]

private theorem read_shortEscape (scan : StringScan) (place : Place) (mark char : Char)
    (listed : (mark,char) ∈ shortEscapes) (outside : scan.phase = .plain) :
    ['\\',mark].foldl State.step (.inString scan place) = .inString (scan.push char) place := by
  obtain ⟨apart,meant⟩ := shortEscape_meant mark char listed
  simp [State.step,State.stepToken,StringScan.step,StringScan.push,outside,apart,meant]

private theorem read_letter (spelled : List Char) (char : Char) (letter : Letter spelled char)
    (text : String) (place : Place) :
    spelled.foldl State.step (inText text place) = inText (text.push char) place := by
  cases letter with
  | plain _ plain => exact step_plain { text := text } place char plain rfl
  | short mark _ listed => exact read_shortEscape { text := text } place mark char listed rfl
  | unit _ unit escape single =>
    have apart : isHighSurrogate unit = false ∧ isLowSurrogate unit = false := by
      simp only [isHighSurrogate,isLowSurrogate,Bool.and_eq_false_iff,decide_eq_false_iff_not]
      omega
    rw [inText,read_unitEscape { text := text } place spelled unit escape rfl]
    simp [StringScan.pushUnit,StringScan.push,apart,inText]
  | pair first second high low escape escapeLow isHigh isLow =>
    have leads : isHighSurrogate high = true := by simpa [isHighSurrogate] using isHigh
    have follows : isLowSurrogate low = true := by simpa [isLowSurrogate] using isLow
    have half : StringScan.pushUnit { text := text } high = { text := text,high := some high } := by
      simp [StringScan.pushUnit,leads]
    rw [List.foldl_append,inText,read_unitEscape { text := text } place first high escape rfl,half,
      read_unitEscape _ place second low escapeLow rfl]
    simp [StringScan.pushUnit,follows,inText,ofSurrogates]

private theorem read_letters (spelled text : List Char) (letters : Letters spelled text)
    (read : String) (place : Place) :
    spelled.foldl State.step (inText read place) = inText (text.foldl String.push read) place := by
  induction letters generalizing read with
  | nil => rfl
  | cons letter others ih => rw [List.foldl_append,read_letter _ _ letter,ih,List.foldl_cons]

private theorem read_quoted (text : String) (spelled : List Char) (quoted : Quoted text spelled)
    (state : State) (place : Place) (opens : state.step '"' = .inString {} place) :
    spelled.foldl State.step state = State.completeString (some text) place := by
  obtain ⟨inside,letters,rfl⟩ := quoted
  have whole : text.toList.foldl String.push "" = text := by
    apply String.toList_inj.mp
    simp [pushAll_toList]
  rw [List.cons_append,List.foldl_cons,List.foldl_append,opens]
  have contents := read_letters inside text.toList letters "" place
  rw [whole] at contents
  change List.foldl State.step (inside.foldl State.step (inText "" place)) ['"'] = _
  rw [contents]
  rfl

theorem completes_quoted (text : String) (spelled : List Char) (quoted : Quoted text spelled) :
    Completes spelled (.string text) := by
  intro state context ready
  rw [read_quoted text spelled quoted state (.value context) (ready '"' (by decide) (by decide))]
  exact endNumber_complete (.string text) context

private theorem read_symbols (inside : List Char) (symbols : Symbols inside) (scan : StringScan)
    (outside : scan.phase = .plain) :
    ∃ after : StringScan, after.phase = .plain ∧
      ∀ place, inside.foldl State.step (.inString scan place) = .inString after place := by
  induction symbols generalizing scan with
  | nil => exact ⟨scan,outside,fun _ => rfl⟩
  | @plain char rest plain others ih =>
    obtain ⟨after,ends,read⟩ := ih (scan.push char) rfl
    refine ⟨after,ends,?_⟩
    intro place
    rw [List.foldl_cons,step_plain scan place char plain outside,read]
  | @short mark char rest listed others ih =>
    obtain ⟨after,ends,read⟩ := ih (scan.push char) rfl
    refine ⟨after,ends,?_⟩
    intro place
    rw [← read,← read_shortEscape scan place mark char listed outside]
    rfl
  | @unit spelled rest unit escape others ih =>
    obtain ⟨after,ends,read⟩ := ih (scan.pushUnit unit) (pushUnit_plain scan unit)
    refine ⟨after,ends,?_⟩
    intro place
    rw [List.foldl_append,read_unitEscape scan place spelled unit escape outside,read]

/-- A string by the grammar is read to its end, with a text or without. -/
private theorem read_anyString (spelled : List Char) (string : AnyString spelled) :
    ∃ text, ∀ state place, state.step '"' = .inString {} place →
      spelled.foldl State.step state = State.completeString text place := by
  obtain ⟨inside,symbols,rfl⟩ := string
  obtain ⟨after,outside,read⟩ := read_symbols inside symbols {} rfl
  refine ⟨after.text?,?_⟩
  intro state place opens
  rw [List.cons_append,List.foldl_cons,List.foldl_append,opens,read]
  simp [State.step,State.stepToken,StringScan.step,outside]

private theorem completes_string (spelled : List Char) (string : AnyString spelled) :
    ∃ value, value.skip = .ok () ∧ Completes spelled value := by
  obtain ⟨text,read⟩ := read_anyString spelled string
  refine ⟨(text.map Scan.string).getD .unpaired,by cases text <;> rfl,?_⟩
  intro state context ready
  rw [read state (.value context) (ready '"' (by decide) (by decide))]
  exact endNumber_complete _ context

def InNumber (phases : List NumberPhase) (text : List Char) : Prop :=
  ∃ scan, scan.phase ∈ phases ∧ ∀ state context, ValueReady state context →
    text.foldl State.step state = .inNumber scan context

private theorem inNumber_more (phases more : List NumberPhase) (text : List Char)
    (under : InNumber phases text) (included : phases ⊆ more) : InNumber more text := by
  obtain ⟨scan,phase,read⟩ := under
  exact ⟨scan,included phase,read⟩

private theorem inNumber_step (phases next : List NumberPhase) (text : List Char) (char : Char)
    (under : InNumber phases text) (goes : ∀ scan : NumberScan, scan.phase ∈ phases →
      ∃ after, scan.step char = .more after ∧ after.phase ∈ next) :
    InNumber next (text ++ [char]) := by
  obtain ⟨scan,phase,read⟩ := under
  obtain ⟨after,step,reached⟩ := goes scan phase
  refine ⟨after,reached,?_⟩
  intro state context ready
  rw [List.foldl_append,read state context ready]
  simp only [List.foldl_cons,List.foldl_nil,State.step,step]

private theorem integerDigit_phase (scan : NumberScan) (digit : Nat) :
    (scan.integerDigit digit).phase = .integer := by
  unfold NumberScan.integerDigit
  split_ifs <;> rfl

private theorem fractionDigit_phase (scan : NumberScan) (digit : Nat) :
    (scan.fractionDigit digit).phase = .fraction := by
  unfold NumberScan.fractionDigit
  split_ifs <;> rfl

private theorem inNumber_digits (phase : NumberPhase) (text digits : List Char)
    (each : Digits digits) (under : InNumber [phase] text)
    (counts : phase ∈ [NumberPhase.integer,.fraction,.power]) :
    InNumber [phase] (text ++ digits) := by
  induction digits generalizing text with
  | nil => rwa [List.append_nil]
  | cons char rest ih =>
    obtain ⟨digit,others⟩ := List.forall_mem_cons.mp each
    rw [List.append_cons]
    refine ih (text ++ [char]) others (inNumber_step [phase] [phase] text char under ?_)
    intro scan within
    have same : scan.phase = phase := by simpa using within
    simp only [List.mem_cons,List.not_mem_nil,or_false] at counts
    rcases counts with rfl | rfl | rfl <;>
      simp [NumberScan.step,same,digit,integerDigit_phase,fractionDigit_phase,
        NumberScan.powerDigit]

private theorem digit_dense (char : Char) (digit : char.isDigit = true) :
    isSpace char = false ∧ char ≠ ']' ∧ char ≠ '"' ∧ char ≠ '-' ∧ char ≠ '+' := by
  refine ⟨?_,?_,?_,?_,?_⟩
  · by_contra space
    simp only [isSpace,Bool.not_eq_false,Bool.or_eq_true,decide_eq_true_eq] at space
    rcases space with ((rfl | rfl) | rfl) | rfl <;> exact absurd digit (by decide)
  all_goals rintro rfl; exact absurd digit (by decide)

private theorem inNumber_minus : InNumber [.sign] ['-'] := by
  refine ⟨{ phase := .sign,negative := true },List.mem_singleton.mpr rfl,?_⟩
  intro state context ready
  exact ready '-' (by decide) (by decide)

private theorem inNumber_integer (sign integer : List Char) (signs : sign ∈ [[],['-']])
    (part : IntegerPart integer) : InNumber [.zero,.integer] (sign ++ integer) := by
  simp only [List.mem_cons,List.not_mem_nil,or_false] at signs
  cases part with
  | zero =>
    rcases signs with rfl | rfl
    · refine ⟨{ phase := .zero },by simp,?_⟩
      intro state context ready
      exact ready '0' (by decide) (by decide)
    · refine inNumber_step [.sign] _ ['-'] '0' inNumber_minus ?_
      intro scan within
      have same : scan.phase = .sign := by simpa using within
      simp [NumberScan.step,same]
  | digits first rest digit nonzero digits =>
    have begun : InNumber [.integer] (sign ++ [first]) := by
      rcases signs with rfl | rfl
      · refine ⟨{ phase := .integer,significand := NumberScan.digitValue first },by simp,?_⟩
        intro state context ready
        obtain ⟨dense,inner,quote,negative,-⟩ := digit_dense first digit
        simp [ready first dense inner,State.start,quote,negative,nonzero,digit]
      · refine inNumber_step [.sign] _ ['-'] first inNumber_minus ?_
        intro scan within
        have same : scan.phase = .sign := by simpa using within
        simp [NumberScan.step,same,nonzero,digit,integerDigit_phase]
    rw [List.append_cons]
    refine inNumber_more [.integer] _ _ ?_ (by simp)
    exact inNumber_digits .integer _ rest digits begun (by simp)

private theorem inNumber_fraction (text fraction : List Char) (part : FractionPart fraction)
    (under : InNumber [.zero,.integer] text) :
    InNumber [.zero,.integer,.fraction] (text ++ fraction) := by
  cases part with
  | absent =>
    rw [List.append_nil]
    exact inNumber_more _ _ text under (by simp)
  | digits first rest digit digits =>
    have pointed : InNumber [.point] (text ++ ['.']) := by
      refine inNumber_step _ _ text '.' under ?_
      intro scan within
      simp only [List.mem_cons,List.not_mem_nil,or_false] at within
      rcases within with same | same <;> simp [NumberScan.step,NumberScan.afterInteger,same]
    have begun : InNumber [.fraction] (text ++ ['.'] ++ [first]) := by
      refine inNumber_step _ _ _ first pointed ?_
      intro scan within
      have same : scan.phase = .point := by simpa using within
      simp [NumberScan.step,same,digit,fractionDigit_phase]
    rw [List.append_cons,List.append_cons]
    refine inNumber_more [.fraction] _ _ ?_ (by simp)
    exact inNumber_digits .fraction _ rest digits begun (by simp)

private theorem inNumber_exponent (text exponent : List Char) (part : ExponentPart exponent)
    (under : InNumber [.zero,.integer,.fraction] text) :
    InNumber [.zero,.integer,.fraction,.power] (text ++ exponent) := by
  cases part with
  | absent =>
    rw [List.append_nil]
    exact inNumber_more _ _ text under (by simp)
  | digits mark sign first rest marks signs digit digits =>
    have marked : InNumber [.mark] (text ++ [mark]) := by
      refine inNumber_step _ _ text mark under ?_
      intro scan within
      simp only [List.mem_cons,List.not_mem_nil,or_false] at within marks
      rcases marks with rfl | rfl <;> rcases within with same | same | same <;>
        simp [NumberScan.step,NumberScan.afterInteger,same]
    have signed : InNumber [.mark,.markSign] (text ++ [mark] ++ sign) := by
      simp only [List.mem_cons,List.not_mem_nil,or_false] at signs
      rcases signs with rfl | rfl | rfl
      · rw [List.append_nil]
        exact inNumber_more _ _ _ marked (by simp)
      all_goals
        refine inNumber_step _ _ _ _ marked ?_
        intro scan within
        have same : scan.phase = .mark := by simpa using within
        simp [NumberScan.step,same]
    have begun : InNumber [.power] (text ++ [mark] ++ sign ++ [first]) := by
      refine inNumber_step _ _ _ first signed ?_
      obtain ⟨-,-,-,negative,positive⟩ := digit_dense first digit
      intro scan within
      simp only [List.mem_cons,List.not_mem_nil,or_false] at within
      rcases within with same | same <;>
        simp [NumberScan.step,same,digit,negative,positive,NumberScan.powerDigit]
    have whole : text ++ (mark :: sign ++ first :: rest) =
        text ++ [mark] ++ sign ++ [first] ++ rest := by simp
    rw [whole]
    refine inNumber_more [.power] _ _ ?_ (by simp)
    exact inNumber_digits .power _ rest digits begun (by simp)

private theorem completes_number (text : List Char) (number : AnyNumber text) :
    ∃ value, value.skip = .ok () ∧ Completes text value := by
  obtain ⟨sign,integer,fraction,exponent,signs,whole,part,power,rfl⟩ := number
  obtain ⟨scan,phase,read⟩ := inNumber_exponent _ exponent power
    (inNumber_fraction _ fraction part (inNumber_integer sign integer signs whole))
  have complete : ∃ numeral, scan.numeral? = some numeral := by
    simp only [List.mem_cons,List.not_mem_nil,or_false] at phase
    rcases phase with same | same | same | same <;> simp [NumberScan.numeral?,same]
  obtain ⟨numeral,complete⟩ := complete
  refine ⟨.number numeral,rfl,?_⟩
  intro state context ready
  rw [read state context ready,State.endNumber,complete]

theorem completes_digits (value : UInt64) :
    Completes (Nat.toDigits 10 value.toNat) (.number ⟨false,value.toNat,0,true⟩) := by
  intro state context ready
  rw [read_digits context state ready value.toNat value.toNat_lt]
  exact endNumber_numberScan context value.toNat

private theorem intercalate_comma (first : List Char) (rest : List (List Char)) :
    [','].intercalate (first :: rest) = first ++ rest.flatMap (',' :: ·) := by
  induction rest generalizing first with
  | nil => simp [List.intercalate]
  | cons second rest ih =>
    rw [List.intercalate_cons_cons,ih,List.flatMap_cons]
    simp

structure AwaitsKey (state : State) (before : List (Key × Scan)) (context : List Frame) : Prop where
  idle : Idle state
  opens : state.step '"' = .inString {} (.key before context)

private theorem awaitsKey_firstKey (context : List Frame) :
    AwaitsKey (.firstKey context) [] context := by
  refine ⟨?_,rfl⟩
  intro char space
  simp [State.step,State.stepToken,space]

private theorem awaitsKey_keyDue (before : List (Key × Scan)) (context : List Frame) :
    AwaitsKey (.keyDue before context) before context := by
  refine ⟨?_,rfl⟩
  intro char space
  simp [State.step,State.stepToken,space]

def Joins (text : List Char) (member : Key × Scan) : Prop :=
  ∀ state before context, AwaitsKey state before context →
    (text.foldl State.step state).endNumber = .afterMember (member :: before) context

def Names (text : List Char) (key : Key) : Prop :=
  ∀ state before context, state.step '"' = .inString {} (.key before context) →
    text.foldl State.step state = .colonDue before key context

theorem names_quoted (name : String) (spelled : List Char) (quoted : Quoted name spelled) :
    Names spelled (.name name) := by
  intro state before context opens
  rw [read_quoted name spelled quoted state (.key before context) opens]
  rfl

private theorem names_anyString (spelled : List Char) (string : AnyString spelled) :
    ∃ key, key.skip = .ok () ∧ Names spelled key := by
  obtain ⟨text,read⟩ := read_anyString spelled string
  refine ⟨(text.map Key.name).getD .unpaired,by cases text <;> rfl,?_⟩
  intro state before context opens
  exact read state (.key before context) opens

private theorem idle_colonDue (before : List (Key × Scan)) (key : Key) (context : List Frame) :
    Idle (.colonDue before key context) := by
  intro char space
  simp [State.step,State.stepToken,space]

theorem Entry.joins (entry : Entry) (key : Key) (value : Scan) (named : Names entry.key key)
    (completes : Completes entry.item.value value) : Joins entry.text (key,value) := by
  intro state before context awaits
  have colon : (State.colonDue before key context).step ':' =
      .valueDue (.member before key :: context) := rfl
  rw [text,List.foldl_append,List.foldl_append,List.foldl_append,List.foldl_cons,
    foldl_blank state _ awaits.idle entry.blankBefore,named state before context awaits.opens,
    foldl_blank _ _ (idle_colonDue before key context) entry.blankBetween,colon]
  exact entry.item.fills value completes _ _ (waits_valueDue (.member before key :: context))

structure Container (α : Type) where
  opening : Char
  closing : Char
  opened : State
  after : List α → State
  due : List α → State
  closed : List α → State
  Reads : List Char → α → Prop
  idle : Idle opened
  ends : endsNumber closing = true
  empty : opened.step closing = closed []
  alive : ∀ before value, after before ≠ .stuck value
  comma : ∀ before, (after before).stepToken ',' = due before
  close : ∀ before, (after before).stepToken closing = closed before
  first : ∀ text part, Reads text part → (text.foldl State.step opened).endNumber = after [part]
  next : ∀ text part before, Reads text part →
    (text.foldl State.step (due before)).endNumber = after (part :: before)

namespace Container
variable {α : Type}

private theorem read_rest (container : Container α) (texts : List (List Char)) (parts : List α)
    (reads : List.Forall₂ container.Reads texts parts) (state : State) (before : List α)
    (settled : state.endNumber = container.after before) :
    (texts.flatMap (',' :: ·) ++ [container.closing]).foldl State.step state =
      container.closed (parts.reverse ++ before) := by
  induction reads generalizing state before with
  | nil =>
    rw [List.flatMap_nil,List.nil_append,List.foldl_cons,
      step_settled state _ _ settled (container.alive before) container.ends]
    exact container.close before
  | @cons text part texts parts reads _ ih =>
    have due : state.step ',' = container.due before := by
      rw [step_settled state _ ',' settled (container.alive before) (by decide)]
      exact container.comma before
    -- The part is put in front of those before it, and the rest follows.
    have read := container.next text part before reads
    rw [List.flatMap_cons,List.append_assoc,List.cons_append,List.foldl_cons,List.foldl_append,due,
      ih _ (part :: before) read,List.reverse_cons,List.append_assoc,List.singleton_append]

private theorem read_enclosed (container : Container α) (texts : List (List Char)) (parts : List α)
    (reads : List.Forall₂ container.Reads texts parts) (text : List Char)
    (enclosed : Enclosed container.opening container.closing texts text) (state : State)
    (opens : state.step container.opening = container.opened) :
    text.foldl State.step state = container.closed parts.reverse := by
  cases enclosed with
  | empty gap blank =>
    obtain rfl := List.forall₂_nil_left_iff.mp reads
    rw [List.cons_append,List.foldl_cons,List.foldl_append,opens,
      foldl_blank _ gap container.idle blank]
    exact container.empty
  | parts first rest =>
    obtain ⟨part,others,head,tail,rfl⟩ := List.forall₂_cons_left_iff.mp reads
    have begun := container.first first part head
    rw [intercalate_comma,List.cons_append,List.foldl_cons,List.append_assoc,List.foldl_append,
      opens,container.read_rest rest others tail _ [part] begun,List.reverse_cons]

def array (context : List Frame) : Container Scan where
  opening := '['
  closing := ']'
  opened := .firstItem context
  after before := .afterItem before context
  due before := .valueDue (.item before :: context)
  closed before := State.complete (.array (.prepend before .closed)) context
  Reads := Fills
  idle := (waits_firstItem context).idle
  ends := by decide
  empty := rfl
  alive _ _ := nofun
  comma _ := rfl
  close _ := rfl
  first _ _ fills := fills _ _ (waits_firstItem context)
  next _ _ before fills := fills _ _ (waits_valueDue (.item before :: context))

def object (context : List Frame) : Container (Key × Scan) where
  opening := '{'
  closing := '}'
  opened := .firstKey context
  after before := .afterMember before context
  due before := .keyDue before context
  closed before := State.complete (.object (.prepend before .closed)) context
  Reads := Joins
  idle := (awaitsKey_firstKey context).idle
  ends := by decide
  empty := rfl
  alive _ _ := nofun
  comma _ := rfl
  close _ := rfl
  first _ _ joins := joins _ _ _ (awaitsKey_firstKey context)
  next _ _ before joins := joins _ _ _ (awaitsKey_keyDue before context)

end Container

def Items.ofList (values : List Scan) : Items := values.foldr .item .closed

def Members.ofList (members : List (Key × Scan)) : Members :=
  members.foldr (fun member rest => .member member.1 member.2 rest) .closed

theorem completes_array (texts : List (List Char)) (values : List Scan)
    (filled : List.Forall₂ Fills texts values) (text : List Char)
    (enclosed : Enclosed '[' ']' texts text) : Completes text (.array (.ofList values)) := by
  intro state context ready
  have opens : state.step '[' = .firstItem context := ready '[' (by decide) (by decide)
  have listed : Items.prepend values.reverse .closed = .ofList values := List.foldl_reverse
  rw [(Container.array context).read_enclosed texts values filled text enclosed state opens,
    ← listed]
  exact endNumber_complete _ context

theorem completes_object (texts : List (List Char)) (members : List (Key × Scan))
    (joined : List.Forall₂ Joins texts members) (text : List Char)
    (enclosed : Enclosed '{' '}' texts text) : Completes text (.object (.ofList members)) := by
  intro state context ready
  have opens : state.step '{' = .firstKey context := ready '{' (by decide) (by decide)
  have listed : Members.prepend members.reverse .closed = .ofList members := List.foldl_reverse
  rw [(Container.object context).read_enclosed texts members joined text enclosed state opens,
    ← listed]
  exact endNumber_complete _ context

private theorem skipItems_ofList (values : List Scan)
    (each : ∀ value ∈ values, value.skip = .ok ()) :
    Scan.skipItems (.ofList values) = .ok () := by
  induction values with
  | nil => rfl
  | cons value rest ih =>
    obtain ⟨first,others⟩ := List.forall_mem_cons.mp each
    have after := ih others
    change (do value.skip; Scan.skipItems (.ofList rest)) = _
    rw [first,after]
    rfl

private theorem skipMembers_ofList (members : List (Key × Scan))
    (each : ∀ member ∈ members, member.1.skip = .ok () ∧ member.2.skip = .ok ()) :
    Scan.skipMembers (.ofList members) = .ok () := by
  induction members with
  | nil => rfl
  | cons member rest ih =>
    obtain ⟨⟨named,held⟩,others⟩ := List.forall_mem_cons.mp each
    have after := ih others
    change (do member.1.skip; member.2.skip; Scan.skipMembers (.ofList rest)) = _
    rw [named,held,after]
    rfl

/-- Any text that is a value is read to its end, and can be passed over. -/
theorem completes_any (text : List Char) (any : AnyValue text) :
    ∃ value, value.skip = .ok () ∧ Completes text value := by
  induction any with
  | word text listed => exact completes_word text listed
  | number text number => exact completes_number text number
  | string text string => exact completes_string text string
  | array items text _ enclosed ih =>
    choose! value skips completes using ih
    refine ⟨.array (.ofList (items.map value)),?_,?_⟩
    · exact skipItems_ofList _ (List.forall_mem_map.mpr skips)
    · apply completes_array _ _ _ text enclosed
      rw [List.forall₂_map_left_iff,List.forall₂_map_right_iff,List.forall₂_same]
      exact fun item listed => item.fills _ (completes item listed)
  | object entries text keys _ enclosed ih =>
    have named := fun entry listed => names_anyString (Entry.key entry) (keys entry listed)
    choose! key keySkips names using named
    choose! value skips completes using ih
    refine ⟨.object (.ofList (entries.map fun entry => (key entry,value entry))),?_,?_⟩
    · apply skipMembers_ofList
      rw [List.forall_mem_map]
      exact fun entry listed => ⟨keySkips entry listed,skips entry listed⟩
    · apply completes_object _ _ _ text enclosed
      rw [List.forall₂_map_left_iff,List.forall₂_map_right_iff,List.forall₂_same]
      exact fun entry listed => entry.joins _ _ (names entry listed) (completes entry listed)

/-- A text that is one value with blanks around it. -/
theorem ofText_item (item : Item) (value : Scan) (completes : Completes item.value value) :
    Document.ofText (.ofList item.text) = ⟨value,false⟩ := by
  have read := item.fills value completes _ _ (waits_valueDue [])
  rw [Document.ofText,State.finish,String.toList_ofList,read]
  rfl

end DartTree.Json
