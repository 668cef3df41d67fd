import DartTree.Proofs.Interchange.Objects
import DartTree.Proofs.Json.Scanning

/-! Reading a node's object. The draft after some members is that of the last of
each field among them; an object that is incomplete ends the reading where it
closes, so that the first to close is the one reported. -/
namespace DartTree
open Json

namespace NodeMember

def draft (members : List (NodeMember RawNode)) : RawNode.Draft where
  type := lastOf type? members
  text := (lastOf text? members).join
  start := lastOf start? members
  stop := lastOf stop? members
  children := lastOf children? members

private theorem draft_concat (members : List (NodeMember RawNode)) (member : NodeMember RawNode) :
    draft (members ++ [member]) = {
      type := member.type?.or (draft members).type
      text := (member.text?.or (lastOf text? members)).join
      start := member.start?.or (draft members).start
      stop := member.stop?.or (draft members).stop
      children := member.children?.or (draft members).children } := by
  simp only [draft,lastOf_append,lastOf_singleton]

private theorem draft_finish (members : List (NodeMember RawNode)) :
    (draft members).finish = NodeObject.verdict (missing? members) (collect members) := by
  obtain ⟨types,-,starts,stops,-⟩ := @picks_fields RawNode
  rw [missing?,List.find?_cons,List.find?_cons,List.find?_cons,lastOf_isNone type? "type" types,
    lastOf_isNone start? "startIndex" starts,lastOf_isNone stop? "endIndex" stops,
    RawNode.Draft.finish,draft,collect]
  cases lastOf type? members with
  | none => rfl
  | some type =>
    cases lastOf start? members with
    | none => rfl
    | some start =>
      cases lastOf stop? members with
      | none => rfl
      | some stop => rfl

end NodeMember

namespace NodeObject

private theorem verdict_bind {α β : Type} (first second : Option String) (found : α) (result : β)
    (next : α → Read β) (goes : next found = verdict second result) :
    (verdict first found >>= next) = verdict (first.or second) result := by
  cases first with
  | none => exact goes
  | some field => rfl

private theorem verdict_pure {α β : Type} (missing : Option String) (found : α) (use : α → β) :
    (do return use (← verdict missing found)) = verdict missing (use found) := by
  cases missing <;> rfl

private theorem missing?_saidAll (members : List (NodeMember NodeObject)) :
    NodeMember.missing? (saidAll members) = NodeMember.missing? members := by
  apply NodeMember.missing?_of_keys
  simp only [saidAll_eq_map,List.map_map,Function.comp_def,said_key]

private theorem ofName_other (key : String) (unknown : key ∉ nodeFields) :
    RawNode.Slot.ofName? key = none := by
  rw [RawNode.Slot.ofName?,List.find?_eq_none]
  intro slot listed named
  have same : slot.name = key := by simpa using named
  apply unknown
  rw [← same]
  cases slot <;> decide

private theorem readOffset_digits (offset : Offset) :
    Scan.readOffset (.number ⟨false,offset.toNat,0,true⟩) = .ok offset :=
  Value.readOffset_scan offset

mutual

/-- An object is read as what its members come to. -/
theorem reads (object : NodeObject) (text : List Char) (spelled : object.Spelled text) :
    ∃ value, Completes text value ∧ RawNode.ofJson value = object.outcome := by
  obtain ⟨members⟩ := object
  obtain ⟨entries,within,enclosed⟩ := spelled
  obtain ⟨read,joined,drafted⟩ := reads_within members entries within
  refine ⟨.object (.ofList read),?_,?_⟩
  · exact completes_object _ read (List.forall₂_map_left_iff.mpr joined) text enclosed
  · have finished : (NodeMember.draft (saidAll members)).finish =
        verdict (missing? ⟨members⟩) (node ⟨members⟩) := by
      rw [NodeMember.draft_finish,missing?_saidAll,node]
      rfl
    have start := drafted []
    -- The empty draft is that of no members, and the object itself closes last.
    rw [RawNode.ofJson,outcome,closing,List.findSome?_append,List.findSome?_singleton]
    change (RawNode.readMembers (.ofList read) (NodeMember.draft []) >>= RawNode.Draft.finish) = _
    rw [start]
    exact verdict_bind _ _ _ _ _ finished

private theorem reads_within (members : List (NodeMember NodeObject)) (entries : List Entry)
    (spelled : SpelledWithin members entries) :
    ∃ read, List.Forall₂ (fun entry member => Joins (Entry.text entry) member) entries read ∧
      ∀ done, RawNode.readMembers (.ofList read) (NodeMember.draft done) =
        verdict ((closingWithin members).findSome? missing?)
          (NodeMember.draft (done ++ saidAll members)) := by
  cases members with
  | nil =>
    obtain rfl : entries = [] := spelled
    refine ⟨[],.nil,?_⟩
    intro done
    rw [saidAll,List.append_nil]
    rfl
  | cons member rest =>
    obtain ⟨entry,others,rfl,named,held,within⟩ := spelled
    obtain ⟨value,completes,first⟩ := reads_member member _ held
    obtain ⟨read,joined,after⟩ := reads_within rest others within
    refine ⟨(.name member.key,value) :: read,.cons ?_ joined,?_⟩
    · exact entry.joins _ value (names_quoted member.key entry.key named) completes
    · intro done
      -- With one member more done, its draft is what the rest starts from.
      have next := after (done ++ [said member])
      rw [List.append_assoc,List.singleton_append] at next
      rw [closingWithin,List.findSome?_append,saidAll]
      change (RawNode.readSlot (RawNode.Slot.ofName? member.key) value (NodeMember.draft done) >>=
        RawNode.readMembers (.ofList read)) = _
      rw [first done]
      exact verdict_bind _ _ _ _ _ next

private theorem reads_member (member : NodeMember NodeObject) (text : List Char)
    (held : Holds member text) :
    ∃ value, Completes text value ∧ ∀ done,
      RawNode.readSlot (RawNode.Slot.ofName? member.key) value (NodeMember.draft done) =
        verdict ((closingUnder member).findSome? missing?)
          (NodeMember.draft (done ++ [said member])) := by
  cases member with
  | type name =>
    refine ⟨.string name,completes_quoted name text held,?_⟩
    intro done
    rw [NodeMember.draft_concat]
    rfl
  | text content =>
    cases content with
    | none =>
      obtain rfl : text = ['n','u','l','l'] := held
      refine ⟨.null,?_,?_⟩
      · exact completes_null
      · intro done
        rw [NodeMember.draft_concat]
        rfl
    | some content =>
      refine ⟨.string content,completes_quoted content text held,?_⟩
      intro done
      rw [NodeMember.draft_concat]
      rfl
  | start offset =>
    obtain rfl : text = Nat.toDigits 10 offset.toNat := held
    refine ⟨_,completes_digits offset,?_⟩
    intro done
    rw [NodeMember.draft_concat]
    change (do return { NodeMember.draft done with start := some (← Scan.readOffset _) }) = _
    rw [readOffset_digits]
    rfl
  | stop offset =>
    obtain rfl : text = Nat.toDigits 10 offset.toNat := held
    refine ⟨_,completes_digits offset,?_⟩
    intro done
    rw [NodeMember.draft_concat]
    change (do return { NodeMember.draft done with stop := some (← Scan.readOffset _) }) = _
    rw [readOffset_digits]
    rfl
  | children objects =>
    obtain ⟨items,all,enclosed⟩ := held
    obtain ⟨values,filled,listed⟩ := reads_all objects items all
    refine ⟨.array (.ofList values),?_,?_⟩
    · exact completes_array _ values (List.forall₂_map_left_iff.mpr filled) text enclosed
    · intro done
      rw [NodeMember.draft_concat,closingUnder]
      change (do return { NodeMember.draft done with
        children := some (← RawNode.readAll (.ofList values)) }) = _
      rw [listed]
      exact verdict_pure _ _ _
  | other key unknown =>
    obtain ⟨value,skips,completes⟩ := completes_any text held
    refine ⟨value,completes,?_⟩
    intro done
    rw [NodeMember.draft_concat,NodeMember.key,ofName_other key unknown,RawNode.readSlot]
    simp only [skips]
    rfl

private theorem reads_all (objects : List NodeObject) (items : List Item)
    (spelled : SpelledAll objects items) :
    ∃ values, List.Forall₂ (fun item value => Fills (Item.text item) value) items values ∧
      RawNode.readAll (.ofList values) =
        verdict ((closingAll objects).findSome? missing?) (nodes objects) := by
  cases objects with
  | nil =>
    obtain rfl : items = [] := spelled
    exact ⟨[],.nil,rfl⟩
  | cons object rest =>
    obtain ⟨item,others,rfl,first,all⟩ := spelled
    obtain ⟨value,completes,read⟩ := reads object _ first
    obtain ⟨values,filled,listed⟩ := reads_all rest others all
    refine ⟨value :: values,.cons (item.fills value completes) filled,?_⟩
    rw [closingAll,List.findSome?_append,nodes]
    change (RawNode.ofJson value >>= fun node => RawNode.readAll (.ofList values) >>=
      fun others => pure (node :: others)) = _
    rw [read,listed]
    exact verdict_bind _ _ _ _ _ (verdict_pure _ _ _)

end

theorem read_eq (object : NodeObject) (text : String) (spelled : object.SpelledIn text) :
    (Document.ofText text).read RawNode.ofJson = object.outcome := by
  obtain ⟨item,within,rfl⟩ := spelled
  obtain ⟨value,completes,read⟩ := object.reads item.value within
  rw [ofText_item item value completes,Document.read,read]
  cases object.outcome <;> rfl

end NodeObject

/-- However a node's object is spelled, it is read by its last members: the
result is their node, unless a required field is missing from an object in it,
and then the first such field of the first such object to close is reported. A
result is also that of any text in which members of different keys come in another
order and unknown members are added or left out. -/
theorem RawNode.read_last_members (object : NodeObject) (text : String)
    (spelled : object.SpelledIn text) :
    (Document.ofText text).read ofJson = object.outcome ∧
      ∀ (other : NodeObject) (otherText : String) (node : RawNode),
        Relation.EqvGen NodeObject.Rearranged object other → other.SpelledIn otherText →
        (Document.ofText text).read ofJson = .ok node →
        (Document.ofText otherText).read ofJson = .ok node := by
  have read := object.read_eq text spelled
  refine ⟨read,?_⟩
  intro other otherText node changes otherSpelled result
  rw [read] at result
  rw [other.read_eq otherText otherSpelled]
  exact (object.outcome_rearranged other node changes).mp result

namespace NodeObject

def plainName : NodeObject := ⟨[.type "identifier",.start 4,.stop 9]⟩

def plainNameText : List Char :=
  '{' :: "\"type\":\"identifier\",\"startIndex\":4,\"endIndex\":9".toList ++ ['}']

private theorem plainName_held : Holds (.children [plainName]) ('[' :: plainNameText ++ [']']) := by
  have spelled : plainName.Spelled plainNameText := by
    refine ⟨[.bare "type" (inQuotes "identifier"),.bare "startIndex" ['4'],.bare "endIndex" ['9']],
      ?_,.parts _ _⟩
    exact ⟨_,_,rfl,quoted_inQuotes _ (by decide),quoted_inQuotes _ (by decide),
      _,_,rfl,quoted_inQuotes _ (by decide),rfl,_,_,rfl,quoted_inQuotes _ (by decide),rfl,rfl⟩
  exact ⟨[.bare plainNameText],⟨_,_,rfl,spelled,rfl⟩,.parts _ _⟩

def escapedType : List Char := "\"t\\u0079pe\"".toList

private theorem escapedType_quoted : Quoted "type" escapedType := by
  have escape : UnitEscape ['\\','u','0','0','7','9'] 'y'.toNat :=
    @UnitEscape.mk 0 0 7 9 _ _ _ _ (.inl rfl) (.inl rfl) (.inl rfl) (.inl rfl)
  have middle : Letter ['\\','u','0','0','7','9'] 'y' := .unit _ _ escape (by decide)
  exact ⟨_,.cons (.plain 't' (by decide)) (.cons middle (letters_plain ['p','e'] (by decide))),rfl⟩

def passedOver : List Char := "[1e999,\"\\ud800\"]".toList

private theorem passedOver_anyValue : AnyValue passedOver := by
  have huge : AnyValue "1e999".toList := by
    refine .number _ ⟨[],['1'],[],['e','9','9','9'],by simp,?_,.absent,?_,rfl⟩
    · exact .digits '1' [] (by decide) (by decide) (by simp [Digits])
    · exact .digits 'e' [] '9' ['9','9'] (by simp) (by simp) (by decide) (by simp [Digits])
  have escape : UnitEscape ['\\','u','d','8','0','0'] 0xd800 :=
    @UnitEscape.mk 13 8 0 0 _ _ _ _ (.inl rfl) (.inl rfl) (.inl rfl) (.inl rfl)
  have half : AnyValue "\"\\ud800\"".toList := .string _ ⟨_,.unit escape .nil,rfl⟩
  refine .array [.bare "1e999".toList,.bare "\"\\ud800\"".toList] _ ?_ (.parts _ _)
  exact List.forall_mem_cons.mpr ⟨huge,List.forall_mem_singleton.mpr half⟩

def repeating : NodeObject :=
  ⟨[.start 3,.other "x" (by decide),.type "block",.children [plainName],.stop 9,.text (some "a"),
    .start 4,.text none]⟩

def repeatingText : List Char :=
  '{' :: "\"startIndex\":3,\"x\" : ".toList ++ passedOver ++ ',' :: escapedType ++
    ":\"block\",\"children\":[".toList ++ plainNameText ++
    "],\"endIndex\":9,\"text\":\"a\",\"startIndex\":4,\"text\":null".toList ++ ['}','\n']

def repeatingEntries : List Entry := [
  .bare "startIndex" ['3'],
  ⟨[],inQuotes "x",[' '],⟨[' '],passedOver,[],blank_space,blank_nil⟩,blank_nil,blank_space⟩,
  ⟨[],escapedType,[],.bare (inQuotes "block"),blank_nil,blank_nil⟩,
  .bare "children" ('[' :: plainNameText ++ [']']),
  .bare "endIndex" ['9'],
  .bare "text" (inQuotes "a"),
  .bare "startIndex" ['4'],
  .bare "text" "null".toList]

private theorem repeating_spelled : repeating.SpelledIn (.ofList repeatingText) := by
  refine ⟨⟨[],_,['\n'],blank_nil,blank_newline⟩,⟨repeatingEntries,?_,.parts _ _⟩,
    congrArg String.ofList (by decide +kernel)⟩
  exact ⟨_,_,rfl,quoted_inQuotes _ (by decide),rfl,
    _,_,rfl,quoted_inQuotes _ (by decide),passedOver_anyValue,
    _,_,rfl,escapedType_quoted,quoted_inQuotes _ (by decide),
    _,_,rfl,quoted_inQuotes _ (by decide),plainName_held,
    _,_,rfl,quoted_inQuotes _ (by decide),rfl,
    _,_,rfl,quoted_inQuotes _ (by decide),quoted_inQuotes _ (by decide),
    _,_,rfl,quoted_inQuotes _ (by decide),rfl,
    _,_,rfl,quoted_inQuotes _ (by decide),rfl,rfl⟩

def sorted : NodeObject :=
  ⟨[.type "block",.text (some "a"),.text none,.start 3,.start 4,.stop 9,.children [plainName]]⟩

def sortedText : List Char :=
  '{' :: "\"type\":\"block\",\"text\":\"a\",\"text\":null,".toList ++
    "\"startIndex\":3,\"startIndex\":4,\"endIndex\":9,\"children\":[".toList ++
    plainNameText ++ [']','}']

def sortedEntries : List Entry := [
  .bare "type" (inQuotes "block"),
  .bare "text" (inQuotes "a"),
  .bare "text" "null".toList,
  .bare "startIndex" ['3'],
  .bare "startIndex" ['4'],
  .bare "endIndex" ['9'],
  .bare "children" ('[' :: plainNameText ++ [']'])]

private theorem sorted_spelled : sorted.SpelledIn (.ofList sortedText) := by
  refine ⟨.bare _,⟨sortedEntries,?_,.parts _ _⟩,congrArg String.ofList (by decide +kernel)⟩
  exact ⟨_,_,rfl,quoted_inQuotes _ (by decide),quoted_inQuotes _ (by decide),
    _,_,rfl,quoted_inQuotes _ (by decide),quoted_inQuotes _ (by decide),
    _,_,rfl,quoted_inQuotes _ (by decide),rfl,
    _,_,rfl,quoted_inQuotes _ (by decide),rfl,
    _,_,rfl,quoted_inQuotes _ (by decide),rfl,
    _,_,rfl,quoted_inQuotes _ (by decide),rfl,
    _,_,rfl,quoted_inQuotes _ (by decide),plainName_held,rfl⟩

private theorem filter_unknown (members : List (NodeMember NodeObject)) (key : String)
    (unknown : key ∉ nodeFields) (known : ∀ member ∈ members, member.key ∈ nodeFields) :
    members.filter (·.key = key) = [] := by
  rw [List.filter_eq_nil_iff]
  intro member listed named
  have same : member.key = key := by simpa using named
  exact unknown (same ▸ known member listed)

private theorem repeating_sorted : Relation.EqvGen Rearranged repeating sorted := by
  refine .trans _ _ _ (.rel _ _ (.leaveOut [.start 3] _ "x" _)) (.rel _ _ (.permute _ _ ?_))
  intro key
  by_cases known : key ∈ nodeFields
  · simp only [nodeFields,List.mem_cons,List.not_mem_nil,or_false] at known
    rcases known with rfl | rfl | rfl | rfl | rfl <;> rfl
  · rw [filter_unknown _ key known (by decide),filter_unknown _ key known (by decide)]

end NodeObject

theorem RawNode.repeating_read_as_sorted :
    (Document.ofText (.ofList NodeObject.repeatingText)).read ofJson =
        .ok ⟨"block",none,4,9,[⟨"identifier",none,4,9,[]⟩]⟩ ∧
      (Document.ofText (.ofList NodeObject.sortedText)).read ofJson =
        .ok ⟨"block",none,4,9,[⟨"identifier",none,4,9,[]⟩]⟩ := by
  obtain ⟨read,kept⟩ := read_last_members NodeObject.repeating (.ofList NodeObject.repeatingText)
    NodeObject.repeating_spelled
  have last : NodeObject.repeating.outcome =
      .ok ⟨"block",none,4,9,[⟨"identifier",none,4,9,[]⟩]⟩ := rfl
  have result := read.trans last
  exact ⟨result,kept _ _ _ NodeObject.repeating_sorted NodeObject.sorted_spelled result⟩

end DartTree
