import Handoff.Message.Text
import Handoff.Proofs.Json.Objects

/-!
# Messages in texts

The text of a message holds the message, whatever its parts are. So does every other object with one
member of the same name whose value lists the same bytes, with any blanks and among any other
members. An object with two such members holds no message.
-/
namespace Handoff.Message

open Json (Exact Holds IsByte IsListOf IsValue Reads Repeats)

variable {m : Message} {text : List Char}

/-- How the parts of a message are written in the value of its member. -/
def WritesParts (parts : List Bytes) (value : List Char) : Prop :=
  IsListOf (IsListOf IsByte) parts value

theorem isValue_part (part : Bytes) (s : List Char) (h : IsListOf IsByte part s) : IsValue s :=
  h.isValue fun _ _ hx => hx.isValue

theorem writesParts_bare (parts : List Bytes) :
    WritesParts parts (bracketed (parts.map partText)) := by
  have hpart : ∀ part, IsListOf IsByte part (partText part) :=
    Json.isListOf_bare (P := IsByte) fun _ => rfl
  exact Json.isListOf_bare hpart parts

/-- The text of a message is the barest of those that hold it. -/
theorem holds_toText (m : Message) : Holds fieldName (WritesParts m.parts) m.toText :=
  Json.holds_bare ((writesParts_bare m.parts).isValue isValue_part) (writesParts_bare m.parts)

theorem ofText?_of_holds (h : Holds fieldName (WritesParts m.parts) text) :
    ofText? text = .ok m := by
  have hreads : Reads (Json.readList (Json.readList Json.readByte)) WritesParts :=
    (Json.reads_byte.list fun _ _ hx => hx.isValue).list isValue_part
  obtain ⟨rest, hrest, hrecord⟩ := Json.readRecord_holds none hreads h
  have hread : read text = .ok (m, rest) := by simp only [read, hrecord]
  exact Json.readAll_of_blanks hread hrest

theorem ofText?_of_repeats (h : Repeats fieldName text) : ∃ f, ofText? text = .error f := by
  have hexact : Exact (Json.readList (Json.readList Json.readByte)) := Json.exact_byte.list.list
  obtain ⟨f, hrecord⟩ := Json.readRecord_repeats none hexact h
  exact ⟨f, by simp only [ofText?, Json.readAll, read, hrecord]⟩

/-- A message comes back from its own text and from every other that holds its parts once, and from
no text with a second member for them. -/
theorem ofText?_texts (m : Message) : ofText? m.toText = .ok m ∧
    (∀ text, Holds fieldName (WritesParts m.parts) text → ofText? text = .ok m) ∧
      ∀ text, Repeats fieldName text → ∃ f, ofText? text = .error f :=
  ⟨ofText?_of_holds (holds_toText m), fun _ h => ofText?_of_holds h,
    fun _ h => ofText?_of_repeats h⟩

/-- One text with an escape in the name, blanks and another member, and one with a second member of
the name. -/
theorem ofText?_texts_members :
    ofText? "\x7b\"a\":[ ],\"p\\u0061rts\" : [[7 ,255],[]]\x7d".toList = .ok ⟨[[7, 255], []]⟩ ∧
      ∃ f, ofText? "\x7b\"parts\":[ ],\"parts\":[ ]\x7d".toList = .error f := by
  have hempty : IsValue "[ ]".toList := .emptyList (b := [' ']) (by decide)
  constructor
  · let other : Json.Member := ⟨[], Json.quote ['a'], [], [], "[ ]".toList, []⟩
    let p : Json.Member := ⟨[], Json.quoted "p\\u0061rts".toList, [' '], [' '],
      "[[7 ,255],[]]".toList, []⟩
    have hname : Json.Writes fieldName p.name := by
      have ha : Json.HexQuad 'a'.toNat ['0', '0', '6', '1'] :=
        .digits (.lower (v := 0) (by decide)) (.lower (v := 0) (by decide))
          (.lower (v := 6) (by decide)) (.lower (v := 1) (by decide))
      exact ⟨_, .cons (.plain (by decide)) (.cons (.hex ha) (.cons (.plain (by decide))
        (.cons (.plain (by decide)) (.cons (.plain (by decide)) .nil)))), rfl⟩
    have hbytes : IsListOf IsByte [7, 255] "[7 ,255]".toList :=
      @IsListOf.items _ _ [(7, ⟨[], ['7'], [' ']⟩), (255, ⟨[], ['2', '5', '5'], []⟩)] (by simp)
        (by decide)
    have hparts : WritesParts [[7, 255], []] p.value :=
      @IsListOf.items _ _ [([7, 255], ⟨[], "[7 ,255]".toList, []⟩), ([], ⟨[], "[]".toList, []⟩)]
        (by simp) (List.forall_mem_cons.mpr ⟨⟨by decide, hbytes⟩,
          List.forall_mem_singleton.mpr ⟨by decide, .empty .nil⟩⟩)
    have hother : other.Other fieldName :=
      ⟨['a'], by decide, ⟨⟨.nil, .nil, .nil, .nil⟩, Json.writes_quote ['a'], hempty⟩⟩
    have hp : p.Named fieldName :=
      ⟨⟨.nil, by decide, by decide, .nil⟩, hname, hparts.isValue isValue_part⟩
    have hobject := @Json.IsObject.members [] [] [other, p] .nil (by simp) .nil
    exact (ofText?_texts ⟨[[7, 255], []]⟩).2.1 _
      (@Holds.among _ _ [other] [] p _ hobject (List.forall_mem_singleton.mpr hother) hp hparts)
  · let p : Json.Member := ⟨[], Json.quote fieldName, [], [], "[ ]".toList, []⟩
    have hp : p.Named fieldName :=
      ⟨⟨.nil, .nil, .nil, .nil⟩, Json.writes_quote fieldName, hempty⟩
    have hobject := @Json.IsObject.members [] [] [p, p] .nil (by simp) .nil
    exact (ofText?_texts ⟨[]⟩).2.2 _
      (@Repeats.twice _ [] [] [] p p _ hobject (List.forall_mem_nil _) hp hp)

end Handoff.Message
