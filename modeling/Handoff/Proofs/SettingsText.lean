import Handoff.Proofs.Json.Objects
import Handoff.Settings.Buffer

/-!
# The choice of a buffer in texts

A choice comes back from its text, whatever characters the type has, and from every other object
with one member of the same name whose value spells the same type, each character as itself or by
any escape that there is for it. Without such a member the default is chosen.
-/
namespace Handoff

namespace Json

/-- Reading a string takes every way of writing it. -/
theorem reads_text : Reads readText Writes := by
  intro s text b rest h hb _
  obtain ⟨t, rfl, hread⟩ := readString_writes h
  have hstart := skipBlank_to (c := '"') hb rfl (t ++ rest)
  simp only [readText, List.cons_append, hstart, hread]

end Json

namespace BufferSettings

open Json (Holds IsValue Lacks)

variable {s : BufferSettings} {text : List Char}

theorem ofText?_of_record {name rest : List Char} (hrest : Json.IsBlanks rest)
    (h : Json.readRecord fieldName Json.readText (some default.typeName.toList) text =
      .ok (name, rest)) : ofText? text = .ok ⟨String.ofList name⟩ := by
  have hread : read text = .ok (⟨String.ofList name⟩, rest) := by simp only [read, h]
  exact Json.readAll_of_blanks hread hrest

/-- The text of a choice is the barest of those that hold it. -/
theorem holds_toText (s : BufferSettings) :
    Holds fieldName (Json.Writes s.typeName.toList) s.toText := by
  have htype := Json.writes_quote s.typeName.toList
  exact Json.holds_bare (.string htype.isString) htype

theorem ofText?_of_holds (h : Holds fieldName (Json.Writes s.typeName.toList) text) :
    ofText? text = .ok s := by
  obtain ⟨rest, hrest, hrecord⟩ := Json.readRecord_holds (some default.typeName.toList)
    Json.reads_text h
  rw [ofText?_of_record hrest hrecord, String.ofList_toList]

theorem ofText?_of_lacks (h : Lacks fieldName text) : ofText? text = .ok default := by
  obtain ⟨rest, hrest, hrecord⟩ := Json.readRecord_lacks Json.readText
    (some default.typeName.toList) h
  rw [ofText?_of_record hrest hrecord, String.ofList_toList]

/-- A choice comes back from its own text and from every other that spells its type, and an object
without a type is the default. -/
theorem ofText?_spellings (s : BufferSettings) : ofText? s.toText = .ok s ∧
    (∀ text, Holds fieldName (Json.Writes s.typeName.toList) text → ofText? text = .ok s) ∧
      ∀ text, Lacks fieldName text → ofText? text = .ok default :=
  ⟨ofText?_of_holds (holds_toText s), fun _ h => ofText?_of_holds h, fun _ h => ofText?_of_lacks h⟩

/-- A type that is spelled with a pair of surrogates, next to another member, and no type. -/
theorem ofText?_spellings_surrogates :
    ofText? "\x7b\"a\":[],\"type\":\"\\uD83d\\ude00\"\x7d".toList = .ok ⟨"😀"⟩ ∧
      ofText? "\x7b\"a\":[]\x7d".toList = .ok default := by
  let other : Json.Member := ⟨[], Json.quote ['a'], [], [], "[]".toList, []⟩
  have hother : other.Other fieldName :=
    ⟨['a'], by decide, ⟨⟨.nil, .nil, .nil, .nil⟩, Json.writes_quote ['a'], .emptyList .nil⟩⟩
  constructor
  · let p : Json.Member := ⟨[], Json.quote fieldName, [], [],
      Json.quoted "\\uD83d\\ude00".toList, []⟩
    have hhigh : Json.HexQuad 0xD83D ['D', '8', '3', 'd'] :=
      .digits (.upper (v := 13) (by decide)) (.lower (v := 8) (by decide))
        (.lower (v := 3) (by decide)) (.lower (v := 13) (by decide))
    have hlow : Json.HexQuad 0xDE00 ['d', 'e', '0', '0'] :=
      .digits (.lower (v := 13) (by decide)) (.lower (v := 14) (by decide))
        (.lower (v := 0) (by decide)) (.lower (v := 0) (by decide))
    have htype : Json.Writes ['😀'] p.value :=
      ⟨_, .cons (.pair (by decide) hhigh hlow) .nil, rfl⟩
    have hp : p.Named fieldName :=
      ⟨⟨.nil, .nil, .nil, .nil⟩, Json.writes_quote fieldName, .string htype.isString⟩
    have hobject := @Json.IsObject.members [] [] [other, p] .nil (by simp) .nil
    exact (ofText?_spellings ⟨"😀"⟩).2.1 _
      (@Holds.among _ _ [other] [] p _ hobject (List.forall_mem_singleton.mpr hother) hp htype)
  · have hobject := @Json.IsObject.members [] [] [other] .nil (by simp) .nil
    exact (ofText?_spellings ⟨"😀"⟩).2.2 _
      (.others hobject (List.forall_mem_singleton.mpr hother))

end BufferSettings
end Handoff
