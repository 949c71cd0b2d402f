import SensorRelay.Console.Subscriber
import SensorRelay.Proofs.Json.Line
import Mathlib.Data.String.Basic

/-!
# Rosters as lines of JSON

An entry of the roster is printed as one line, whatever a sensor calls itself, where it stands and
how it is tagged. Everything that the entry says is read back from the line, so no sensor can write
the line of another.
-/

namespace SensorRelay

namespace Text

open String

theorem splitOnAux_of_not_mem {l r : List Char} (h : '\n' ∉ r) :
    (ofList (l ++ r)).splitOnAux "\n" 0 ⟨utf8Len l⟩ 0 [] = [ofList (l ++ r)] := by
  induction r generalizing l with
  | nil =>
    have hend := (atEnd_of_valid l []).mpr rfl
    have hwhole := extract_of_valid [] l []
    rw [List.nil_append] at hwhole
    rw [splitOnAux, if_pos hend, List.append_nil]
    simpa using hwhole
  | cons c r ih =>
    rw [List.mem_cons, not_or] at h
    have hend : ¬ Pos.Raw.atEnd (ofList (l ++ c :: r)) ⟨utf8Len l⟩ = true := by
      rw [atEnd_of_valid]
      exact List.cons_ne_nil c r
    have hget : Pos.Raw.get (ofList (l ++ c :: r)) ⟨utf8Len l⟩ = c := get_of_valid l (c :: r)
    have hne : ¬ (c == Pos.Raw.get "\n" 0) = true := by
      rw [beq_iff_eq]
      exact fun heq => h.1 heq.symm
    have hnext : Pos.Raw.next (ofList (l ++ c :: r)) ⟨utf8Len l⟩ = ⟨utf8Len (l ++ [c])⟩ := by
      rw [next_of_valid, utf8Len_append]
      simp
    have hrest := ih h.2 (l := l ++ [c])
    rw [List.append_assoc, List.singleton_append] at hrest
    rw [splitOnAux, if_neg hend, hget, if_neg hne]
    change splitOnAux _ "\n" 0 (Pos.Raw.next (ofList (l ++ c :: r)) ⟨utf8Len l⟩) 0 [] = _
    rw [hnext, hrest]

theorem splitOn_lineFeed {s : String} (h : '\n' ∉ s.toList) : s.splitOn "\n" = [s] := by
  have haux := splitOnAux_of_not_mem h (l := [])
  rw [List.nil_append, ofList_toList] at haux
  exact haux

end Text

open Text

theorem OnlineStatus.name_injective {x y : OnlineStatus} (h : x.name = y.name) : x = y := by
  revert h
  cases x <;> cases y <;> decide

namespace SensorSummary

variable {s t : SensorSummary}

theorem plain_json (s : SensorSummary) : Json.Plain s.json := by
  apply Json.Plain.object
  simp only [List.forall_mem_cons]
  refine ⟨.string _, .string _, .string _, .array ?_, .string _, fun m hm => ?_⟩
  · intro j hj
    obtain ⟨tag, -, rfl⟩ := List.mem_map.mp hj
    exact .string tag
  · exact absurd hm List.not_mem_nil

theorem json_injective (h : s.json = t.json) : s = t := by
  simp only [json, Json.object.injEq, List.cons.injEq, Prod.mk.injEq, Json.string.injEq,
    Json.array.injEq, true_and, and_true] at h
  obtain ⟨hid, hname, hlocation, htags, hstatus⟩ := h
  have htags : s.tags = t.tags :=
    List.map_injective_iff.mpr (fun _ _ hstring => Json.string.inj hstring) htags
  have hstatus := OnlineStatus.name_injective hstatus
  cases s
  cases t
  simp_all

/-- Two entries that are written alike are the same entry. -/
theorem text_json_inj : s.json.text = t.json.text ↔ s = t := by
  rw [s.plain_json.text_inj t.plain_json]
  constructor
  · exact json_injective
  · rintro rfl
    rfl

end SensorSummary

namespace Console.SubscriberConsole

/-- An entry of a roster is one line of JSON without control characters. What a reader of JSON
finds there is what the sensor said, in order, and the name of its status; so two entries that
differ in a text, in a tag or in the resolved status have different lines. -/
theorem roster_lines_are_faithful (i : SensorInfo) :
    let line := summaryText true (.ofInfo i)
    (∀ c ∈ line.toList, 0x20 ≤ c.toNat) ∧ line.splitOn "\n" = [line] ∧
    Json.read (utf8 line) = some (.object [
      ("id", .string i.id),
      ("name", .string i.name),
      ("location", .string i.location),
      ("tags", .array (i.tags.map .string)),
      ("online_status", .string (OnlineStatus.resolve i.onlineStatus).name)]) ∧
    ∀ j : SensorInfo, summaryText true (.ofInfo j) = line →
      j.id = i.id ∧ j.name = i.name ∧ j.location = i.location ∧ j.tags = i.tags ∧
      OnlineStatus.resolve j.onlineStatus = OnlineStatus.resolve i.onlineStatus := by
  intro line
  have hplain := (SensorSummary.ofInfo i).plain_json
  have hprintable : Json.Printable line.toList := by
    have htext : line.toList = (SensorSummary.ofInfo i).json.chars := String.toList_ofList
    rw [htext]
    exact hplain.printable
  refine ⟨hprintable, ?_, Json.read_text hplain, ?_⟩
  · apply splitOn_lineFeed
    intro hfeed
    exact absurd (hprintable '\n' hfeed) (by decide)
  · intro j hj
    have hsame : SensorSummary.ofInfo j = SensorSummary.ofInfo i :=
      SensorSummary.text_json_inj.mp hj
    simpa [SensorSummary.ofInfo] using hsame

/-- A name cannot end its text or its line. -/
example : summaryText true ⟨"a1", "x\",\n", "l\\", ["é", "\u0001"], .online⟩ =
    "\x7b\"id\":\"a1\",\"name\":\"x\\\",\\n\",\"location\":\"l\\\\\"," ++
      "\"tags\":[\"é\",\"\\u0001\"],\"online_status\":\"Online\"\x7d" := by
  decide +kernel

end Console.SubscriberConsole
end SensorRelay
