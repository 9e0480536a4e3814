import PreparedSql.Proofs.Time.Rfc3339
import PreparedSql.Value.Document

/-!
# Values read back

The document of a value is an object of a kind and a content. It is read back by its kind, which
keeps values apart whose contents look alike, and through all lists inside one another. Only a
number with a fraction that is not finite has no content to be read back from. All else comes back
as it was, apart from a timestamp in a leap second within a minute, which comes back as the same
fraction of the next second (`Value.ofDocument?_toDocument`).
-/
namespace PreparedSql

open PreparedSql.Ieee PreparedSql.Text PreparedSql.Time

namespace Uuid

theorem groups_append {a b c d : List Char} (ha : a.length = 8) (hb : b.length = 4)
    (hc : c.length = 4) (hd : d.length = 4) (e : List Char) :
    let cs := a ++ '-' :: b ++ '-' :: c ++ '-' :: d ++ '-' :: e
    cs.take 8 ++ (cs.drop 9).take 4 ++ (cs.drop 14).take 4 ++ (cs.drop 19).take 4 ++ cs.drop 24 =
      a ++ b ++ c ++ d ++ e := by
  simp [List.drop_append, List.drop_eq_nil_of_le, ha, hb, hc, hd]

theorem append_groups (digits : List Char) :
    digits.take 8 ++ (digits.drop 8).take 4 ++ (digits.drop 12).take 4 ++
      (digits.drop 16).take 4 ++ digits.drop 20 = digits := by
  rw [← List.take_add, ← List.take_add, ← List.take_add, List.take_append_drop]

theorem groups_hyphenate {digits : List Char} (h : digits.length = 32) :
    let cs := hyphenate digits
    cs.take 8 ++ (cs.drop 9).take 4 ++ (cs.drop 14).take 4 ++ (cs.drop 19).take 4 ++ cs.drop 24 =
      digits := by
  intro cs
  apply Eq.trans _ (append_groups digits)
  apply groups_append
  · simp [h]
  · simp [h]
  · simp [h]
  · simp [h]

theorem ofHyphenated?_hyphenate {digits : List Char} (h : digits.length = 32) :
    ofHyphenated? (hyphenate digits) = ofDigits? digits := by
  rw [ofHyphenated?, groups_hyphenate h]
  exact if_pos rfl

theorem length_hyphenate {digits : List Char} (h : digits.length = 32) :
    (hyphenate digits).length = 36 := by
  simp [hyphenate, h]

theorem parse?_text (u : Uuid) : parse? u.text = some u := by
  have hdigits : (hexOfBytes u.bytes).length = 32 := by
    rw [length_hexOfBytes, u.length_eq]
  have hlength : u.text.length = 36 := length_hyphenate hdigits
  have hread : ofDigits? (hexOfBytes u.bytes) = some u := by
    rw [ofDigits?, bytesOfHex?_hexOfBytes, Option.bind_some, of?, dif_pos u.length_eq]
  rw [parse?, hlength, if_neg (by decide), if_pos rfl, text, ofHyphenated?_hyphenate hdigits, hread]

end Uuid
namespace Value

mutual

/-- All numbers with a fraction in a value, at any depth of its lists. Numbers inside a JSON
document are none of them. -/
def floats : Value → List Binary64
  | float x => [x]
  | list items => floatsOfAll items
  | _ => []

def floatsOfAll : List Value → List Binary64
  | [] => []
  | item :: items => floats item ++ floatsOfAll items

end

mutual

def timestamps : Value → List Instant
  | timestamp t => [t]
  | list items => timestampsOfAll items
  | _ => []

def timestampsOfAll : List Value → List Instant
  | [] => []
  | item :: items => timestamps item ++ timestampsOfAll items

end

mutual

def settled : Value → Value
  | timestamp t => timestamp t.settled
  | list items => list (settledAll items)
  | v => v

def settledAll : List Value → List Value
  | [] => []
  | item :: items => settled item :: settledAll items

end

mutual

theorem settled_eq_self_iff (v : Value) :
    v.settled = v ↔ ∀ t ∈ v.timestamps, t.LeapEndsMinute := by
  cases v with
  | timestamp t => simp [settled, timestamps, Instant.settled_eq_self_iff]
  | list items => simp [settled, timestamps, settledAll_eq_self_iff items]
  | _ => simp [settled, timestamps]

theorem settledAll_eq_self_iff (items : List Value) :
    settledAll items = items ↔ ∀ t ∈ timestampsOfAll items, t.LeapEndsMinute := by
  cases items with
  | nil => simp [settledAll, timestampsOfAll]
  | cons item items =>
    simp [settledAll, timestampsOfAll, settled_eq_self_iff item, settledAll_eq_self_iff items,
      or_imp, forall_and]

end

theorem ofDocument?_tagged (kind : String) (content : Json) :
    ofDocument? (tagged kind content) = ofTagged? kind content := by
  simp [tagged, ofDocument?, kindOf?, ofMembers?]

theorem holds_toInt (n : Int64) : int64Range.holds n.toInt = true := by
  rw [Decimal.Range.holds, Bool.and_eq_true, decide_eq_true_iff, decide_eq_true_iff]
  exact ⟨n.le_toInt, Int.le_sub_one_of_lt n.toInt_lt⟩

theorem ofTagged?_int (n : Int64) : ofTagged? "Int" (.int n.toInt) = some (int n) := by
  simp only [ofTagged?, ofContent?]
  rw [if_pos (holds_toInt n), Int64.ofInt_toInt]

theorem ofTagged?_float (x : Binary64) :
    ofTagged? "Float" (numberDocument x) = if x.isFinite then some (float x) else none := by
  unfold numberDocument
  split
  · rfl
  · rfl

theorem ofTagged?_timestamp (t : Instant) :
    ofTagged? "Timestamp" (.string (String.ofList (Rfc3339.text t))) =
      some (timestamp t.settled) := by
  simp only [ofTagged?, ofContent?]
  rw [String.toList_ofList, Rfc3339.parse?_text, Option.map_some]

theorem ofTagged?_uuid (u : Uuid) :
    ofTagged? "Uuid" (.string (String.ofList u.text)) = some (uuid u) := by
  simp only [ofTagged?, ofContent?]
  rw [String.toList_ofList, Uuid.parse?_text, Option.map_some]

theorem ofTagged?_json (document : Json) : ofTagged? "Json" document = some (json document) := by
  cases document with
  | array items =>
    rw [ofTagged?, if_neg (by decide)]
    rfl
  | _ => rfl

mutual

/-- Reading follows the nesting of the value. -/
theorem ofDocument?_toDocument (v : Value) :
    ofDocument? v.toDocument = if v.floats.all Binary64.isFinite then some v.settled else none := by
  cases v with
  | null => rfl
  | bool b =>
    rw [toDocument, ofDocument?_tagged]
    rfl
  | int n =>
    rw [toDocument, ofDocument?_tagged, ofTagged?_int]
    rfl
  | float x =>
    rw [toDocument, ofDocument?_tagged, ofTagged?_float, floats, List.all_cons, List.all_nil,
      Bool.and_true]
    rfl
  | text s =>
    rw [toDocument, ofDocument?_tagged]
    rfl
  | timestamp t =>
    rw [toDocument, ofDocument?_tagged, ofTagged?_timestamp]
    rfl
  | uuid u =>
    rw [toDocument, ofDocument?_tagged, ofTagged?_uuid]
    rfl
  | json document =>
    rw [toDocument, ofDocument?_tagged, ofTagged?_json]
    rfl
  | list items =>
    rw [toDocument, ofDocument?_tagged, ofTagged?, if_pos rfl, ofDocuments?_toDocuments items,
      floats, settled]
    cases (floatsOfAll items).all Binary64.isFinite with
    | false => rfl
    | true => rfl

theorem ofDocuments?_toDocuments (items : List Value) :
    ofDocuments? (toDocuments items) =
      if (floatsOfAll items).all Binary64.isFinite then some (settledAll items) else none := by
  cases items with
  | nil => rfl
  | cons item items =>
    rw [toDocuments, ofDocuments?, ofDocument?_toDocument item, ofDocuments?_toDocuments items,
      floatsOfAll, List.all_append]
    cases item.floats.all Binary64.isFinite with
    | false => rfl
    | true =>
      cases (floatsOfAll items).all Binary64.isFinite with
      | false => rfl
      | true => rfl

end

theorem isFinite_iff (x : Binary64) : x.isFinite = true ↔ ¬ (x.isNaN ∨ x.isInfinite) := by
  rw [← x.isFinite_eq_false_iff, Bool.not_eq_false]

theorem all_isFinite_iff (xs : List Binary64) :
    xs.all Binary64.isFinite = true ↔ ∀ x ∈ xs, ¬ (x.isNaN ∨ x.isInfinite) := by
  rw [List.all_eq_true]
  constructor
  · intro h x hx
    exact (isFinite_iff x).mp (h x hx)
  · intro h x hx
    exact (isFinite_iff x).mpr (h x hx)

/-- Nothing is read from the document of a value just if a number with a fraction in it is not
finite. Otherwise the value is read with its timestamps settled, and so as it was if each leap
second in it ends a minute. Values with one document are the same apart from that. -/
theorem document_round_trip (v : Value) :
    (ofDocument? v.toDocument = none ↔ ∃ x ∈ v.floats, x.isNaN ∨ x.isInfinite) ∧
      (ofDocument? v.toDocument = some v.settled ↔
        ∀ x ∈ v.floats, ¬ (x.isNaN ∨ x.isInfinite)) ∧
      (ofDocument? v.toDocument = some v ↔
        (∀ x ∈ v.floats, ¬ (x.isNaN ∨ x.isInfinite)) ∧ ∀ t ∈ v.timestamps, t.LeapEndsMinute) ∧
      ∀ w : Value, w.toDocument = v.toDocument → ofDocument? v.toDocument = some v →
        w.settled = v ∧ ((∀ t ∈ w.timestamps, t.LeapEndsMinute) → w = v) := by
  rw [← all_isFinite_iff, ← settled_eq_self_iff, ofDocument?_toDocument]
  have hbad : (∃ x ∈ v.floats, x.isNaN ∨ x.isInfinite) ↔
      ¬ v.floats.all Binary64.isFinite = true := by
    rw [Bool.not_eq_true, List.all_eq_false]
    simp only [isFinite_iff, Classical.not_not]
  rw [hbad]
  refine ⟨?_, ?_, ?_, ?_⟩
  · split
    · next hall => exact iff_of_false nofun (not_not_intro hall)
    · next hsome => exact iff_of_true rfl hsome
  · split
    · next hall => exact iff_of_true rfl hall
    · next hsome => exact iff_of_false nofun hsome
  · split
    · next hall => rw [Option.some.injEq, and_iff_right hall]
    · next hsome => exact iff_of_false nofun fun h => hsome h.1
  · intro w hsame hread
    have hw := ofDocument?_toDocument w
    rw [hsame, ofDocument?_toDocument, hread] at hw
    split at hw
    · have hsettled : w.settled = v := (Option.some.inj hw).symm
      refine ⟨hsettled, fun hends => ?_⟩
      rw [← hsettled, (settled_eq_self_iff w).mpr hends]
    · cases hw

/-- A leap second and the two nulls inside a list are read back; with an infinite number behind them
nothing is. A text of the day 1970-01-01 is that of an instant in 12:30:16 and of one in a leap
second before it. -/
theorem document_round_trip_leap_second :
    let t : Instant := ⟨-1, 1500000000, by decide, by decide, by decide⟩
    let v : Value := list [timestamp t, null, list [json .null]]
    let w : Value := list [v, float ⟨0x7FF0000000000000⟩]
    let early : Instant := ⟨45015, 1500000000, by decide, by decide, by decide⟩
    let late : Instant := ⟨45016, 500000000, by decide, by decide, by decide⟩
    ofDocument? v.toDocument = some v ∧ ofDocument? w.toDocument = none ∧
      ofDocument? (timestamp late).toDocument = some (timestamp late) ∧
      (timestamp early).settled = timestamp late := by
  intro t v w early late
  have hfinite : ∀ x ∈ v.floats, ¬ (x.isNaN ∨ x.isInfinite) := nofun
  have hends : ∀ t ∈ v.timestamps, t.LeapEndsMinute := by
    intro u hu
    rw [List.mem_singleton.mp hu]
    decide
  have hinfinite : ∃ x ∈ w.floats, x.isNaN ∨ x.isInfinite :=
    ⟨⟨0x7FF0000000000000⟩, List.mem_singleton_self _, .inr (by decide)⟩
  have hlate : ∀ t ∈ (timestamp late).timestamps, t.LeapEndsMinute := by
    intro u hu
    rw [List.mem_singleton.mp hu]
    decide
  have hread := (document_round_trip (timestamp late)).2.2.1.mpr ⟨nofun, hlate⟩
  have hsettled : early.settled = late := by decide
  have hdocument : (timestamp early).toDocument = (timestamp late).toDocument := by
    rw [toDocument, toDocument, ← hsettled, Rfc3339.text_settled]
  exact ⟨(document_round_trip v).2.2.1.mpr ⟨hfinite, hends⟩,
    (document_round_trip w).1.mpr hinfinite,
    hread, ((document_round_trip (timestamp late)).2.2.2 _ hdocument hread).1⟩

/-- Half a second after 12:30:15, in a leap second there, is read back as 12:30:16.5, although no
number in it is not finite. -/
theorem leap_second_within_minute_moves :
    let t : Instant := ⟨45015, 1500000000, by decide, by decide, by decide⟩
    let u : Instant := ⟨45016, 500000000, by decide, by decide, by decide⟩
    (timestamp t).floats = [] ∧
      ofDocument? (timestamp t).toDocument = some (timestamp u) ∧ timestamp u ≠ timestamp t := by
  intro t u
  refine ⟨rfl, ?_, ?_⟩
  · have hsettled : t.settled = u := by decide
    rw [ofDocument?_toDocument, ← hsettled]
    rfl
  · intro hsame
    have : u = t := Value.timestamp.inj hsame
    exact absurd this (by decide)

end Value

end PreparedSql
