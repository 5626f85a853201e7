import ClientCompiler.Proofs.Json.Recognition

/-!
Formatted JSON is a normal form. A text is rejected exactly when it holds no value; otherwise it
is formatted to a text of the same value, which stays as it is when it is formatted again and is the
same for every text of the value.
-/

namespace ClientCompiler.Formatter

open Json

variable {s t : List Char} {v : Value}

/-- The text `t` is what the texts of the value `v` are formatted to. -/
structure NormalForm (v : Value) (t : List Char) : Prop where
  reads : parse t = .ok v
  holds : ∀ w, Holds t w ↔ w = v
  stays : formatJson t = .ok t
  formatted : ∀ s, Holds s v → ¬ HasLongInteger s → formatJson s = .ok t

theorem formatJson_of_parse (h : parse s = .ok v) (ht : jsonText v = .ok t) :
    formatJson s = .ok (t ++ ['\n']) := by
  rw [formatJson, h]
  simp only [ht]
  rfl

theorem normalForm_jsonText (hv : v.isRegular = true) (hfloats : AllReadBack v.floats) :
    ∃ t, NormalForm v t := by
  obtain ⟨t, ht, hwritten⟩ := jsonText_of_regular hv hfloats
  have hread : parse (t ++ ['\n']) = .ok v := hwritten.parse (.inr rfl)
  refine ⟨t ++ ['\n'], hread, fun w => ⟨fun hw => ?_, ?_⟩, formatJson_of_parse hread ht, ?_⟩
  · rcases parse_of_holds hw with h | h <;> rw [hread] at h
    · cases h
    · exact (Except.ok.inj h).symm
  · rintro rfl
    exact (holds_of_parse hread).1
  · intro s hs hlong
    exact formatJson_of_parse ((parse_eq_ok hlong).mpr hs) ht

theorem formatJson_of_not_holds (hs : ¬ HasLongInteger s) (h : ¬ ∃ v, Holds s v) :
    ∃ m, formatJson s = .error (.format m) := by
  rw [formatJson]
  cases hread : parse s with
  | ok v => exact absurd ⟨v, (holds_of_parse hread).1⟩ h
  | error e =>
    cases e with
    | malformed cause left => exact ⟨_, rfl⟩
    | integerTooLong => exact absurd (longInteger_of_parse hread) hs

/-- The text has no integer of more than 4300 digits where a value stands, and the floating point
numbers in it have texts that denote them. -/
theorem formatJson_normalForm (hs : ¬ HasLongInteger s)
    (hfloats : ∀ v, Holds s v → AllReadBack v.floats) :
    ((∃ m, formatJson s = .error (.format m)) ↔ ¬ ∃ v, Holds s v) ∧
      ∀ v, Holds s v → ∃ t, formatJson s = .ok t ∧ NormalForm v t := by
  have hformat : ∀ v, Holds s v → ∃ t, formatJson s = .ok t ∧ NormalForm v t := by
    intro v hv
    have hregular := (holds_of_parse ((parse_eq_ok hs).mpr hv)).2
    obtain ⟨t, ht⟩ := normalForm_jsonText hregular (hfloats v hv)
    exact ⟨t, ht.formatted s hv hs, ht⟩
  refine ⟨⟨?_, formatJson_of_not_holds hs⟩, hformat⟩
  rintro ⟨m, hm⟩ ⟨v, hv⟩
  obtain ⟨t, ht, -⟩ := hformat v hv
  rw [ht] at hm
  cases hm

/-- A text with a repeated key, blanks, escapes, and a number that is none. -/
def scattered : List Char :=
  "\x7b \"b\":1, \"a\":[1.5, NaN,\t\"\\u00e9\"], \"b\":\"\\ud83d\\ude00\" \x7d".toList

theorem formatJson_normalForm_scattered :
    ¬ HasLongInteger scattered ∧ (∀ v, Holds scattered v → AllReadBack v.floats) ∧
      ∃ v, Holds scattered v ∧ NormalForm v
        "\x7b\n  \"b\": \"😀\",\n  \"a\": [\n    1.5,\n    NaN,\n    \"é\"\n  ]\n\x7d\n".toList := by
  have hlong : ¬ HasLongInteger scattered := fun h =>
    absurd (length_of_hasLongInteger h) (by decide +kernel)
  have hread : (match parse scattered with
      | .ok v => decide (AllReadBack v.floats)
      | .error _ => false) = true := by decide +kernel
  have hfloats : ∀ v, Holds scattered v → AllReadBack v.floats := by
    intro v hv
    rw [(parse_eq_ok hlong).mpr hv] at hread
    exact of_decide_eq_true hread
  cases hparse : parse scattered with
  | error e =>
    rw [hparse] at hread
    cases hread
  | ok v =>
    have hholds := (holds_of_parse hparse).1
    obtain ⟨t, ht, hnormal⟩ := (formatJson_normalForm hlong hfloats).2 v hholds
    have htext : formatJson scattered = .ok
        "\x7b\n  \"b\": \"😀\",\n  \"a\": [\n    1.5,\n    NaN,\n    \"é\"\n  ]\n\x7d\n".toList := by
      decide +kernel
    obtain rfl := Except.ok.inj (ht.symm.trans htext)
    exact ⟨hlong, hfloats, v, hholds, hnormal⟩

end ClientCompiler.Formatter
