import ClientCompiler.Proofs.Document.Interpolation
import ClientCompiler.Proofs.Files.Path
import ClientCompiler.Proofs.Render.PropertyKeys

/-!
The names of operations that declare none. A name is its method and then the words of the path, one
segment after the other, so that it is an identifier and slashes do no more than part the segments.
-/

namespace ClientCompiler.Path

def capital : List Char → List Char
  | [] => []
  | c :: cs => c.toUpper :: cs

/-- The words between everything that is no letter and no digit, each with a capital. -/
def capitals (s : List Char) : List Char :=
  (s.splitOnP fun c => !c.isAlphanum).flatMap capital

def pathName (method : Method) (path : String) : List Char :=
  (operationName method path).toList.drop method.name.length

def IsPlaceholder (name segment : List Char) : Prop :=
  name ≠ [] ∧ '\x7d' ∉ name ∧ segment = (Part.placeholder name).text

/-- The name of an operation at a path, also where another path follows. -/
structure FollowsPath (method : Method) (path rest : String) : Prop where
  named : (operationName method path).toList = method.name.toList ++ pathName method path
  ascii : ∀ c ∈ pathName method path, c.isAlphanum = true
  identifier : Render.Identifier (operationName method path).toList
  joined : operationName method (path ++ "/" ++ rest) =
    operationName method path ++ String.ofList (pathName method rest)
  leading : operationName method ("/" ++ path) = operationName method path
  trailing : operationName method (path ++ "/") = operationName method path
  doubled : operationName method (path ++ "//" ++ rest) = operationName method (path ++ "/" ++ rest)
  placeholder : ∀ name, IsPlaceholder name path.toList → '/' ∉ path.toList →
    pathName method path = capitals ("by_".toList ++ name)
  plain : (∀ name, ¬ IsPlaceholder name path.toList) → '/' ∉ path.toList →
    pathName method path = capitals path.toList

variable {c : Char} {s name : List Char} {method : Method} {p q : String}

/-! ## Words -/

theorem isAlphanum_eq (c : Char) : c.isAlphanum = (c.isUpper || c.isLower || c.isDigit) := rfl

theorem isWordChar_eq (c : Char) : isWordChar c = c.isAlphanum := by
  have hdigit : ('0' ≤ c && c ≤ '9') = c.isDigit := rfl
  have hlower : ('a' ≤ c && c ≤ 'z') = c.isLower := rfl
  have hupper : ('A' ≤ c && c ≤ 'Z') = c.isUpper := (Bool.decide_and _ _).symm
  rw [isWordChar, hdigit, hlower, hupper, isAlphanum_eq]
  cases c.isDigit <;> cases c.isLower <;> cases c.isUpper <;> rfl

theorem isAlphanum_toUpper (h : c.isAlphanum = true) : c.toUpper.isAlphanum = true := by
  unfold Char.toUpper
  split
  · next hlower =>
    have hval : (c.val + ('A'.val - 'a'.val)).toNat = (c.val.toNat + 4294967264) % 4294967296 :=
      UInt32.toNat_add ..
    have hupper : c.val + ('A'.val - 'a'.val) ≥ 'A'.val ∧ c.val + ('A'.val - 'a'.val) ≤ 'Z'.val := by
      rw [ge_iff_le, UInt32.le_iff_toNat_le, UInt32.le_iff_toNat_le, hval]
      rw [UInt32.le_iff_toNat_le, UInt32.le_iff_toNat_le] at hlower
      change 97 ≤ c.val.toNat ∧ c.val.toNat ≤ 122 at hlower
      change 65 ≤ _ ∧ _ ≤ 90
      omega
    rw [isAlphanum_eq, Bool.or_eq_true, Bool.or_eq_true]
    exact Or.inl (Or.inl (decide_eq_true hupper))
  · exact h

theorem isAlphanum_of_mem_capitalWords {fresh : Bool} (h : c ∈ capitalWords fresh s) :
    c.isAlphanum = true := by
  induction s generalizing fresh with
  | nil => cases h
  | cons d s ih =>
    rw [capitalWords] at h
    split at h
    · next hd =>
      rw [isWordChar_eq] at hd
      rcases List.mem_cons.mp h with rfl | h
      · cases fresh with
        | false => exact hd
        | true => exact isAlphanum_toUpper hd
      · exact ih h
    · exact ih h

/-- The two states of the reading of words: before a word, and inside the first one. -/
theorem capitalWords_of_split {w : List Char} {ws : List (List Char)}
    (h : (s.splitOnP fun c => !c.isAlphanum) = w :: ws) :
    capitalWords true s = capital w ++ ws.flatMap capital ∧
      capitalWords false s = w ++ ws.flatMap capital := by
  induction s generalizing w ws with
  | nil =>
    rw [List.splitOnP_nil] at h
    obtain ⟨rfl, rfl⟩ := List.cons.inj h
    exact ⟨rfl, rfl⟩
  | cons c s ih =>
    obtain ⟨v, vs, hs⟩ := List.exists_cons_of_ne_nil
      (List.splitOnP_ne_nil (fun c : Char => !c.isAlphanum) s)
    obtain ⟨htrue, hfalse⟩ := ih hs
    rw [List.splitOnP_cons_eq_if_modifyHead, hs] at h
    rw [capitalWords, capitalWords, isWordChar_eq]
    by_cases hc : c.isAlphanum = true
    · rw [if_neg (by simp [hc])] at h
      obtain ⟨rfl, rfl⟩ := List.cons.inj h
      rw [if_pos hc, if_pos hc, hfalse]
      exact ⟨rfl, rfl⟩
    · rw [if_pos (by simpa using hc)] at h
      obtain ⟨rfl, rfl⟩ := List.cons.inj h
      rw [if_neg hc, if_neg hc, htrue, List.flatMap_cons]
      exact ⟨rfl, rfl⟩

theorem capitalWords_true (s : List Char) : capitalWords true s = capitals s := by
  obtain ⟨w, ws, hs⟩ := List.exists_cons_of_ne_nil
    (List.splitOnP_ne_nil (fun c : Char => !c.isAlphanum) s)
  rw [(capitalWords_of_split hs).1, capitals, hs, List.flatMap_cons]

/-! ## Segments -/

theorem placeholderName?_eq_some :
    placeholderName? s = some name ↔ IsPlaceholder name s := by
  unfold placeholderName? IsPlaceholder
  constructor
  · intro h
    split at h
    · next cs =>
      split at h
      · next r hr =>
        split at h
        · cases h
        · next hname =>
          obtain rfl := Option.some.inj h
          rw [Bool.or_eq_true, not_or, List.isEmpty_iff, List.contains_iff_mem] at hname
          refine ⟨by simpa using hname.1, by simpa using hname.2, ?_⟩
          rw [← List.reverse_reverse cs, hr, List.reverse_cons]
          rfl
      · cases h
    · cases h
  · rintro ⟨hne, hclosing, rfl⟩
    simp [Part.text, hne, hclosing]

theorem segmentName_placeholder (h : IsPlaceholder name s) :
    segmentName s = capitals ("by_".toList ++ name) := by
  rw [segmentName, placeholderName?_eq_some.mpr h]
  exact capitalWords_true _

theorem segmentName_plain (h : ∀ name, ¬ IsPlaceholder name s) : segmentName s = capitals s := by
  have hnone : placeholderName? s = none := by
    rw [Option.eq_none_iff_forall_ne_some]
    intro name hname
    exact h name (placeholderName?_eq_some.mp hname)
  rw [segmentName, hnone]
  exact capitalWords_true s

theorem isAlphanum_of_mem_segmentName (h : c ∈ segmentName s) : c.isAlphanum = true := by
  unfold segmentName at h
  split at h
  · exact isAlphanum_of_mem_capitalWords h
  · exact isAlphanum_of_mem_capitalWords h

/-! ## Paths -/

theorem toList_operationName (method : Method) (p : String) :
    (operationName method p).toList =
      method.name.toList ++ (Text.splitOn '/' p.toList).flatMap segmentName := by
  rw [operationName, String.toList_ofList]

theorem pathName_eq (method : Method) (p : String) :
    pathName method p = (Text.splitOn '/' p.toList).flatMap segmentName := by
  rw [pathName, toList_operationName, ← String.length_toList, List.drop_left]

theorem operationName_eq (method : Method) (p : String) :
    operationName method p = method.name ++ String.ofList (pathName method p) := by
  rw [pathName_eq, operationName, String.ofList_append, String.ofList_toList]

theorem pathName_join (method : Method) (p q : String) :
    pathName method (p ++ "/" ++ q) = pathName method p ++ pathName method q := by
  have hslash : (p ++ "/" ++ q).toList = p.toList ++ '/' :: q.toList := by simp
  rw [pathName_eq, hslash, Text.splitOn_join, List.flatMap_append, ← pathName_eq, ← pathName_eq]

theorem pathName_empty (method : Method) : pathName method "" = [] := by
  rw [pathName_eq]
  rfl

theorem pathName_of_no_slash (h : '/' ∉ p.toList) : pathName method p = segmentName p.toList := by
  rw [pathName_eq, Text.splitOn_of_not_mem h, List.flatMap_singleton]

theorem letters_method (method : Method) :
    ∃ c cs, method.name.toList = c :: cs ∧ c.isAlpha = true ∧ cs.all Char.isAlphanum = true := by
  cases method <;> exact ⟨_, _, rfl, by decide, by decide⟩

theorem isAlphanum_of_mem_pathName (h : c ∈ pathName method p) : c.isAlphanum = true := by
  rw [pathName_eq, List.mem_flatMap] at h
  obtain ⟨segment, -, hc⟩ := h
  exact isAlphanum_of_mem_segmentName hc

/-- The name of an operation is its method and then letters and digits of its path. What a path
gives to the name does not depend on the path before it, nor on further slashes. -/
theorem operationName_follows_path (method : Method) (p q : String) : FollowsPath method p q where
  named := by rw [toList_operationName, pathName_eq]
  ascii c hc := isAlphanum_of_mem_pathName hc
  identifier := by
    obtain ⟨c, cs, hname, hc, hcs⟩ := letters_method method
    refine ⟨c, cs ++ pathName method p, ?_, Or.inl hc, ?_⟩
    · rw [toList_operationName, pathName_eq, hname, List.cons_append]
    · intro d hd
      rcases List.mem_append.mp hd with hd | hd
      · exact Or.inl (List.all_eq_true.mp hcs d hd)
      · exact Or.inl (isAlphanum_of_mem_pathName hd)
  joined := by
    rw [operationName_eq, pathName_join, String.ofList_append, ← String.append_assoc,
      ← operationName_eq]
  leading := by
    have hjoin := pathName_join method "" p
    rw [String.empty_append, pathName_empty, List.nil_append] at hjoin
    rw [operationName_eq, hjoin, ← operationName_eq]
  trailing := by
    have hjoin := pathName_join method p ""
    rw [String.append_empty, pathName_empty, List.append_nil] at hjoin
    rw [operationName_eq, hjoin, ← operationName_eq]
  doubled := by
    have hslashes : p ++ "//" ++ q = p ++ "/" ++ "" ++ "/" ++ q := by
      simp only [String.append_empty, String.append_assoc]
      rfl
    rw [operationName_eq, hslashes, pathName_join, pathName_join, pathName_empty, List.append_nil,
      ← pathName_join, ← operationName_eq]
  placeholder name hname hslash := by
    rw [pathName_of_no_slash hslash, segmentName_placeholder hname]
  plain hplain hslash := by rw [pathName_of_no_slash hslash, segmentName_plain hplain]

example : operationName .get "/pets//\x7bpet-id\x7d/\x7bx/photos" = "getPetsByPetIdXPhotos" := by decide

end ClientCompiler.Path
