import ClientCompiler.Value

/-!
Fields of maps under a change of one of them. A field is stored, changed or dropped, and every other
field is read as before.
-/

namespace ClientCompiler.Value

def isNamed (name : String) : Value → Bool
  | .str k => k == name
  | _ => false

def changeField (name : String) (f : Value → Value) (kvs : Entries) : Entries :=
  kvs.map fun kv => if kv.1.isNamed name then (kv.1, f kv.2) else kv

def dropField (name : String) (kvs : Entries) : Entries := kvs.filter fun kv => !kv.1.isNamed name

theorem same_str_eq_isNamed (k : Value) (name : String) : k.same (.str name) = k.isNamed name := by
  cases k <;> simp [same, asInt?, isNamed]

theorem field_cons (name : String) (k v : Value) (kvs : Entries) :
    field name ((k, v) :: kvs) = if k.isNamed name then some v else field name kvs := by
  cases k <;> simp [field, isNamed]

theorem mem_of_field {name : String} {kvs : Entries} {v : Value} (h : field name kvs = some v) :
    (.str name, v) ∈ kvs := by
  induction kvs with
  | nil => cases h
  | cons kv kvs ih =>
    obtain ⟨k, w⟩ := kv
    rw [field_cons] at h
    split at h
    · next hnamed =>
      cases k with
      | str s =>
        rw [← eq_of_beq hnamed, Option.some.inj h]
        exact List.mem_cons_self
      | _ => cases hnamed
    · exact List.mem_cons_of_mem _ (ih h)

theorem isNamed_of_ne {name other : String} (hne : name ≠ other) {k : Value}
    (h : k.isNamed other = true) : k.isNamed name = false := by
  cases k with
  | str s =>
    simp only [isNamed, beq_iff_eq] at h
    simpa [isNamed, h] using hne.symm
  | _ => rfl

theorem field_insert_self (name : String) (v : Value) (kvs : Entries) :
    field name (insert (.str name) v kvs) = some v := by
  induction kvs with
  | nil => exact field_cons_self name v []
  | cons kv kvs ih =>
    obtain ⟨k, w⟩ := kv
    rw [insert, same_str_eq_isNamed]
    split
    · next h => rw [field_cons, if_pos h]
    · next h => rw [field_cons, if_neg h, ih]

theorem field_insert_ne {name other : String} (hne : name ≠ other) (v : Value) (kvs : Entries) :
    field name (insert (.str other) v kvs) = field name kvs := by
  induction kvs with
  | nil => exact field_cons_ne hne.symm v []
  | cons kv kvs ih =>
    obtain ⟨k, w⟩ := kv
    rw [insert, same_str_eq_isNamed]
    split
    · next h =>
      rw [field_cons, field_cons, if_neg (by simp [isNamed_of_ne hne h]),
        if_neg (by simp [isNamed_of_ne hne h])]
    · rw [field_cons, field_cons, ih]

theorem field_changeField_self (name : String) (f : Value → Value) (kvs : Entries) :
    field name (changeField name f kvs) = (field name kvs).map f := by
  induction kvs with
  | nil => rfl
  | cons kv kvs ih =>
    obtain ⟨k, v⟩ := kv
    unfold changeField at ih ⊢
    rw [List.map_cons, field_cons]
    split
    · next h => rw [field_cons, if_pos h]; rfl
    · next h => rw [field_cons, if_neg h, ih]

theorem field_map_values (name : String) (f : Value × Value → Value) (kvs : Entries) :
    (field name (kvs.map fun kv => (kv.1, f kv))).isSome = (field name kvs).isSome := by
  induction kvs with
  | nil => rfl
  | cons kv kvs ih =>
    obtain ⟨k, v⟩ := kv
    rw [List.map_cons, field_cons, field_cons]
    split
    · rfl
    · exact ih

theorem field_dropField_self (name : String) (kvs : Entries) :
    field name (dropField name kvs) = none := by
  induction kvs with
  | nil => rfl
  | cons kv kvs ih =>
    obtain ⟨k, v⟩ := kv
    unfold dropField at ih ⊢
    rw [List.filter_cons]
    split
    · next h => rw [field_cons, if_neg (by simpa using h), ih]
    · exact ih

theorem field_append (name : String) (kvs lws : Entries) :
    field name (kvs ++ lws) = (field name kvs).or (field name lws) := by
  induction kvs with
  | nil => rfl
  | cons kv kvs ih =>
    obtain ⟨k, v⟩ := kv
    rw [List.cons_append, field_cons, field_cons, ih]
    split <;> rfl

/-! ## Maps with distinct names -/

def hasDistinctNames : Entries → Bool
  | [] => true
  | (.str k, _) :: kvs => (field k kvs).isNone && hasDistinctNames kvs
  | _ :: _ => false

theorem insert_new {name : String} {kvs : Entries} (h : field name kvs = none) (v : Value) :
    insert (.str name) v kvs = kvs ++ [(.str name, v)] := by
  induction kvs with
  | nil => rfl
  | cons kv kvs ih =>
    obtain ⟨k, w⟩ := kv
    rw [field_cons] at h
    split at h
    · cases h
    · next hnamed => rw [insert, same_str_eq_isNamed, if_neg hnamed, ih h, List.cons_append]

theorem hasDistinctNames_cons {k v : Value} {kvs : Entries}
    (h : hasDistinctNames ((k, v) :: kvs) = true) :
    ∃ name, k = .str name ∧ field name kvs = none ∧ hasDistinctNames kvs = true := by
  cases k with
  | str name =>
    rw [hasDistinctNames, Bool.and_eq_true, Option.isNone_iff_eq_none] at h
    exact ⟨name, rfl, h.1, h.2⟩
  | _ => cases h

theorem all_isStr_of_distinct {kvs : Entries} (h : hasDistinctNames kvs = true) :
    kvs.all (·.1.isStr) = true := by
  induction kvs with
  | nil => rfl
  | cons kv kvs ih =>
    obtain ⟨k, v⟩ := kv
    obtain ⟨name, rfl, -, hkvs⟩ := hasDistinctNames_cons h
    exact ih hkvs

theorem foldl_insert_new {acc kvs : Entries} (hdistinct : hasDistinctNames kvs = true)
    (hnew : ∀ name, (field name kvs).isSome → field name acc = none) :
    kvs.foldl (fun kvs kv => insert kv.1 kv.2 kvs) acc = acc ++ kvs := by
  induction kvs generalizing acc with
  | nil => exact (List.append_nil acc).symm
  | cons kv kvs ih =>
    obtain ⟨k, v⟩ := kv
    obtain ⟨name, rfl, hname, hdistinct⟩ := hasDistinctNames_cons hdistinct
    have hself : field name acc = none := hnew name (by rw [field_cons_self]; rfl)
    rw [List.foldl_cons, insert_new hself, ih hdistinct, List.append_assoc]
    · rfl
    · intro other hother
      have hne : name ≠ other := by
        rintro rfl
        rw [hname] at hother
        cases hother
      have hacc : field other acc = none := hnew other (by rwa [field_cons_ne hne])
      rw [field_append, hacc, field_cons_ne hne]
      rfl

theorem ofPairs_of_distinct {kvs : Entries} (h : hasDistinctNames kvs = true) :
    ofPairs kvs = kvs := foldl_insert_new h fun _ _ => rfl

end ClientCompiler.Value
