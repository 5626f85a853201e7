import ClientCompiler.Value
import Mathlib.Algebra.Field.Rat
import Mathlib.Data.Rat.Cast.Defs
import Mathlib.Tactic.NormNum

/-!
Values as keys. A value that may be a key is the same key as another one when both are compared by
the same form, so that being the same key is an equivalence among them.
-/

namespace ClientCompiler

/-- What a key is compared by. A number counts by its value, whatever kind of number it is. -/
inductive KeyForm where
  | null
  | number (value : ℚ)
  | unbounded (x : Double)
  | text (s : String)
  | octets (b : List UInt8)
  | date (d : Date)
  | moment (known : Bool) (instant : Int)
  | tuple (items : List KeyForm)
  | collection

def Double.keyForm (x : Double) : KeyForm :=
  match x.toRatio? with
  | some r => .number (r.1 / r.2)
  | none => .unbounded x

namespace Double

variable {x y : Double} {r s : Int × Nat} {i : Int}

theorem denominator_pos (h : x.toRatio? = some r) : 0 < r.2 := by
  cases x with
  | finite negative significand exponent =>
    unfold toRatio? at h
    by_cases he : exponent < 0
    · simp only [he, if_true, Option.some.injEq] at h
      rw [← h]
      exact Nat.pow_pos (by decide)
    · simp only [he, if_false, Option.some.injEq] at h
      rw [← h]
      exact Nat.one_pos
  | _ => cases h

theorem keyForm_of_ratio (h : x.toRatio? = some r) : x.keyForm = .number (r.1 / r.2) := by
  rw [keyForm, h]

theorem keyForm_of_none (h : x.toRatio? = none) : x.keyForm = .unbounded x := by
  rw [keyForm, h]

theorem equalsInt_eq_true : x.equalsInt i = true ↔ x.keyForm = .number i := by
  unfold equalsInt
  cases hratio : x.toRatio? with
  | none => simp [keyForm_of_none hratio]
  | some r =>
    have hpos : (r.2 : ℚ) ≠ 0 := by exact_mod_cast (denominator_pos hratio).ne'
    rw [keyForm_of_ratio hratio, beq_iff_eq, KeyForm.number.injEq, div_eq_iff hpos]
    exact_mod_cast Iff.rfl

theorem coincides_eq_true : x.coincides y = true ↔ x.keyForm = y.keyForm := by
  unfold coincides
  cases hx : x.toRatio? with
  | none =>
    rw [keyForm_of_none hx]
    cases hy : y.toRatio? with
    | none => rw [keyForm_of_none hy, beq_iff_eq, KeyForm.unbounded.injEq]
    | some s => simp [keyForm_of_ratio hy]
  | some r =>
    rw [keyForm_of_ratio hx]
    cases hy : y.toRatio? with
    | none => simp [keyForm_of_none hy]
    | some s =>
      have hr : (r.2 : ℚ) ≠ 0 := by exact_mod_cast (denominator_pos hx).ne'
      have hs : (s.2 : ℚ) ≠ 0 := by exact_mod_cast (denominator_pos hy).ne'
      rw [keyForm_of_ratio hy, beq_iff_eq, KeyForm.number.injEq, div_eq_div_iff hr hs]
      exact_mod_cast Iff.rfl

end Double

namespace Value

mutual

def keyForm : Value → KeyForm
  | .null => .null
  | .bool b => .number (if b then 1 else 0 : Int)
  | .int i => .number i
  | .float x => x.keyForm
  | .str s => .text s
  | .bytes b => .octets b
  | .date d => .date d
  | .moment t => .moment t.offset.isSome t.instant
  | .tuple xs => .tuple (keyForms xs)
  | _ => .collection

def keyForms : List Value → List KeyForm
  | [] => []
  | v :: vs => keyForm v :: keyForms vs

end

theorem ne_keyForm_float {x : Double} {f : KeyForm} (hn : ∀ q, f ≠ .number q)
    (hu : ∀ y, f ≠ .unbounded y) : f ≠ x.keyForm := by
  unfold Double.keyForm
  split
  · exact hn _
  · exact hu _

theorem keyForm_of_asInt {v : Value} {i : Int} (h : v.asInt? = some i) : v.keyForm = .number i := by
  cases v with
  | bool b => rw [keyForm, Option.some.inj h]
  | int j => rw [keyForm, Option.some.inj h]
  | _ => cases h

theorem same_of_asInt {v w : Value} {i : Int} (hv : v.asInt? = some i) :
    v.same w = true ↔ w.keyForm = .number i := by
  by_cases hfloat : ∃ y, w = .float y
  · obtain ⟨y, rfl⟩ := hfloat
    have hsame : v.same (.float y) = y.equalsInt i := by cases v <;> cases hv <;> simp only [same]
    rw [hsame, keyForm]
    exact Double.equalsInt_eq_true
  · have hsame : v.same w = (w.asInt? == some i) := by
      cases v <;> cases hv <;> cases w <;> simp_all [same]
    rw [hsame, beq_iff_eq]
    refine ⟨keyForm_of_asInt, fun hform => ?_⟩
    cases hint : w.asInt? with
    | some j =>
      rw [keyForm_of_asInt hint, KeyForm.number.injEq, Int.cast_inj] at hform
      rw [hform]
    | none => cases w <;> simp_all [asInt?, keyForm]

theorem same_float {x : Double} {w : Value} :
    (float x).same w = true ↔ x.keyForm = w.keyForm := by
  cases w with
  | float y => rw [same, Double.coincides_eq_true, keyForm]
  | bool b => simp only [same, asInt?, Double.equalsInt_eq_true, keyForm]
  | int i => simp only [same, asInt?, Double.equalsInt_eq_true, keyForm]
  | _ => simp [same, asInt?, keyForm, (ne_keyForm_float _ _).symm]

mutual

/-- A collection has a form as well, so that only one of the two values has to be a key. -/
theorem same_eq_true : ∀ {v w : Value}, v.hashable = true →
    (v.same w = true ↔ v.keyForm = w.keyForm)
  | .bool _, _, _ => by
    rw [same_of_asInt rfl, eq_comm]
    rfl
  | .int _, _, _ => by
    rw [same_of_asInt rfl, eq_comm]
    rfl
  | .float _, _, _ => same_float
  | .tuple _, w, hv => by
    cases w with
    | tuple ws => simpa [same, keyForm] using sameItems_eq_true hv
    | _ => simp [same, keyForm, ne_keyForm_float]
  | .null, w, _ => by cases w <;> simp [same, keyForm, ne_keyForm_float]
  | .str _, w, _ => by cases w <;> simp [same, keyForm, ne_keyForm_float]
  | .bytes _, w, _ => by cases w <;> simp [same, keyForm, ne_keyForm_float]
  | .date _, w, _ => by cases w <;> simp [same, keyForm, ne_keyForm_float]
  | .moment _, w, _ => by cases w <;> simp [same, keyForm, ne_keyForm_float, Moment.same]

theorem sameItems_eq_true : ∀ {vs ws : List Value}, allHashable vs = true →
    (sameItems vs ws = true ↔ keyForms vs = keyForms ws)
  | [], [], _ => by simp [sameItems, keyForms]
  | [], _ :: _, _ => by simp [sameItems, keyForms]
  | _ :: _, [], _ => by simp [sameItems, keyForms]
  | v :: vs, w :: ws, hv => by
    rw [allHashable, Bool.and_eq_true] at hv
    rw [sameItems, Bool.and_eq_true, same_eq_true hv.1, sameItems_eq_true hv.2, keyForms, keyForms,
      List.cons.injEq]

end

end Value
end ClientCompiler
