import ClientCompiler.Files.Home
import ClientCompiler.Proofs.Returning

/-!
What becomes of a path that starts with a tilde. The variable for the own home comes before the
account, and a path whose home is not known is refused.
-/

namespace ClientCompiler.Homes

/-- A path into the home of a user, and the names after it. -/
structure Enters (p : FilePath) (user : String) (rest : List String) : Prop where
  relative : p.isAbsolute = false
  names : p.names = ("~" ++ user) :: rest

inductive Tells (h : Homes) : String → String → Prop
  | inherited {text : String} (hvariable : h.given? = some text) : Tells h "" text
  | account {text : String} (hvariable : h.given? = .none) (hown : h.own? = some text) :
      Tells h "" text
  | other {user text : String} (hother : user ≠ "") (huser : h.ofUser? user = some text) :
      Tells h user text

inductive Directory : String → FilePath → Prop
  | root {text : String} (h : ∀ c ∈ text.toList, c = '/') : Directory text ⟨1, []⟩
  | path {text : String} (h : ∃ c ∈ text.toList, c ≠ '/') (htilde : text.toList.head? ≠ some '~') :
      Directory text (.ofString text)

inductive Expands (h : Homes) (p : FilePath) : FilePath → Prop
  | plain (hplain : ∀ user rest, ¬ Enters p user rest) : Expands h p p
  | home {user text : String} {rest : List String} {home : FilePath} (hp : Enters p user rest)
      (hnull : '\x00' ∉ user.toList) (htext : h.Tells user text) (hhome : Directory text home) :
      Expands h p ⟨home.slashes, home.names ++ rest⟩

variable {h : Homes} {p q home : FilePath} {user text : String} {rest : List String}

theorem text?_eq_some : h.text? user = some text ↔ h.Tells user text := by
  unfold text?
  by_cases huser : user = ""
  · subst huser
    rw [if_pos rfl, Option.or_eq_some_iff]
    constructor
    · rintro (hvariable | ⟨hvariable, hown⟩)
      · exact .inherited hvariable
      · exact .account hvariable hown
    · intro htells
      cases htells with
      | inherited hvariable => exact Or.inl hvariable
      | account hvariable hown => exact Or.inr ⟨hvariable, hown⟩
      | other hother _ => exact absurd rfl hother
  · rw [if_neg huser]
    constructor
    · exact .other huser
    · intro htells
      cases htells with
      | other _ hother => exact hother
      | _ => exact absurd rfl huser

theorem directory?_eq_some : directory? text = some home ↔ Directory text home := by
  unfold directory?
  by_cases hroot : ∀ c ∈ text.toList, c = '/'
  · rw [if_pos (by simpa using hroot), Option.some_inj]
    constructor
    · rintro rfl
      exact .root hroot
    · intro hdirectory
      cases hdirectory with
      | root _ => rfl
      | path hother _ =>
        obtain ⟨c, hc, hslash⟩ := hother
        exact absurd (hroot c hc) hslash
  · rw [if_neg (by simpa using hroot)]
    push Not at hroot
    by_cases htilde : text.toList.head? = some '~'
    · rw [if_pos htilde]
      constructor
      · intro hnone
        cases hnone
      · intro hdirectory
        cases hdirectory with
        | root hall =>
          obtain ⟨c, hc, hslash⟩ := hroot
          exact absurd (hall c hc) hslash
        | path _ hplain => exact absurd htilde hplain
    · rw [if_neg htilde, Option.some_inj]
      constructor
      · rintro rfl
        exact .path hroot htilde
      · intro hdirectory
        cases hdirectory with
        | root hall =>
          obtain ⟨c, hc, hslash⟩ := hroot
          exact absurd (hall c hc) hslash
        | path _ _ => rfl

theorem find_eq_ok : h.find user = .ok home ↔
    '\x00' ∉ user.toList ∧ ∃ text, h.Tells user text ∧ Directory text home := by
  unfold find
  by_cases hnull : '\x00' ∈ user.toList
  · rw [if_pos (by simpa using hnull)]
    simp [hnull]
  · rw [if_neg (by simpa using hnull)]
    simp only [← text?_eq_some, ← directory?_eq_some, ← Option.bind_eq_some_iff]
    cases (h.text? user).bind directory? with
    | none => simp
    | some found => simp [hnull]

/-- The home of a user is not known, or the user has no proper name. -/
inductive Lacks (h : Homes) (user : String) : Fault → Prop
  | null (hnull : '\x00' ∈ user.toList) : Lacks h user .badValue
  | unknown (hnull : '\x00' ∉ user.toList)
      (hnone : ∀ text home, h.Tells user text → ¬ Directory text home) : Lacks h user .homeUnknown

theorem find_eq_error {e : Fault} : h.find user = .error e ↔ h.Lacks user e := by
  constructor
  · intro he
    by_cases hnull : '\x00' ∈ user.toList
    · unfold find at he
      rw [if_pos (by simpa using hnull)] at he
      obtain rfl := Except.error.inj he
      exact .null hnull
    · have hunknown (text : String) (home : FilePath) (htext : h.Tells user text) :
          ¬ Directory text home := by
        intro hhome
        rw [find_eq_ok.mpr ⟨hnull, text, htext, hhome⟩] at he
        cases he
      unfold find at he
      rw [if_neg (by simpa using hnull)] at he
      split at he
      · cases he
      · obtain rfl := Except.error.inj he
        exact .unknown hnull hunknown
  · intro hlacks
    cases hlacks with
    | null hnull =>
      unfold find
      rw [if_pos (by simpa using hnull)]
    | unknown hnull hunknown =>
      have hnone : (h.text? user).bind directory? = .none := by
        rw [Option.eq_none_iff_forall_ne_some]
        intro home hhome
        obtain ⟨text, htext, hhome⟩ := Option.bind_eq_some_iff.mp hhome
        exact hunknown text home (text?_eq_some.mp htext) (directory?_eq_some.mp hhome)
      unfold find
      rw [if_neg (by simpa using hnull), hnone]

theorem Enters.unique {user' : String} {rest' : List String} (hp : Enters p user rest)
    (hp' : Enters p user' rest') : user = user' ∧ rest = rest' := by
  obtain ⟨hname, hrest⟩ := List.cons.inj (hp.names.symm.trans hp'.names)
  exact ⟨(String.append_right_inj _).mp hname, hrest⟩

theorem expand_of_enters (hp : Enters p user rest) :
    h.expand p = (h.find user).map fun home => { home with names := home.names ++ rest } := by
  have hdrop : Text.dropPrefix? ['~'] ("~" ++ user).toList = some user.toList := by
    rw [String.toList_append]
    exact Text.dropPrefix?_append _ _
  unfold expand
  simp only [hp.relative, hp.names, hdrop, String.ofList_toList]

theorem expand_of_plain (hplain : ∀ user rest, ¬ Enters p user rest) : h.expand p = .ok p := by
  unfold expand
  split
  · next n rest hrelative hnames =>
    split
    · next user hdrop =>
      have hname : n = "~" ++ String.ofList user := by
        have htext := Text.eq_append_of_dropPrefix? hdrop
        rw [← String.toList_inj, String.toList_append, htext]
        exact congrArg ('~' :: ·) String.toList_ofList.symm
      exact absurd ⟨hrelative, by rw [hnames, hname]⟩ (hplain (String.ofList user) rest)
    · rfl
  · rfl

theorem expand_eq_ok : h.expand p = .ok q ↔ h.Expands p q := by
  by_cases hplain : ∀ user rest, ¬ Enters p user rest
  · rw [expand_of_plain hplain]
    constructor
    · intro hq
      obtain rfl := Except.ok.inj hq
      exact .plain hplain
    · intro hexpands
      cases hexpands with
      | plain _ => rfl
      | home hp _ _ _ => exact absurd hp (hplain _ _)
  · push Not at hplain
    obtain ⟨user, rest, hp⟩ := hplain
    rw [expand_of_enters hp, map_eq_ok]
    constructor
    · rintro ⟨home, hfind, rfl⟩
      obtain ⟨hnull, text, htext, hhome⟩ := find_eq_ok.mp hfind
      exact .home hp hnull htext hhome
    · intro hexpands
      cases hexpands with
      | plain hplain => exact absurd hp (hplain _ _)
      | @home user' text rest' home hp' hnull htext hhome =>
        obtain ⟨rfl, rfl⟩ := hp.unique hp'
        exact ⟨home, find_eq_ok.mpr ⟨hnull, text, htext, hhome⟩, rfl⟩

theorem expand_eq_error {e : Fault} :
    h.expand p = .error e ↔ ∃ user rest, Enters p user rest ∧ h.Lacks user e := by
  by_cases hplain : ∀ user rest, ¬ Enters p user rest
  · rw [expand_of_plain hplain]
    constructor
    · intro he
      cases he
    · rintro ⟨user, rest, hp, -⟩
      exact absurd hp (hplain user rest)
  · push Not at hplain
    obtain ⟨user, rest, hp⟩ := hplain
    rw [expand_of_enters hp, map_eq_error, find_eq_error]
    constructor
    · intro hlacks
      exact ⟨user, rest, hp, hlacks⟩
    · rintro ⟨user', rest', hp', hlacks⟩
      obtain ⟨rfl, rfl⟩ := hp.unique hp'
      exact hlacks

theorem Lacks.class_eq_none {e : Fault} (hlacks : h.Lacks user e) : e.class? = .none := by
  cases hlacks <;> rfl

end ClientCompiler.Homes
