import OpcodeAtlas.Proofs.Number.Reading
import OpcodeAtlas.Files.Tree
import OpcodeAtlas.Value.Shown

/-!
# Values as paths

Any value can be shown, and what is shown can be read as a path. Of a text and of a path this is the
path that they are. What is shown of any other value starts like a name, in detail as well
(`Value.startsName_detailIn`), so that it always is a relative path, and one that is in no home
directory (`Value.relative_shown`).
-/

set_option autoImplicit false

namespace OpcodeAtlas

/-! ## Texts that start with a name -/

/-- The first character of a text starts a name: it leads neither to the root nor to a home, and it
is no point. -/
inductive Text.StartsName : List Char → Prop
  | cons {c : Char} (rest : List Char) (hslash : c ≠ '/') (htilde : c ≠ '~') (hpoint : c ≠ '.') :
      StartsName (c :: rest)

namespace Text.StartsName

instance : DecidablePred StartsName
  | [] => .isFalse nofun
  | c :: rest =>
    decidable_of_iff (c ≠ '/' ∧ c ≠ '~' ∧ c ≠ '.')
      ⟨fun ⟨hslash, htilde, hpoint⟩ => .cons rest hslash htilde hpoint,
        fun | .cons _ hslash htilde hpoint => ⟨hslash, htilde, hpoint⟩⟩

theorem append {s : List Char} (h : StartsName s) (t : List Char) : StartsName (s ++ t) := by
  cases h with
  | cons rest hslash htilde hpoint => exact .cons (rest ++ t) hslash htilde hpoint

theorem of_isDigit {c : Char} (rest : List Char) (hc : c.isDigit = true) :
    StartsName (c :: rest) := by
  refine .cons rest ?_ ?_ ?_
  all_goals
    rintro rfl
    revert hc
    decide

/-- The name that such a text starts with as a path. -/
theorem exists_names {s : String} (h : StartsName s.toList) :
    ∃ c name more, Path.ofString s = ⟨.relative, String.ofList (c :: name) :: more⟩ ∧ c ≠ '~' := by
  obtain ⟨c, rest, hs, hslash, htilde, hpoint⟩ :
      ∃ c rest, s.toList = c :: rest ∧ c ≠ '/' ∧ c ≠ '~' ∧ c ≠ '.' := by
    cases hs : s.toList with
    | nil =>
        rw [hs] at h
        cases h
    | cons c rest =>
        rw [hs] at h
        cases h with
        | cons rest hslash htilde hpoint => exact ⟨c, rest, rfl, hslash, htilde, hpoint⟩
  have hroot : Path.rootOf s.toList = .relative := by
    rw [hs]
    unfold Path.rootOf
    split <;> simp_all
  -- The first part is not dropped: it has a character, and is no single point.
  have hkept (name : List Char) :
      (String.ofList (c :: name) != "" && String.ofList (c :: name) != ".") = true := by
    rw [Bool.and_eq_true, bne_iff_ne, bne_iff_ne]
    constructor
    · intro hnil
      have hlist := congrArg String.toList hnil
      rw [String.toList_ofList] at hlist
      cases hlist
    · intro heq
      have hlist := congrArg String.toList heq
      rw [String.toList_ofList] at hlist
      exact hpoint (List.cons.inj hlist).1
  unfold Path.ofString
  rw [hroot, hs, Path.splitSlashes]
  cases Path.splitSlashes rest with
  | nil =>
      refine ⟨c, [], [], ?_, htilde⟩
      simp only [List.map_cons, List.map_nil, List.filter_cons, hkept, if_true, List.filter_nil]
  | cons part parts =>
      simp only [hslash, if_false, List.map_cons, List.filter_cons, hkept, if_true]
      exact ⟨c, part, _, rfl, htilde⟩

end Text.StartsName

open Text

/-- A text that starts with a name is a relative path, which is in no home directory. -/
theorem relative_of_startsName (h : Host) {s : String} (hs : StartsName s.toList) :
    h.expandHome (Path.ofString s) = .ok (Path.ofString s) ∧
      (Path.ofString s).isAbsolute = false := by
  obtain ⟨c, name, more, hpath, htilde⟩ := hs.exists_names
  rw [hpath]
  refine ⟨?_, rfl⟩
  unfold Host.expandHome
  simp only [String.toList_ofList]
  split
  next user htext => exact absurd (List.cons.inj htext).1 htilde
  next => rfl

/-! ## Numbers and dates -/

theorem startsName_toDigits (n : Nat) : StartsName (Nat.toDigits 10 n) := by
  cases hdigits : Nat.toDigits 10 n with
  | nil => exact absurd hdigits Nat.toDigits_ne_nil
  | cons c rest =>
      apply StartsName.of_isDigit
      exact Nat.isDigit_of_mem_toDigits (by decide) (by decide) (hdigits ▸ List.mem_cons_self)

theorem startsName_toString (n : Int) : StartsName (toString n).toList := by
  rw [Number.toList_toString]
  unfold Number.signOf
  split
  · exact StartsName.append (by decide) _
  · exact startsName_toDigits n.natAbs

theorem startsName_decimal (layout : Decimal.Layout) (d : Decimal) :
    StartsName (Decimal.text layout d) := by
  have hdigits := startsName_toDigits d.coefficient
  rw [Decimal.text]
  dsimp only
  split
  · split
    · exact .cons _ (by decide) (by decide) (by decide)
    next hfirst =>
      split
      · exact (hdigits.append _).append _
      · -- At least one digit stands in front of the point.
        generalize Nat.toDigits 10 d.coefficient = digits at hdigits hfirst ⊢
        cases hdigits with
        | @cons c rest hslash htilde hpoint =>
            obtain ⟨k, hk⟩ : ∃ k, (d.exponent + (c :: rest).length - 1 + 1).toNat = k + 1 :=
              ⟨(d.exponent + (c :: rest).length - 1).toNat, by omega⟩
            rw [hk]
            exact .cons _ hslash htilde hpoint
  · split
    next hnil => exact absurd hnil Nat.toDigits_ne_nil
    next c rest hcons =>
      rw [hcons] at hdigits
      cases hdigits with
      | cons _ hslash htilde hpoint => exact .cons _ hslash htilde hpoint

theorem startsName_valueText (x : Binary64) : StartsName x.valueText.toList := by
  rw [Binary64.valueText, String.toList_ofList]
  have hsign (negative : Bool) {s : List Char} (hs : StartsName s) :
      StartsName (Binary64.signText negative ++ s) := by
    cases negative with
    | false => exact hs
    | true => exact StartsName.append (by decide) s
  cases x with
  | nan => exact (by decide : StartsName ['n', 'a', 'n'])
  | infinite negative => exact hsign negative (by decide)
  | finite negative m s =>
      apply hsign
      split
      · decide
      · exact startsName_decimal _ _

theorem startsName_padded (width n : Nat) : StartsName (padded width n).toList := by
  have hdigits : (toString n).toList = Nat.toDigits 10 n := by
    rw [Nat.toString_eq_repr, Nat.repr_eq_ofList_toDigits, String.toList_ofList]
  rw [padded, String.toList_append, String.toList_ofList, hdigits]
  cases width - (toString n).length with
  | zero => exact startsName_toDigits n
  | succ k =>
      rw [List.replicate_succ, List.cons_append]
      exact .cons _ (by decide) (by decide) (by decide)

theorem startsName_day (d : Day) : StartsName d.text.toList := by
  simp only [Day.text, String.toList_append]
  exact ((((startsName_padded 4 d.year).append _).append _).append _).append _

theorem startsName_moment (separator : String) (m : Moment) :
    StartsName (m.textWith separator).toList := by
  simp only [Moment.textWith, String.toList_append]
  exact (((startsName_day m.day).append _).append _).append _

theorem startsName_clock (c : Clock) : StartsName c.text.toList := by
  simp only [Clock.text, String.toList_append]
  exact (((((startsName_padded 2 c.hour).append _).append _).append _).append _).append _

/-! ## Other values -/

namespace Value

/-- What stands for a collection inside itself starts with a bracket. -/
theorem startsName_ellipsis (v : Value) : StartsName (ellipsis v).toList := by
  unfold ellipsis
  split <;> decide

theorem startsName_quotedString (s : String) : StartsName (quotedString s).toList := by
  rw [quotedString, String.toList_ofList, quoted]
  apply StartsName.append
  unfold quoteFor
  split
  · exact .cons _ (by decide) (by decide) (by decide)
  · exact .cons _ (by decide) (by decide) (by decide)

theorem startsName_dayDetail (d : Day) : StartsName d.detail.toList := by
  unfold Day.detail
  simp only [String.toList_append, List.append_assoc]
  exact StartsName.append (by decide) _

theorem startsName_momentDetail (m : Moment) : StartsName m.detail.toList := by
  unfold Moment.detail
  simp only [String.toList_append, List.append_assoc]
  exact StartsName.append (by decide) _

theorem startsName_clockDetail (c : Clock) : StartsName c.detail.toList := by
  unfold Clock.detail
  simp only [String.toList_append, List.append_assoc]
  exact StartsName.append (by decide) _

/-- What is shown of a value in detail starts with a name. Three points alone stand for a collection
that is not around the value. -/
theorem startsName_detailIn : ∀ (v : Value) (around : List (Nat × String)),
    (∀ e ∈ around, StartsName e.2.toList) →
      StartsName (detailIn around v).toList ∨ detailIn around v = "..."
  | .null, _, _ => .inl (by simp only [detailIn]; decide)
  | .bool on, _, _ => .inl (by cases on <;> simp only [detailIn, switchText] <;> decide)
  | .int n, _, _ => .inl (by simp only [detailIn]; exact startsName_toString n)
  | .float x, _, _ => .inl (by simp only [detailIn]; exact startsName_valueText x)
  | .text s, _, _ => .inl (by simp only [detailIn]; exact startsName_quotedString s)
  | .list items, around, _ => by
      simp only [detailIn, String.toList_append, List.append_assoc]
      exact .inl (StartsName.append (by decide) _)
  | .tuple [], around, _ => by
      simp only [detailIn, String.toList_append, List.append_assoc]
      exact .inl (StartsName.append (by decide) _)
  | .tuple [v], around, _ => by
      simp only [detailIn, String.toList_append, List.append_assoc]
      exact .inl (StartsName.append (by decide) _)
  | .tuple (v :: w :: items), around, _ => by
      simp only [detailIn, String.toList_append, List.append_assoc]
      exact .inl (StartsName.append (by decide) _)
  | .map entries, around, _ => by
      simp only [detailIn, String.toList_append, List.append_assoc]
      exact .inl (StartsName.append (by decide) _)
  | .set [], _, _ => .inl (by simp only [detailIn]; decide)
  | .set (v :: members), around, _ => by
      simp only [detailIn, String.toList_append, List.append_assoc]
      exact .inl (StartsName.append (by decide) _)
  | .date d, _, _ => .inl (by simp only [detailIn]; exact startsName_dayDetail d)
  | .moment m, _, _ => .inl (by simp only [detailIn]; exact startsName_momentDetail m)
  | .time c, _, _ => .inl (by simp only [detailIn]; exact startsName_clockDetail c)
  | .bytes bs, _, _ => by
      simp only [detailIn, String.toList_ofList]
      exact .inl (.cons _ (by decide) (by decide) (by decide))
  | .path p, _, _ => by
      simp only [detailIn, String.toList_append, List.append_assoc]
      exact .inl (StartsName.append (by decide) _)
  | .marked m v, around, haround => by
      simp only [detailIn]
      split
      next s hs =>
        obtain ⟨before, after, hsplit, -⟩ := List.lookup_eq_some_iff.1 hs
        left
        exact haround (m, s) (hsplit ▸ List.mem_append_right before List.mem_cons_self)
      next hnone =>
        apply startsName_detailIn v
        exact List.forall_mem_cons.2 ⟨startsName_ellipsis v, haround⟩
  | .again m, around, haround => by
      simp only [detailIn]
      cases hs : around.lookup m with
      | none => exact .inr rfl
      | some s =>
          obtain ⟨before, after, hsplit, -⟩ := List.lookup_eq_some_iff.1 hs
          left
          exact haround (m, s) (hsplit ▸ List.mem_append_right before List.mem_cons_self)

/-- A value that is no text of a path is shown as a relative path, which is in no home directory. -/
theorem relative_shown (h : Host) {v : Value} (htext : ∀ s, v ≠ .text s)
    (hpath : ∀ s, v ≠ .path s) :
    h.expandHome (Path.ofString v.shown) = .ok (Path.ofString v.shown) ∧
      (Path.ofString v.shown).isAbsolute = false := by
  have hdetail : h.expandHome (Path.ofString v.detail) = .ok (Path.ofString v.detail) ∧
      (Path.ofString v.detail).isAbsolute = false := by
    rcases startsName_detailIn v [] nofun with hname | hpoints
    · exact relative_of_startsName h hname
    · have hpath : Path.ofString v.detail = ⟨.relative, ["..."]⟩ := by
        rw [detail, hpoints]
        decide
      rw [hpath]
      exact ⟨rfl, rfl⟩
  cases v with
  | text s => exact absurd rfl (htext s)
  | path s => exact absurd rfl (hpath s)
  | date d => exact relative_of_startsName h (startsName_day d)
  | moment m => exact relative_of_startsName h (startsName_moment " " m)
  | time c => exact relative_of_startsName h (startsName_clock c)
  | _ => exact hdetail

end Value
end OpcodeAtlas
