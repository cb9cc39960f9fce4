import OpcodeAtlas.Proofs.Text.Blank

/-!
# How lines end

A line may end with a line feed, with a carriage return, or with both. Which of them it is makes no
difference to the bodies of the lines (`bodies_unifyEnds`), for all that unifying the ends moves the
places behind them.

Two texts that are the same but for how their lines end (`SameButEnds`) become one text when the
ends are unified (`SameButEnds.unifyEnds_eq`). A carriage return that comes to stand in front of a
line feed is no line end of its own any more, so the relation keeps the two apart.
-/

set_option autoImplicit false

namespace OpcodeAtlas.Text

/-! ## Bodies of lines -/

/-- The lines of a text without the line ends that close them. -/
def bodies (s : List Char) : List (List Char) := (lines s).map body

theorem body_cons_of_not_isLineEnd {c : Char} (hc : isLineEnd c = false) (l : List Char) :
    body (c :: l) = c :: body l := dropEndWhile_cons_of_neg hc l

theorem map_body_consLine {c : Char} (hc : isLineEnd c = false) (ls : List (List Char)) :
    (consLine c ls).map body = consLine c (ls.map body) := by
  cases ls with
  | nil => exact congrArg ([·]) (body_cons_of_not_isLineEnd hc [])
  | cons l ls =>
      rw [consLine, List.map_cons, List.map_cons, consLine, body_cons_of_not_isLineEnd hc]

/-- A carriage return and a line feed behind it end one line. -/
theorem bodies_return_feed (s : List Char) : bodies ('\r' :: '\n' :: s) = bodies ('\n' :: s) := by
  have hfeed : lines ('\n' :: s) = ['\n'] :: lines s := by
    rw [lines.eq_def]
    rfl
  have hreturn : lines ('\r' :: '\n' :: s) = ['\r', '\n'] :: lines s := by
    rw [lines.eq_def]
    simp only [if_true]
    rw [hfeed]
    rfl
  rw [bodies, bodies, hfeed, hreturn]
  rfl

/-- A carriage return by itself ends a line. -/
theorem bodies_return {s : List Char} (hs : ∀ t, s ≠ '\n' :: t) :
    bodies ('\r' :: s) = [] :: bodies s := by
  have hlines : lines ('\r' :: s) = ['\r'] :: lines s := by
    rw [lines.eq_def]
    simp only [if_true]
  rw [bodies, hlines]
  rfl

/-- Any other character ends a line or stands on one. -/
theorem bodies_cons {c : Char} (hc : c ≠ '\r') (s : List Char) :
    bodies (c :: s) = if isBoundary c then body [c] :: bodies s else consLine c (bodies s) := by
  rw [bodies, lines.eq_def]
  simp only [hc, if_false]
  split
  next => rfl
  next hboundary =>
    exact map_body_consLine (isLineEnd_of_not_isBoundary (by simpa using hboundary)) _

/-- **Unifying the line ends leaves the bodies of the lines as they are.** -/
theorem bodies_unifyEnds (s : List Char) : bodies (unifyEnds s) = bodies s := by
  fun_induction unifyEnds s with
  | case1 => rfl
  | case2 t ih => rw [ih, bodies_return_feed]
  | case3 rest hrest ih =>
      rw [bodies_cons (by decide), ih, bodies_return fun t ht => hrest t ht]
      rfl
  | case4 c rest hc ih => rw [bodies_cons hc, bodies_cons hc, ih]

/-! ## Other line ends -/

/-- A text is a line end in front of another one. -/
inductive IsEndBefore (rest : List Char) : List Char → Prop where
  | feed : IsEndBefore rest ['\n']
  | returnFeed : IsEndBefore rest ['\r', '\n']
  | loneReturn (h : rest.head? ≠ some '\n') : IsEndBefore rest ['\r']

/-- Two texts are the same but for how their lines end. -/
inductive SameButEnds : List Char → List Char → Prop where
  | nil : SameButEnds [] []
  | char {c : Char} {s t : List Char} (hc : isLineEnd c = false) (h : SameButEnds s t) :
      SameButEnds (c :: s) (c :: t)
  | lineEnd {e e' s t : List Char} (he : IsEndBefore s e) (he' : IsEndBefore t e')
      (h : SameButEnds s t) : SameButEnds (e ++ s) (e' ++ t)

/-- Each line end becomes one line feed. -/
theorem IsEndBefore.unifyEnds_append {e s : List Char} (h : IsEndBefore s e) :
    unifyEnds (e ++ s) = '\n' :: unifyEnds s := by
  have hfeed : unifyEnds ('\n' :: s) = '\n' :: unifyEnds s := by
    rw [unifyEnds.eq_def]
    rfl
  cases h with
  | feed => exact hfeed
  | returnFeed =>
      show unifyEnds ('\r' :: '\n' :: s) = _
      rw [unifyEnds.eq_def]
      exact hfeed
  | loneReturn hhead =>
      have hs : ∀ t, s ≠ '\n' :: t := by
        rintro t rfl
        exact hhead rfl
      show unifyEnds ('\r' :: s) = _
      rw [unifyEnds.eq_def]
      simp only [if_true]

/-- **Texts that differ in their line ends alone become one text.** -/
theorem SameButEnds.unifyEnds_eq {s t : List Char} (h : SameButEnds s t) :
    unifyEnds s = unifyEnds t := by
  induction h with
  | nil => rfl
  | @char c s t hc h ih =>
      have hreturn : c ≠ '\r' := by
        rintro rfl
        exact absurd hc (by decide)
      rw [unifyEnds.eq_def, unifyEnds.eq_def (c :: t)]
      simp only [hreturn, if_false, ih]
  | lineEnd he he' h ih => rw [he.unifyEnds_append, he'.unifyEnds_append, ih]

end OpcodeAtlas.Text
