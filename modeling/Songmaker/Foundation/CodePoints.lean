import Mathlib.Data.List.Forall2

/-!
Texts of 16-bit code units, and the code points that a surrogate pair or a unit on its
own makes.
-/

namespace Songmaker.Foundation.CodePoints

abbrev Text := List Nat

def isLeading (unit : Nat) : Bool :=
  0xD800 ≤ unit && unit ≤ 0xDBFF

def isTrailing (unit : Nat) : Bool :=
  0xDC00 ≤ unit && unit ≤ 0xDFFF

/-- The code points of a text, each as a text of its own. -/
def codePoints : Text → List Text
  | [] => []
  | [unit] => [[unit]]
  | unit :: next :: rest =>
      if isLeading unit && isTrailing next then [unit, next] :: codePoints rest
      else [unit] :: codePoints (next :: rest)

/-- The code units of a text. -/
def encodeUtf16 (text : List Char) : Text :=
  text.flatMap fun c =>
    if c.toNat < 0x10000 then [c.toNat]
    else [0xD800 + (c.toNat - 0x10000) / 0x400, 0xDC00 + (c.toNat - 0x10000) % 0x400]

/-- A surrogate on its own reads as `U+FFFD`. -/
def decodePoint : Text → Char
  | [unit] => if isLeading unit || isTrailing unit then Char.ofNat 0xFFFD else Char.ofNat unit
  | [unit, next] => Char.ofNat (0x10000 + (unit - 0xD800) * 0x400 + (next - 0xDC00))
  | _ => Char.ofNat 0xFFFD

/-- The characters of a sequence of code units. -/
def decodeUtf16 (text : Text) : List Char :=
  (codePoints text).map decodePoint

/-- No surrogate pair lies across the end of one text and the start of the next. -/
def Parted (text next : Text) : Prop :=
  ∀ unit ∈ text.getLast?, ∀ unit' ∈ next.head?, isLeading unit = true → isTrailing unit' = false

theorem codePoints_pair {unit next : Nat} (rest : Text)
    (hpair : (isLeading unit && isTrailing next) = true) :
    codePoints (unit :: next :: rest) = [unit, next] :: codePoints rest := by
  rw [codePoints, if_pos hpair]

theorem codePoints_single {unit : Nat} {rest : Text} (hparted : Parted [unit] rest) :
    codePoints (unit :: rest) = [unit] :: codePoints rest := by
  cases rest with
  | nil => rfl
  | cons next rest =>
      rw [codePoints, if_neg]
      intro hpair
      rw [Bool.and_eq_true] at hpair
      have hnot := hparted unit rfl next rfl hpair.1
      rw [hnot] at hpair
      exact Bool.false_ne_true hpair.2

theorem flatten_codePoints (text : Text) : (codePoints text).flatten = text := by
  induction text using codePoints.induct with
  | case1 => rfl
  | case2 unit => rfl
  | case3 unit next rest hpair ih => rw [codePoints_pair rest hpair, List.flatten_cons, ih]; rfl
  | case4 unit next rest hpair ih =>
      rw [codePoints, if_neg hpair, List.flatten_cons, ih]
      rfl

/-- A text of one code point: a surrogate pair, or one unit. -/
inductive IsPoint : Text → Prop
  | single (unit : Nat) : IsPoint [unit]
  | pair {unit next : Nat} (hpair : (isLeading unit && isTrailing next) = true) :
      IsPoint [unit, next]

theorem isPoint_of_mem {text point : Text} (hpoint : point ∈ codePoints text) : IsPoint point := by
  induction text using codePoints.induct with
  | case1 => exact absurd hpoint List.not_mem_nil
  | case2 unit =>
      obtain rfl := List.mem_singleton.mp hpoint
      exact .single unit
  | case3 unit next rest hpair ih =>
      rw [codePoints_pair rest hpair] at hpoint
      rcases List.mem_cons.mp hpoint with rfl | hrest
      · exact .pair hpair
      · exact ih hrest
  | case4 unit next rest hpair ih =>
      rw [codePoints, if_neg hpair] at hpoint
      rcases List.mem_cons.mp hpoint with rfl | hrest
      · exact .single unit
      · exact ih hrest

theorem isTrailing_of_isLeading {unit : Nat} (hunit : isLeading unit = true) :
    isTrailing unit = false := by
  simp only [isLeading, isTrailing, Bool.and_eq_true, decide_eq_true_eq, Bool.and_eq_false_iff,
    decide_eq_false_iff_not] at hunit ⊢
  omega

theorem codePoints_append {text next : Text} (hparted : Parted text next) :
    codePoints (text ++ next) = codePoints text ++ codePoints next := by
  induction text using codePoints.induct with
  | case1 => rfl
  | case2 unit => exact codePoints_single hparted
  | case3 unit unit' rest hpair ih =>
      rw [codePoints_pair rest hpair, List.cons_append, List.cons_append,
        codePoints_pair _ hpair, List.cons_append]
      congr 1
      cases rest with
      | nil => rfl
      | cons first rest =>
          refine ih ?_
          simpa [Parted] using hparted
  | case4 unit unit' rest hpair ih =>
      have hsplit : Parted [unit] (unit' :: rest) := by
        intro last hlast first hfirst hleading
        obtain rfl := Option.mem_some.mp hlast
        obtain rfl := Option.mem_some.mp hfirst
        have hunit : isLeading unit = true := hleading
        rw [hunit, Bool.true_and] at hpair
        exact Bool.eq_false_iff.mpr hpair
      have hsplit' : Parted [unit] (unit' :: rest ++ next) := by
        intro last hlast first hfirst
        exact hsplit last hlast first hfirst
      rw [codePoints_single hsplit, List.cons_append, codePoints_single hsplit', List.cons_append]
      congr 1
      refine ih ?_
      simpa [Parted] using hparted

/-! ### Texts put together from pieces -/

/-- A piece that takes the place of a code point and makes no new surrogate pair with
what stands beside it. -/
structure Replaces (piece point : Text) : Prop where
  ne_nil : piece ≠ []
  sealed : piece = point ∨
    (∀ unit ∈ piece.head?, isTrailing unit = false) ∧
      ∀ unit ∈ piece.getLast?, isLeading unit = false

theorem head_flatten_isTrailing {text : Text} {pieces : List Text}
    (hpieces : List.Forall₂ Replaces pieces (codePoints text)) {unit : Nat}
    (hunit : unit ∈ pieces.flatten.head?) (htrailing : isTrailing unit = true) :
    unit ∈ text.head? := by
  cases text with
  | nil =>
      obtain rfl := List.forall₂_nil_right_iff.mp hpieces
      exact hunit
  | cons first rest =>
      obtain ⟨point, points, hpoints, hfirst⟩ : ∃ point points,
          codePoints (first :: rest) = point :: points ∧ point.head? = some first := by
        cases rest with
        | nil => exact ⟨[first], [], rfl, rfl⟩
        | cons second rest =>
            rw [codePoints]
            split
            · exact ⟨_, _, rfl, rfl⟩
            · exact ⟨_, _, rfl, rfl⟩
      rw [hpoints] at hpieces
      obtain ⟨piece, more, hpiece, -, rfl⟩ := List.forall₂_cons_right_iff.mp hpieces
      rw [List.flatten_cons, List.head?_append_of_ne_nil _ hpiece.ne_nil] at hunit
      rcases hpiece.sealed with rfl | hsealed
      · rw [hfirst] at hunit
        exact hunit
      · rw [hsealed.1 unit hunit] at htrailing
        exact absurd htrailing Bool.false_ne_true

theorem codePoints_flatten {text : Text} {pieces : List Text}
    (hpieces : List.Forall₂ Replaces pieces (codePoints text)) :
    codePoints pieces.flatten = pieces.flatMap codePoints := by
  induction text using codePoints.induct generalizing pieces with
  | case1 =>
      obtain rfl := List.forall₂_nil_right_iff.mp hpieces
      rfl
  | case2 unit =>
      obtain ⟨piece, more, -, hmore, rfl⟩ := List.forall₂_cons_right_iff.mp hpieces
      obtain rfl := List.forall₂_nil_right_iff.mp hmore
      simp
  | case3 unit next rest hpair ih =>
      rw [codePoints_pair rest hpair] at hpieces
      obtain ⟨piece, more, hpiece, hmore, rfl⟩ := List.forall₂_cons_right_iff.mp hpieces
      rw [List.flatten_cons, List.flatMap_cons, ← ih hmore]
      refine codePoints_append fun last hlast first hfirst hleading => ?_
      rcases hpiece.sealed with rfl | hsealed
      · obtain rfl : next = last := by simpa using hlast
        rw [Bool.and_eq_true] at hpair
        rw [isTrailing_of_isLeading hleading] at hpair
        exact absurd hpair.2 Bool.false_ne_true
      · rw [hsealed.2 last hlast] at hleading
        exact absurd hleading Bool.false_ne_true
  | case4 unit next rest hpair ih =>
      have hpoints : codePoints (unit :: next :: rest) = [unit] :: codePoints (next :: rest) := by
        rw [codePoints, if_neg hpair]
      rw [hpoints] at hpieces
      obtain ⟨piece, more, hpiece, hmore, rfl⟩ := List.forall₂_cons_right_iff.mp hpieces
      rw [List.flatten_cons, List.flatMap_cons, ← ih hmore]
      refine codePoints_append fun last hlast first hfirst hleading => ?_
      rcases hpiece.sealed with rfl | hsealed
      · obtain rfl : unit = last := by simpa using hlast
        by_contra htrailing
        rw [Bool.not_eq_false] at htrailing
        have hhead := head_flatten_isTrailing hmore hfirst htrailing
        obtain rfl : next = first := by simpa using hhead
        exact hpair (by rw [hleading, htrailing]; rfl)
      · rw [hsealed.2 last hlast] at hleading
        exact absurd hleading Bool.false_ne_true

theorem codePoints_of_isPoint {point : Text} (hpoint : IsPoint point) :
    codePoints point = [point] := by
  cases hpoint with
  | single unit => rfl
  | pair hpair => exact codePoints_pair [] hpair

theorem codePoints_eq_map {text : Text} (htext : ∀ unit ∈ text, isLeading unit = false) :
    codePoints text = text.map fun unit => [unit] := by
  induction text with
  | nil => rfl
  | cons unit rest ih =>
      rw [codePoints_single, ih fun other hother => htext other (List.mem_cons_of_mem unit hother),
        List.map_cons]
      intro last hlast first hfirst hleading
      obtain rfl := Option.mem_some.mp hlast
      have hunit : isLeading unit = true := hleading
      rw [htext unit List.mem_cons_self] at hunit
      exact absurd hunit Bool.false_ne_true

end Songmaker.Foundation.CodePoints
