import Mathlib.Data.List.DropRight

namespace Songmaker.Foundation

/-- The characters that `str.isspace` accepts. -/
def isSpace (c : Char) : Bool :=
  let n := c.toNat
  (9 ≤ n && n ≤ 13) || (28 ≤ n && n ≤ 32) || n = 0x85 || n = 0xa0 || n = 0x1680 ||
    (0x2000 ≤ n && n ≤ 0x200a) || n = 0x2028 || n = 0x2029 || n = 0x202f || n = 0x205f || n = 0x3000

/-- `str.strip`. -/
def strip (text : List Char) : List Char :=
  (text.dropWhile isSpace).rdropWhile isSpace

theorem strip_space {first last : Char} {middle : List Char} (hfirst : isSpace first = false)
    (hlast : isSpace last = false) :
    strip (' ' :: first :: middle ++ [last]) = first :: middle ++ [last] := by
  have hspace : isSpace ' ' = true := by decide
  have hdrop : (' ' :: first :: middle ++ [last]).dropWhile isSpace =
      first :: middle ++ [last] := by
    rw [List.cons_append, List.cons_append, List.dropWhile_cons_of_pos hspace,
      List.dropWhile_cons_of_neg (by simp [hfirst])]
  rw [strip, hdrop, List.rdropWhile_concat_neg]
  simp [hlast]

/-- The characters that end a line for `str.splitlines`. -/
def isLineEnd (c : Char) : Bool :=
  let n := c.toNat
  (10 ≤ n && n ≤ 13) || (28 ≤ n && n ≤ 30) || n = 0x85 || n = 0x2028 || n = 0x2029

/-- The lines of a text, the current one being read. -/
def splitlinesFrom (line : List Char) : List Char → List (List Char)
  | [] => if line.isEmpty then [] else [line.reverse]
  | '\r' :: '\n' :: rest => line.reverse :: splitlinesFrom [] rest
  | c :: rest =>
      if isLineEnd c then line.reverse :: splitlinesFrom [] rest
      else splitlinesFrom (c :: line) rest

/-- `str.splitlines`. -/
def splitlines (text : List Char) : List (List Char) :=
  splitlinesFrom [] text

theorem splitlinesFrom_of_unbroken {text : List Char} (htext : ∀ c ∈ text, isLineEnd c = false)
    (line : List Char) :
    splitlinesFrom line text =
      if (line.reverse ++ text).isEmpty then [] else [line.reverse ++ text] := by
  induction text generalizing line with
  | nil => simp [splitlinesFrom]
  | cons c text ih =>
      have hc := htext c List.mem_cons_self
      rw [splitlinesFrom, if_neg (by simp [hc]), ih fun d hd => htext d (List.mem_cons_of_mem c hd)]
      · simp
      · rintro rest ⟨⟩
        exact absurd hc (by decide)

theorem splitlines_append {text : List Char} (htext : ∀ c ∈ text, isLineEnd c = false)
    (rest : List Char) : splitlines (text ++ '\n' :: rest) = text :: splitlines rest := by
  have hfrom : ∀ line, splitlinesFrom line (text ++ '\n' :: rest) =
      (line.reverse ++ text) :: splitlines rest := by
    induction text with
    | nil =>
        intro line
        rw [List.nil_append, splitlinesFrom, if_pos (by decide), List.append_nil, splitlines]
        rintro _ ⟨⟩
    | cons c text ih =>
        intro line
        have hc := htext c List.mem_cons_self
        rw [List.cons_append, splitlinesFrom, if_neg (by simp [hc]),
          ih (fun d hd => htext d (List.mem_cons_of_mem c hd))]
        · simp
        · rintro rest ⟨⟩
          exact absurd hc (by decide)
  exact hfrom []

theorem splitlines_of_unbroken {text : List Char} (htext : ∀ c ∈ text, isLineEnd c = false)
    (hne : text ≠ []) : splitlines text = [text] := by
  rw [splitlines, splitlinesFrom_of_unbroken htext, if_neg]
  · rfl
  · simpa using hne

def encodeUtf8 (text : List Char) : List UInt8 :=
  (String.ofList text).toUTF8.data.toList

def decodeUtf8 (bytes : List UInt8) : Option (List Char) :=
  (String.fromUTF8? ⟨bytes.toArray⟩).map String.toList

theorem decodeUtf8_encodeUtf8 (text : List Char) : decodeUtf8 (encodeUtf8 text) = some text := by
  have hbytes : (⟨(encodeUtf8 text).toArray⟩ : ByteArray) = (String.ofList text).toByteArray := by
    unfold encodeUtf8
    simp
  unfold decodeUtf8
  rw [hbytes, String.fromUTF8?, dif_pos (String.ofList text).isValidUTF8]
  exact congrArg some String.toList_ofList

theorem encodeUtf8_ne_nil {text : List Char} (htext : text ≠ []) : encodeUtf8 text ≠ [] := by
  intro hnil
  have hdecode := decodeUtf8_encodeUtf8 text
  rw [hnil, show decodeUtf8 [] = some [] by decide +kernel] at hdecode
  exact htext (Option.some.inj hdecode).symm

theorem encodeUtf8_append (text text' : List Char) :
    encodeUtf8 (text ++ text') = encodeUtf8 text ++ encodeUtf8 text' := by
  simp [encodeUtf8, String.ofList_append]

theorem encodeUtf8_injective : Function.Injective encodeUtf8 := by
  intro text text' htext
  have hdecode := decodeUtf8_encodeUtf8 text
  rw [htext, decodeUtf8_encodeUtf8] at hdecode
  exact (Option.some.inj hdecode).symm

end Songmaker.Foundation
