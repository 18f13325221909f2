import Mathlib.Data.List.TakeWhile
import Songmaker.Foundation.Json

namespace Songmaker.Foundation.Json

section Strings

theorem hexValue_hexDigit : ∀ n < 16, hexValue? (hexDigit n) = some n := by
  decide

theorem readHex4_hex4 {n : Nat} (hn : n < 65536) (rest : List Char) :
    readHex4 (hex4 n ++ rest) = some (n, rest) := by
  have ha := hexValue_hexDigit (n / 4096 % 16) (Nat.mod_lt _ (by decide))
  have hb := hexValue_hexDigit (n / 256 % 16) (Nat.mod_lt _ (by decide))
  have hc := hexValue_hexDigit (n / 16 % 16) (Nat.mod_lt _ (by decide))
  have hd := hexValue_hexDigit (n % 16) (Nat.mod_lt _ (by decide))
  have hsum : 4096 * (n / 4096 % 16) + 256 * (n / 256 % 16) + 16 * (n / 16 % 16) + n % 16 = n := by
    omega
  show (do return (4096 * (← hexValue? _) + 256 * (← hexValue? _) + 16 * (← hexValue? _) +
    (← hexValue? _), rest)) = _
  rw [ha, hb, hc, hd]
  exact congrArg (fun code => some (code, rest)) hsum

theorem readUnicode_basic {c : Char} (hc : c.toNat < 65536) (rest : List Char) :
    readUnicode (hex4 c.toNat ++ rest) = some (c, rest) := by
  have hvalid : c.toNat < 55296 ∨ 57343 < c.toNat := by
    rcases c.valid with h | ⟨h, -⟩
    · exact .inl h
    · exact .inr h
  simp only [readUnicode, readHex4_hex4 hc, Option.bind_eq_bind, Option.bind_some]
  rw [if_neg (by omega), if_neg (by omega), Char.ofNat_toNat]
  rfl

theorem readUnicode_pair (high low : Nat) (hhigh : 55296 ≤ high ∧ high < 56320)
    (hlow : 56320 ≤ low ∧ low < 57344) (rest : List Char) :
    readUnicode (hex4 high ++ ('\\' :: 'u' :: hex4 low ++ rest)) =
      some (Char.ofNat (65536 + (high - 55296) * 1024 + (low - 56320)), rest) := by
  have hfirst := readHex4_hex4 (n := high) (by omega) ('\\' :: 'u' :: hex4 low ++ rest)
  have hsecond := readHex4_hex4 (n := low) (by omega) rest
  simp only [readUnicode, hfirst, Option.bind_eq_bind, Option.bind_some]
  rw [if_pos hhigh]
  simp only [List.cons_append, hsecond, Option.bind_some]
  rw [if_pos hlow]
  rfl

theorem pair_code {c : Char} (hc : 65536 ≤ c.toNat) :
    Char.ofNat (65536 + (55296 + (c.toNat - 65536) / 1024 - 55296) * 1024 +
      (56320 + (c.toNat - 65536) % 1024 - 56320)) = c := by
  have hcode : 65536 + (55296 + (c.toNat - 65536) / 1024 - 55296) * 1024 +
      (56320 + (c.toNat - 65536) % 1024 - 56320) = c.toNat := by
    omega
  rw [hcode, Char.ofNat_toNat]

theorem readChar_escapeChar (c : Char) (rest : List Char) :
    readChar (escapeChar c ++ rest) = some (c, rest) := by
  unfold escapeChar
  split_ifs with hquote hslash hn hr ht hf hb hplain hbasic
  · simp [readChar, hquote]
  · simp [readChar, hslash]
  · simp [readChar, hn]
  · simp [readChar, hr]
  · simp [readChar, ht]
  · simp [readChar, hf]
  · simp [readChar, hb]
  · have hcontrol : ¬ c < ' ' := not_lt.mpr hplain.1
    rw [List.cons_append, List.nil_append, readChar]
    · rw [if_neg hcontrol]
    all_goals
      intros
      simp_all
  · exact readUnicode_basic hbasic rest
  · have hmax : c.toNat < 1114112 := by
      rcases c.valid with h | ⟨-, h⟩
      · exact lt_trans h (by decide)
      · exact h
    have hpair := readUnicode_pair (55296 + (c.toNat - 65536) / 1024)
      (56320 + (c.toNat - 65536) % 1024) (by omega) (by omega) rest
    rw [pair_code (not_lt.mp hbasic)] at hpair
    rw [List.append_assoc]
    exact hpair

theorem escapeChar_ne_quote (c : Char) (rest : List Char) :
    ∀ tail, escapeChar c ++ rest ≠ '"' :: tail := by
  intro tail
  unfold escapeChar
  split_ifs <;> simp_all

theorem readString_flatMap (cs : List Char) (rest : List Char) {fuel : Nat}
    (hfuel : cs.length < fuel) :
    readString fuel (cs.flatMap escapeChar ++ '"' :: rest) = some (cs, rest) := by
  induction cs generalizing fuel with
  | nil =>
      obtain ⟨fuel, rfl⟩ := Nat.exists_eq_add_one_of_ne_zero (Nat.ne_of_gt hfuel)
      rfl
  | cons c cs ih =>
      obtain ⟨fuel, rfl⟩ := Nat.exists_eq_add_one_of_ne_zero (Nat.ne_zero_of_lt hfuel)
      rw [List.flatMap_cons, List.append_assoc, readString]
      · simp only [readChar_escapeChar, ih (Nat.lt_of_succ_lt_succ hfuel), Option.bind_eq_bind,
          Option.bind_some]
        rfl
      · intro tail htail
        exact escapeChar_ne_quote c _ tail htail

theorem length_le_flatMap_escapeChar (cs : List Char) :
    cs.length ≤ (cs.flatMap escapeChar).length := by
  induction cs with
  | nil => exact le_rfl
  | cons c cs ih =>
      have hescape : escapeChar c ≠ [] := by
        unfold escapeChar
        split_ifs <;> simp
      have hpos := List.length_pos_of_ne_nil hescape
      rw [List.flatMap_cons, List.length_append, List.length_cons]
      omega

theorem dumpsString_append (s : String) (rest : List Char) :
    dumpsString s ++ rest = '"' :: (s.toList.flatMap escapeChar ++ '"' :: rest) := by
  simp [dumpsString]

theorem readString_quoted (s : String) (rest : List Char) :
    readString ((s.toList.flatMap escapeChar ++ '"' :: rest).length + 1)
      (s.toList.flatMap escapeChar ++ '"' :: rest) = some (s.toList, rest) := by
  apply readString_flatMap
  rw [List.length_append]
  exact Nat.lt_succ_of_le ((length_le_flatMap_escapeChar s.toList).trans (Nat.le_add_right _ _))

end Strings

section Numbers

/-- The characters that may follow a value inside an array or an object. -/
def Closes (c : Char) : Prop :=
  c = ',' ∨ c = '}' ∨ c = ']'

variable {c : Char} (hc : Closes c) (tail : List Char)
include hc

theorem Closes.not_digit : c.isDigit = false := by
  rcases hc with rfl | rfl | rfl <;> decide

theorem takeWhile_digit_append (text : List Char) :
    (text ++ c :: tail).takeWhile Char.isDigit = text.takeWhile Char.isDigit := by
  induction text with
  | nil => simp [hc.not_digit]
  | cons d text ih => simp only [List.cons_append, List.takeWhile_cons, ih]

theorem dropWhile_digit_append (text : List Char) :
    (text ++ c :: tail).dropWhile Char.isDigit = text.dropWhile Char.isDigit ++ c :: tail := by
  induction text with
  | nil => simp [hc.not_digit]
  | cons d text ih =>
      simp only [List.cons_append, List.dropWhile_cons, ih]
      split_ifs <;> rfl

theorem readFraction_append (text : List Char) :
    readFraction (text ++ c :: tail) =
      ((readFraction text).1, (readFraction text).2 ++ c :: tail) := by
  cases text with
  | nil => rcases hc with rfl | rfl | rfl <;> rfl
  | cons d text =>
      by_cases hd : d = '.'
      · subst hd
        simp only [List.cons_append, readFraction, takeWhile_digit_append hc,
          dropWhile_digit_append hc]
        split_ifs <;> rfl
      · rw [List.cons_append, readFraction, readFraction]
        · rfl
        · rintro rest ⟨⟩
          exact hd rfl
        · rintro rest ⟨⟩
          exact hd rfl

theorem readSign_append (text : List Char) :
    readSign (text ++ c :: tail) = ((readSign text).1, (readSign text).2 ++ c :: tail) := by
  cases text with
  | nil => rcases hc with rfl | rfl | rfl <;> rfl
  | cons d text =>
      rw [List.cons_append]
      unfold readSign
      split <;> simp_all

theorem readExponent_append (text : List Char) :
    readExponent (text ++ c :: tail) =
      ((readExponent text).1, (readExponent text).2 ++ c :: tail) := by
  cases text with
  | nil => rcases hc with rfl | rfl | rfl <;> simp [readExponent]
  | cons e text =>
      simp only [List.cons_append, readExponent, readSign_append hc, takeWhile_digit_append hc,
        dropWhile_digit_append hc]
      split_ifs <;> rfl

theorem readMinus_append (text : List Char) :
    readMinus (text ++ c :: tail) = ((readMinus text).1, (readMinus text).2 ++ c :: tail) := by
  cases text with
  | nil => rcases hc with rfl | rfl | rfl <;> rfl
  | cons d text =>
      rw [List.cons_append]
      unfold readMinus
      split <;> simp_all

theorem readInteger_append {text digits rest : List Char}
    (h : readInteger text = some (digits, rest)) :
    readInteger (text ++ c :: tail) = some (digits, rest ++ c :: tail) := by
  cases text with
  | nil => simp [readInteger] at h
  | cons d text =>
      by_cases hd : d = '0'
      · subst hd
        simp only [readInteger, Option.some.injEq, Prod.mk.injEq] at h
        obtain ⟨rfl, rfl⟩ := h
        rfl
      · have hzero : ∀ rest, d :: text ≠ '0' :: rest := by
          rintro rest ⟨⟩
          exact hd rfl
        rw [readInteger] at h
        · have hzero' : ∀ rest, d :: text ++ c :: tail ≠ '0' :: rest := by
            rintro rest ⟨⟩
            exact hd rfl
          rw [readInteger, takeWhile_digit_append hc, dropWhile_digit_append hc]
          · split_ifs at h ⊢ with hempty
            obtain ⟨rfl, rfl⟩ := Prod.mk.inj (Option.some.inj h)
            rfl
          · exact hzero'
        · exact hzero

theorem scanNumber_append {text rest : List Char} {number : Scanned}
    (h : scanNumber text = some (number, rest)) :
    scanNumber (text ++ c :: tail) = some (number, rest ++ c :: tail) := by
  simp only [scanNumber, readMinus_append hc, Option.bind_eq_bind] at h ⊢
  cases hinteger : readInteger (readMinus text).2 with
  | none => simp [hinteger] at h
  | some scanned =>
      obtain ⟨digits, rest'⟩ := scanned
      simp only [hinteger, Option.bind_some, Option.pure_def, Option.some.injEq,
        Prod.mk.injEq] at h
      obtain ⟨rfl, rfl⟩ := h
      simp only [readInteger_append hc tail hinteger, Option.bind_some, readFraction_append hc,
        readExponent_append hc, Option.pure_def]

end Numbers

section Literals

theorem toDigits_head {n : Nat} (hn : n ≠ 0) (tail : List Char) :
    Nat.toDigits 10 n ≠ '0' :: tail := by
  induction n using Nat.strongRecOn generalizing tail with
  | ind n ih =>
      by_cases hlt : n < 10
      · rw [Nat.toDigits_of_lt_base hlt]
        intro hzero
        have hdigit : ∀ m < 10, m ≠ 0 → m.digitChar ≠ '0' := by decide
        exact hdigit n hlt hn (List.head_eq_of_cons_eq hzero)
      · rw [Nat.toDigits_of_base_le (by decide) (not_lt.mp hlt)]
        intro hzero
        have hdiv : n / 10 ≠ 0 := by omega
        cases hdigits : Nat.toDigits 10 (n / 10) with
        | nil => exact Nat.toDigits_ne_nil hdigits
        | cons d ds =>
            rw [hdigits] at hzero
            have hd : d = '0' := List.head_eq_of_cons_eq hzero
            exact ih (n / 10) (Nat.div_lt_self (Nat.pos_of_ne_zero hn) (by decide)) hdiv ds
              (hd ▸ hdigits)

theorem isDigit_of_mem_toDigits {n : Nat} {d : Char} (hd : d ∈ Nat.toDigits 10 n) :
    d.isDigit = true :=
  Nat.isDigit_of_mem_toDigits (by decide) (by decide) hd

theorem readInteger_toDigits (n : Nat) :
    readInteger (Nat.toDigits 10 n) = some (Nat.toDigits 10 n, []) := by
  by_cases hn : n = 0
  · subst hn
    rfl
  · have htake : (Nat.toDigits 10 n).takeWhile Char.isDigit = Nat.toDigits 10 n :=
      List.takeWhile_eq_self_iff.mpr fun d hd => isDigit_of_mem_toDigits hd
    have hdrop : (Nat.toDigits 10 n).dropWhile Char.isDigit = [] :=
      List.dropWhile_eq_nil_iff.mpr fun d hd => isDigit_of_mem_toDigits hd
    rw [readInteger, htake, hdrop, if_neg (by simp [Nat.toDigits_ne_nil])]
    exact fun tail htail => toDigits_head hn tail htail

theorem scanNumber_dumpsInt (value : Int) :
    scanNumber (dumpsInt value) =
      some (⟨decide (value < 0), Nat.toDigits 10 value.natAbs, [], []⟩, []) := by
  unfold dumpsInt
  split_ifs with hneg
  · simp [scanNumber, readMinus, readInteger_toDigits, readFraction, readExponent, hneg]
  · have hminus : readMinus (Nat.toDigits 10 value.natAbs) =
        (false, Nat.toDigits 10 value.natAbs) := by
      rw [readMinus]
      intro tail htail
      have hmem : '-' ∈ Nat.toDigits 10 value.natAbs := htail ▸ List.mem_cons_self
      exact absurd (isDigit_of_mem_toDigits hmem) (by decide)
    simp [scanNumber, hminus, readInteger_toDigits, readFraction, readExponent, hneg]

theorem scanNumber_of_isFloatText {text : List Char} (h : isFloatText text = true) :
    ∃ number : Scanned, scanNumber text = some (number, []) ∧ number.isInteger = false ∧
      number.text = text := by
  unfold isFloatText at h
  split at h
  · rename_i number hscan
    rw [Bool.and_eq_true, Bool.not_eq_true', decide_eq_true_eq] at h
    exact ⟨number, hscan, h.1, h.2⟩
  · cases h

theorem scanNumber_head {text rest : List Char} {number : Scanned}
    (h : scanNumber text = some (number, rest)) :
    ∃ d tail, d.isDigit = true ∧ (text = d :: tail ∨ text = '-' :: d :: tail) := by
  have hdigit : ∀ {text digits rest : List Char}, readInteger text = some (digits, rest) →
      ∃ d tail, d.isDigit = true ∧ text = d :: tail := by
    intro text digits rest hinteger
    cases text with
    | nil => simp [readInteger] at hinteger
    | cons d tail =>
        refine ⟨d, tail, ?_, rfl⟩
        by_cases hd : d = '0'
        · subst hd
          decide
        · rw [readInteger] at hinteger
          · by_contra hnot
            simp [hnot] at hinteger
          · rintro rest ⟨⟩
            exact hd rfl
  simp only [scanNumber, Option.bind_eq_bind] at h
  cases hinteger : readInteger (readMinus text).2 with
  | none => simp [hinteger] at h
  | some scanned =>
      obtain ⟨d, tail, hd, htext⟩ := hdigit hinteger
      refine ⟨d, tail, hd, ?_⟩
      unfold readMinus at htext
      split at htext
      · right
        exact congrArg ('-' :: ·) htext
      · left
        exact htext

theorem readValue_number {text rest : List Char} {number : Scanned}
    (h : scanNumber text = some (number, rest)) (fuel : Nat) :
    readValue (fuel + 1) text = readNumber text := by
  obtain ⟨d, tail, hd, rfl | rfl⟩ := scanNumber_head h
  · rw [readValue]
    all_goals
      rintro rest ⟨⟩
      revert hd
      decide
  · rw [readValue]
    all_goals
      rintro rest ⟨⟩
      try (revert hd; decide)

theorem readNumber_dumpsInt (value : Int) {c : Char} (hc : Closes c) (tail : List Char) :
    readNumber (dumpsInt value ++ c :: tail) = some (.int value, c :: tail) := by
  have hscan := scanNumber_append hc tail (scanNumber_dumpsInt value)
  have hvalue : (if value < 0 then -(value.natAbs : Int) else value.natAbs) = value := by
    split_ifs <;> omega
  have hdigits : Nat.ofDigitChars 10 (Nat.toDigits 10 value.natAbs) 0 = value.natAbs :=
    Nat.ofDigitChars_toDigits (by decide) (by decide)
  simp only [readNumber, hscan, Scanned.isInteger, Option.bind_eq_bind, Option.bind_some,
    List.isEmpty_nil, Bool.and_self, if_true, decide_eq_true_eq, hdigits, hvalue, Option.pure_def,
    List.nil_append]

theorem readNumber_float {text : List Char} (h : isFloatText text = true) {c : Char}
    (hc : Closes c) (tail : List Char) :
    readNumber (text ++ c :: tail) = some (.float (.finite text h), c :: tail) := by
  obtain ⟨number, hscan, hfloat, htext⟩ := scanNumber_of_isFloatText h
  have happend := scanNumber_append hc tail hscan
  subst htext
  simp [readNumber, happend, hfloat, h]

end Literals

section Values

variable {spaced : Bool}

/-- The characters that a value starts with. -/
def Opens (d : Char) : Prop :=
  d ≠ ' ' ∧ d ≠ '\t' ∧ d ≠ '\n' ∧ d ≠ '\r' ∧ d ≠ ']'

instance (d : Char) : Decidable (Opens d) :=
  inferInstanceAs (Decidable (_ ∧ _))

theorem opens_of_isDigit {d : Char} (hd : d.isDigit = true) : Opens d := by
  refine ⟨?_, ?_, ?_, ?_, ?_⟩ <;>
    · rintro rfl
      exact absurd hd (by decide)

theorem opens_scanNumber {text rest : List Char} {number : Scanned}
    (h : scanNumber text = some (number, rest)) : ∃ d tail, text = d :: tail ∧ Opens d := by
  obtain ⟨d, tail, hd, rfl | rfl⟩ := scanNumber_head h
  · exact ⟨d, tail, rfl, opens_of_isDigit hd⟩
  · exact ⟨'-', d :: tail, rfl, by decide⟩

theorem dumps_opens (spaced : Bool) (value : Json) :
    ∃ d tail, dumps spaced value = d :: tail ∧ Opens d := by
  cases value with
  | null => exact ⟨'n', _, rfl, by decide⟩
  | bool value =>
      cases value with
      | true => exact ⟨'t', _, rfl, by decide⟩
      | false => exact ⟨'f', _, rfl, by decide⟩
  | int value => exact opens_scanNumber (scanNumber_dumpsInt value)
  | float value =>
      cases value with
      | finite text h =>
          obtain ⟨number, hscan, -, -⟩ := scanNumber_of_isFloatText h
          exact opens_scanNumber hscan
      | nan => exact ⟨'N', _, rfl, by decide⟩
      | infinity => exact ⟨'I', _, rfl, by decide⟩
      | negativeInfinity => exact ⟨'-', _, rfl, by decide⟩
  | string value => exact ⟨'"', _, rfl, by decide⟩
  | array values => exact ⟨'[', _, rfl, by decide⟩
  | object fields => exact ⟨'{', _, rfl, by decide⟩

theorem skipSpace_opens {d : Char} (hd : Opens d) (tail : List Char) :
    skipSpace (d :: tail) = d :: tail := by
  obtain ⟨hspace, htab, hnewline, hreturn, -⟩ := hd
  exact List.dropWhile_cons_of_neg (by simp [hspace, htab, hnewline, hreturn])

theorem skipSpace_dumps (value : Json) (rest : List Char) :
    skipSpace (dumps spaced value ++ rest) = dumps spaced value ++ rest := by
  obtain ⟨d, tail, hdumps, hd⟩ := dumps_opens spaced value
  rw [hdumps]
  exact skipSpace_opens hd _

theorem skipSpace_separated (spaced : Bool) (c : Char) (text : List Char) :
    ∃ rest, separator spaced c ++ text = c :: rest ∧ skipSpace rest = skipSpace text := by
  cases spaced with
  | false => exact ⟨text, rfl, rfl⟩
  | true => exact ⟨' ' :: text, rfl, rfl⟩

/-- What the readers make of dumped texts no longer than the fuel. -/
structure Reads (spaced : Bool) (fuel : Nat) : Prop where
  value (value : Json) {c : Char} (hc : Closes c) (tail : List Char) :
    (dumps spaced value).length ≤ fuel →
    readValue fuel (dumps spaced value ++ c :: tail) = some (value, c :: tail)
  elements (value : Json) (values : List Json) (tail : List Char) :
    (dumpsElements spaced (value :: values)).length < fuel →
    readElements fuel (dumpsElements spaced (value :: values) ++ ']' :: tail) =
      some (value :: values, tail)
  members (field : String × Json) (fields : List (String × Json)) (tail : List Char) :
    (dumpsMembers spaced (field :: fields)).length < fuel →
    readMembers fuel (dumpsMembers spaced (field :: fields) ++ '}' :: tail) =
      some (field :: fields, tail)

theorem readValue_array (values : List Json) (tail : List Char) {fuel : Nat}
    (h : Reads spaced fuel) (hfuel : (dumps spaced (.array values)).length ≤ fuel + 1) :
    readValue (fuel + 1) (dumps spaced (.array values) ++ tail) = some (.array values, tail) := by
  cases values with
  | nil => simp [dumps, dumpsElements, readValue, skipSpace]
  | cons value values =>
      obtain ⟨d, rest, hdumps, hd⟩ := dumps_opens spaced value
      have hlength : (dumpsElements spaced (value :: values)).length < fuel := by
        simp only [dumps, List.length_append, List.length_cons] at hfuel
        omega
      have helements := h.elements value values tail hlength
      rw [dumpsElements, hdumps, List.append_assoc] at helements
      rw [dumps, dumpsElements, hdumps]
      simp only [List.cons_append, List.append_assoc, List.nil_append] at helements ⊢
      rw [readValue, skipSpace_opens hd]
      split
      · rename_i heq
        exact absurd (List.head_eq_of_cons_eq heq) hd.2.2.2.2
      · rw [helements]
        rfl

theorem readValue_object (fields : List (String × Json)) (tail : List Char) {fuel : Nat}
    (h : Reads spaced fuel) (hfuel : (dumps spaced (.object fields)).length ≤ fuel + 1) :
    readValue (fuel + 1) (dumps spaced (.object fields) ++ tail) =
      some (.object fields, tail) := by
  cases fields with
  | nil => simp [dumps, dumpsMembers, readValue, skipSpace]
  | cons field fields =>
      have hlength : (dumpsMembers spaced (field :: fields)).length < fuel := by
        simp only [dumps, List.length_append, List.length_cons] at hfuel
        omega
      have hmembers := h.members field fields tail hlength
      obtain ⟨key, value⟩ := field
      rw [dumps, dumpsMembers, dumpsString]
      rw [dumpsMembers, dumpsString] at hmembers
      simp only [List.cons_append, List.append_assoc, List.nil_append] at hmembers ⊢
      rw [readValue, skipSpace_opens (by decide)]
      show (readMembers fuel _).bind _ = _
      rw [hmembers]
      rfl

theorem reads_value {fuel : Nat} (h : Reads spaced fuel) (value : Json) {c : Char}
    (hc : Closes c) (tail : List Char) (hfuel : (dumps spaced value).length ≤ fuel + 1) :
    readValue (fuel + 1) (dumps spaced value ++ c :: tail) = some (value, c :: tail) := by
  cases value with
  | null => rfl
  | bool value => cases value <;> rfl
  | int value =>
      have hscan := scanNumber_append hc tail (scanNumber_dumpsInt value)
      rw [dumps, readValue_number hscan]
      exact readNumber_dumpsInt value hc tail
  | float value =>
      cases value with
      | finite text hvalid =>
          obtain ⟨number, hscan, -, -⟩ := scanNumber_of_isFloatText hvalid
          rw [dumps, dumpsFloat, readValue_number (scanNumber_append hc tail hscan)]
          exact readNumber_float hvalid hc tail
      | nan => rfl
      | infinity => rfl
      | negativeInfinity => rfl
  | string value =>
      rw [dumps, dumpsString_append, readValue, readString_quoted]
      simp
  | array values => exact readValue_array values _ h hfuel
  | object fields => exact readValue_object fields _ h hfuel

theorem dumpsMoreElements_cons (value : Json) (values : List Json) :
    dumpsMoreElements spaced (value :: values) =
      separator spaced ',' ++ dumpsElements spaced (value :: values) := by
  rw [dumpsMoreElements, dumpsElements, List.append_assoc]

theorem dumpsMoreMembers_cons (field : String × Json) (fields : List (String × Json)) :
    dumpsMoreMembers spaced (field :: fields) =
      separator spaced ',' ++ dumpsMembers spaced (field :: fields) := by
  obtain ⟨key, value⟩ := field
  simp only [dumpsMoreMembers, dumpsMembers, List.append_assoc]

theorem separator_length (spaced : Bool) (c : Char) : 0 < (separator spaced c).length := by
  cases spaced <;> exact Nat.succ_pos _

theorem reads_elements {fuel : Nat} (h : Reads spaced fuel) (value : Json) (values : List Json)
    (tail : List Char) (hfuel : (dumpsElements spaced (value :: values)).length < fuel + 1) :
    readElements (fuel + 1) (dumpsElements spaced (value :: values) ++ ']' :: tail) =
      some (value :: values, tail) := by
  rw [dumpsElements, List.length_append] at hfuel
  cases values with
  | nil =>
      have hvalue := h.value value (.inr (.inr rfl)) tail (by omega)
      rw [dumpsElements, dumpsMoreElements, List.append_nil, readElements, hvalue]
      rfl
  | cons next values =>
      obtain ⟨rest, hrest, hskip⟩ := skipSpace_separated spaced ','
        (dumpsElements spaced (next :: values) ++ ']' :: tail)
      have hvalue := h.value value (.inl rfl) rest (by omega)
      rw [dumpsMoreElements_cons, List.length_append] at hfuel
      have hpos := separator_length spaced ','
      have hnext := h.elements next values tail (by omega)
      have hskip' : skipSpace rest = dumpsElements spaced (next :: values) ++ ']' :: tail := by
        rw [hskip, dumpsElements, List.append_assoc, skipSpace_dumps]
      rw [dumpsElements, dumpsMoreElements_cons, List.append_assoc, List.append_assoc, hrest,
        readElements, hvalue]
      show (readElements fuel (skipSpace rest)).bind _ = _
      rw [hskip', hnext]
      rfl

section Fields

variable {fuel : Nat} (h : Reads spaced fuel) (key : String) (value : Json)
  (hfuel : (dumps spaced value).length ≤ fuel) (rest : List Char)
include h hfuel

theorem readMembers_last :
    readMembers (fuel + 1) (dumpsString key ++ (separator spaced ':' ++
      (dumps spaced value ++ '}' :: rest))) = some ([(key, value)], rest) := by
  obtain ⟨text, htext, hskip⟩ := skipSpace_separated spaced ':'
    (dumps spaced value ++ '}' :: rest)
  have hvalue := h.value value (.inr (.inl rfl)) rest hfuel
  rw [skipSpace_dumps] at hskip
  rw [htext, dumpsString_append, readMembers]
  simp only [readString_quoted, Option.bind_eq_bind, Option.bind_some,
    skipSpace_opens (d := ':') (by decide), hskip, hvalue, String.ofList_toList,
    skipSpace_opens (d := '}') (by decide), Option.pure_def]

theorem readMembers_more :
    readMembers (fuel + 1) (dumpsString key ++ (separator spaced ':' ++
      (dumps spaced value ++ ',' :: rest))) =
        (readMembers fuel (skipSpace rest)).map fun (fields, rest) =>
          ((key, value) :: fields, rest) := by
  obtain ⟨text, htext, hskip⟩ := skipSpace_separated spaced ':'
    (dumps spaced value ++ ',' :: rest)
  have hvalue := h.value value (.inl rfl) rest hfuel
  rw [skipSpace_dumps] at hskip
  rw [htext, dumpsString_append, readMembers]
  simp only [readString_quoted, Option.bind_eq_bind, Option.bind_some,
    skipSpace_opens (d := ':') (by decide), hskip, hvalue, String.ofList_toList,
    skipSpace_opens (d := ',') (by decide), Option.pure_def]
  cases readMembers fuel (skipSpace rest) <;> rfl

end Fields

theorem reads_members {fuel : Nat} (h : Reads spaced fuel) (field : String × Json)
    (fields : List (String × Json)) (tail : List Char)
    (hfuel : (dumpsMembers spaced (field :: fields)).length < fuel + 1) :
    readMembers (fuel + 1) (dumpsMembers spaced (field :: fields) ++ '}' :: tail) =
      some (field :: fields, tail) := by
  obtain ⟨key, value⟩ := field
  rw [dumpsMembers] at hfuel ⊢
  simp only [List.length_append, List.append_assoc] at hfuel ⊢
  cases fields with
  | nil =>
      rw [dumpsMoreMembers, List.nil_append]
      exact readMembers_last h key value (by omega) tail
  | cons next fields =>
      obtain ⟨rest, hrest, hskip⟩ := skipSpace_separated spaced ','
        (dumpsMembers spaced (next :: fields) ++ '}' :: tail)
      rw [dumpsMoreMembers_cons, List.length_append] at hfuel
      have hpos := separator_length spaced ','
      have hnext := h.members next fields tail (by omega)
      have hskip' : skipSpace rest = dumpsMembers spaced (next :: fields) ++ '}' :: tail := by
        rw [hskip, dumpsMembers, dumpsString]
        simp only [List.cons_append, List.append_assoc]
        exact skipSpace_opens (by decide) _
      rw [dumpsMoreMembers_cons, List.append_assoc, hrest,
        readMembers_more h key value (by omega) rest, hskip', hnext]
      rfl

theorem reads (spaced : Bool) (fuel : Nat) : Reads spaced fuel := by
  induction fuel with
  | zero =>
      refine ⟨?_, ?_, ?_⟩
      · intro value c hc tail hlength
        obtain ⟨d, rest, hdumps, -⟩ := dumps_opens spaced value
        rw [hdumps] at hlength
        cases hlength
      · intro value values tail hlength
        cases hlength
      · intro field fields tail hlength
        cases hlength
  | succ fuel ih =>
      exact ⟨fun value c hc tail => reads_value ih value hc tail, reads_elements ih,
        reads_members ih⟩

theorem loads_dumps (spaced : Bool) (fields : List (String × Json)) :
    loads (dumps spaced (.object fields)) = some (.object fields) := by
  have hspace : skipSpace (dumps spaced (.object fields)) = dumps spaced (.object fields) := by
    obtain ⟨d, tail, hdumps, hd⟩ := dumps_opens spaced (.object fields)
    rw [hdumps]
    exact skipSpace_opens hd tail
  have hread := readValue_object fields []
    (reads spaced (2 * (dumps spaced (.object fields)).length + 1)) (by omega)
  rw [List.append_nil] at hread
  rw [loads, hspace, hread]
  rfl

end Values

section Printable

/-- What `ensure_ascii` leaves in a text. -/
def Printable (text : List Char) : Prop :=
  ∀ c ∈ text, ' ' ≤ c ∧ c ≤ '~'

instance (text : List Char) : Decidable (Printable text) :=
  List.decidableBAll _ text

theorem Printable.append {text text' : List Char} (h : Printable text) (h' : Printable text') :
    Printable (text ++ text') := by
  intro c hc
  rcases List.mem_append.mp hc with hc | hc
  · exact h c hc
  · exact h' c hc

theorem Printable.of_isDigit {text : List Char} (h : ∀ c ∈ text, c.isDigit = true) :
    Printable text := by
  intro c hc
  have hdigit := h c hc
  simp only [Char.isDigit, Bool.and_eq_true, decide_eq_true_eq] at hdigit
  exact ⟨le_trans (by decide) hdigit.1, le_trans hdigit.2 (by decide)⟩

theorem printable_takeWhile (text : List Char) : Printable (text.takeWhile Char.isDigit) :=
  .of_isDigit fun _ hc => List.mem_takeWhile_imp hc

theorem printable_hex4 (n : Nat) : Printable (hex4 n) := by
  have hdigit : ∀ m < 16, ' ' ≤ hexDigit m ∧ hexDigit m ≤ '~' := by decide
  intro c hc
  simp only [hex4, List.mem_cons, List.not_mem_nil, or_false] at hc
  rcases hc with rfl | rfl | rfl | rfl <;> exact hdigit _ (Nat.mod_lt _ (by decide))

theorem printable_escapeChar (c : Char) : Printable (escapeChar c) := by
  have hescape : ∀ n, Printable ('\\' :: 'u' :: hex4 n) := fun n =>
    Printable.append (show Printable ['\\', 'u'] by decide) (printable_hex4 n)
  unfold escapeChar
  split_ifs with _ _ _ _ _ _ _ hplain
  all_goals try decide
  · intro d hd
    rw [List.mem_singleton.mp hd]
    exact hplain
  · exact hescape _
  · exact (hescape _).append (hescape _)

theorem printable_dumpsString (s : String) : Printable (dumpsString s) := by
  intro c hc
  rw [dumpsString, List.cons_append, List.mem_cons, List.mem_append, List.mem_singleton] at hc
  rcases hc with rfl | hc | rfl
  · decide
  · obtain ⟨d, -, hd⟩ := List.mem_flatMap.mp hc
    exact printable_escapeChar d c hd
  · decide

theorem printable_dumpsInt (value : Int) : Printable (dumpsInt value) := by
  have hdigits : Printable (Nat.toDigits 10 value.natAbs) :=
    .of_isDigit fun _ hd => isDigit_of_mem_toDigits hd
  unfold dumpsInt
  split_ifs
  · exact Printable.append (show Printable ['-'] by decide) hdigits
  · exact hdigits

theorem printable_readFraction (text : List Char) : Printable (readFraction text).1 := by
  unfold readFraction
  split
  · split_ifs
    · exact fun c hc => nomatch hc
    · exact Printable.append (show Printable ['.'] by decide) (printable_takeWhile _)
  · exact fun c hc => nomatch hc

theorem printable_readSign (text : List Char) : Printable (readSign text).1 := by
  unfold readSign
  split
  · exact (show Printable ['+'] by decide)
  · exact (show Printable ['-'] by decide)
  · exact fun c hc => nomatch hc

theorem printable_readExponent (text : List Char) : Printable (readExponent text).1 := by
  cases text with
  | nil => exact fun c hc => nomatch hc
  | cons e rest =>
      simp only [readExponent]
      split_ifs with he
      · have hmark : Printable [e] := by
          rcases he.1 with rfl | rfl <;> decide
        exact (hmark.append (printable_readSign rest)).append (printable_takeWhile _)
      · exact fun c hc => nomatch hc

theorem printable_readInteger {text digits rest : List Char}
    (h : readInteger text = some (digits, rest)) : Printable digits := by
  unfold readInteger at h
  split at h
  · cases h
    decide
  · split_ifs at h
    cases h
    exact printable_takeWhile _

theorem printable_scanNumber {text rest : List Char} {number : Scanned}
    (h : scanNumber text = some (number, rest)) : Printable number.text := by
  simp only [scanNumber, Option.bind_eq_bind] at h
  cases hinteger : readInteger (readMinus text).2 with
  | none => simp [hinteger] at h
  | some scanned =>
      simp only [hinteger, Option.bind_some, Option.pure_def, Option.some.injEq,
        Prod.mk.injEq] at h
      obtain ⟨rfl, -⟩ := h
      refine ((Printable.append ?_ (printable_readInteger hinteger)).append
        (printable_readFraction _)).append (printable_readExponent _)
      split_ifs
      · decide
      · exact fun c hc => nomatch hc

theorem printable_dumpsFloat (value : JsonFloat) : Printable (dumpsFloat value) := by
  cases value with
  | finite text h =>
      obtain ⟨number, hscan, -, htext⟩ := scanNumber_of_isFloatText h
      have hprintable := printable_scanNumber hscan
      rwa [htext] at hprintable
  | nan => decide
  | infinity => decide
  | negativeInfinity => decide

theorem printable_separator (spaced : Bool) {c : Char} (hc : ' ' ≤ c ∧ c ≤ '~') :
    Printable (separator spaced c) := by
  intro d hd
  cases spaced with
  | false => rwa [List.mem_singleton.mp hd]
  | true =>
      rcases List.mem_pair.mp hd with rfl | rfl
      · exact hc
      · decide

variable (spaced : Bool)

mutual

theorem printable_dumps : ∀ value, Printable (dumps spaced value)
  | .null => show Printable ['n', 'u', 'l', 'l'] by decide
  | .bool true => show Printable ['t', 'r', 'u', 'e'] by decide
  | .bool false => show Printable ['f', 'a', 'l', 's', 'e'] by decide
  | .int value => printable_dumpsInt value
  | .float value => printable_dumpsFloat value
  | .string value => printable_dumpsString value
  | .array values => by
      rw [dumps]
      exact ((Printable.append (show Printable ['['] by decide)
        (printable_dumpsElements values)).append (by decide))
  | .object fields => by
      rw [dumps]
      exact ((Printable.append (show Printable ['{'] by decide)
        (printable_dumpsMembers fields)).append (by decide))

theorem printable_dumpsElements : ∀ values, Printable (dumpsElements spaced values)
  | [] => fun _ hc => nomatch hc
  | value :: values => by
      rw [dumpsElements]
      exact (printable_dumps value).append (printable_dumpsMoreElements values)

theorem printable_dumpsMoreElements : ∀ values, Printable (dumpsMoreElements spaced values)
  | [] => fun _ hc => nomatch hc
  | value :: values => by
      rw [dumpsMoreElements]
      exact ((printable_separator spaced (by decide)).append (printable_dumps value)).append
        (printable_dumpsMoreElements values)

theorem printable_dumpsMembers : ∀ fields, Printable (dumpsMembers spaced fields)
  | [] => fun _ hc => nomatch hc
  | (key, value) :: fields => by
      rw [dumpsMembers]
      exact (((printable_dumpsString key).append (printable_separator spaced (by decide))).append
        (printable_dumps value)).append (printable_dumpsMoreMembers fields)

theorem printable_dumpsMoreMembers : ∀ fields, Printable (dumpsMoreMembers spaced fields)
  | [] => fun _ hc => nomatch hc
  | (key, value) :: fields => by
      rw [dumpsMoreMembers]
      exact ((((printable_separator spaced (by decide)).append (printable_dumpsString key)).append
        (printable_separator spaced (by decide))).append (printable_dumps value)).append
          (printable_dumpsMoreMembers fields)

end

end Printable

end Songmaker.Foundation.Json
