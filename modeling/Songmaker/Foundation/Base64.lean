import Mathlib.Data.List.DropRight

namespace Songmaker.Foundation.Base64

/-- The symbol of a six-bit number. -/
def symbol (n : Nat) : Char :=
  if n < 26 then Char.ofNat (65 + n)
  else if n < 52 then Char.ofNat (71 + n)
  else if n < 62 then Char.ofNat (n - 4)
  else if n = 62 then '-'
  else '_'

/-- The decoder also takes the symbols of the standard alphabet. -/
def sextet? (c : Char) : Option Nat :=
  if 'A' ≤ c ∧ c ≤ 'Z' then some (c.toNat - 65)
  else if 'a' ≤ c ∧ c ≤ 'z' then some (c.toNat - 71)
  else if '0' ≤ c ∧ c ≤ '9' then some (c.toNat + 4)
  else if c = '-' ∨ c = '+' then some 62
  else if c = '_' ∨ c = '/' then some 63
  else none

/-- The symbols of the bytes, three bytes to four symbols. -/
def encode : List UInt8 → List Char
  | a :: b :: c :: rest =>
      symbol (a.toNat / 4) :: symbol (a.toNat % 4 * 16 + b.toNat / 16) ::
        symbol (b.toNat % 16 * 4 + c.toNat / 64) :: symbol (c.toNat % 64) :: encode rest
  | [a, b] =>
      [symbol (a.toNat / 4), symbol (a.toNat % 4 * 16 + b.toNat / 16), symbol (b.toNat % 16 * 4),
        '=']
  | [a] => [symbol (a.toNat / 4), symbol (a.toNat % 4 * 16), '=', '=']
  | [] => []

/-- `binascii.a2b_base64`: it skips what is not in the alphabet, and stops where
the padding completes a group. -/
def decodeFrom (quadPos leftchar pads : Nat) : List Char → Option (List UInt8)
  | [] => if quadPos = 0 then some [] else none
  | c :: rest =>
      if c = '=' then
        if 2 ≤ quadPos ∧ 4 ≤ quadPos + (pads + 1) then some []
        else decodeFrom quadPos leftchar (if 2 ≤ quadPos then pads + 1 else pads) rest
      else
        match sextet? c with
        | none => decodeFrom quadPos leftchar pads rest
        | some value =>
            match quadPos with
            | 0 => decodeFrom 1 value 0 rest
            | 1 => (decodeFrom 2 (value % 16) 0 rest).map
                (UInt8.ofNat (leftchar * 4 + value / 16) :: ·)
            | 2 => (decodeFrom 3 (value % 4) 0 rest).map
                (UInt8.ofNat (leftchar * 16 + value / 4) :: ·)
            | _ => (decodeFrom 0 0 0 rest).map (UInt8.ofNat (leftchar * 64 + value) :: ·)

/-- The bytes of a text, which may have no character beyond ASCII. -/
def decode (text : List Char) : Option (List UInt8) :=
  if text.all fun c => c.toNat < 128 then decodeFrom 0 0 0 text else none

theorem symbol_spec : ∀ n < 64,
    symbol n ≠ '=' ∧ sextet? (symbol n) = some n ∧ symbol n ≠ '.' ∧ (symbol n).toNat < 128 := by
  decide

section Groups

variable {n : Nat} (hn : n < 64) (leftchar pads : Nat) (rest : List Char)
include hn

theorem decodeFrom_symbol (quadPos : Nat) :
    decodeFrom quadPos leftchar pads (symbol n :: rest) =
      match quadPos with
      | 0 => decodeFrom 1 n 0 rest
      | 1 => (decodeFrom 2 (n % 16) 0 rest).map (UInt8.ofNat (leftchar * 4 + n / 16) :: ·)
      | 2 => (decodeFrom 3 (n % 4) 0 rest).map (UInt8.ofNat (leftchar * 16 + n / 4) :: ·)
      | _ => (decodeFrom 0 0 0 rest).map (UInt8.ofNat (leftchar * 64 + n) :: ·) := by
  obtain ⟨hpad, hsextet, -⟩ := symbol_spec n hn
  rw [decodeFrom.eq_def]
  simp only [if_neg hpad, hsextet]

theorem decodeFrom_first :
    decodeFrom 0 leftchar pads (symbol n :: rest) = decodeFrom 1 n 0 rest :=
  decodeFrom_symbol hn leftchar pads rest 0

theorem decodeFrom_second :
    decodeFrom 1 leftchar pads (symbol n :: rest) =
      (decodeFrom 2 (n % 16) 0 rest).map (UInt8.ofNat (leftchar * 4 + n / 16) :: ·) :=
  decodeFrom_symbol hn leftchar pads rest 1

theorem decodeFrom_third :
    decodeFrom 2 leftchar pads (symbol n :: rest) =
      (decodeFrom 3 (n % 4) 0 rest).map (UInt8.ofNat (leftchar * 16 + n / 4) :: ·) :=
  decodeFrom_symbol hn leftchar pads rest 2

theorem decodeFrom_fourth :
    decodeFrom 3 leftchar pads (symbol n :: rest) =
      (decodeFrom 0 0 0 rest).map (UInt8.ofNat (leftchar * 64 + n) :: ·) :=
  decodeFrom_symbol hn leftchar pads rest 3

end Groups

theorem ofNat_eq {n : Nat} (byte : UInt8) (h : n = byte.toNat) : UInt8.ofNat n = byte := by
  rw [h, UInt8.ofNat_toNat]

theorem decodeFrom_encode (bytes : List UInt8) : decodeFrom 0 0 0 (encode bytes) = some bytes := by
  induction bytes using encode.induct with
  | case1 a b c rest ih =>
      have ha := a.toNat_lt
      have hb := b.toNat_lt
      have hc := c.toNat_lt
      rw [encode, decodeFrom_first (by omega), decodeFrom_second (by omega),
        decodeFrom_third (by omega), decodeFrom_fourth (by omega), ih]
      simp only [Option.map_some]
      rw [ofNat_eq a (by omega), ofNat_eq b (by omega),
        ofNat_eq c (by omega)]
  | case2 a b =>
      have ha := a.toNat_lt
      have hb := b.toNat_lt
      rw [encode, decodeFrom_first (by omega), decodeFrom_second (by omega),
        decodeFrom_third (by omega)]
      simp only [decodeFrom]
      rw [ofNat_eq a (by omega), ofNat_eq b (by omega)]
      rfl
  | case3 a =>
      have ha := a.toNat_lt
      rw [encode, decodeFrom_first (by omega), decodeFrom_second (by omega)]
      simp only [decodeFrom]
      rw [ofNat_eq a (by omega)]
      rfl
  | case4 => rfl

/-- `rstrip("=")`. -/
def stripPadding (text : List Char) : List Char :=
  text.rdropWhile (· = '=')

/-- The text, filled up to whole groups of four. -/
def addPadding (text : List Char) : List Char :=
  text ++ List.replicate ((4 - text.length % 4) % 4) '='

theorem encode_eq (bytes : List UInt8) :
    ∃ body pads, encode bytes = body ++ List.replicate pads '=' ∧
      (body.length + pads) % 4 = 0 ∧ pads < 4 ∧ (bytes ≠ [] → body ≠ []) ∧
        ∀ c ∈ body, c ≠ '=' ∧ c ≠ '.' ∧ c.toNat < 128 := by
  have hsymbol : ∀ n < 64, symbol n ≠ '=' ∧ symbol n ≠ '.' ∧ (symbol n).toNat < 128 := by
    intro n hn
    obtain ⟨hpad, -, hdot, hascii⟩ := symbol_spec n hn
    exact ⟨hpad, hdot, hascii⟩
  induction bytes using encode.induct with
  | case1 a b c rest ih =>
      have ha := a.toNat_lt
      have hb := b.toNat_lt
      have hc := c.toNat_lt
      obtain ⟨body, pads, hencode, hlength, hpads, -, hbody⟩ := ih
      refine ⟨symbol (a.toNat / 4) :: symbol (a.toNat % 4 * 16 + b.toNat / 16) ::
        symbol (b.toNat % 16 * 4 + c.toNat / 64) :: symbol (c.toNat % 64) :: body, pads, ?_, ?_,
        hpads, fun _ => List.cons_ne_nil _ _, ?_⟩
      · rw [encode, hencode]
        rfl
      · simp only [List.length_cons]
        omega
      · simp only [List.forall_mem_cons]
        exact ⟨hsymbol _ (by omega), hsymbol _ (by omega), hsymbol _ (by omega),
          hsymbol _ (by omega), hbody⟩
  | case2 a b =>
      have ha := a.toNat_lt
      have hb := b.toNat_lt
      refine ⟨[symbol (a.toNat / 4), symbol (a.toNat % 4 * 16 + b.toNat / 16),
        symbol (b.toNat % 16 * 4)], 1, rfl, by simp, by decide, fun _ => List.cons_ne_nil _ _, ?_⟩
      simp only [List.forall_mem_cons]
      exact ⟨hsymbol _ (by omega), hsymbol _ (by omega), hsymbol _ (by omega), by simp⟩
  | case3 a =>
      have ha := a.toNat_lt
      refine ⟨[symbol (a.toNat / 4), symbol (a.toNat % 4 * 16)], 2, rfl, by simp, by decide,
        fun _ => List.cons_ne_nil _ _, ?_⟩
      simp only [List.forall_mem_cons]
      exact ⟨hsymbol _ (by omega), hsymbol _ (by omega), by simp⟩
  | case4 => exact ⟨[], 0, rfl, rfl, by decide, fun h => absurd rfl h, by simp⟩

theorem stripPadding_append {body : List Char} (hbody : ∀ c ∈ body, c ≠ '=') (pads : Nat) :
    stripPadding (body ++ List.replicate pads '=') = body := by
  have hpads : ∀ c ∈ List.replicate pads '=', decide (c = '=') = true := by
    intro c hc
    simpa using (List.mem_replicate.mp hc).2
  have hrest : body.reverse.dropWhile (fun c => decide (c = '=')) = body.reverse := by
    cases hreverse : body.reverse with
    | nil => rfl
    | cons c cs =>
        have hc : c ∈ body := List.mem_reverse.mp (hreverse ▸ List.mem_cons_self)
        exact List.dropWhile_cons_of_neg (by simpa using hbody c hc)
  rw [stripPadding, List.rdropWhile, List.reverse_append, List.reverse_replicate,
    List.dropWhile_append_of_pos hpads, hrest, List.reverse_reverse]

/-- The text that `urlsafe_b64encode` makes of the bytes, without its padding. -/
def encodeUnpadded (bytes : List UInt8) : List Char :=
  stripPadding (encode bytes)

theorem decode_addPadding (bytes : List UInt8) :
    decode (addPadding (encodeUnpadded bytes)) = some bytes := by
  obtain ⟨body, pads, hencode, hlength, hpads, -, hbody⟩ := encode_eq bytes
  have hstrip : encodeUnpadded bytes = body := by
    rw [encodeUnpadded, hencode]
    exact stripPadding_append (fun c hc => (hbody c hc).1) pads
  have hadd : addPadding body = encode bytes := by
    have hcount : (4 - body.length % 4) % 4 = pads := by omega
    rw [addPadding, hcount, hencode]
  have hascii : (encode bytes).all fun c => c.toNat < 128 := by
    rw [hencode, List.all_append, Bool.and_eq_true, List.all_eq_true, List.all_eq_true]
    constructor
    · intro c hc
      simpa using (hbody c hc).2.2
    · intro c hc
      rw [(List.mem_replicate.mp hc).2]
      decide
  rw [hstrip, hadd, decode, if_pos hascii, decodeFrom_encode]

theorem encodeUnpadded_spec (bytes : List UInt8) :
    (bytes ≠ [] → encodeUnpadded bytes ≠ []) ∧ ∀ c ∈ encodeUnpadded bytes, c ≠ '.' := by
  obtain ⟨body, pads, hencode, -, -, hne, hbody⟩ := encode_eq bytes
  have hstrip : encodeUnpadded bytes = body := by
    rw [encodeUnpadded, hencode]
    exact stripPadding_append (fun c hc => (hbody c hc).1) pads
  rw [hstrip]
  exact ⟨hne, fun c hc => (hbody c hc).2.1⟩

end Songmaker.Foundation.Base64
