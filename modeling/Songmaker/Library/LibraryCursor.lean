import Songmaker.Foundation.Base64
import Songmaker.Foundation.JsonRoundTrip
import Songmaker.Foundation.PythonText
import Songmaker.Library.LibrarySearch

namespace Songmaker.Library

open Songmaker.Foundation

inductive LibraryCursorError where
  | invalid
  | mismatch
deriving DecidableEq

def LibraryCursorError.detail : LibraryCursorError → String
  | .invalid => "Invalid library cursor"
  | .mismatch => "Library cursor does not match query and sort"

def libraryCursorVersion : Nat := 1

def librarySorts : List String := ["newest", "oldest", "title"]

def timeSorts : List String := ["newest", "oldest"]

def itemTypes : List String := [libraryItemAlbum, libraryItemSong]

def cursorKeys : List String := ["v", "q", "sort", "type", "sort_value", "id"]

/-- The digest in hexadecimal digits. -/
def hexdigest (digest : Vector UInt8 32) : List Char :=
  digest.toList.flatMap fun byte =>
    [Nat.digitChar (byte.toNat / 16), Nat.digitChar (byte.toNat % 16)]

/-- `text.rsplit(".", 1)` of a text with a dot in it. -/
def rsplitDot (text : List Char) : List Char × List Char :=
  ((text.reverse.dropWhile (· ≠ '.')).tail.reverse, (text.reverse.takeWhile (· ≠ '.')).reverse)

section Codec

variable (hmac : List UInt8 → List UInt8 → Vector UInt8 32) (floatIsVersion : JsonFloat → Bool)

/-- The fields of a cursor, in the order in which they are written. -/
def cursorPayload (cursor : LibraryCursor) : List (String × Json) :=
  [("v", .int libraryCursorVersion), ("q", .string cursor.q), ("sort", .string cursor.sort),
    ("type", .string cursor.itemType), ("sort_value", .string cursor.sortValue),
    ("id", .string cursor.id)]

/-- The bytes of a cursor that are signed. -/
def rawPayload (cursor : LibraryCursor) : List UInt8 :=
  encodeUtf8 (Json.dumps false (.object (Json.sortKeys (cursorPayload cursor))))

/-- The payload and its signature, joined by a dot. -/
def encodeLibraryCursor (cursor : LibraryCursor) (secret : List UInt8) : String :=
  let raw := rawPayload cursor
  let packed := Base64.encodeUnpadded raw
  let signature := hexdigest (hmac secret raw)
  String.ofList (packed ++ '.' :: signature)

/-- `payload[key]`, where the last of several equal keys counts. -/
def payloadField (fields : List (String × Json)) (key : String) : Option Json :=
  (fields.reverse.find? fun field => field.1 = key).map Prod.snd

def isCursorVersion : Json → Bool
  | .int value => value = libraryCursorVersion
  | .float value => floatIsVersion value
  | .bool value => value
  | _ => false

/-- The cursor that the fields give, if each has its type. -/
def cursorFromFields (fields : List (String × Json)) : Except LibraryCursorError LibraryCursor :=
  match payloadField fields "v", payloadField fields "q", payloadField fields "sort",
    payloadField fields "type", payloadField fields "sort_value", payloadField fields "id" with
  | some version, some (.string q), some (.string sort), some (.string itemType),
    some (.string sortValue), some (.string itemId) =>
      if ¬ isCursorVersion floatIsVersion version then .error .invalid
      else if q.isEmpty then .error .invalid
      else if sort ∉ librarySorts then .error .invalid
      else if itemType ∉ itemTypes then .error .invalid
      else if itemId.isEmpty then .error .invalid
      else if sort ∈ timeSorts ∧ (Datetime.fromisoformat sortValue.toList).isNone then
        .error .invalid
      else .ok ⟨q, sort, itemType, sortValue, itemId⟩
  | _, _, _, _, _, _ => .error .invalid

/-- The cursor that a payload gives, which must be an object with exactly these keys. -/
def cursorFromPayload : Json → Except LibraryCursorError LibraryCursor
  | .object fields =>
      if fields.all (fun field => field.1 ∈ cursorKeys) &&
          cursorKeys.all fun key => fields.any fun field => field.1 = key then
        cursorFromFields floatIsVersion fields
      else .error .invalid
  | _ => .error .invalid

/-- The cursor of a text whose signature is right. -/
def parseSignedCursor (cursor : String) (secret : List UInt8) :
    Except LibraryCursorError LibraryCursor :=
  if '.' ∉ cursor.toList then .error .invalid
  else
    let (packed, signature) := rsplitDot cursor.toList
    if packed.isEmpty || signature.isEmpty then .error .invalid
    else
      match Base64.decode (Base64.addPadding packed) with
      | none => .error .invalid
      | some raw =>
          if signature ≠ hexdigest (hmac secret raw) then .error .invalid
          else
            match (decodeUtf8 raw).bind Json.loads with
            | none => .error .invalid
            | some payload => cursorFromPayload floatIsVersion payload

/-- The cursor, which must belong to the query and the sort of the request. -/
def decodeLibraryCursor (cursor : String) (secret : List UInt8) (q sort : String) :
    Except LibraryCursorError LibraryCursor := do
  let parsed ← parseSignedCursor hmac floatIsVersion cursor secret
  if parsed.q ≠ q ∨ parsed.sort ≠ sort then .error .mismatch
  else return parsed

end Codec

theorem rsplitDot_append (packed : List Char) {signature : List Char}
    (hsignature : ∀ c ∈ signature, c ≠ '.') :
    rsplitDot (packed ++ '.' :: signature) = (packed, signature) := by
  have hreverse : (packed ++ '.' :: signature).reverse =
      signature.reverse ++ '.' :: packed.reverse := by simp
  have hall : ∀ c ∈ signature.reverse, decide (c ≠ '.') = true := by
    intro c hc
    exact decide_eq_true (hsignature c (List.mem_reverse.mp hc))
  unfold rsplitDot
  rw [hreverse, List.dropWhile_append_of_pos hall, List.takeWhile_append_of_pos hall]
  simp

theorem hexdigest_spec (digest : Vector UInt8 32) :
    hexdigest digest ≠ [] ∧ ∀ c ∈ hexdigest digest, c ≠ '.' := by
  have hdigit : ∀ n < 16, Nat.digitChar n ≠ '.' := by decide
  constructor
  · intro hnil
    have hlength := digest.size_toArray
    have hbytes : digest.toList = [] := by
      cases hlist : digest.toList with
      | nil => rfl
      | cons byte rest => simp [hexdigest, hlist] at hnil
    have hsize : digest.toList.length = 32 := by simp
    rw [hbytes] at hsize
    exact absurd hsize (by decide)
  · intro c hc
    obtain ⟨byte, -, hbyte⟩ := List.mem_flatMap.mp hc
    have hlt := byte.toNat_lt
    rcases List.mem_pair.mp hbyte with rfl | rfl
    · exact hdigit _ (by omega)
    · exact hdigit _ (by omega)

/-- A cursor's payload as `loads` returns it. -/
def payloadFields (cursor : LibraryCursor) : List (String × Json) :=
  [("id", .string cursor.id), ("q", .string cursor.q), ("sort", .string cursor.sort),
    ("sort_value", .string cursor.sortValue), ("type", .string cursor.itemType),
    ("v", .int libraryCursorVersion)]

theorem loads_rawPayload (cursor : LibraryCursor) :
    (decodeUtf8 (rawPayload cursor)).bind Json.loads = some (.object (payloadFields cursor)) := by
  have hsorted : Json.sortKeys (cursorPayload cursor) = payloadFields cursor := by
    simp +decide [Json.sortKeys, cursorPayload, payloadFields, List.mergeSort,
      List.MergeSort.Internal.splitInTwo]
  rw [rawPayload, decodeUtf8_encodeUtf8, Option.bind_some, hsorted, Json.loads_dumps]

/-- The cursors that `_cursor_from_payload` lets through. -/
structure LibraryCursor.WellFormed (cursor : LibraryCursor) : Prop where
  q : cursor.q ≠ ""
  sort : cursor.sort ∈ librarySorts
  itemType : cursor.itemType ∈ itemTypes
  id : cursor.id ≠ ""
  sortValue : cursor.sort ∈ timeSorts →
    (Datetime.fromisoformat cursor.sortValue.toList).isSome = true

section RoundTrip

variable (hmac : List UInt8 → List UInt8 → Vector UInt8 32) (floatIsVersion : JsonFloat → Bool)

theorem cursorFromPayload_payloadFields {cursor : LibraryCursor} (hcursor : cursor.WellFormed) :
    cursorFromPayload floatIsVersion (.object (payloadFields cursor)) = .ok cursor := by
  have htime : ¬ (cursor.sort ∈ timeSorts ∧
      (Datetime.fromisoformat cursor.sortValue.toList).isNone = true) := by
    rintro ⟨hsort, hnone⟩
    rw [Option.isNone_iff_eq_none] at hnone
    simpa [hnone] using hcursor.sortValue hsort
  have hversion : isCursorVersion floatIsVersion (.int libraryCursorVersion) = true := rfl
  have hq := hcursor.q
  have hid := hcursor.id
  rw [cursorFromPayload, if_pos (by simp [cursorKeys, payloadFields])]
  simp only [cursorFromFields, payloadField, payloadFields, List.reverse_cons, List.reverse_nil,
    List.nil_append, List.cons_append, List.find?_cons]
  simp [hversion, hq, hid, hcursor.sort, hcursor.itemType]
  simpa using htime

theorem decode_encodeLibraryCursor {cursor : LibraryCursor} (hcursor : cursor.WellFormed)
    (secret : List UInt8) :
    decodeLibraryCursor hmac floatIsVersion (encodeLibraryCursor hmac cursor secret) secret
      cursor.q cursor.sort = .ok cursor := by
  have hraw : rawPayload cursor ≠ [] := encodeUtf8_ne_nil (List.cons_ne_nil _ _)
  obtain ⟨hpacked, -⟩ := Base64.encodeUnpadded_spec (rawPayload cursor)
  obtain ⟨hsignature, hdot⟩ := hexdigest_spec (hmac secret (rawPayload cursor))
  have hparse : parseSignedCursor hmac floatIsVersion (encodeLibraryCursor hmac cursor secret)
      secret = .ok cursor := by
    unfold parseSignedCursor encodeLibraryCursor
    rw [String.toList_ofList, if_neg (by simp), rsplitDot_append _ hdot]
    simp only
    rw [if_neg (by simp [hpacked hraw, hsignature]), Base64.decode_addPadding]
    simp only
    rw [if_neg (not_not.mpr rfl), loads_rawPayload]
    exact cursorFromPayload_payloadFields floatIsVersion hcursor
  unfold decodeLibraryCursor
  rw [hparse]
  exact if_neg (by simp)

end RoundTrip

end Songmaker.Library
