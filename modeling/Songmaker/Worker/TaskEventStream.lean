import Songmaker.Foundation.JsonRoundTrip
import Songmaker.Foundation.PythonText

namespace Songmaker.Worker.TaskEventStream

open Songmaker.Foundation

inductive EventType where
  | progress
  | done
  | error
deriving DecidableEq

def EventType.text : EventType → List Char
  | .progress => ['p', 'r', 'o', 'g', 'r', 'e', 's', 's']
  | .done => ['d', 'o', 'n', 'e']
  | .error => ['e', 'r', 'r', 'o', 'r']

/-- An event as the worker sends it. -/
structure WorkerTaskEvent where
  type : EventType
  data : List (String × Json)

def eventField : List Char := ['e', 'v', 'e', 'n', 't', ':']

def dataField : List Char := ['d', 'a', 't', 'a', ':']

/-- The lines of an event's frame. -/
def frameText (event : WorkerTaskEvent) : List Char :=
  eventField ++ ' ' :: event.type.text ++ '\n' ::
    (dataField ++ ' ' :: Json.dumps true (.object event.data))

/-- The frame of an event, with its empty line. -/
def formatSse (event : WorkerTaskEvent) : List UInt8 :=
  encodeUtf8 (frameText event ++ ['\n', '\n'])

/-- The event type and the data lines of a frame, after one more line. -/
def readLine (sofar : Option (List Char) × List (List Char)) (line : List Char) :
    Option (List Char) × List (List Char) :=
  if eventField.isPrefixOf line then (some (strip (line.drop eventField.length)), sofar.2)
  else if dataField.isPrefixOf line then
    (sofar.1, sofar.2 ++ [strip (line.drop dataField.length)])
  else sofar

/-- The event of a frame, which may be none. -/
def parseSseEvent (buffer : List Char) : Option (List Char × List (String × Json)) :=
  match (splitlines buffer).foldl readLine (none, []) with
  | (none, _) => none
  | (some _, []) => none
  | (some eventType, dataLines) =>
      match Json.loads (['\n'].intercalate dataLines) with
      | some (.object data) => some (eventType, data)
      | _ => none

/-- `buffer.split("\n\n", 1)`, where the buffer holds an empty line. -/
def splitOnce : List Char → Option (List Char × List Char)
  | '\n' :: '\n' :: rest => some ([], rest)
  | c :: rest => (splitOnce rest).map fun (raw, rest) => (c :: raw, rest)
  | [] => none

theorem splitOnce_length {buffer raw rest : List Char} (h : splitOnce buffer = some (raw, rest)) :
    rest.length < buffer.length := by
  induction buffer using splitOnce.induct generalizing raw with
  | case1 tail =>
      rw [splitOnce] at h
      obtain ⟨rfl, rfl⟩ := Prod.mk.inj (Option.some.inj h)
      simp only [List.length_cons]
      omega
  | case2 c tail hne ih =>
      rw [splitOnce] at h
      · obtain ⟨⟨raw', rest'⟩, hsplit, heq⟩ := Option.map_eq_some_iff.mp h
        obtain ⟨-, rfl⟩ := Prod.mk.inj heq
        exact Nat.lt_succ_of_lt (ih hsplit)
      · exact hne
  | case3 => cases h

/-- The inner loop of `_worker_task_events`: the frames that a buffer holds, and
what is left of it. -/
def takeFrames (buffer : List Char) : List (List Char) × List Char :=
  match h : splitOnce buffer with
  | none => ([], buffer)
  | some (raw, rest) =>
      have : rest.length < buffer.length := splitOnce_length h
      (raw :: (takeFrames rest).1, (takeFrames rest).2)
termination_by buffer.length

/-- What the reader has yielded, and its buffer. -/
structure Reader where
  yielded : List (List Char × List (String × Json))
  buffer : List Char

/-- The frames that a chunk completes, and what is left of it. -/
def Reader.feed (reader : Reader) (chunk : List Char) : Reader where
  yielded := reader.yielded ++ (takeFrames (reader.buffer ++ chunk)).1.filterMap parseSseEvent
  buffer := (takeFrames (reader.buffer ++ chunk)).2

/-- The events of a body, however it comes in chunks. -/
def workerTaskEvents (aiterText : List (List UInt8) → List (List Char))
    (body : List (List UInt8)) : List (List Char × List (String × Json)) :=
  ((aiterText body).foldl Reader.feed ⟨[], []⟩).yielded

section Framing

theorem splitOnce_append {buffer raw rest : List Char} (h : splitOnce buffer = some (raw, rest))
    (chunk : List Char) : splitOnce (buffer ++ chunk) = some (raw, rest ++ chunk) := by
  induction buffer using splitOnce.induct generalizing raw with
  | case1 tail =>
      rw [splitOnce] at h
      obtain ⟨rfl, rfl⟩ := Prod.mk.inj (Option.some.inj h)
      rfl
  | case2 c tail hne ih =>
      rw [splitOnce] at h
      · obtain ⟨⟨raw', rest'⟩, hsplit, heq⟩ := Option.map_eq_some_iff.mp h
        obtain ⟨rfl, rfl⟩ := Prod.mk.inj heq
        rw [List.cons_append, splitOnce, ih hsplit]
        · rfl
        · rintro rest rfl htail
          cases tail with
          | nil => cases hsplit
          | cons d tail =>
              obtain ⟨rfl, -⟩ := List.cons.inj htail
              exact hne tail rfl rfl
      · exact hne
  | case3 => cases h

theorem takeFrames_none {buffer : List Char} (h : splitOnce buffer = none) :
    takeFrames buffer = ([], buffer) := by
  rw [takeFrames]
  split
  · rfl
  · rename_i hsome
    rw [h] at hsome
    cases hsome

theorem takeFrames_some {buffer raw rest : List Char} (h : splitOnce buffer = some (raw, rest)) :
    takeFrames buffer = (raw :: (takeFrames rest).1, (takeFrames rest).2) := by
  rw [takeFrames]
  split
  · rename_i hnone
    rw [h] at hnone
    cases hnone
  · rename_i hsome
    rw [h] at hsome
    obtain ⟨rfl, rfl⟩ := Prod.mk.inj (Option.some.inj hsome)
    rfl

theorem takeFrames_append (buffer chunk : List Char) :
    takeFrames (buffer ++ chunk) =
      ((takeFrames buffer).1 ++ (takeFrames ((takeFrames buffer).2 ++ chunk)).1,
        (takeFrames ((takeFrames buffer).2 ++ chunk)).2) := by
  induction hlength : buffer.length using Nat.strongRecOn generalizing buffer with
  | ind n ih =>
      cases hsplit : splitOnce buffer with
      | none => rw [takeFrames_none hsplit, List.nil_append]
      | some split =>
          obtain ⟨raw, rest⟩ := split
          rw [takeFrames_some (splitOnce_append hsplit chunk), takeFrames_some hsplit,
            ih rest.length (hlength ▸ splitOnce_length hsplit) rest rfl]
          rfl

theorem splitOnce_leftover (buffer : List Char) : splitOnce (takeFrames buffer).2 = none := by
  induction hlength : buffer.length using Nat.strongRecOn generalizing buffer with
  | ind n ih =>
      cases hsplit : splitOnce buffer with
      | none => rw [takeFrames_none hsplit, hsplit]
      | some split =>
          obtain ⟨raw, rest⟩ := split
          rw [takeFrames_some hsplit]
          exact ih rest.length (hlength ▸ splitOnce_length hsplit) rest rfl

theorem foldl_feed (chunks : List (List Char)) {reader : Reader}
    (hbuffer : splitOnce reader.buffer = none) :
    (chunks.foldl Reader.feed reader).yielded = reader.yielded ++
      (takeFrames (reader.buffer ++ chunks.flatten)).1.filterMap parseSseEvent := by
  induction chunks generalizing reader with
  | nil =>
      rw [List.flatten_nil, List.append_nil, takeFrames_none hbuffer]
      exact (List.append_nil _).symm
  | cons chunk chunks ih =>
      rw [List.foldl_cons, ih (splitOnce_leftover _), List.flatten_cons, ← List.append_assoc,
        takeFrames_append (reader.buffer ++ chunk), List.filterMap_append, ← List.append_assoc]
      rfl

end Framing

section Frames

theorem isLineEnd_of_printable {c : Char} (hc : ' ' ≤ c ∧ c ≤ '~') : isLineEnd c = false := by
  have hlow : 32 ≤ c.toNat := hc.1
  have hhigh : c.toNat ≤ 126 := hc.2
  simp [isLineEnd]
  omega

theorem unbroken {text : List Char} (htext : Json.Printable text) :
    ∀ c ∈ text, isLineEnd c = false :=
  fun c hc => isLineEnd_of_printable (htext c hc)

theorem splitOnce_unbroken {text : List Char} (htext : ∀ c ∈ text, isLineEnd c = false)
    (rest : List Char) : splitOnce (text ++ '\n' :: '\n' :: rest) = some (text, rest) := by
  induction text with
  | nil => rfl
  | cons c text ih =>
      have hc := htext c List.mem_cons_self
      rw [List.cons_append, splitOnce, ih fun d hd => htext d (List.mem_cons_of_mem c hd)]
      · rfl
      · rintro rest rfl -
        exact absurd hc (by decide)

theorem splitOnce_lines {line line' : List Char} (hline : ∀ c ∈ line, isLineEnd c = false)
    (hline' : ∀ c ∈ line', isLineEnd c = false) (hne : line' ≠ []) (rest : List Char) :
    splitOnce (line ++ '\n' :: line' ++ '\n' :: '\n' :: rest) =
      some (line ++ '\n' :: line', rest) := by
  induction line with
  | nil =>
      obtain ⟨d, tail, rfl⟩ := List.exists_cons_of_ne_nil hne
      have hd := hline' d List.mem_cons_self
      rw [List.nil_append, List.cons_append, splitOnce, splitOnce_unbroken hline']
      · rfl
      · rintro tail - ⟨⟩
        exact absurd hd (by decide)
  | cons c line ih =>
      have hc := hline c List.mem_cons_self
      rw [List.cons_append, List.cons_append, splitOnce,
        ih fun d hd => hline d (List.mem_cons_of_mem c hd)]
      · rfl
      · rintro tail rfl -
        exact absurd hc (by decide)

variable (event : WorkerTaskEvent)

def eventLine : List Char :=
  eventField ++ ' ' :: event.type.text

def dataLine : List Char :=
  dataField ++ ' ' :: Json.dumps true (.object event.data)

theorem printable_eventLine : Json.Printable (eventLine event) := by
  unfold eventLine
  cases event.type <;> decide

theorem printable_dataLine : Json.Printable (dataLine event) := by
  have hfield : Json.Printable (dataField ++ [' ']) := by decide
  have hline := hfield.append (Json.printable_dumps true (.object event.data))
  rwa [List.append_assoc] at hline

theorem frameText_eq : frameText event = eventLine event ++ '\n' :: dataLine event :=
  rfl

theorem strip_type : strip (' ' :: event.type.text) = event.type.text := by
  cases event.type <;> decide

theorem strip_payload : strip (' ' :: Json.dumps true (.object event.data)) =
    Json.dumps true (.object event.data) := by
  rw [Json.dumps]
  exact strip_space (by decide) (by decide)

theorem parseSseEvent_frameText :
    parseSseEvent (frameText event) = some (event.type.text, event.data) := by
  have hlines : splitlines (frameText event) = [eventLine event, dataLine event] := by
    rw [frameText_eq, splitlines_append (unbroken (printable_eventLine event)),
      splitlines_of_unbroken (unbroken (printable_dataLine event)) (List.cons_ne_nil _ _)]
  have hevent : ∀ sofar, readLine sofar (eventLine event) =
      (some event.type.text, sofar.2) := by
    intro sofar
    have hprefix : eventField.isPrefixOf (eventLine event) = true :=
      List.isPrefixOf_iff_prefix.mpr (List.prefix_append ..)
    rw [readLine, if_pos hprefix, eventLine, List.drop_left, strip_type]
  have hdata : ∀ sofar, readLine sofar (dataLine event) =
      (sofar.1, sofar.2 ++ [Json.dumps true (.object event.data)]) := by
    intro sofar
    have hother : ¬ eventField.isPrefixOf (dataLine event) = true := by
      rintro ⟨⟩
    have hprefix : dataField.isPrefixOf (dataLine event) = true :=
      List.isPrefixOf_iff_prefix.mpr (List.prefix_append ..)
    rw [readLine, if_neg hother, if_pos hprefix, dataLine, List.drop_left, strip_payload]
  simp only [parseSseEvent, hlines, List.foldl_cons, List.foldl_nil, hevent, hdata,
    List.nil_append, List.intercalate_singleton, Json.loads_dumps]

theorem takeFrames_frames (events : List WorkerTaskEvent) :
    (takeFrames (events.flatMap fun event => frameText event ++ ['\n', '\n'])).1 =
      events.map frameText := by
  induction events with
  | nil => exact congrArg Prod.fst (takeFrames_none rfl)
  | cons event events ih =>
      have hsplit := splitOnce_lines (unbroken (printable_eventLine event))
        (unbroken (printable_dataLine event)) (List.cons_ne_nil _ _)
        (events.flatMap fun event => frameText event ++ ['\n', '\n'])
      rw [List.flatMap_cons, List.append_assoc]
      rw [← frameText_eq] at hsplit
      exact (congrArg Prod.fst (takeFrames_some hsplit)).trans (congrArg _ ih)

end Frames

theorem flatMap_formatSse (events : List WorkerTaskEvent) :
    events.flatMap formatSse =
      encodeUtf8 (events.flatMap fun event => frameText event ++ ['\n', '\n']) := by
  induction events with
  | nil => decide
  | cons event events ih =>
      rw [List.flatMap_cons, List.flatMap_cons, encodeUtf8_append, ih, formatSse]

/-- However the network splits the worker's stream, the scheduler reads the
events that the worker sent. `aiterText` only has to decode the body, in any
pieces. -/
theorem workerTaskEvents_formatSse (aiterText : List (List UInt8) → List (List Char))
    (events : List WorkerTaskEvent) (body : List (List UInt8))
    (hbody : body.flatten = events.flatMap formatSse)
    (hdecode : ∀ text, body.flatten = encodeUtf8 text → (aiterText body).flatten = text) :
    workerTaskEvents aiterText body =
      events.map fun event => (event.type.text, event.data) := by
  have htext := hdecode _ (hbody.trans (flatMap_formatSse events))
  rw [workerTaskEvents, foldl_feed _ rfl, List.nil_append, List.nil_append, htext,
    takeFrames_frames, List.filterMap_map]
  have hparse : parseSseEvent ∘ frameText =
      fun event => some (event.type.text, event.data) := by
    funext event
    exact parseSseEvent_frameText event
  rw [hparse, List.filterMap_eq_map']

/-- Two events whose bytes arrive in chunks that cut both the frames and their
fields. -/
theorem workerTaskEvents_formatSse_split :
    let events : List WorkerTaskEvent :=
      [⟨.progress, [("phase", .string "a\n\n\u2028b")]⟩, ⟨.done, [("n", .int (-1))]⟩]
    let bytes := events.flatMap formatSse
    let body := [bytes.take 9, [], (bytes.drop 9).take 30, bytes.drop 39]
    workerTaskEvents (fun chunks => chunks.map fun chunk => chunk.map fun byte =>
        Char.ofNat byte.toNat) body =
      events.map fun event => (event.type.text, event.data) := by
  intro events bytes body
  have hbytes : body.flatten = bytes := by decide +kernel
  apply workerTaskEvents_formatSse
  · exact hbytes
  · intro text htext
    rw [hbytes, show bytes = encodeUtf8 _ from flatMap_formatSse events] at htext
    rw [← encodeUtf8_injective htext]
    decide +kernel

end Songmaker.Worker.TaskEventStream
