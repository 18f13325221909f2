import Songmaker.Foundation.BudgetedTail
import Songmaker.Foundation.PythonText
import Mathlib.Data.List.Nodup

namespace Songmaker.Cowriter.History

open Songmaker.Foundation
open Songmaker.Foundation.BudgetedTail

inductive Role where
  | user
  | assistant
deriving DecidableEq

def Role.text : Role → List Char
  | .user => "user".toList
  | .assistant => "assistant".toList

/-- A row of `chat_messages`. The rows are numbered in the order they were
created in, which is the order they are listed in. -/
structure ChatMessage where
  id : Nat
  role : Role
  content : List Char
deriving DecidableEq

/-- The row that stands for the messages up to its boundary. -/
structure ConversationSummary where
  summaryText : List Char
  lastSummarizedMessageId : Option Nat
  messageCount : Nat
  tokenCount : Nat
deriving DecidableEq

structure ApiMessage where
  role : Role
  content : List Char
deriving DecidableEq

def cowriterSummaryTag : List Char :=
  "conversation_summary".toList

def cowriterMaxSummaryChars : Nat :=
  12000

/-- An estimate: four characters a token, and no text without a token. -/
def countTokens (text : List Char) : Nat :=
  if text.isEmpty then 0 else max 1 ((text.length + 3) / 4)

/-- The tokens a message counts for. -/
def messageCost (msg : ChatMessage) : Nat :=
  countTokens msg.content

def messageTokens (messages : List ChatMessage) : Nat :=
  totalCost messageCost messages

/-- What `compact_conversation` makes of a history. -/
structure CompactedHistory where
  summaryText : Option (List Char)
  tail : List ChatMessage
  lastSummarizedMessageId : Option Nat
  windowed : Bool
deriving DecidableEq

def ChatMessage.toApiMessage (msg : ChatMessage) : ApiMessage :=
  ⟨msg.role, msg.content⟩

/-- The summary, put in front of the tail. -/
def summaryMessage (summaryText : List Char) : ApiMessage where
  role := .user
  content :=
    ['<'] ++ cowriterSummaryTag ++ ">\n".toList ++ summaryText ++ "\n</".toList ++
      cowriterSummaryTag ++ ['>']

def CompactedHistory.toApiMessages (compacted : CompactedHistory) : List ApiMessage :=
  let summary := match compacted.summaryText with
    | some text => if text.isEmpty then [] else [summaryMessage text]
    | none => []
  summary ++ compacted.tail.map ChatMessage.toApiMessage

/-- The newest messages within the budget, and the newest one in any case. -/
def newestFittingTail (messages : List ChatMessage) (budget : Nat) : List ChatMessage :=
  newestFitting messageCost budget messages

/-- The messages after the boundary, and the boundary if it is one of them. -/
def unsummarizedMessages (messages : List ChatMessage) (existing : Option ConversationSummary) :
    Option Nat × List ChatMessage :=
  match existing.bind (·.lastSummarizedMessageId) with
  | none => (none, messages)
  | some boundaryId =>
      match messages.dropWhile (fun message => message.id ≠ boundaryId) with
      | [] => (none, messages)
      | _ :: after => (some boundaryId, after)

/-- A summarizer may fail. -/
abbrev Summarizer := Option (List Char) → List ChatMessage → Option (List Char)

/-- The unsummarized messages that the tail has no room for. -/
def messagesToFold (messages : List ChatMessage) (budget : Nat)
    (existing : Option ConversationSummary) : List ChatMessage :=
  let remainder := (unsummarizedMessages messages existing).2
  let tail := newestFittingTail remainder budget
  if tail.isEmpty then remainder else remainder.take (remainder.length - tail.length)

/-- The messages within the budget as they are, and the older ones in the summary. -/
def compactConversation (messages : List ChatMessage) (budget : Nat)
    (existing : Option ConversationSummary) (summarize : Option Summarizer) :
    CompactedHistory :=
  if messageTokens messages ≤ budget then
    { summaryText := none
      tail := messages
      lastSummarizedMessageId := existing.bind (·.lastSummarizedMessageId)
      windowed := false }
  else
    let alreadySummarizedId := (unsummarizedMessages messages existing).1
    let tail := newestFittingTail (unsummarizedMessages messages existing).2 budget
    let toFold := messagesToFold messages budget existing
    let previous := existing.map (·.summaryText)
    let unfolded : CompactedHistory :=
      { summaryText := previous
        tail := tail
        lastSummarizedMessageId := alreadySummarizedId
        windowed := true }
    if toFold.isEmpty && existing.any (!·.summaryText.isEmpty) then unfolded
    else
      match summarize.bind (· previous toFold) with
      | none => unfolded
      | some summary =>
          { unfolded with
            summaryText := some summary
            lastSummarizedMessageId :=
              (toFold.getLast?.map (·.id)).or alreadySummarizedId }

/-- The rolling summary used when no model summarizer is injected. -/
def foldSummary (previous : Option (List Char)) (newMessages : List ChatMessage) : List Char :=
  let earlier := match previous with
    | some text => if text.isEmpty then [] else [strip text]
    | none => []
  let parts := earlier ++
    newMessages.map fun msg => msg.role.text ++ ": ".toList ++ strip msg.content
  let folded := ['\n'].intercalate (parts.filter (!·.isEmpty))
  if folded.length ≤ cowriterMaxSummaryChars then folded
  else folded.drop (folded.length - cowriterMaxSummaryChars)

/-- The messages of a conversation that are not summarized yet all reach the
tail, except for those to fold. -/
theorem messagesToFold_append_tail (messages : List ChatMessage) (budget : Nat)
    (existing : Option ConversationSummary) :
    messagesToFold messages budget existing ++
        newestFittingTail (unsummarizedMessages messages existing).2 budget =
      (unsummarizedMessages messages existing).2 := by
  unfold messagesToFold
  dsimp only
  split
  · rename_i hempty
    rw [List.isEmpty_iff] at hempty
    rw [hempty, List.append_nil]
  · exact take_append_newestFitting messageCost budget _

/-- Listed in the order of creation. -/
def Ordered (messages : List ChatMessage) : Prop :=
  messages.Pairwise fun earlier later => earlier.id < later.id

theorem Ordered.id_lt {before after : List ChatMessage}
    (hordered : Ordered (before ++ after)) {earlier later : ChatMessage}
    (hearlier : earlier ∈ before) (hlater : later ∈ after) : earlier.id < later.id :=
  (List.pairwise_append.mp hordered).2.2 earlier hearlier later hlater

theorem Ordered.nodup_ids {messages : List ChatMessage} (hordered : Ordered messages) :
    (messages.map (·.id)).Nodup :=
  List.pairwise_map.mpr (hordered.imp fun hlt => Nat.ne_of_lt hlt)

theorem Ordered.eq_of_id {messages : List ChatMessage} (hordered : Ordered messages)
    {first second : ChatMessage} (hfirst : first ∈ messages) (hsecond : second ∈ messages)
    (hid : first.id = second.id) : first = second :=
  List.inj_on_of_nodup_map hordered.nodup_ids hfirst hsecond hid

theorem unsummarizedMessages_append {summarized after : List ChatMessage} {boundary : ChatMessage}
    {existing : Option ConversationSummary}
    (hboundary : existing.bind (·.lastSummarizedMessageId) = some boundary.id)
    (hsummarized : ∀ message ∈ summarized, message.id ≠ boundary.id) :
    unsummarizedMessages (summarized ++ boundary :: after) existing =
      (some boundary.id, after) := by
  have hafter : (summarized ++ boundary :: after).dropWhile (fun message =>
      message.id ≠ boundary.id) = boundary :: after := by
    rw [List.dropWhile_append_of_pos (by simpa using hsummarized)]
    simp
  unfold unsummarizedMessages
  simp only [hboundary, hafter]

theorem unsummarizedMessages_of_not_mem {messages : List ChatMessage}
    {existing : Option ConversationSummary}
    (hboundary : ∀ boundaryId, existing.bind (·.lastSummarizedMessageId) = some boundaryId →
      ∀ message ∈ messages, message.id ≠ boundaryId) :
    unsummarizedMessages messages existing = (none, messages) := by
  unfold unsummarizedMessages
  rcases hexisting : existing.bind (·.lastSummarizedMessageId) with _ | boundaryId
  · rfl
  · have hnone : messages.dropWhile (fun message => message.id ≠ boundaryId) = [] := by
      rw [List.dropWhile_eq_nil_iff]
      intro message hmessage
      simpa using hboundary boundaryId hexisting message hmessage
    simp only [hnone]

theorem messagesToFold_ne_nil {messages : List ChatMessage} {budget : Nat}
    {existing : Option ConversationSummary} (hmany : 1 < messages.length)
    (hover : budget < messageTokens messages)
    (hall : (unsummarizedMessages messages existing).2 = messages) :
    messagesToFold messages budget existing ≠ [] := by
  intro hnil
  have htail := messagesToFold_append_tail messages budget existing
  rw [hnil, List.nil_append, hall] at htail
  have hfits : Fits messageCost budget (newestFittingTail messages budget) :=
    newestFitting_fits messageCost budget messages
  rw [htail] at hfits
  rcases hfits with hfits | hfits
  · exact absurd hfits (Nat.not_le.mpr hover)
  · omega

theorem messagesToFold_of_length_le_one {messages : List ChatMessage} (budget : Nat)
    (existing : Option ConversationSummary) (hone : messages.length ≤ 1)
    (hall : (unsummarizedMessages messages existing).2 = messages) :
    messagesToFold messages budget existing = [] := by
  have htail := congrArg List.length (messagesToFold_append_tail messages budget existing)
  rw [hall, List.length_append] at htail
  rcases messages with _ | ⟨message, rest⟩
  · rw [← List.length_eq_zero_iff]
    simp only [List.length_nil] at htail
    omega
  · have hne : newestFittingTail (message :: rest) budget ≠ [] :=
      newestFitting_ne_nil messageCost budget (List.cons_ne_nil _ _)
    have hpos := List.length_pos_of_ne_nil hne
    rw [← List.length_eq_zero_iff]
    omega

section Compaction

variable (messages : List ChatMessage) (budget : Nat) (existing : Option ConversationSummary)

theorem compactConversation_of_le (summarize : Option Summarizer)
    (hfits : messageTokens messages ≤ budget) :
    compactConversation messages budget existing summarize =
      { summaryText := none
        tail := messages
        lastSummarizedMessageId := existing.bind (·.lastSummarizedMessageId)
        windowed := false } := by
  rw [compactConversation, if_pos hfits]

theorem compactConversation_of_lt (hover : budget < messageTokens messages) :
    ∃ summary, compactConversation messages budget existing
      (some fun p f => some (foldSummary p f)) =
      { summaryText := some summary
        tail := newestFittingTail (unsummarizedMessages messages existing).2 budget
        lastSummarizedMessageId := ((messagesToFold messages budget existing).getLast?.map
          (·.id)).or (unsummarizedMessages messages existing).1
        windowed := true } := by
  rw [compactConversation, if_neg (Nat.not_le.mpr hover)]
  dsimp only
  split
  · rename_i hempty
    simp only [Bool.and_eq_true, List.isEmpty_iff] at hempty
    rcases existing with _ | summary
    · simp at hempty
    · exact ⟨summary.summaryText, by simp [hempty.1]⟩
  · exact ⟨_, rfl⟩

theorem compactConversation_tail_fits :
    Fits messageCost budget
      (compactConversation messages budget existing
        (some fun p f => some (foldSummary p f))).tail := by
  by_cases hfits : messageTokens messages ≤ budget
  · rw [compactConversation_of_le _ _ _ _ hfits]
    exact .inl hfits
  · obtain ⟨summary, hsummary⟩ :=
      compactConversation_of_lt messages budget existing (Nat.not_le.mp hfits)
    rw [hsummary]
    exact newestFitting_fits messageCost budget _

end Compaction

end Songmaker.Cowriter.History
